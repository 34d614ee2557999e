import Mathlib
import ToolView.Proofs.Parts

/-! Which kind of message an object is, told from six of its members alone. The kinds are tried in
their order, so an object that could be several is the first of them, and one with a member that a
kind refuses may still be a later one. Whatever an object is read as, it is read as that again once
it is written. -/

namespace ToolView.Rpc

inductive Kind where
  | request
  | response
  | notification
  | failure
  | nothing
  deriving DecidableEq

def Message.kind : Message → Kind
  | .request _ => .request
  | .response _ => .response
  | .notification _ => .notification
  | .failure _ => .failure
  | .none => .nothing

namespace Kind

def names : List String := ["jsonrpc","id","method","params","result","error"]

def isText (json : Json) : Bool := json.string?.isSome

/-- An id is a text, or an integer of 64 bits with a sign. -/
def isId : Json → Bool
  | .str _ => true
  | .num (.int value _) => -9223372036854775808 ≤ value && value ≤ 9223372036854775807
  | _ => false

def isError (json : Json) : Bool := (ErrorData.decode json).toOption.isSome

def isNull (json : Json) : Bool := json = .null

def ofObject? (o : Object) : Option Kind :=
  if ¬ (o.get? "jsonrpc").all isText then none
  else if (o.get? "id").any isId ∧ (o.get? "method").any isText then some request
  else if (o.get? "id").any isId ∧ ((o.get? "error").all isNull ∨ (o.get? "error").any isError) then
    some response
  else if (o.get? "method").any isText then some notification
  else if (o.get? "error").any isError ∧ (o.get? "id").all isNull then some failure
  else none

variable {o : Object}

private theorem isText_iff {json : Json} : isText json ↔ ∃ s, json = .str s := by
  cases json <;> simp [isText,Json.string?]

private theorem isId_iff {json : Json} : isId json ↔ ∃ id : Id, json = id.encode := by
  constructor
  · intro holds
    cases json with
    | str s => exact ⟨.text s,rfl⟩
    | num n =>
      cases n with
      | int value fits =>
        simp only [isId,Bool.and_eq_true,decide_eq_true_eq] at holds
        have back : (Int64.ofInt value).toInt = value := Int64.toInt_ofInt_of_le holds.1 (by omega)
        refine ⟨.number (.ofInt value),?_⟩
        simp only [Id.encode,Json.int64,back]
      | double x => cases holds
    | null | bool _ | arr _ | obj _ => cases holds
  · rintro ⟨id,rfl⟩
    cases id with
    | number n =>
      have low := n.le_toInt
      have high := n.toInt_lt
      simp only [Id.encode,Json.int64,isId,Bool.and_eq_true,decide_eq_true_eq]
      omega
    | text s => rfl

private theorem isError_iff {json : Json} :
    isError json ↔ ∃ error, ErrorData.decode json = .ok error := by
  rw [isError]
  cases ErrorData.decode json <;> simp [Except.toOption]

private theorem hasVersion_iff : (o.get? "jsonrpc").all isText ↔ HasVersion o := by
  rw [HasVersion]
  cases there : o.get? "jsonrpc" with
  | none => simp [Versioned,there]
  | some json => simp [Versioned,there,isText_iff]

private theorem hasId_iff : (o.get? "id").any isId ↔ HasId o := by
  rw [HasId]
  cases o.get? "id" with
  | none => simp
  | some json => simp [isId_iff]

private theorem hasMethod_iff : (o.get? "method").any isText ↔ HasMethod o := by
  rw [HasMethod]
  cases o.get? "method" with
  | none => simp
  | some json => simp [isText_iff]

private theorem allowsError_iff :
    ((o.get? "error").all isNull ∨ (o.get? "error").any isError) ↔ AllowsError o := by
  rw [AllowsError]
  cases o.get? "error" with
  | none => simp
  | some json =>
    by_cases null : json = .null
    · simp [isNull,null,Decode.optional_eq_ok]
    · simp [isNull,null,isError_iff,Decode.optional_eq_ok]

private theorem hasError_iff : (o.get? "error").any isError ↔
    ∃ json, o.get? "error" = some json ∧ ∃ error, ErrorData.decode json = .ok error := by
  cases o.get? "error" with
  | none => simp
  | some json => simp [isError_iff]

/-- Where no id stands only `null` can be read, and that as no id. -/
private theorem unnamed_iff : (o.get? "id").all isNull ↔ ¬ HasId o ∧
    ∃ id, (o.get? "id").elim (.ok none) (Decode.optional Id.decode) = .ok id := by
  rw [HasId]
  cases o.get? "id" with
  | none => simp
  | some json =>
    by_cases null : json = .null
    · have apart (id : Id) : Json.null ≠ id.encode := (Id.readsBack.notNull id).symm
      simp [isNull,null,apart,Decode.optional_eq_ok]
    · simp [isNull,null,Id.decode_eq_ok,Decode.optional_eq_ok]

private theorem exists_failure : (¬ HasId o ∧ ∃ f : Failure, f.HeldBy o) ↔
    HasVersion o ∧ (o.get? "error").any isError ∧ (o.get? "id").all isNull := by
  rw [hasError_iff,unnamed_iff]
  constructor
  · rintro ⟨noId,f,held⟩
    obtain ⟨json,there,decodes⟩ := held.error
    exact ⟨⟨_,held.version⟩,⟨json,there,_,decodes⟩,noId,_,held.id⟩
  · rintro ⟨⟨jsonrpc,version⟩,⟨json,there,error,decodes⟩,noId,id,named⟩
    exact ⟨noId,⟨jsonrpc,id,error⟩,version,named,json,there,decodes⟩

theorem ofObject?_of_heldBy {m : Message} (held : m.HeldBy o) : ofObject? o = some m.kind := by
  classical
  simp only [ofObject?,hasVersion_iff,hasId_iff,hasMethod_iff,allowsError_iff]
  cases m with
  | request r =>
    obtain ⟨version,named,called⟩ := Request.exists_heldBy.mp ⟨r,held⟩
    simp [version,named,called,Message.kind]
  | response r =>
    obtain ⟨noMethod,held⟩ := held
    obtain ⟨version,named,allowed⟩ := Response.exists_heldBy.mp ⟨r,held⟩
    simp [version,named,noMethod,allowed,Message.kind]
  | notification n =>
    obtain ⟨noId,held⟩ := held
    obtain ⟨version,called⟩ := Notification.exists_heldBy.mp ⟨n,held⟩
    simp [version,noId,called,Message.kind]
  | failure f =>
    obtain ⟨noId,noMethod,held⟩ := held
    obtain ⟨version,failed,unnamed⟩ := exists_failure.mp ⟨noId,f,held⟩
    simp [version,noId,noMethod,failed,unnamed,Message.kind]
  | none => exact held.elim

theorem exists_heldBy {k : Kind} (told : ofObject? o = some k) : ∃ m : Message, m.HeldBy o := by
  classical
  simp only [ofObject?,hasVersion_iff,hasId_iff,hasMethod_iff,allowsError_iff] at told
  -- A condition that failed on the way is what keeps an earlier kind from being read.
  split_ifs at told with version request response notification failure
  · obtain ⟨r,held⟩ := Request.exists_heldBy.mpr ⟨version,request⟩
    exact ⟨.request r,held⟩
  · obtain ⟨r,held⟩ := Response.exists_heldBy.mpr ⟨version,response⟩
    exact ⟨.response r,fun called => request ⟨response.1,called⟩,held⟩
  · obtain ⟨n,held⟩ := Notification.exists_heldBy.mpr ⟨version,notification⟩
    exact ⟨.notification n,fun named => request ⟨named,notification⟩,held⟩
  · obtain ⟨noId,f,held⟩ := exists_failure.mpr ⟨version,failure⟩
    exact ⟨.failure f,noId,notification,held⟩

end Kind

namespace Message

variable {o o' : Object}

theorem heldBy_congr (same : ∀ name ∈ Kind.names, o'.get? name = o.get? name) {m : Message} :
    m.HeldBy o' ↔ m.HeldBy o := by
  have jsonrpc := same "jsonrpc" (by decide)
  have id := same "id" (by decide)
  have method := same "method" (by decide)
  have params := same "params" (by decide)
  have result := same "result" (by decide)
  have error := same "error" (by decide)
  cases m <;>
    simp only [HeldBy,Request.heldBy_iff,Response.heldBy_iff,Notification.heldBy_iff,
      Failure.heldBy_iff,Versioned,carried,HasId,HasMethod,jsonrpc,id,method,params,result,error]

/-- No other members count, neither for what is read nor for what is refused. -/
theorem decode_congr (same : ∀ name ∈ Kind.names, o'.get? name = o.get? name) :
    decode (.ofObject o') = decode (.ofObject o) := by
  have agree (m : Message) : decode (.ofObject o') = .ok m ↔ decode (.ofObject o) = .ok m := by
    rw [decode_ofObject,decode_ofObject,heldBy_congr same]
  cases read : decode (.ofObject o) with
  | ok m => exact (agree m).mpr read
  | error e =>
    cases other : decode (.ofObject o') with
    | ok m => cases ((agree m).mp other).symm.trans read
    | error e' =>
      -- A fault names the type that was asked for, and nothing of the object.
      rw [Decode.firstOf_eq_error read,Decode.firstOf_eq_error other]

theorem HeldBy.anonymous {f : Failure} (held : HeldBy (.failure f) o) : f.id = .none := by
  obtain ⟨noId,-,-,given,-⟩ := held
  cases named : f.id with
  | none => rfl
  | some id =>
    obtain ⟨json,there,-,decodes⟩ := Decode.elim_optional_eq_some.mp (named ▸ given)
    exact absurd ⟨id,by rw [there,Id.decode_eq_ok.mp decodes]⟩ noId

private theorem filter_ne_some_null (value : Option Json) :
    value.filter (· ≠ .null) ≠ some .null := by
  intro given
  have apart := (Option.mem_filter_iff.mp (Option.mem_def.mpr given)).2
  simp at apart

/-- The data of an error, which may have been read from members or from items. -/
private theorem data_ne_null {json : Json} {e : ErrorData} (read : ErrorData.decode json = .ok e) :
    e.data ≠ some .null := by
  obtain ⟨f,data,worded,given,rfl⟩ :=
    (Decode.takes_of_record read).of_seq (.seq (.map .field _) .field)
  obtain ⟨g,message,front,-,rfl⟩ := worded.of_seq (.map .field _)
  obtain ⟨code,-,rfl⟩ := front.of_map
  have filtered := (Decode.elim_optional_json _).symm.trans (given.of_optional 2)
  exact Except.ok.inj filtered ▸ filter_ne_some_null _

theorem HeldBy.bare {m : Message} (held : m.HeldBy o) : ∀ j ∈ m.values, j ≠ .null := by
  have apart {value : Option Json} (bare : value ≠ some .null) :
      ∀ j ∈ value.toList, j ≠ .null := by
    rintro j there rfl
    exact bare (Option.mem_toList.mp there)
  cases m with
  | request r => exact apart (held.params ▸ filter_ne_some_null _)
  | response r =>
    obtain ⟨-,held⟩ := held
    refine List.forall_mem_append.mpr ⟨apart (held.result ▸ filter_ne_some_null _),?_⟩
    have given := held.error
    cases failed : r.error with
    | none => exact nofun
    | some e =>
      obtain ⟨json,-,-,decodes⟩ := Decode.elim_optional_eq_some.mp (failed ▸ given)
      exact apart (data_ne_null decodes)
  | notification n => exact apart (held.2.params ▸ filter_ne_some_null _)
  | failure f =>
    obtain ⟨-,-,held⟩ := held
    obtain ⟨json,-,decodes⟩ := held.error
    exact apart (data_ne_null decodes)
  | none => exact held.elim

/-- The kind of an object is told from its members in the order in which the kinds are tried, no
matter what else it holds, and a message that was read from it is read from what it is written as. -/
theorem classified (o : Object) :
    (decode (.ofObject o)).toOption.map kind = Kind.ofObject? o ∧
    (∀ o' : Object, (∀ name ∈ Kind.names, o'.get? name = o.get? name) →
      decode (.ofObject o') = decode (.ofObject o)) ∧
    ∀ m, decode (.ofObject o) = .ok m → decode m.encode = .ok m := by
  refine ⟨?_,fun o' same => decode_congr same,?_⟩
  · cases read : decode (.ofObject o) with
    | ok m => exact (Kind.ofObject?_of_heldBy (decode_ofObject.mp read)).symm
    | error e =>
      cases told : Kind.ofObject? o with
      | none => rfl
      | some k =>
        obtain ⟨m,held⟩ := Kind.exists_heldBy told
        cases (decode_ofObject.mpr held).symm.trans read
  · intro m read
    have held := decode_ofObject.mp read
    refine decode_encode ?_ held.bare
    rintro f rfl
    exact held.anonymous

namespace Sample

/-- An object with an id that is too large for a request, a method, and a result. -/
def unclear : Object := Json.members
  [("id",some (.num (.int 9223372036854775808 (by decide)))),("method",some (.str "ping")),
    ("result",some (.bool true)),("error",some .null)]

end Sample

theorem classified_unclear :
    (decode (.ofObject Sample.unclear)).toOption.map kind = some .notification ∧
    ∀ m, decode (.ofObject Sample.unclear) = .ok m → decode m.encode = .ok m := by
  have told : Kind.ofObject? Sample.unclear = some .notification := by decide
  obtain ⟨kind_eq,-,back⟩ := classified Sample.unclear
  exact ⟨kind_eq.trans told,back⟩

end Message

end ToolView.Rpc
