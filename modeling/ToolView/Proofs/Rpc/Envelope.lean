import Mathlib
import ToolView.Rpc
import ToolView.Proofs.Codec

/-! Which message an object is read as. Each kind has members of its own, and is tried only where
those before it do not fit: a request has an id and a method, a response has an id and no method, a
notification a method and no id, a failure neither. -/

namespace ToolView.Rpc

namespace Id

private theorem int64_int (value : ℤ) (fits : FitsNumber value) :
    Decode.int64 (Json.num (.int value fits)) =
      if -9223372036854775808 ≤ value ∧ value ≤ 9223372036854775807 then .ok (.ofInt value)
      else .error (.invalidValue (.num (.int value fits)) "i64") := by
  change (if -9223372036854775808 ≤ value ∧ value ≤ 9223372036854775807 then .ok value
    else .error _ : Except DecodeError ℤ).map Int64.ofInt = _
  split_ifs <;> rfl

theorem readsBack : ReadsBack encode decode where
  reads id := by
    cases id with
    | number n =>
      have low := n.le_toInt
      have high := n.toInt_lt
      apply Decode.firstOf_fits
      rw [encode,Json.int64,int64_int,if_pos ⟨low,by omega⟩,Int64.ofInt_toInt]
      rfl
    | text s => rfl
  notNull id := by cases id <;> exact nofun

/-- Only what an id is written as reads as one. -/
theorem decode_eq_ok {json : Json} {id : Id} : decode json = .ok id ↔ json = id.encode := by
  refine ⟨?_,fun written => written ▸ readsBack.reads id⟩
  intro read
  cases json with
  | num n =>
    cases n with
    | int value fits =>
      by_cases small : -9223372036854775808 ≤ value ∧ value ≤ 9223372036854775807
      · have back : (Int64.ofInt value).toInt = value :=
          Int64.toInt_ofInt_of_le small.1 (by omega)
        have reads : decode (.num (.int value fits)) = .ok (.number (.ofInt value)) := by
          apply Decode.firstOf_fits
          rw [int64_int,if_pos small]
          rfl
        cases reads.symm.trans read
        simp only [encode,Json.int64,back]
      · have refuses : ∀ other, decode (.num (.int value fits)) ≠ .ok other := by
          intro other
          rw [decode,Decode.firstOf_other]
          · exact nofun
          · rw [int64_int,if_neg small]
            exact nofun
        exact absurd read (refuses id)
    | double x => cases read
  | str s => cases read; rfl
  | null | bool _ | arr _ | obj _ => cases read

end Id

theorem filter_ne_null {value : Option Json} (bare : value ≠ some .null) :
    value.filter (· ≠ .null) = value := by
  cases value with
  | none => rfl
  | some json => simpa [Option.filter] using bare

theorem ErrorData.decode_encode {e : ErrorData} (bare : e.data ≠ some .null) :
    decode e.encode = .ok e := by
  have distinct : ["code","message","data"].Nodup := by decide
  refine Fields.readMembers_eq_ok.mpr ?_
  have data := filter_ne_null bare
  refine ((Fields.Reads.map ?_ mk).seq ?_).seq ?_
  · exact .present .int32 distinct rfl
  · exact .present .string distinct rfl
  · exact data ▸ .optional_json distinct rfl

section Members

/-- The version that an object names; one that names none is of the current version. -/
def Versioned (o : Object) (jsonrpc : String) : Prop :=
  (o.get? "jsonrpc").getD (.str version) = .str jsonrpc

/-- What an object carries under a name, where `null` is nothing. -/
def carried (o : Object) (name : String) : Option Json := (o.get? name).filter (· ≠ .null)

@[mk_iff]
structure Request.HeldBy (r : Request) (o : Object) : Prop where
  version : Versioned o r.jsonrpc
  id : o.get? "id" = some r.id.encode
  method : o.get? "method" = some (.str r.method)
  params : carried o "params" = r.params

@[mk_iff]
structure Response.HeldBy (r : Response) (o : Object) : Prop where
  version : Versioned o r.jsonrpc
  id : o.get? "id" = some r.id.encode
  result : carried o "result" = r.result
  error : (o.get? "error").elim (.ok none) (Decode.optional ErrorData.decode) = .ok r.error

@[mk_iff]
structure Notification.HeldBy (n : Notification) (o : Object) : Prop where
  version : Versioned o n.jsonrpc
  method : o.get? "method" = some (.str n.method)
  params : carried o "params" = n.params

@[mk_iff]
structure Failure.HeldBy (f : Failure) (o : Object) : Prop where
  version : Versioned o f.jsonrpc
  id : (o.get? "id").elim (.ok none) (Decode.optional Id.decode) = .ok f.id
  error : ∃ json, o.get? "error" = some json ∧ ErrorData.decode json = .ok f.error

variable {o : Object}

private theorem version_iff {jsonrpc : String} :
    versionField.Reads o jsonrpc ↔ Versioned o jsonrpc := by
  rw [versionField,Fields.withDefault,Fields.Reads.field_iff,Versioned]
  cases o.get? "jsonrpc" with
  | none =>
    rw [Option.elim_none,Option.getD_none,Except.ok.injEq,Json.str.injEq]
  | some json => rw [Option.elim_some,Option.getD_some,Decode.string_eq_ok]

private theorem id_iff {id : Id} :
    (Fields.required "id" Id.decode).Reads o id ↔ o.get? "id" = some id.encode := by
  simp only [Fields.Reads.required_iff,Id.decode_eq_ok,exists_eq_right]

private theorem method_iff {method : String} :
    (Fields.required "method" Decode.string).Reads o method ↔
      o.get? "method" = some (.str method) := by
  simp only [Fields.Reads.required_iff,Decode.string_eq_ok,exists_eq_right]

private theorem carried_iff {name : String} {value : Option Json} :
    (Fields.optional name Decode.json).Reads o value ↔ carried o name = value := by
  rw [Fields.optional,Fields.Reads.field_iff,Decode.elim_optional_json,Except.ok.injEq,carried]

theorem Request.decode_eq_ok {r : Request} : decode (.ofObject o) = .ok r ↔ r.HeldBy o := by
  constructor
  · intro read
    obtain ⟨_,_,called,params,rfl⟩ := (Fields.readMembers_eq_ok.mp read).of_seq
    obtain ⟨_,_,named,method,rfl⟩ := called.of_seq
    obtain ⟨_,_,first,id,rfl⟩ := named.of_seq
    obtain ⟨_,version,rfl⟩ := first.of_map
    exact ⟨version_iff.mp version,id_iff.mp id,method_iff.mp method,carried_iff.mp params⟩
  · rintro ⟨version,id,method,params⟩
    apply Fields.readMembers_eq_ok.mpr
    exact (((Fields.Reads.map (version_iff.mpr version) mk).seq (id_iff.mpr id)).seq
      (method_iff.mpr method)).seq (carried_iff.mpr params)

theorem Response.decode_eq_ok {r : Response} : decode (.ofObject o) = .ok r ↔ r.HeldBy o := by
  constructor
  · intro read
    obtain ⟨_,_,failed,error,rfl⟩ := (Fields.readMembers_eq_ok.mp read).of_seq
    obtain ⟨_,_,named,result,rfl⟩ := failed.of_seq
    obtain ⟨_,_,first,id,rfl⟩ := named.of_seq
    obtain ⟨_,version,rfl⟩ := first.of_map
    exact ⟨version_iff.mp version,id_iff.mp id,carried_iff.mp result,
      Fields.Reads.field_iff.mp error⟩
  · rintro ⟨version,id,result,error⟩
    apply Fields.readMembers_eq_ok.mpr
    exact (((Fields.Reads.map (version_iff.mpr version) mk).seq (id_iff.mpr id)).seq
      (carried_iff.mpr result)).seq (Fields.Reads.field_iff.mpr error)

theorem Notification.decode_eq_ok {n : Notification} :
    decode (.ofObject o) = .ok n ↔ n.HeldBy o := by
  constructor
  · intro read
    obtain ⟨_,_,called,params,rfl⟩ := (Fields.readMembers_eq_ok.mp read).of_seq
    obtain ⟨_,_,first,method,rfl⟩ := called.of_seq
    obtain ⟨_,version,rfl⟩ := first.of_map
    exact ⟨version_iff.mp version,method_iff.mp method,carried_iff.mp params⟩
  · rintro ⟨version,method,params⟩
    apply Fields.readMembers_eq_ok.mpr
    exact ((Fields.Reads.map (version_iff.mpr version) mk).seq (method_iff.mpr method)).seq
      (carried_iff.mpr params)

theorem Failure.decode_eq_ok {f : Failure} : decode (.ofObject o) = .ok f ↔ f.HeldBy o := by
  constructor
  · intro read
    obtain ⟨_,_,named,error,rfl⟩ := (Fields.readMembers_eq_ok.mp read).of_seq
    obtain ⟨_,_,first,id,rfl⟩ := named.of_seq
    obtain ⟨_,version,rfl⟩ := first.of_map
    exact ⟨version_iff.mp version,Fields.Reads.field_iff.mp id,Fields.Reads.required_iff.mp error⟩
  · rintro ⟨version,id,error⟩
    apply Fields.readMembers_eq_ok.mpr
    exact ((Fields.Reads.map (version_iff.mpr version) mk).seq (Fields.Reads.field_iff.mpr id)).seq
      (Fields.Reads.required_iff.mpr error)

end Members

section Kinds

variable {o : Object}

def HasVersion (o : Object) : Prop := ∃ jsonrpc, Versioned o jsonrpc

def HasId (o : Object) : Prop := ∃ id : Id, o.get? "id" = some id.encode

def HasMethod (o : Object) : Prop := ∃ method, o.get? "method" = some (.str method)

/-- The object has no error, or one that can be read. -/
def AllowsError (o : Object) : Prop :=
  ∃ error, (o.get? "error").elim (.ok none) (Decode.optional ErrorData.decode) = .ok error

theorem Request.exists_heldBy :
    (∃ r : Request, r.HeldBy o) ↔ HasVersion o ∧ HasId o ∧ HasMethod o := by
  constructor
  · rintro ⟨r,held⟩
    exact ⟨⟨_,held.version⟩,⟨_,held.id⟩,⟨_,held.method⟩⟩
  · rintro ⟨⟨jsonrpc,version⟩,⟨id,named⟩,⟨method,called⟩⟩
    exact ⟨⟨jsonrpc,id,method,carried o "params"⟩,version,named,called,rfl⟩

theorem Response.exists_heldBy :
    (∃ r : Response, r.HeldBy o) ↔ HasVersion o ∧ HasId o ∧ AllowsError o := by
  constructor
  · rintro ⟨r,held⟩
    exact ⟨⟨_,held.version⟩,⟨_,held.id⟩,⟨_,held.error⟩⟩
  · rintro ⟨⟨jsonrpc,version⟩,⟨id,named⟩,⟨error,allowed⟩⟩
    exact ⟨⟨jsonrpc,id,carried o "result",error⟩,version,named,rfl,allowed⟩

theorem Notification.exists_heldBy :
    (∃ n : Notification, n.HeldBy o) ↔ HasVersion o ∧ HasMethod o := by
  constructor
  · rintro ⟨n,held⟩
    exact ⟨⟨_,held.version⟩,⟨_,held.method⟩⟩
  · rintro ⟨⟨jsonrpc,version⟩,⟨method,called⟩⟩
    exact ⟨⟨jsonrpc,method,carried o "params"⟩,version,called,rfl⟩

theorem Failure.HeldBy.allowsError {f : Failure} (held : f.HeldBy o) : AllowsError o := by
  obtain ⟨json,there,decodes⟩ := held.error
  have notNull : json ≠ .null := by rintro rfl; cases decodes
  exact ⟨some f.error,Decode.elim_optional_eq_some.mpr ⟨json,there,notNull,decodes⟩⟩

private theorem map_ne_ok {ε α β : Type} {read : Except ε α} {f : α → β} :
    (∀ value, read.map f ≠ .ok value) ↔ ¬ ∃ x, read = .ok x := by
  cases read <;> simp [Except.map]

namespace Message

/-- The value reads as the kind that the message is of, and as none that is tried before it. -/
def ReadFrom (json : Json) : Message → Prop
  | .request r => Request.decode json = .ok r
  | .response r => (¬ ∃ other, Request.decode json = .ok other) ∧ Response.decode json = .ok r
  | .notification n =>
    (¬ ∃ other, Request.decode json = .ok other) ∧ (¬ ∃ other, Response.decode json = .ok other) ∧
      Notification.decode json = .ok n
  | .failure f =>
    (¬ ∃ other, Request.decode json = .ok other) ∧ (¬ ∃ other, Response.decode json = .ok other) ∧
      (¬ ∃ other, Notification.decode json = .ok other) ∧ Failure.decode json = .ok f
  | .none =>
    (¬ ∃ other, Request.decode json = .ok other) ∧ (¬ ∃ other, Response.decode json = .ok other) ∧
      (¬ ∃ other, Notification.decode json = .ok other) ∧
      (¬ ∃ other, Failure.decode json = .ok other) ∧ Decode.unit json = .ok ()

theorem decode_eq_ok {json : Json} {m : Message} : decode json = .ok m ↔ m.ReadFrom json := by
  have ended : Decode.firstOf "JsonRpcMessage" [] json ≠ .ok m := nofun
  simp only [decode,Decode.firstOf_cons_eq_ok,map_eq_ok,map_ne_ok]
  cases m <;> simp [ReadFrom,ended,Unique.exists_iff]

/-- The object holds the members of the message, and nothing that tells of another kind. -/
def HeldBy (m : Message) (o : Object) : Prop :=
  match m with
  | .request r => r.HeldBy o
  | .response r => ¬ HasMethod o ∧ r.HeldBy o
  | .notification n => ¬ HasId o ∧ n.HeldBy o
  | .failure f => ¬ HasId o ∧ ¬ HasMethod o ∧ f.HeldBy o
  | .none => False

theorem decode_ofObject {m : Message} : decode (.ofObject o) = .ok m ↔ m.HeldBy o := by
  -- What a message has of its own leaves one thing by which each kind before it must fail.
  simp only [decode_eq_ok]
  cases m with
  | request r => exact Request.decode_eq_ok
  | response r =>
    simp only [ReadFrom,HeldBy,Request.decode_eq_ok,Response.decode_eq_ok,Request.exists_heldBy]
    refine and_congr_left fun held => ?_
    have version : HasVersion o := ⟨_,held.version⟩
    have named : HasId o := ⟨_,held.id⟩
    simp only [version,named,true_and]
  | notification n =>
    simp only [ReadFrom,HeldBy,Request.decode_eq_ok,Response.decode_eq_ok,
      Notification.decode_eq_ok,Request.exists_heldBy,Response.exists_heldBy,← and_assoc]
    refine and_congr_left fun held => ?_
    have version : HasVersion o := ⟨_,held.version⟩
    have called : HasMethod o := ⟨_,held.method⟩
    simp only [version,called,true_and,and_true]
    exact and_iff_left_of_imp fun noId both => noId both.1
  | failure f =>
    simp only [ReadFrom,HeldBy,Request.decode_eq_ok,Response.decode_eq_ok,
      Notification.decode_eq_ok,Failure.decode_eq_ok,Request.exists_heldBy,Response.exists_heldBy,
      Notification.exists_heldBy]
    constructor
    · rintro ⟨-,noResponse,noNotification,held⟩
      have version : HasVersion o := ⟨_,held.version⟩
      exact ⟨fun named => noResponse ⟨version,named,held.allowsError⟩,
        fun called => noNotification ⟨version,called⟩,held⟩
    · rintro ⟨noId,noMethod,held⟩
      exact ⟨fun other => noId other.2.1,fun other => noId other.2.1,fun other => noMethod other.2,
        held⟩
  | none => exact ⟨nofun,False.elim⟩

theorem decode_request {r : Request} (held : r.HeldBy o) :
    decode (.ofObject o) = .ok (.request r) :=
  decode_ofObject.mpr held

theorem decode_notification (noId : ¬ HasId o) {n : Notification} (held : n.HeldBy o) :
    decode (.ofObject o) = .ok (.notification n) :=
  decode_ofObject.mpr ⟨noId,held⟩

end Message

end Kinds

theorem Request.distinct (r : Request) : (r.members.map (·.1)).Nodup := by
  have keys : ["jsonrpc","id","method","params"].Nodup := by decide
  exact keys

theorem Request.heldBy_members {r : Request} (bare : r.params ≠ some .null) :
    r.HeldBy (Json.members r.members) := by
  have there := Json.get?_members _ r.distinct
  refine ⟨?_,there "id",there "method",?_⟩
  · rw [Versioned,there]
    rfl
  · rw [carried,there]
    exact filter_ne_null bare

theorem Response.distinct (errorJson : ErrorData → Json) (r : Response) :
    ((r.membersWith errorJson).map (·.1)).Nodup := by
  have keys : ["jsonrpc","id","result","error"].Nodup := by decide
  exact keys

theorem Response.heldBy_members {r : Response} (bare : r.result ≠ some .null)
    (bareError : ∀ e ∈ r.error, e.data ≠ some .null) :
    r.HeldBy (Json.members (r.membersWith ErrorData.encode)) := by
  have there := Json.get?_members _ (r.distinct ErrorData.encode)
  refine ⟨?_,there "id",?_,?_⟩
  · rw [Versioned,there]
    rfl
  · rw [carried,there]
    exact filter_ne_null bare
  · obtain ⟨jsonrpc,id,result,error⟩ := r
    rw [there]
    cases error with
    | none => rfl
    | some e =>
      change some <$> ErrorData.decode e.encode = _
      rw [ErrorData.decode_encode (bareError e rfl)]
      rfl

theorem Notification.distinct (n : Notification) : (n.members.map (·.1)).Nodup := by
  have keys : ["jsonrpc","method","params"].Nodup := by decide
  exact keys

theorem Notification.heldBy_members {n : Notification} (bare : n.params ≠ some .null) :
    n.HeldBy (Json.members n.members) := by
  have there := Json.get?_members _ n.distinct
  refine ⟨?_,there "method",?_⟩
  · rw [Versioned,there]
    rfl
  · rw [carried,there]
    exact filter_ne_null bare

theorem Failure.distinct (errorJson : ErrorData → Json) (f : Failure) :
    ((f.membersWith errorJson).map (·.1)).Nodup := by
  have keys : ["jsonrpc","id","error"].Nodup := by decide
  exact keys

theorem Failure.heldBy_members {f : Failure} (anonymous : f.id = none)
    (bare : f.error.data ≠ some .null) :
    f.HeldBy (Json.members (f.membersWith ErrorData.encode)) := by
  have there := Json.get?_members _ (f.distinct ErrorData.encode)
  refine ⟨?_,?_,f.error.encode,there "error",ErrorData.decode_encode bare⟩
  · rw [Versioned,there]
    rfl
  · rw [there,anonymous,Failure.membersWith,anonymous]
    rfl

namespace Message

def values : Message → List Json
  | .request r => r.params.toList
  | .response r => r.result.toList ++ (r.error.bind (·.data)).toList
  | .notification n => n.params.toList
  | .failure f => f.error.data.toList
  | .none => []

/-- A message of the current version. An error in it answers no request. -/
inductive Current : Message → Prop
  | request {r : Request} (current : r.jsonrpc = version) : Current (.request r)
  | response {r : Response} (current : r.jsonrpc = version) : Current (.response r)
  | notification {n : Notification} (current : n.jsonrpc = version) : Current (.notification n)
  | failure {f : Failure} (current : f.jsonrpc = version) (anonymous : f.id = .none) :
      Current (.failure f)

theorem Current.anonymous {m : Message} (current : m.Current) {f : Failure}
    (failed : m = .failure f) : f.id = .none := by
  cases current with
  | failure _ anonymous => cases failed; exact anonymous
  | request _ | response _ | notification _ => cases failed

private theorem bare_of_values {value : Option Json} (bare : ∀ j ∈ value.toList, j ≠ .null) :
    value ≠ some .null := by
  rintro rfl
  exact bare .null (List.mem_singleton_self _) rfl

/-- A message reads back, of whatever version, unless it is a failure with an id, which is a
response, or carries a `null`. -/
theorem decode_encode {m : Message} (anonymous : ∀ {f}, m = .failure f → f.id = .none)
    (bare : ∀ j ∈ m.values, j ≠ .null) : decode m.encode = .ok m := by
  cases m with
  | request r => exact decode_ofObject.mpr (Request.heldBy_members (bare_of_values bare))
  | response r =>
    obtain ⟨bareResult,bareError⟩ := List.forall_mem_append.mp bare
    refine decode_ofObject.mpr ⟨?_,Response.heldBy_members (bare_of_values bareResult) ?_⟩
    · rintro ⟨method,called⟩
      cases (Json.get?_members _ (r.distinct ErrorData.encode) "method").symm.trans called
    · intro e there
      rw [Option.mem_def.mp there] at bareError
      exact bare_of_values bareError
  | notification n =>
    refine decode_ofObject.mpr ⟨?_,Notification.heldBy_members (bare_of_values bare)⟩
    rintro ⟨id,named⟩
    cases (Json.get?_members _ n.distinct "id").symm.trans named
  | failure f =>
    have there := Json.get?_members _ (f.distinct ErrorData.encode)
    have held := Failure.heldBy_members (anonymous rfl) (bare_of_values bare)
    refine decode_ofObject.mpr ⟨?_,?_,held⟩
    · rintro ⟨id,named⟩
      have null := (there "id").symm.trans named
      rw [Failure.membersWith,anonymous rfl] at null
      exact Id.readsBack.notNull id (Option.some.inj null).symm
    · rintro ⟨method,called⟩
      cases (there "method").symm.trans called
  | none => rfl

end Message

end ToolView.Rpc
