import Mathlib
import ToolView.Decode
import ToolView.Proofs.Members

/-! Reading back what was written. A record is read from an object by looking up its fields, so a
description reads a value from whatever object has the right look-ups; order never matters. -/

namespace ToolView

theorem ok_of_bind {ε α β : Type} {x : Except ε α} {f : α → Except ε β} {value : β}
    (ok : x >>= f = .ok value) : ∃ given, x = .ok given ∧ f given = .ok value := by
  cases x with
  | error e => cases ok
  | ok given => exact ⟨given,rfl,ok⟩

theorem ok_of_mapError {ε ε' α : Type} {read : Except ε α} {f : ε → ε'} {x : α}
    (ok : read.mapError f = .ok x) : read = .ok x := by
  cases read with
  | error e => cases ok
  | ok given => cases ok; rfl

theorem map_eq_ok {ε α β : Type} {read : Except ε α} {f : α → β} {value : β} :
    read.map f = .ok value ↔ ∃ x, read = .ok x ∧ f x = value := by
  cases read <;> simp [Except.map]

theorem mapM_eq_ok {ε α β : Type} {f : α → Except ε β} {xs : List α} {ys : List β} :
    xs.mapM f = .ok ys ↔ List.Forall₂ (fun x y => f x = .ok y) xs ys := by
  induction xs generalizing ys with
  | nil =>
    rw [List.forall₂_nil_left_iff]
    constructor
    · intro read
      exact (Except.ok.inj read).symm
    · rintro rfl
      rfl
  | cons x xs ih =>
    rw [List.mapM_cons,List.forall₂_cons_left_iff]
    constructor
    · intro read
      obtain ⟨y,first,read⟩ := ok_of_bind read
      obtain ⟨others,rest,read⟩ := ok_of_bind read
      exact ⟨y,others,first,ih.mp rest,(Except.ok.inj read).symm⟩
    · rintro ⟨y,others,first,rest,rfl⟩
      rw [first,ih.mpr rest]
      rfl

namespace Fields

variable {α β : Type}

private theorem get?_of_find? (name : String) (es : List (String × Json)) (place : ℕ) :
    (find? name place es).map (·.2.1) = Entries.get? name es := by
  induction es generalizing place with
  | nil => rfl
  | cons e es ih =>
    rw [find?,Entries.get?_cons]
    split_ifs with here
    · rfl
    · exact ih (place + 1)

private theorem find?_eq_none {name : String} {es : List (String × Json)}
    (absent : Entries.get? name es = none) (place : ℕ) : find? name place es = none := by
  rw [← get?_of_find? name es place,Option.map_eq_none_iff] at absent
  exact absent

/-- A key stands once in an object: after the member that is found there is no other. -/
private theorem find?_eq_some {name : String} {es : List (String × Json)} {json : Json}
    (order : Entries.Ascending es) (found : Entries.get? name es = some json) (place : ℕ) :
    ∃ there rest, find? name place es = some (there,json,rest) ∧
      find? name (there + 1) rest = none := by
  induction es generalizing place with
  | nil => cases found
  | cons e es ih =>
    obtain ⟨key,value⟩ := e
    obtain ⟨below,rest⟩ := List.pairwise_cons.mp order
    rw [Entries.get?_cons] at found
    rw [find?]
    split_ifs at found ⊢ with here
    · have same : value = json := Option.some.inj found
      subst same
      refine ⟨place,es,rfl,?_⟩
      exact find?_eq_none (Entries.get?_eq_none_of_below fun d member => here ▸ below d member) _
    · exact ih rest found (place + 1)

section Members

variable {ν : Type} {es : List (String × ν)}

theorem ofMembers_map {fields : Fields ν α} {f : α → β} {value : β}
    (read : (f <$> fields).ofMembers es = .value value) :
    ∃ x, fields.ofMembers es = .value x ∧ f x = value := by
  change (fields.ofMembers es).map f = _ at read
  cases found : fields.ofMembers es with
  | value x => rw [found] at read; exact ⟨x,rfl,Outcome.value.inj read⟩
  | wrong place e => rw [found] at read; cases read
  | missing name => rw [found] at read; cases read

theorem ofMembers_seq {function : Fields ν (α → β)} {fields : Fields ν α} {value : β}
    (read : (function <*> fields).ofMembers es = .value value) :
    ∃ f x, function.ofMembers es = .value f ∧ fields.ofMembers es = .value x ∧ f x = value := by
  change Outcome.both (function.ofMembers es) (fields.ofMembers es) = _ at read
  cases first : function.ofMembers es <;> cases second : fields.ofMembers es <;>
    rw [first,second] at read
  case value.value f x => exact ⟨f,x,rfl,rfl,Outcome.value.inj read⟩
  case wrong.wrong => rw [Outcome.both] at read; split_ifs at read
  all_goals cases read

end Members

theorem ofMembers_field {es : List (String × Json)} {decode : Json → Except DecodeError α}
    {absent short : Option α} {name : String} {value : α}
    (read : (field name decode absent short).ofMembers es = .value value) :
    Entries.get? name es = none ∧ absent = some value ∨
      ∃ json, Entries.get? name es = some json ∧ decode json = .ok value := by
  have found := get?_of_find? name es 0
  rw [← found]
  simp only [field] at read
  split at read
  next missing =>
    rw [missing]
    cases absent with
    | none => cases read
    | some default => exact .inl ⟨rfl,congrArg some (Outcome.value.inj read)⟩
  next there json rest first =>
    rw [first]
    refine .inr ⟨json,rfl,?_⟩
    cases decodes : decode json with
    | error e => rw [decodes] at read; cases read
    | ok given =>
      rw [decodes] at read
      dsimp only at read
      split at read
      · cases read
      · exact congrArg _ (Outcome.value.inj read)

/-- The description reads this value from the members of the object. -/
def Reads (fields : Fields Json α) (o : Object) (value : α) : Prop :=
  fields.ofMembers o.entries = .value value

namespace Reads

variable {o : Object}

theorem map {fields : Fields Json α} {value : α} (reads : fields.Reads o value) (f : α → β) :
    (f <$> fields).Reads o (f value) := by
  change (fields.ofMembers o.entries).map f = _
  rw [show fields.ofMembers o.entries = _ from reads]
  rfl

theorem seq {function : Fields Json (α → β)} {fields : Fields Json α} {f : α → β} {value : α}
    (first : function.Reads o f) (second : fields.Reads o value) :
    (function <*> fields).Reads o (f value) := by
  change Outcome.both (function.ofMembers o.entries) (fields.ofMembers o.entries) = _
  rw [show function.ofMembers o.entries = _ from first,
    show fields.ofMembers o.entries = _ from second]
  rfl

theorem field {name : String} {decode : Json → Except DecodeError α} {json : Json} {value : α}
    (found : o.get? name = some json) (decodes : decode json = .ok value)
    (absent short : Option α) : (Fields.field name decode absent short).Reads o value := by
  obtain ⟨there,rest,first,once⟩ := find?_eq_some o.ascending found 0
  simp only [Reads,Fields.field,first,decodes,once]

theorem of_map {fields : Fields Json α} {f : α → β} {value : β}
    (reads : (f <$> fields).Reads o value) : ∃ x, fields.Reads o x ∧ f x = value :=
  ofMembers_map reads

theorem of_seq {function : Fields Json (α → β)} {fields : Fields Json α} {value : β}
    (reads : (function <*> fields).Reads o value) :
    ∃ f x, function.Reads o f ∧ fields.Reads o x ∧ f x = value :=
  ofMembers_seq reads

theorem field_absent {name : String} {decode : Json → Except DecodeError α} {value : α}
    (missing : o.get? name = none) (short : Option α) :
    (Fields.field name decode (some value) short).Reads o value := by
  simp only [Reads,Fields.field,find?_eq_none missing]

theorem required_iff {name : String} {decode : Json → Except DecodeError α} {value : α} :
    (Fields.required name decode).Reads o value ↔
      ∃ json, o.get? name = some json ∧ decode json = .ok value := by
  constructor
  · intro reads
    obtain ⟨-,none⟩ | found := ofMembers_field reads
    · cases none
    · exact found
  · rintro ⟨json,found,decodes⟩
    exact .field found decodes none none

/-- A field with a value for where it is left out is read from what stands there, or is that. -/
theorem field_iff {name : String} {decode : Json → Except DecodeError α} {default value : α}
    {short : Option α} :
    (Fields.field name decode (some default) short).Reads o value ↔
      (o.get? name).elim (.ok default) decode = .ok value := by
  constructor
  · intro reads
    obtain ⟨missing,same⟩ | ⟨json,found,decodes⟩ := ofMembers_field reads
    · have absent : o.get? name = none := missing
      rw [absent,Option.elim_none,Option.some.inj same]
    · have there : o.get? name = some json := found
      rw [there,Option.elim_some,decodes]
  · intro given
    cases there : o.get? name with
    | none =>
      rw [there] at given
      cases given
      exact .field_absent there short
    | some json =>
      rw [there] at given
      exact .field there given _ short

end Reads

private theorem strayFault_json (names : List String) (es : List (String × Json)) (place : ℕ) :
    strayFault names place es = .value () := by
  induction es generalizing place with
  | nil => rfl
  | cons e es ih =>
    change (if e.1 ∈ names then strayFault names (place + 1) es
      else strayFault names (place + 1) es) = _
    rw [ite_self,ih]

theorem readMembers_iff {fields : Fields Json α} {es : List (String × Json)} {value : α} :
    fields.readMembers es = .ok value ↔ fields.ofMembers es = .value value := by
  rw [readMembers,strayFault_json]
  cases fields.ofMembers es with
  | value other => exact ⟨fun same => congrArg _ (Except.ok.inj same),
      fun same => congrArg _ (Outcome.value.inj same)⟩
  | wrong place e => exact ⟨nofun,nofun⟩
  | missing name => exact ⟨nofun,nofun⟩

theorem readMembers_eq_ok {fields : Fields Json α} {o : Object} {value : α} :
    fields.readMembers o.entries = .ok value ↔ fields.Reads o value :=
  readMembers_iff

end Fields

namespace Decode

variable {α : Type} {type : String} {decode : Json → Except DecodeError α}
  {others : List (Json → Except DecodeError α)} {json : Json}

theorem string_eq_ok {s : String} : string json = .ok s ↔ json = .str s := by
  constructor
  · intro read
    cases json <;> cases read
    rfl
  · rintro rfl
    rfl

theorem elim_optional_json (part : Option Json) :
    part.elim (.ok none) (optional Decode.json) = .ok (part.filter (· ≠ .null)) := by
  cases part with
  | none => rfl
  | some json => cases json <;> rfl

theorem optional_of_ne_null (notNull : json ≠ .null) :
    optional decode json = some <$> decode json := by
  cases json with
  | null => exact absurd rfl notNull
  | bool _ | num _ | str _ | arr _ | obj _ => rfl

/-- What may be `null` is nothing where it is, and what was read elsewhere. -/
theorem optional_eq_ok {value : Option α} : optional decode json = .ok value ↔
    json = .null ∧ value = none ∨ json ≠ .null ∧ ∃ x, decode json = .ok x ∧ value = some x := by
  by_cases null : json = .null
  · subst null
    change Except.ok none = Except.ok value ↔ _
    simp [eq_comm]
  · rw [optional_of_ne_null null]
    cases decode json with
    | ok x => simp [null,Functor.map,Except.map,eq_comm]
    | error e => simp [null,Functor.map,Except.map]

theorem elim_optional_eq_some {part : Option Json} {x : α} :
    part.elim (.ok none) (optional decode) = .ok (some x) ↔
      ∃ json, part = some json ∧ json ≠ .null ∧ decode json = .ok x := by
  cases part with
  | none => simp
  | some json => simp [optional_eq_ok]

theorem firstOf_fits {value : α} (reads : decode json = .ok value) :
    firstOf type (decode :: others) json = .ok value := by
  rw [firstOf,List.findSome?_cons,reads]
  rfl

theorem firstOf_other (refuses : ∀ value, decode json ≠ .ok value) :
    firstOf type (decode :: others) json = firstOf type others json := by
  cases read : decode json with
  | ok value => exact absurd read (refuses value)
  | error e =>
    rw [firstOf,List.findSome?_cons,read]
    rfl

theorem firstOf_eq_error {e : DecodeError} (failed : firstOf type others json = .error e) :
    e = .noVariant type := by
  unfold firstOf at failed
  split at failed <;> cases failed
  rfl

/-- A value is read as the first type that it fits. -/
theorem firstOf_cons_eq_ok {value : α} : firstOf type (decode :: others) json = .ok value ↔
    decode json = .ok value ∨
      (∀ other, decode json ≠ .ok other) ∧ firstOf type others json = .ok value := by
  cases read : decode json with
  | ok given =>
    rw [firstOf_fits read]
    exact ⟨.inl,fun fits => fits.elim id fun ⟨refuses,_⟩ => absurd rfl (refuses given)⟩
  | error e =>
    have refuses : ∀ other, decode json ≠ .ok other := by rw [read]; exact fun _ => nofun
    rw [firstOf_other refuses]
    exact ⟨fun later => .inr ⟨fun _ => nofun,later⟩,fun fits => fits.elim nofun And.right⟩

end Decode

/-- What is written reads as what it was, and is never written as `null`. -/
structure ReadsBack {α : Type} (encode : α → Json) (decode : Json → Except DecodeError α) :
    Prop where
  reads : ∀ value, decode (encode value) = .ok value
  notNull : ∀ value, encode value ≠ .null

namespace ReadsBack

variable {α : Type} {encode : α → Json} {decode : Json → Except DecodeError α}

theorem string : ReadsBack .str (Decode.string : Json → Except DecodeError String) :=
  ⟨fun _ => rfl,fun _ => nofun⟩

theorem bool : ReadsBack .bool (Decode.bool : Json → Except DecodeError Bool) :=
  ⟨fun _ => rfl,fun _ => nofun⟩

theorem object : ReadsBack .ofObject Decode.object where
  reads o := by rw [Decode.object,Json.object?_ofObject]
  notNull _ := nofun

theorem int32 : ReadsBack .int32 (Decode.int32 : Json → Except DecodeError Int32) where
  reads n := by
    have low := n.le_toInt
    have high := n.toInt_lt
    change (if (-2147483648 : ℤ) ≤ n.toInt ∧ n.toInt ≤ 2147483647 then
      (Except.ok n.toInt : Except DecodeError ℤ) else _).map _ = _
    rw [if_pos ⟨low,by omega⟩]
    simp [Except.map]
  notNull _ := nofun

theorem uint32 : ReadsBack .uint32 (Decode.uint32 : Json → Except DecodeError UInt32) where
  reads n := by
    have small : (0 : ℤ) ≤ n.toNat ∧ (n.toNat : ℤ) ≤ 4294967295 := by
      have := n.toNat_lt
      omega
    change (if (0 : ℤ) ≤ n.toNat ∧ (n.toNat : ℤ) ≤ 4294967295 then
      (Except.ok (n.toNat : ℤ) : Except DecodeError ℤ) else _).map _ = _
    rw [if_pos small]
    simp [Except.map]
  notNull _ := nofun

theorem list (back : ReadsBack encode decode) :
    ReadsBack (fun items => .arr (items.map encode)) (Decode.list decode) where
  reads items := by
    change (items.map encode).mapM decode = .ok items
    induction items with
    | nil => rfl
    | cons item items ih =>
      rw [List.map_cons,List.mapM_cons,back.reads,ih]
      rfl
  notNull _ := nofun

theorem optional (back : ReadsBack encode decode) (value : α) :
    Decode.optional decode (encode value) = .ok (some value) := by
  rw [Decode.optional_of_ne_null (back.notNull value),back.reads]
  rfl

theorem map_encode (back : ReadsBack encode decode) (value : Option α) :
    (value.map encode).map decode = value.map .ok := by
  cases value with
  | none => rfl
  | some value => exact congrArg some (back.reads value)

/-- A record reads back where its fields are read from the object of its members. -/
theorem record {fields : Fields Json α} {members : α → List (String × Option Json)}
    (reads : ∀ value, fields.Reads (Json.members (members value)) value) (name : String) :
    ReadsBack (fun value => .record (members value)) (Decode.record name fields) where
  reads value := Fields.readMembers_eq_ok.mpr (reads value)
  notNull _ := nofun

end ReadsBack

namespace Fields.Reads

variable {α : Type} {encode : α → Json} {decode : Json → Except DecodeError α}
  {ms : List (String × Option Json)} {name : String}

theorem present (back : ReadsBack encode decode) {value : α} {absent short : Option α}
    (distinct : (ms.map (·.1)).Nodup) (found : Entries.get? name ms = some (some (encode value))) :
    (Fields.field name decode absent short).Reads (Json.members ms) value := by
  apply field _ (back.reads value)
  rw [Json.get?_members ms distinct,found]
  rfl

theorem optional (back : ReadsBack encode decode) {value : Option α}
    {short : Option (Option α)} (distinct : (ms.map (·.1)).Nodup)
    (found : Entries.get? name ms = some (value.map encode)) :
    (Fields.field name (Decode.optional decode) (some none) short).Reads (Json.members ms)
      value := by
  have there : (Json.members ms).get? name = value.map encode := by
    rw [Json.get?_members ms distinct,found]
    rfl
  cases value with
  | none => exact field_absent there short
  | some value => exact field there (back.optional value) _ _

/-- A value taken as it is reads as the default only where there is none. -/
theorem default_json {default json : Json} {value : Option Json} (distinct : (ms.map (·.1)).Nodup)
    (found : Entries.get? name ms = some value) (same : value.getD default = json) :
    (Fields.withDefault name Decode.json default).Reads (Json.members ms) json := by
  have there : (Json.members ms).get? name = value := by
    rw [Json.get?_members ms distinct,found]
    rfl
  subst same
  cases value with
  | none => exact field_absent there _
  | some given => exact field there rfl _ _

/-- A value taken as it is reads as none where it is `null`. -/
theorem as_json (o : Object) (name : String) :
    (Fields.optional name Decode.json).Reads o ((o.get? name).filter (· ≠ .null)) := by
  rw [Fields.optional,field_iff,Decode.elim_optional_json]

theorem optional_json {value : Option Json} (distinct : (ms.map (·.1)).Nodup)
    (found : Entries.get? name ms = some value) :
    (Fields.optional name Decode.json).Reads (Json.members ms) (value.filter (· ≠ .null)) := by
  have there : (Json.members ms).get? name = value := by
    rw [Json.get?_members ms distinct,found]
    rfl
  have reads := as_json (Json.members ms) name
  rwa [there] at reads

end Fields.Reads

end ToolView
