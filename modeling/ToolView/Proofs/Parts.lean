import Mathlib
import ToolView.Protocol.Tool
import ToolView.Proofs.Rpc.Envelope

/-! What a value that was read must have held. A record is read from the members of an object or
from the items of an array, and each field from its part of the value; so the parts of a call can be
told from what it was read from, whichever shape that had. -/

namespace ToolView

/-- The part of a value that a field is read from: the item in its place, or the member of its
name. -/
def Json.part? (index : ℕ) (name : String) : Json → Option Json
  | .arr items => items[index]?
  | json => json.get? name

namespace Fields

section Items

variable {ν α β : Type} {index : ℕ} {items rest : List ν}

theorem ofItems_map {fields : Fields ν α} {f : α → β} {value : β}
    (read : (f <$> fields).ofItems index items = .ok (value,rest)) :
    ∃ x, fields.ofItems index items = .ok (x,rest) ∧ f x = value := by
  change (fields.ofItems index items >>= fun taken => .ok (f taken.1,taken.2)) = _ at read
  obtain ⟨taken,first,read⟩ := ok_of_bind read
  cases read
  exact ⟨taken.1,first,rfl⟩

theorem ofItems_seq {function : Fields ν (α → β)} {fields : Fields ν α} {value : β}
    (read : (function <*> fields).ofItems index items = .ok (value,rest)) :
    ∃ f x middle, function.ofItems index items = .ok (f,middle) ∧
      fields.ofItems (index + function.names.length) middle = .ok (x,rest) ∧ f x = value := by
  change (function.ofItems index items >>= fun first =>
    fields.ofItems (index + function.names.length) first.2 >>= fun second =>
      .ok (first.1 second.1,second.2)) = _ at read
  obtain ⟨one,first,read⟩ := ok_of_bind read
  obtain ⟨two,second,read⟩ := ok_of_bind read
  cases read
  exact ⟨one.1,two.1,one.2,first,second,rfl⟩

theorem ofItems_field {name : String} {decode : ν → Except DecodeError α} {absent short : Option α}
    {value : α} (read : (field name decode absent short).ofItems index items = .ok (value,rest)) :
    items = [] ∧ rest = [] ∧ short = some value ∨
      ∃ item, items = item :: rest ∧ decode item = .ok value := by
  cases items with
  | nil =>
    cases short with
    | none => cases read
    | some default => cases read; exact .inl ⟨rfl,rfl,rfl⟩
  | cons item items =>
    simp only [field] at read
    cases decodes : decode item with
    | error e => rw [decodes] at read; cases read
    | ok given =>
      rw [decodes] at read
      cases read
      exact .inr ⟨item,rfl,decodes⟩

/-- Fields take one item each from the front of a list, as long as there are any. -/
def Orderly (fields : Fields ν α) : Prop :=
  ∀ index items value rest, fields.ofItems index items = .ok (value,rest) →
    rest = items.drop fields.names.length

namespace Orderly

theorem map {fields : Fields ν α} (orderly : fields.Orderly) (f : α → β) :
    (f <$> fields).Orderly := by
  intro index items value rest read
  obtain ⟨x,read,-⟩ := ofItems_map read
  exact orderly _ _ _ _ read

theorem seq {function : Fields ν (α → β)} {fields : Fields ν α}
    (first : function.Orderly) (second : fields.Orderly) : (function <*> fields).Orderly := by
  intro index items value rest read
  obtain ⟨f,x,middle,front,back,-⟩ := ofItems_seq read
  change rest = items.drop (function.names ++ fields.names).length
  rw [second _ _ _ _ back,first _ _ _ _ front,List.drop_drop,List.length_append]

theorem field {name : String} {decode : ν → Except DecodeError α} {absent short : Option α} :
    (field name decode absent short).Orderly := by
  intro index items value rest read
  obtain ⟨rfl,rfl,-⟩ | ⟨item,rfl,-⟩ := ofItems_field read <;> rfl

end Orderly

end Items

variable {α β : Type} {decode : Json → Except DecodeError α} {absent short : Option α}
  {name : String} {items : List Json} {json : Json}

theorem ofItems_of_readItems {fields : Fields Json α} {what : String} {surplus : ℕ → String}
    {value : α} (read : fields.readItems what surplus items = .ok value) :
    fields.ofItems 0 items = .ok (value,[]) := by
  unfold readItems at read
  split at read
  next other taken => cases read; exact taken
  all_goals cases read

/-- What fields are in a record, of which they begin in this place: they are read from the members
of an object, or from the items of an array. -/
def Takes (fields : Fields Json α) (place : ℕ) : Json → α → Prop
  | .obj es, value => fields.ofMembers es = .value value
  | .arr items, value => ∃ rest, fields.ofItems place (items.drop place) = .ok (value,rest)
  | _, _ => False

namespace Takes

variable {place : ℕ}

theorem of_map {fields : Fields Json α} {f : α → β} {value : β}
    (takes : (f <$> fields).Takes place json value) :
    ∃ x, fields.Takes place json x ∧ f x = value := by
  cases json with
  | obj es => exact ofMembers_map takes
  | arr items =>
    obtain ⟨rest,read⟩ := takes
    obtain ⟨x,read,same⟩ := ofItems_map read
    exact ⟨x,⟨rest,read⟩,same⟩
  | null | bool _ | num _ | str _ => exact takes.elim

theorem of_seq {function : Fields Json (α → β)} {fields : Fields Json α} {value : β}
    (takes : (function <*> fields).Takes place json value) (orderly : function.Orderly) :
    ∃ f x, function.Takes place json f ∧ fields.Takes (place + function.names.length) json x ∧
      f x = value := by
  cases json with
  | obj es => exact ofMembers_seq takes
  | arr items =>
    obtain ⟨rest,read⟩ := takes
    obtain ⟨f,x,middle,front,back,same⟩ := ofItems_seq read
    rw [orderly _ _ _ _ front,List.drop_drop] at back
    exact ⟨f,x,⟨middle,front⟩,⟨rest,back⟩,same⟩
  | null | bool _ | num _ | str _ => exact takes.elim

/-- A field is read from its part, or has a value of its own where there is no such part. -/
theorem of_field (place : ℕ) {value : α}
    (takes : (Fields.field name decode absent short).Takes place json value) :
    json.part? place name = none ∧ (absent = some value ∨ short = some value) ∨
      ∃ part, json.part? place name = some part ∧ decode part = .ok value := by
  cases json with
  | obj es => exact (ofMembers_field takes).imp (fun ⟨missing,default⟩ => ⟨missing,.inl default⟩) id
  | arr items =>
    obtain ⟨rest,read⟩ := takes
    have there : items[place]? = (items.drop place)[0]? := by rw [List.getElem?_drop,Nat.add_zero]
    obtain ⟨ended,-,default⟩ | ⟨item,front,decodes⟩ := ofItems_field read
    · exact .inl ⟨by rw [Json.part?,there,ended]; rfl,.inr default⟩
    · exact .inr ⟨item,by rw [Json.part?,there,front]; rfl,decodes⟩
  | null | bool _ | num _ | str _ => exact takes.elim

theorem of_required (place : ℕ) {value : α} (takes : (required name decode).Takes place json value) :
    ∃ part, json.part? place name = some part ∧ decode part = .ok value := by
  obtain ⟨-,none | none⟩ | found := of_field place takes
  · cases none
  · cases none
  · exact found

theorem of_default (place : ℕ) {default value : α}
    (takes : (withDefault name decode default).Takes place json value) :
    (json.part? place name).elim (.ok default) decode = .ok value := by
  obtain ⟨missing,same | same⟩ | ⟨part,there,decodes⟩ := of_field place takes
  · rw [missing,← Option.some.inj same,Option.elim_none]
  · rw [missing,← Option.some.inj same,Option.elim_none]
  · rw [there,Option.elim_some,decodes]

theorem of_optional (place : ℕ) {value : Option α}
    (takes : (optional name decode).Takes place json value) :
    (json.part? place name).elim (.ok none) (Decode.optional decode) = .ok value := by
  obtain ⟨missing,same | none⟩ | ⟨part,there,decodes⟩ := of_field place takes
  · rw [missing,← Option.some.inj same,Option.elim_none]
  · cases none
  · rw [there,Option.elim_some,decodes]

end Takes

end Fields

namespace Decode

variable {α : Type}

/-- A record is read from the members of an object or from the items of an array. -/
theorem takes_of_record {type : String} {fields : Fields Json α} {json : Json} {value : α}
    (read : record type fields json = .ok value) : fields.Takes 0 json value := by
  cases json with
  | obj es => exact Fields.readMembers_iff.mp read
  | arr items =>
    change fields.readItems ("struct " ++ type) (fun _ => "fewer elements in array") items = _ at read
    exact ⟨[],Fields.ofItems_of_readItems read⟩
  | null | bool _ | num _ | str _ => cases read

theorem optional_object_eq_ok {json : Json} {o : Option Object}
    (read : optional object json = .ok o) : json.object? = o := by
  cases json <;> cases read <;> rfl

theorem optional_string_eq_ok {json : Json} {text : Option String}
    (read : optional string json = .ok text) : text = json.string? := by
  cases json <;> cases read <;> rfl

end Decode

theorem Fields.Takes.of_text {json : Json} {name text : String} (place : ℕ)
    (takes : (required name Decode.string).Takes place json text) :
    json.part? place name = some (.str text) := by
  obtain ⟨part,there,decodes⟩ := takes.of_required place
  rw [there,Decode.string_eq_ok.mp decodes]

/-- A call has the name that it was read with, and the arguments where there were any. -/
theorem ToolCall.parts_of_decode {json : Json} {c : ToolCall} (read : decode json = .ok c) :
    json.part? 0 "name" = some (.str c.name) ∧
      c.arguments = (json.part? 1 "arguments").bind Json.object? := by
  obtain ⟨_,arguments,front,given,rfl⟩ := (Decode.takes_of_record read).of_seq (.map .field mk)
  obtain ⟨name,named,rfl⟩ := front.of_map
  refine ⟨named.of_text 0,?_⟩
  have given := given.of_optional 1
  change arguments = (json.part? 1 "arguments").bind Json.object?
  cases there : json.part? 1 "arguments" with
  | none => rw [there] at given; exact (Except.ok.inj given).symm
  | some part => rw [there] at given; exact (Decode.optional_object_eq_ok given).symm

namespace Rpc

/-- The parts of a request, as it was read from the members of an object or from items. -/
private theorem Request.parts {json : Json} {r : Request} (read : decode json = .ok r) :
    (∃ named, json.part? 1 "id" = some named ∧ Id.decode named = .ok r.id) ∧
      (json.part? 3 "params").elim (.ok none) (Decode.optional Decode.json) = .ok r.params := by
  obtain ⟨f,params,called,carries,rfl⟩ :=
    (Decode.takes_of_record read).of_seq (.seq (.seq (.map .field _) .field) .field)
  obtain ⟨g,method,named,-,rfl⟩ := called.of_seq (.seq (.map .field _) .field)
  obtain ⟨h,id,current,identified,rfl⟩ := named.of_seq (.map .field _)
  obtain ⟨version,-,rfl⟩ := current.of_map
  exact ⟨identified.of_required 1,carries.of_optional 3⟩

theorem Request.id_of_decode {json : Json} {r : Request} (read : decode json = .ok r) :
    json.part? 1 "id" = some r.id.encode := by
  obtain ⟨⟨named,there,decodes⟩,-⟩ := Request.parts read
  rw [there,Id.decode_eq_ok.mp decodes]

theorem Request.params_of_decode {json value : Json} {r : Request} (read : decode json = .ok r)
    (carries : r.params = some value) : json.part? 3 "params" = some value := by
  obtain ⟨-,given⟩ := Request.parts read
  rw [carries] at given
  obtain ⟨part,there,-,same⟩ := Decode.elim_optional_eq_some.mp given
  cases same
  exact there

end Rpc

end ToolView
