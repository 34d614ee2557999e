/-! Dictionaries with text keys. The entries stand in ascending order of their keys, so two
dictionaries with the same entries are the same value, and listing one needs no sorting. The
operations are defined on plain lists of entries, where the look-up laws need no order. -/

namespace ToolView

universe u v

namespace Entries

variable {α : Type u}

abbrev Ascending (es : List (String × α)) : Prop := es.Pairwise (fun a b => a.1 < b.1)

def get? (key : String) : List (String × α) → Option α
  | [] => none
  | e :: es => if e.1 = key then some e.2 else get? key es

def insert (key : String) (value : α) : List (String × α) → List (String × α)
  | [] => [(key, value)]
  | e :: es =>
    if key < e.1 then (key, value) :: e :: es
    else if e.1 = key then (key, value) :: es
    else e :: insert key value es

def erase (key : String) (es : List (String × α)) : List (String × α) :=
  es.filter (fun e => e.1 ≠ key)

@[simp] theorem get?_nil (key : String) : get? key ([] : List (String × α)) = none := rfl

theorem get?_cons (key : String) (e : String × α) (es : List (String × α)) :
    get? key (e :: es) = if e.1 = key then some e.2 else get? key es := rfl

@[simp] theorem get?_insert (key : String) (value : α) (es : List (String × α)) (key' : String) :
    get? key' (insert key value es) = if key = key' then some value else get? key' es := by
  induction es with
  | nil => rfl
  | cons e es ih =>
    simp only [insert]
    split
    · rfl
    · split
      · next same => subst same; by_cases h : e.1 = key' <;> simp [get?_cons, h]
      · next other =>
        simp only [get?_cons, ih]
        by_cases h : e.1 = key'
        · have : key ≠ key' := fun eq => other (h.trans eq.symm)
          simp [h, this]
        · simp [h]

@[simp] theorem get?_erase (key : String) (es : List (String × α)) (key' : String) :
    get? key' (erase key es) = if key = key' then none else get? key' es := by
  induction es with
  | nil => simp [erase]
  | cons e es ih =>
    by_cases same : e.1 = key
    · have dropped : erase key (e :: es) = erase key es := by simp [erase, same]
      rw [dropped, ih]
      by_cases h : key = key' <;> simp [get?_cons, same, h]
    · have kept : erase key (e :: es) = e :: erase key es := by simp [erase, same]
      rw [kept, get?_cons, ih, get?_cons]
      by_cases h : e.1 = key'
      · have : key ≠ key' := fun eq => same (h.trans eq.symm)
        simp [h, this]
      · simp [h]

theorem key_mem_insert {key : String} {value : α} {es : List (String × α)} {e : String × α}
    (h : e ∈ insert key value es) : e = (key, value) ∨ e ∈ es := by
  induction es with
  | nil => exact .inl (List.mem_singleton.1 h)
  | cons d es ih =>
    simp only [insert] at h
    split at h
    · exact List.mem_cons.1 h
    · split at h
      · rcases List.mem_cons.1 h with h | h
        · exact .inl h
        · exact .inr (List.mem_cons_of_mem _ h)
      · rcases List.mem_cons.1 h with h | h
        · exact .inr (h ▸ List.mem_cons_self)
        · exact (ih h).imp id (List.mem_cons_of_mem _)

theorem Ascending.insert {key : String} {value : α} {es : List (String × α)}
    (order : Ascending es) : Ascending (insert key value es) := by
  induction es with
  | nil => exact List.pairwise_singleton _ _
  | cons e es ih =>
    obtain ⟨below, rest⟩ := List.pairwise_cons.1 order
    simp only [Entries.insert]
    split
    · next before =>
      refine List.pairwise_cons.2 ⟨fun d mem => ?_, order⟩
      rcases List.mem_cons.1 mem with rfl | mem
      · exact before
      · exact String.lt_trans before (below d mem)
    · next notBefore =>
      split
      · next same =>
        subst same
        exact List.pairwise_cons.2 ⟨fun d mem => below d mem, rest⟩
      · next other =>
        refine List.pairwise_cons.2 ⟨fun d mem => ?_, ih rest⟩
        rcases key_mem_insert mem with rfl | mem
        · exact Decidable.byContradiction fun notAfter =>
            other (String.le_antisymm (String.not_lt.1 notBefore) (String.not_lt.1 notAfter))
        · exact below d mem

theorem Ascending.erase {key : String} {es : List (String × α)} (order : Ascending es) :
    Ascending (erase key es) :=
  order.filter _

end Entries

structure Dict (α : Type u) where
  entries : List (String × α)
  ascending : Entries.Ascending entries

namespace Dict

variable {α : Type u} {β : Type v}

instance [DecidableEq α] : DecidableEq (Dict α) := fun a b =>
  decidable_of_iff (a.entries = b.entries)
    ⟨fun h => by cases a; cases b; cases h; rfl, fun h => h ▸ rfl⟩

@[ext] theorem ext {a b : Dict α} (h : a.entries = b.entries) : a = b := by
  cases a; cases b; cases h; rfl

def empty : Dict α := ⟨[], List.Pairwise.nil⟩

instance : EmptyCollection (Dict α) := ⟨empty⟩
instance : Inhabited (Dict α) := ⟨empty⟩

def get? (d : Dict α) (key : String) : Option α := Entries.get? key d.entries

def contains (d : Dict α) (key : String) : Bool := (d.get? key).isSome

def insert (d : Dict α) (key : String) (value : α) : Dict α :=
  ⟨Entries.insert key value d.entries, d.ascending.insert⟩

def erase (d : Dict α) (key : String) : Dict α := ⟨Entries.erase key d.entries, d.ascending.erase⟩

def isEmpty (d : Dict α) : Bool := d.entries.isEmpty

/-- The dictionary of a list of entries; of two with one key the later one counts. -/
def ofList (es : List (String × α)) : Dict α := es.foldl (fun d e => d.insert e.1 e.2) empty

def values (d : Dict α) : List α := d.entries.map (·.2)

@[simp] theorem get?_empty (key : String) : (empty : Dict α).get? key = none := rfl

@[simp] theorem get?_insert (d : Dict α) (key : String) (value : α) (key' : String) :
    (d.insert key value).get? key' = if key = key' then some value else d.get? key' :=
  Entries.get?_insert ..

@[simp] theorem get?_erase (d : Dict α) (key : String) (key' : String) :
    (d.erase key).get? key' = if key = key' then none else d.get? key' :=
  Entries.get?_erase ..

end Dict

end ToolView
