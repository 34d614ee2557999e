import Mathlib
import ToolView.Json.Draft
import ToolView.Proofs.Json.Scan
import ToolView.Proofs.Members

/-! What is read where a value was written. The text of a value is read as one draft, with nothing
left over and nothing broken in it. The draft has the value again, with the members of its objects
sorted, where the numbers are integers and the nesting is within the limit. -/

namespace ToolView.Json

mutual

def parts : Json → List Json
  | .arr items => .arr items :: partsOfItems items
  | .obj members => .obj members :: partsOfMembers members
  | j => [j]

def partsOfItems : List Json → List Json
  | [] => []
  | item :: items => item.parts ++ partsOfItems items

def partsOfMembers : List (String × Json) → List Json
  | [] => []
  | (_,value) :: members => value.parts ++ partsOfMembers members

end

mutual

def depth : Json → ℕ
  | .arr items => depthOfItems items + 1
  | .obj members => depthOfMembers members + 1
  | _ => 0

def depthOfItems : List Json → ℕ
  | [] => 0
  | item :: items => max item.depth (depthOfItems items)

def depthOfMembers : List (String × Json) → ℕ
  | [] => 0
  | (_,value) :: members => max value.depth (depthOfMembers members)

end

mutual

def sorted : Json → Json
  | .arr items => .arr (sortedItems items)
  | .obj members => ofObject (Dict.ofList (sortedMembers members))
  | j => j

def sortedItems : List Json → List Json
  | [] => []
  | item :: items => item.sorted :: sortedItems items

def sortedMembers : List (String × Json) → List (String × Json)
  | [] => []
  | (key,value) :: members => (key,value.sorted) :: sortedMembers members

end

def Integral (j : Json) : Prop := ∀ x, Json.num (.double x) ∉ j.parts

/-- All objects in a value have their members in the order of their keys, as every object has that
is read or built from its members. -/
def Ordered (j : Json) : Prop :=
  ∀ members, Json.obj members ∈ j.parts → Entries.Ascending members

mutual

def draft : Json → Draft
  | .null => .null
  | .bool b => .bool b
  | .num n => .num (Number.ofLiteral? (literalOf n.write))
  | .str s => .str (some s)
  | .arr items => .arr (draftOfItems items)
  | .obj members => .obj (draftOfMembers members)

def draftOfItems : List Json → List Draft
  | [] => []
  | item :: items => item.draft :: draftOfItems items

def draftOfMembers : List (String × Json) → List (String × Draft)
  | [] => []
  | (key,value) :: members => (key,value.draft) :: draftOfMembers members

end

private theorem printable_hexDigit : ∀ n < 16, 32 ≤ (hexDigit n).toNat := by decide

theorem printable_writeChar (c : Char) : Printable (writeChar c) := by
  rw [writeChar]
  split_ifs with _ _ _ _ _ _ _ control
  iterate 7 (· simp)
  · have high := printable_hexDigit (c.toNat / 16) (by omega)
    have low := printable_hexDigit (c.toNat % 16) (by omega)
    simp [high,low]
  · simpa using control

theorem printable_string (s : String) : Printable (writeString s) := by
  have inside : Printable (s.toList.flatMap writeChar) := by
    intro d member
    obtain ⟨c,_,inside⟩ := List.mem_flatMap.mp member
    exact printable_writeChar c d inside
  simp [writeString,inside]

mutual

/-- The text of a value holds no control characters. -/
theorem printable_writeChars (j : Json) : Printable j.writeChars := by
  cases j with
  | null => simp [writeChars]
  | bool b => cases b <;> simp [writeChars]
  | num n => simp [writeChars,printable_number n]
  | str s => simp [writeChars,printable_string s]
  | arr items =>
    cases items with
    | nil => simp [writeChars]
    | cons item items => simp [writeChars,printable_writeChars item,printable_writeItems items]
  | obj members =>
    cases members with
    | nil => simp [writeChars]
    | cons member members =>
      obtain ⟨key,value⟩ := member
      simp [writeChars,printable_string key,printable_writeChars value,
        printable_writeMembers members]

theorem printable_writeItems (items : List Json) : Printable (writeItems items) := by
  cases items with
  | nil => simp [writeItems]
  | cons item items => simp [writeItems,printable_writeChars item,printable_writeItems items]

theorem printable_writeMembers (members : List (String × Json)) :
    Printable (writeMembers members) := by
  cases members with
  | nil => simp [writeMembers]
  | cons member members =>
    obtain ⟨key,value⟩ := member
    simp [writeMembers,printable_string key,printable_writeChars value,
      printable_writeMembers members]

end

theorem ends_writeItems (items : List Json) (rest : List Char) :
    Scan.Ends (writeItems items ++ rest) := by
  cases items <;> simp [Scan.Ends,writeItems]

theorem ends_writeMembers (members : List (String × Json)) (rest : List Char) :
    Scan.Ends (writeMembers members ++ rest) := by
  cases members <;> simp [Scan.Ends,writeMembers]

namespace Draft

def Assembly.after (a : Assembly) (chars : List Char) : Assembly :=
  (Scan.between.read chars).foldl Assembly.step a

theorem read_eq (chars : List Char) :
    read chars = (Assembly.after (.reading [] .value) chars).finish := by
  rw [read,Scan.tokens_eq]
  rfl

private theorem step_begin {stack : List Frame} {expect : Expect}
    (due : expect = .value ∨ expect = .valueOrEnd) (t : Token) (other : t ≠ .endArray) :
    Assembly.step (.reading stack expect) t = beginValue stack t := by
  rcases due with rfl | rfl
  · rfl
  · cases t <;> first | rfl | exact absurd rfl other

private theorem after_cons {c : Char} {t : Token} (single : Scan.start c = (.between,[t]))
    (a : Assembly) (rest : List Char) : a.after (c :: rest) = (a.step t).after rest := by
  rw [Assembly.after,Scan.read,Scan.step,single]
  rfl

private theorem after_string (a : Assembly) (s : String) (rest : List Char) :
    a.after (writeString s ++ rest) = (a.step (.str (some s))).after rest := by
  rw [Assembly.after,Scan.read_writeString]
  rfl

-- The stack is any stack throughout: a value is read in the same way wherever it stands, so items
-- and members only have to put it into the frame on top.
mutual

/-- The text of a value, where one is due, is read as its draft. -/
theorem after_value (j : Json) (stack : List Frame) {expect : Expect}
    (due : expect = .value ∨ expect = .valueOrEnd) {rest : List Char} (ends : Scan.Ends rest) :
    Assembly.after (.reading stack expect) (j.writeChars ++ rest) =
      (place j.draft stack).after rest := by
  cases j with
  | null =>
    have scanned : Scan.between.read (writeChars .null ++ rest) =
        .null :: Scan.between.read rest := rfl
    rw [Assembly.after,scanned,List.foldl_cons,step_begin due .null nofun]
    rfl
  | bool b =>
    have scanned : Scan.between.read (writeChars (.bool b) ++ rest) =
        .bool b :: Scan.between.read rest := by cases b <;> rfl
    rw [Assembly.after,scanned,List.foldl_cons,step_begin due (.bool b) nofun]
    rfl
  | num n =>
    rw [writeChars,Assembly.after,Scan.read_number n ends,List.foldl_cons,step_begin due (.num _) nofun]
    rfl
  | str s =>
    rw [writeChars,after_string,step_begin due (.str (some s)) nofun]
    rfl
  | arr items =>
    cases items with
    | nil =>
      rw [writeChars,List.cons_append,after_cons rfl,step_begin due .beginArray nofun,List.singleton_append,
        after_cons rfl]
      rfl
    | cons item items =>
      rw [writeChars,List.cons_append,List.cons_append,after_cons rfl,step_begin due .beginArray nofun,
        List.append_assoc]
      change Assembly.after (.reading (.items [] :: stack) .valueOrEnd) _ = _
      rw [after_value item _ (.inr rfl) (ends_writeItems items rest)]
      exact after_items items [item.draft] stack ends
  | obj members =>
    cases members with
    | nil =>
      rw [writeChars,List.cons_append,after_cons rfl,step_begin due .beginObject nofun,List.singleton_append,
        after_cons rfl]
      rfl
    | cons member members =>
      obtain ⟨key,value⟩ := member
      rw [writeChars]
      simp only [List.cons_append,List.append_assoc]
      rw [after_cons rfl,step_begin due .beginObject nofun,after_string,after_cons rfl]
      change Assembly.after (.reading (.member [] (some key) :: stack) .value) _ = _
      rw [after_value value _ (.inl rfl) (ends_writeMembers members rest)]
      exact after_members members [(key,value.draft)] stack ends

theorem after_items (items : List Json) (done : List Draft) (stack : List Frame)
    {rest : List Char} (ends : Scan.Ends rest) :
    Assembly.after (.reading (.items done :: stack) .commaOrEnd) (writeItems items ++ rest) =
      (place (.arr (done.reverse ++ draftOfItems items)) stack).after rest := by
  cases items with
  | nil =>
    rw [writeItems,List.singleton_append,after_cons rfl,draftOfItems,List.append_nil]
    rfl
  | cons item items =>
    rw [writeItems,List.cons_append,List.cons_append,after_cons rfl,List.append_assoc]
    change Assembly.after (.reading (.items done :: stack) .value) _ = _
    rw [after_value item _ (.inl rfl) (ends_writeItems items rest)]
    change Assembly.after (.reading (.items (item.draft :: done) :: stack) .commaOrEnd) _ = _
    rw [after_items items _ stack ends,List.reverse_cons,List.append_assoc]
    rfl

theorem after_members (members : List (String × Json)) (done : List (String × Draft))
    (stack : List Frame) {rest : List Char} (ends : Scan.Ends rest) :
    Assembly.after (.reading (.members done :: stack) .commaOrEnd) (writeMembers members ++ rest) =
      (place (.obj (done.reverse ++ draftOfMembers members)) stack).after rest := by
  cases members with
  | nil =>
    rw [writeMembers,List.singleton_append,after_cons rfl,draftOfMembers,List.append_nil]
    rfl
  | cons member members =>
    obtain ⟨key,value⟩ := member
    rw [writeMembers]
    simp only [List.cons_append,List.append_assoc]
    rw [after_cons rfl]
    change Assembly.after (.reading (.members done :: stack) .key) _ = _
    rw [after_string,after_cons rfl]
    change Assembly.after (.reading (.member done (some key) :: stack) .value) _ = _
    rw [after_value value _ (.inl rfl) (ends_writeMembers members rest)]
    change Assembly.after (.reading (.members ((key,value.draft) :: done) :: stack) .commaOrEnd) _ = _
    rw [after_members members _ stack ends,List.reverse_cons,List.append_assoc]
    rfl

end

/-- What is written is read to its end, and is one value. -/
theorem read_writeChars (j : Json) : read j.writeChars = (j.draft,false) := by
  have nothing : Scan.Ends [] := nofun
  have whole := after_value j [] (.inl rfl) nothing
  rw [List.append_nil] at whole
  rw [read_eq,whole]
  rfl

end Draft

mutual

theorem isWhole_draft (j : Json) : j.draft.isWhole = true := by
  cases j with
  | arr items => exact allWhole_draft items
  | obj members => exact membersWhole_draft members
  | null | bool _ | num _ | str _ => rfl

theorem allWhole_draft (items : List Json) : Draft.allWhole (draftOfItems items) = true := by
  cases items with
  | nil => rfl
  | cons item items =>
    rw [draftOfItems,Draft.allWhole,isWhole_draft item,allWhole_draft items]
    rfl

theorem membersWhole_draft (members : List (String × Json)) :
    Draft.membersWhole (draftOfMembers members) = true := by
  cases members with
  | nil => rfl
  | cons member members =>
    obtain ⟨key,value⟩ := member
    rw [draftOfMembers,Draft.membersWhole,isWhole_draft value,membersWhole_draft members]
    rfl

end

theorem get?_draft (key : String) (es : List (String × Json)) :
    Entries.get? key (draftOfMembers es) = (Entries.get? key es).map draft := by
  induction es with
  | nil => rfl
  | cons e es ih =>
    obtain ⟨name,value⟩ := e
    rw [draftOfMembers,Entries.get?_cons,Entries.get?_cons,ih]
    split_ifs <;> rfl

theorem keys_draft (es : List (String × Json)) :
    (draftOfMembers es).map (·.1) = es.map (·.1) := by
  induction es with
  | nil => rfl
  | cons e es ih =>
    obtain ⟨name,value⟩ := e
    rw [draftOfMembers,List.map_cons,List.map_cons,ih]

mutual

theorem toJson?_draft (j : Json) (integral : Integral j) {limit : ℕ} (shallow : j.depth ≤ limit) :
    j.draft.toJson? limit = some j.sorted := by
  cases j with
  | null | bool _ | str _ => rfl
  | num n =>
    cases n with
    | int value fits =>
      rw [draft,Draft.toJson?,ofLiteral?_int]
      rfl
    | double x => exact absurd List.mem_cons_self (integral x)
  | arr items =>
    -- Each array or object uses up one of the limit, so there is one left for it.
    rw [depth] at shallow
    obtain ⟨limit,rfl⟩ := Nat.exists_eq_add_of_le' (Nat.le_of_add_left_le shallow)
    have inside := itemsToJson?_draft items (fun x member => integral x (.tail _ member))
      (Nat.le_of_succ_le_succ shallow)
    rw [draft,Draft.toJson?,inside]
    rfl
  | obj members =>
    rw [depth] at shallow
    obtain ⟨limit,rfl⟩ := Nat.exists_eq_add_of_le' (Nat.le_of_add_left_le shallow)
    have inside := membersToJson?_draft members (fun x member => integral x (.tail _ member))
      (Nat.le_of_succ_le_succ shallow)
    rw [draft,Draft.toJson?,inside]
    rfl

theorem itemsToJson?_draft (items : List Json)
    (integral : ∀ x, Json.num (.double x) ∉ partsOfItems items) {limit : ℕ}
    (shallow : depthOfItems items ≤ limit) :
    Draft.itemsToJson? limit (draftOfItems items) = some (sortedItems items) := by
  cases items with
  | nil => rfl
  | cons item items =>
    obtain ⟨first,rest⟩ := max_le_iff.mp shallow
    have head := toJson?_draft item
      (fun x member => integral x (List.mem_append_left _ member)) first
    have tail := itemsToJson?_draft items
      (fun x member => integral x (List.mem_append_right _ member)) rest
    rw [draftOfItems,Draft.itemsToJson?,head,tail]
    rfl

theorem membersToJson?_draft (members : List (String × Json))
    (integral : ∀ x, Json.num (.double x) ∉ partsOfMembers members) {limit : ℕ}
    (shallow : depthOfMembers members ≤ limit) :
    Draft.membersToJson? limit (draftOfMembers members) = some (sortedMembers members) := by
  cases members with
  | nil => rfl
  | cons member members =>
    obtain ⟨key,value⟩ := member
    obtain ⟨first,rest⟩ := max_le_iff.mp shallow
    have head := toJson?_draft value
      (fun x member => integral x (List.mem_append_left _ member)) first
    have tail := membersToJson?_draft members
      (fun x member => integral x (List.mem_append_right _ member)) rest
    rw [draftOfMembers,Draft.membersToJson?,head,tail]
    rfl

end

/-- A value of integers that nests no deeper than the limit is read as it was written, but for the
order of members. -/
theorem readWithin?_writeChars {j : Json} (integral : Integral j) {limit : ℕ}
    (shallow : j.depth ≤ limit) : readWithin? limit j.writeChars = some j.sorted := by
  rw [readWithin?,Draft.read_writeChars]
  exact toJson?_draft j integral shallow

mutual

theorem sorted_eq_self (j : Json) (ordered : Ordered j) : j.sorted = j := by
  cases j with
  | null | bool _ | num _ | str _ => rfl
  | arr items =>
    have inside := sortedItems_eq_self items fun members member => ordered members (.tail _ member)
    rw [sorted,inside]
  | obj members =>
    have order := ordered members List.mem_cons_self
    have inside := sortedMembers_eq_self members fun inner member => ordered inner (.tail _ member)
    rw [sorted,inside,Dict.ofList_entries ⟨members,order⟩]
    rfl

theorem sortedItems_eq_self (items : List Json)
    (ordered : ∀ members, Json.obj members ∈ partsOfItems items → Entries.Ascending members) :
    sortedItems items = items := by
  cases items with
  | nil => rfl
  | cons item items =>
    have head := sorted_eq_self item fun inner member =>
      ordered inner (List.mem_append_left _ member)
    have tail := sortedItems_eq_self items fun inner member =>
      ordered inner (List.mem_append_right _ member)
    rw [sortedItems,head,tail]

theorem sortedMembers_eq_self (members : List (String × Json))
    (ordered : ∀ inner, Json.obj inner ∈ partsOfMembers members → Entries.Ascending inner) :
    sortedMembers members = members := by
  cases members with
  | nil => rfl
  | cons member members =>
    obtain ⟨key,value⟩ := member
    have head := sorted_eq_self value fun inner member =>
      ordered inner (List.mem_append_left _ member)
    have tail := sortedMembers_eq_self members fun inner member =>
      ordered inner (List.mem_append_right _ member)
    rw [sortedMembers,head,tail]

end

/-- An object that is read has its members in the order of their keys. -/
theorem object_of_readWithin? {limit : ℕ} {chars : List Char} {members : List (String × Json)}
    (read : readWithin? limit chars = some (.obj members)) :
    ∃ o : Object, Json.obj members = .ofObject o := by
  rw [readWithin?] at read
  split at read
  case h_1 draft _ =>
    cases draft with
    | obj drafts =>
      cases limit with
      | zero => cases read
      | succ limit =>
        obtain ⟨values,_,same⟩ := Option.map_eq_some_iff.mp read
        exact ⟨Dict.ofList values,same.symm⟩
    | arr items =>
      cases limit with
      | zero => cases read
      | succ limit =>
        obtain ⟨values,_,same⟩ := Option.map_eq_some_iff.mp read
        cases same
    | num n =>
      obtain ⟨n,_,same⟩ := Option.map_eq_some_iff.mp read
      cases same
    | str text =>
      obtain ⟨text,_,same⟩ := Option.map_eq_some_iff.mp read
      cases same
    | null | bool _ | unkeyed _ | broken => cases read
  case h_2 => cases read

end ToolView.Json
