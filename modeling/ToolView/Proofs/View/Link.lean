import Mathlib
import ToolView.Proofs.Members
import ToolView.View.Link

/-! The address of a view under its two keys. Where both keys are made to say the same, they say
what the newer one said if that was a text, and else what the older one said. A tool is read in
another way: there the newer key counts even where it holds no text, so that the two readings part
where it does and the older key holds a text. -/

namespace ToolView

theorem Dict.insert_eq_self {α : Type} {d : Dict α} {key : String} {value : α}
    (found : d.get? key = some value) : d.insert key value = d := by
  apply Dict.ext_get?
  intro key'
  rw [Dict.get?_insert]
  split_ifs with here
  · rw [← here,found]
  · rfl

theorem Json.string?_eq_some {json : Json} {s : String} :
    json.string? = some s ↔ json = .str s := by
  cases json <;> simp [Json.string?]

namespace ViewLink

def nestedUri? (m : Meta) : Option String := (nested? m).bind Json.string?

def legacyUri? (m : Meta) : Option String := (m.get? legacyKey).bind Json.string?

/-- The object that an address is put into: the one that is there, or a new one where nothing is
there. -/
def room? (m : Meta) : Option Object := (m.get? viewKey).elim (some .empty) Json.object?

def Agrees (m : Meta) (uri : String) : Prop :=
  nested? m = some (.str uri) ∧ m.get? legacyKey = some (.str uri)

/-- The newer key holds something that is no text, and the older one this address. -/
def Contested (m : Meta) (uri : String) : Prop :=
  (∃ value, nested? m = some value ∧ value.string? = none) ∧ m.get? legacyKey = some (.str uri)

theorem room?_eq_none {m : Meta} :
    room? m = none ↔ ∃ view, m.get? viewKey = some view ∧ view.object? = none := by
  rw [room?]
  cases m.get? viewKey <;> simp

theorem nestedUri?_eq_some {m : Meta} {uri : String} :
    nestedUri? m = some uri ↔ nested? m = some (.str uri) := by
  rw [nestedUri?,Option.bind_eq_some_iff]
  simp only [Json.string?_eq_some,exists_eq_right]

theorem legacyUri?_eq_some {m : Meta} {uri : String} :
    legacyUri? m = some uri ↔ m.get? legacyKey = some (.str uri) := by
  rw [legacyUri?,Option.bind_eq_some_iff]
  simp only [Json.string?_eq_some,exists_eq_right]

private theorem nested?_insert_legacy (m : Meta) (value : Json) :
    nested? (m.insert legacyKey value) = nested? m := by
  change ((m.insert legacyKey value).get? viewKey).bind _ = (m.get? viewKey).bind _
  rw [Dict.get?_insert,if_neg (by decide)]

private theorem nested?_insert_view (m : Meta) (o : Object) :
    nested? (m.insert viewKey (.ofObject o)) = o.get? uriKey := by
  change ((m.insert viewKey (.ofObject o)).get? viewKey).bind _ = _
  rw [Dict.get?_insert,if_pos rfl]
  rfl

theorem nested?_of_no_room {m : Meta} (full : room? m = none) : nested? m = none := by
  obtain ⟨view,there,other⟩ := room?_eq_none.mp full
  change (m.get? viewKey).bind (Json.get? uriKey) = none
  rw [there]
  cases view with
  | obj es => cases other
  | _ => rfl

inductive Normalized (m : Meta) : Meta → Prop
  | newer (uri) (nested : nestedUri? m = some uri) : Normalized m (m.insert legacyKey (.str uri))
  | older (uri o) (unread : nestedUri? m = none) (legacy : legacyUri? m = some uri)
      (room : room? m = some o) :
      Normalized m (m.insert viewKey (.ofObject (o.insert uriKey (.str uri))))
  | full (uri) (legacy : legacyUri? m = some uri) (room : room? m = none) : Normalized m m
  | silent (unread : nestedUri? m = none) (missing : legacyUri? m = none) : Normalized m m

theorem normalized (m : Meta) : Normalized m (normalize m) := by
  unfold normalize
  split
  next uri nested => exact .newer uri nested
  next uri unread legacy =>
    split
    next free => exact .older uri .empty unread legacy (by rw [room?,free]; rfl)
    next view there =>
      split
      next o object => exact .older uri o unread legacy (by rw [room?,there]; exact object)
      next other => exact .full uri legacy (room?_eq_none.mpr ⟨view,there,other⟩)
  next unread missing => exact .silent unread missing

private theorem normalize_of_agrees {m : Meta} {uri : String} (agrees : Agrees m uri) :
    normalize m = m := by
  have step := normalized m
  have nested := nestedUri?_eq_some.mpr agrees.1
  generalize normalize m = m' at step ⊢
  cases step with
  | newer uri' nested' =>
    cases nested.symm.trans nested'
    exact Dict.insert_eq_self agrees.2
  | older uri' o unread legacy room => cases nested.symm.trans unread
  | full uri' legacy room => rfl
  | silent unread missing => rfl

/-- Where an address is known and there is room for it, both keys hold it afterwards. -/
theorem agrees_normalize {m : Meta} {uri : String}
    (known : (nestedUri? m).or (legacyUri? m) = some uri) (room : room? m ≠ none) :
    Agrees (normalize m) uri := by
  have step := normalized m
  generalize normalize m = m' at step ⊢
  cases step with
  | newer uri' nested =>
    rw [nested] at known
    cases known
    refine ⟨?_,by rw [Dict.get?_insert,if_pos rfl]⟩
    rw [nested?_insert_legacy,nestedUri?_eq_some.mp nested]
  | older uri' o unread legacy room =>
    rw [unread,legacy] at known
    cases known
    refine ⟨?_,?_⟩
    · rw [nested?_insert_view,Dict.get?_insert,if_pos rfl]
    · rw [Dict.get?_insert,if_neg (by decide)]
      exact legacyUri?_eq_some.mp legacy
  | full uri' legacy full => exact absurd full room
  | silent unread missing => rw [unread,missing] at known; cases known

theorem normalize_eq_self {m : Meta}
    (idle : nestedUri? m = none ∧ legacyUri? m = none ∨ room? m = none) : normalize m = m := by
  have unread : nestedUri? m = none := by
    rcases idle with idle | full
    · exact idle.1
    · rw [nestedUri?,nested?_of_no_room full]
      rfl
  have step := normalized m
  generalize normalize m = m' at step ⊢
  cases step with
  | newer uri nested => cases unread.symm.trans nested
  | older uri o unread' legacy room =>
    rcases idle with idle | full
    · cases idle.2.symm.trans legacy
    · cases full.symm.trans room
  | full uri legacy full => rfl
  | silent unread' missing => rfl

theorem normalize_normalize (m : Meta) : normalize (normalize m) = normalize m := by
  cases known : (nestedUri? m).or (legacyUri? m) with
  | none =>
    have same := normalize_eq_self (.inl (Option.or_eq_none_iff.mp known))
    rw [same,same]
  | some uri =>
    -- With room for the address the keys agree after one time, and without it nothing was done.
    by_cases room : room? m = none
    · have same := normalize_eq_self (.inr room)
      rw [same,same]
    · exact normalize_of_agrees (agrees_normalize known room)

theorem get?_normalize {key : String} (m : Meta) (view : key ≠ viewKey) (legacy : key ≠ legacyKey) :
    (normalize m).get? key = m.get? key := by
  have step := normalized m
  generalize normalize m = m' at step ⊢
  cases step with
  | newer uri nested => rw [Dict.get?_insert,if_neg legacy.symm]
  | older uri o unread _ room => rw [Dict.get?_insert,if_neg view.symm]
  | full uri _ room => rfl
  | silent unread missing => rfl

/-- An object under the key of views keeps all that is not the address. -/
theorem object_normalize {m : Meta} {o : Object}
    (there : (m.get? viewKey).bind Json.object? = some o) :
    ∃ o', ((normalize m).get? viewKey).bind Json.object? = some o' ∧
      ∀ key, key ≠ uriKey → o'.get? key = o.get? key := by
  have step := normalized m
  generalize normalize m = m' at step ⊢
  cases step with
  | newer uri nested =>
    refine ⟨o,?_,fun key _ => rfl⟩
    rw [Dict.get?_insert,if_neg (by decide),there]
  | older uri room unread legacy found =>
    have same : room = o := by
      rw [room?] at found
      cases view : m.get? viewKey with
      | none => rw [view] at there; cases there
      | some json =>
        rw [view] at there found
        exact Option.some.inj (found.symm.trans there)
    subst same
    refine ⟨room.insert uriKey (.str uri),?_,?_⟩
    · rw [Dict.get?_insert,if_pos rfl]
      exact Json.object?_ofObject _
    · intro key other
      rw [Dict.get?_insert,if_neg other.symm]
  | full uri legacy room => exact ⟨o,there,fun key _ => rfl⟩
  | silent unread missing => exact ⟨o,there,fun key _ => rfl⟩

theorem uriOf?_of_nested {m : Meta} {value : Json} (there : nested? m = some value) :
    uriOf? m = value.string? := by
  rw [uriOf?,there]
  rfl

theorem uriOf?_of_missing {m : Meta} (missing : nested? m = none) : uriOf? m = legacyUri? m := by
  rw [uriOf?,missing]
  rfl

/-- After the keys were made to agree the address is the newer one that is a text, else the older
one. -/
theorem uriOf?_normalize (m : Meta) :
    uriOf? (normalize m) = (nestedUri? m).or (legacyUri? m) := by
  by_cases room : room? m = none
  · have missing := nested?_of_no_room room
    rw [normalize_eq_self (.inr room),uriOf?_of_missing missing,nestedUri?,missing]
    rfl
  cases known : (nestedUri? m).or (legacyUri? m) with
  | some uri => exact uriOf?_of_nested (agrees_normalize known room).1
  | none =>
    obtain ⟨unread,missing⟩ := Option.or_eq_none_iff.mp known
    rw [normalize_eq_self (.inl ⟨unread,missing⟩)]
    cases there : nested? m with
    | none => rw [uriOf?_of_missing there,missing]
    | some value =>
      rw [nestedUri?,there] at unread
      exact (uriOf?_of_nested there).trans unread

/-- The keys of metadata after they were made to agree. Doing it again changes nothing. Entries under
other keys stay as they are, and so do those of an object beside the address in it. Nothing at all
changes where neither key holds a text, or where something that is no object stands in the way.
Where a key holds a text, a tool with the metadata has that address, the newer one before the older
one, and unless something stands in the way both keys hold it. -/
theorem normalize_laws (t : Tool) (m : Meta) :
    normalize (normalize m) = normalize m ∧
    (∀ key, key ≠ viewKey → key ≠ legacyKey → (normalize m).get? key = m.get? key) ∧
    (∀ o, (m.get? viewKey).bind Json.object? = some o →
      ∃ o', ((normalize m).get? viewKey).bind Json.object? = some o' ∧
        ∀ key, key ≠ uriKey → o'.get? key = o.get? key) ∧
    (nestedUri? m = none → legacyUri? m = none → normalize m = m) ∧
    ∀ uri, (nestedUri? m).or (legacyUri? m) = some uri →
      { t with meta? := some (normalize m) }.viewUri? = some uri ∧
      if ∃ view, m.get? viewKey = some view ∧ view.object? = none then normalize m = m
      else nested? (normalize m) = some (.str uri) ∧
        (normalize m).get? legacyKey = some (.str uri) := by
  refine ⟨normalize_normalize m,fun key => get?_normalize m,fun o => object_normalize,?_,?_⟩
  · intro unread missing
    exact normalize_eq_self (.inl ⟨unread,missing⟩)
  · intro uri known
    refine ⟨(uriOf?_normalize m).trans known,?_⟩
    split_ifs with full
    · exact normalize_eq_self (.inr (room?_eq_none.mpr full))
    · exact agrees_normalize known fun none => full (room?_eq_none.mp none)

/-- A tool has the same address before and after its keys are made to agree, unless they are
contested; then it had none before, and has the older one afterwards. -/
theorem uri_normalize_iff (t : Tool) (m : Meta) :
    ({ t with meta? := some (normalize m) }.viewUri? = { t with meta? := some m }.viewUri? ↔
      ∀ uri, ¬ Contested m uri) ∧
    ∀ uri, Contested m uri → { t with meta? := some m }.viewUri? = none ∧
      { t with meta? := some (normalize m) }.viewUri? = some uri := by
  change (uriOf? (normalize m) = uriOf? m ↔ _) ∧ ∀ uri, _ → uriOf? m = none ∧ uriOf? (normalize m) = _
  rw [uriOf?_normalize]
  have parts (uri) (contested : Contested m uri) :
      uriOf? m = none ∧ (nestedUri? m).or (legacyUri? m) = some uri := by
    obtain ⟨⟨value,there,other⟩,legacy⟩ := contested
    refine ⟨(uriOf?_of_nested there).trans other,?_⟩
    rw [nestedUri?,there,Option.bind_some,other,Option.none_or]
    exact legacyUri?_eq_some.mpr legacy
  refine ⟨⟨?_,?_⟩,parts⟩
  · intro same uri contested
    obtain ⟨before,after⟩ := parts uri contested
    cases (after.symm.trans same).trans before
  · intro settled
    cases there : nested? m with
    | none =>
      rw [uriOf?_of_missing there,nestedUri?,there]
      rfl
    | some value =>
      rw [uriOf?_of_nested there,nestedUri?,there,Option.bind_some]
      cases text : value.string? with
      | some uri => rfl
      | none =>
        -- The older key holds no text either, or the keys would be contested.
        rw [Option.none_or,Option.eq_none_iff_forall_ne_some]
        intro uri legacy
        exact settled uri ⟨⟨value,there,text⟩,legacyUri?_eq_some.mp legacy⟩

namespace Sample

def contested : Meta :=
  .ofList [("theme",.str "dark"),(legacyKey,.str "ui://sample/view"),
    (viewKey,.record [(uriKey,some (Json.uint32 5)),(visibilityKey,some (.arr [.str "app"]))])]

def tool : Tool := .of "sample" "Sample" Tool.emptySchema

end Sample

/-- The number gives way to the older address, and all else stays. -/
theorem normalize_laws_contested :
    let m := Sample.contested
    let m' := normalize m
    nestedUri? m = none ∧ legacyUri? m = some "ui://sample/view" ∧ normalize m' = m' ∧
      m'.get? "theme" = m.get? "theme" ∧ { Sample.tool with meta? := some m' }.viewUri? =
        some "ui://sample/view" ∧
      nested? m' = some (.str "ui://sample/view") ∧
      (∃ o o', (m.get? viewKey).bind Json.object? = some o ∧
        (m'.get? viewKey).bind Json.object? = some o' ∧
        o'.get? visibilityKey = o.get? visibilityKey) := by
  intro m m'
  have unread : nestedUri? m = none := by decide +kernel
  have legacy : legacyUri? m = some "ui://sample/view" := by decide +kernel
  have known : (nestedUri? m).or (legacyUri? m) = some "ui://sample/view" := by decide +kernel
  obtain ⟨o,there⟩ : ∃ o, (m.get? viewKey).bind Json.object? = some o := ⟨_,rfl⟩
  have free : ¬ ∃ view, m.get? viewKey = some view ∧ view.object? = none := by
    rintro ⟨view,found,other⟩
    rw [found] at there
    cases other.symm.trans there
  obtain ⟨again,others,object,-,address⟩ := normalize_laws Sample.tool m
  obtain ⟨o',kept,members⟩ := object o there
  obtain ⟨shown,both⟩ := address _ known
  rw [if_neg free] at both
  exact ⟨unread,legacy,again,others "theme" (by decide) (by decide),shown,both.1,o,o',there,kept,
    members visibilityKey (by decide)⟩

/-- The keys of the sample are contested by the older address. -/
theorem uri_normalize_iff_contested :
    let m := Sample.contested
    Contested m "ui://sample/view" ∧ { Sample.tool with meta? := some m }.viewUri? = none ∧
      { Sample.tool with meta? := some (normalize m) }.viewUri? = some "ui://sample/view" := by
  intro m
  have contested : Contested m "ui://sample/view" := ⟨⟨_,rfl,rfl⟩,by decide +kernel⟩
  exact ⟨contested,(uri_normalize_iff Sample.tool m).2 _ contested⟩

/-- A tool with a number for its newer address has a view only once its keys agree. -/
theorem contested_uri_differs :
    { Sample.tool with meta? := some (normalize Sample.contested) }.viewUri? ≠
      { Sample.tool with meta? := some Sample.contested }.viewUri? := by
  decide +kernel

end ViewLink

end ToolView
