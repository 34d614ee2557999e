import Mathlib
import ToolView.Proofs.Codec
import ToolView.Proofs.Server.Registry
import ToolView.Proofs.View.Link
import ToolView.Proofs.View.Wishes

/-! What an author says of a tool, one remark after the other. A link to a view puts both of its keys
in the place of what they held, and other metadata only comes under keys that are free. So the last
link stands whatever was said before or after it, the first remark counts under every other key, and
a link may change places with metadata. The tool that is registered has the link in both forms. -/

namespace ToolView

theorem Visibility.readsBack : ReadsBack encode decode where
  reads v := by cases v <;> rfl
  notNull _ := nofun

namespace ViewLink

def IsKey (key : String) : Prop := key = viewKey ∨ key = legacyKey

instance (key : String) : Decidable (IsKey key) := inferInstanceAs (Decidable (_ ∨ _))

@[simp] theorem get?_viewKey_toMeta (l : ViewLink) : l.toMeta.get? viewKey = some l.encode := by
  simp [toMeta,viewKey,legacyKey]

@[simp] theorem get?_legacyKey_toMeta (l : ViewLink) :
    l.toMeta.get? legacyKey = some (.str l.resourceUri) := by
  simp [toMeta]

theorem get?_toMeta_isSome {key : String} (l : ViewLink) :
    (l.toMeta.get? key).isSome ↔ IsKey key := by
  simp only [toMeta,Dict.get?_insert,Dict.get?_empty,IsKey]
  split_ifs with legacy view
  · simp [legacy]
  · simp [view]
  · simp [Ne.symm legacy,Ne.symm view]

theorem get?_encode (l : ViewLink) (key : String) :
    l.encode.get? key = if uriKey = key then some (.str l.resourceUri)
      else if visibilityKey = key then l.visibility.map fun vs => .arr (vs.map Visibility.encode)
      else none := by
  have distinct : [uriKey,visibilityKey].Nodup := by simp [uriKey,visibilityKey]
  refine (Json.get?_record (by exact distinct) key).trans ?_
  simp only [Entries.get?_cons,Entries.get?_nil]
  split_ifs <;> rfl

theorem nestedUri?_of_linked {m : Meta} {l : ViewLink} (linked : m.get? viewKey = some l.encode) :
    nestedUri? m = some l.resourceUri := by
  apply nestedUri?_eq_some.mpr
  change (m.get? viewKey).bind (Json.get? uriKey) = _
  rw [linked,Option.bind_some,get?_encode,if_pos rfl]

/-- Where the newer key holds a text only the older one is written anew. -/
theorem normalize_of_nested {m : Meta} {uri : String} (nested : nestedUri? m = some uri) :
    normalize m = m.insert legacyKey (.str uri) := by
  have step := normalized m
  generalize normalize m = m' at step ⊢
  cases step with
  | newer uri' nested' =>
    cases nested.symm.trans nested'
    rfl
  | older uri' o unread legacy room => cases nested.symm.trans unread
  | full uri' legacy room => cases (nested?_of_no_room room).symm.trans (nestedUri?_eq_some.mp nested)
  | silent unread missing => cases nested.symm.trans unread

end ViewLink

namespace AppTool

open ViewLink (IsKey)

inductive Remark where
  | view (link : ViewLink)
  | metadata (m : Meta)

namespace Remark

def link? : Remark → Option ViewLink
  | view link => some link
  | metadata _ => Option.none

def meta? : Remark → Option Meta
  | view _ => Option.none
  | metadata m => some m

end Remark

def say (t : AppTool) : Remark → AppTool
  | .view link => t.withView link
  | .metadata m => t.withMeta m

def sayAll (t : AppTool) (remarks : List Remark) : AppTool := remarks.foldl say t

variable {remarks : List Remark} {key : String}

theorem sayAll_append (t : AppTool) (before after : List Remark) :
    t.sayAll (before ++ after) = (t.sayAll before).sayAll after :=
  List.foldl_append

theorem sayAll_concat (t : AppTool) (remarks : List Remark) (r : Remark) :
    t.sayAll (remarks ++ [r]) = (t.sayAll remarks).say r :=
  List.foldl_concat ..

theorem get?_withMeta (t : AppTool) (m : Meta) (key : String) :
    (t.withMeta m).metadata.get? key = (t.metadata.get? key).or (m.get? key) :=
  Meta.get?_extendMissing ..

theorem get?_withView_linked (t : AppTool) (link : ViewLink) (linked : IsKey key) :
    (t.withView link).metadata.get? key = link.toMeta.get? key := by
  rw [withView,Meta.get?_extendMissing,Dict.get?_erase,Dict.get?_erase]
  rcases linked with rfl | rfl <;> simp

theorem get?_withView_foreign (t : AppTool) (link : ViewLink) (foreign : ¬ IsKey key) :
    (t.withView link).metadata.get? key = t.metadata.get? key := by
  have none : link.toMeta.get? key = .none := by
    rw [← Option.not_isSome_iff_eq_none,ViewLink.get?_toMeta_isSome]
    exact foreign
  obtain ⟨view,legacy⟩ := not_or.mp foreign
  rw [withView,Meta.get?_extendMissing,Dict.get?_erase,Dict.get?_erase,none,Option.or_none]
  rw [if_neg (Ne.symm legacy),if_neg (Ne.symm view)]

/-- Tools that differ in nothing but their metadata are one if that has the same entries. -/
private theorem ext_metadata {t : AppTool} {m n : Meta} (same : ∀ key, m.get? key = n.get? key) :
    { t with metadata := m } = { t with metadata := n } := by
  rw [Dict.ext_get? same]

/-- Metadata may come before a link or after it. -/
theorem withMeta_withView (t : AppTool) (link : ViewLink) (m : Meta) :
    (t.withView link).withMeta m = (t.withMeta m).withView link := by
  refine ext_metadata (t := t) fun key => ?_
  change ((t.withView link).withMeta m).metadata.get? key =
    ((t.withMeta m).withView link).metadata.get? key
  rw [get?_withMeta]
  by_cases linked : IsKey key
  · rw [get?_withView_linked _ _ linked,get?_withView_linked _ _ linked]
    apply Option.or_of_isSome
    exact (ViewLink.get?_toMeta_isSome link).mpr linked
  · rw [get?_withView_foreign _ _ linked,get?_withView_foreign _ _ linked,get?_withMeta]

/-- Under the keys of a link stands the last one that was given. -/
theorem get?_sayAll_linked {link : ViewLink} (t : AppTool)
    (last : (remarks.filterMap Remark.link?).getLast? = some link) (linked : IsKey key) :
    (t.sayAll remarks).metadata.get? key = link.toMeta.get? key := by
  induction remarks using List.reverseRecOn with
  | nil => cases last
  | append_singleton remarks r ih =>
    rw [sayAll_concat]
    rw [List.filterMap_append] at last
    cases r with
    | view other =>
      have same : other = link := by simpa [Remark.link?] using last
      subst same
      exact get?_withView_linked _ _ linked
    | metadata m =>
      -- The keys are taken since the link, so the metadata does not reach them.
      have before := ih (by simpa [Remark.link?] using last)
      rw [say,get?_withMeta,before]
      apply Option.or_of_isSome
      exact (ViewLink.get?_toMeta_isSome link).mpr linked

/-- Under any other key stands what the tool had there, or else what came first. -/
theorem get?_sayAll_foreign (t : AppTool) (foreign : ¬ IsKey key) :
    (t.sayAll remarks).metadata.get? key =
      (t.metadata :: remarks.filterMap Remark.meta?).findSome? (·.get? key) := by
  induction remarks using List.reverseRecOn with
  | nil => simp [sayAll]
  | append_singleton remarks r ih =>
    rw [sayAll_concat,List.filterMap_append,← List.cons_append,List.findSome?_append,← ih]
    cases r with
    | view link =>
      rw [say,get?_withView_foreign _ _ foreign]
      exact Option.or_none.symm
    | metadata m =>
      rw [say,get?_withMeta]
      simp [Remark.meta?]

theorem sayAll_metadata_withView (t : AppTool) (link : ViewLink) (ms : List Meta) :
    (t.withView link).sayAll (ms.map .metadata) = (t.sayAll (ms.map .metadata)).withView link := by
  induction ms generalizing t with
  | nil => rfl
  | cons m ms ih =>
    rw [List.map_cons]
    change ((t.withView link).withMeta m).sayAll _ = ((t.withMeta m).sayAll _).withView link
    rw [withMeta_withView,ih]

/-- A link may change places with any metadata beside it. -/
theorem sayAll_move (t : AppTool) (before after : List Remark) (link : ViewLink) (ms : List Meta) :
    t.sayAll (before ++ .view link :: ms.map .metadata ++ after) =
      t.sayAll (before ++ ms.map .metadata ++ .view link :: after) := by
  simp only [sayAll_append]
  apply congrArg (sayAll · after)
  exact sayAll_metadata_withView (t.sayAll before) link ms

section Linked

variable {t : AppTool} {link : ViewLink} (linked : t.metadata.get? ViewLink.viewKey = some link.encode)

include linked

theorem viewUri?_named (name : String) : (t.named name).viewUri? = some link.resourceUri := by
  change ViewLink.uriOf? (ViewLink.normalize t.metadata) = _
  rw [ViewLink.uriOf?_normalize,ViewLink.nestedUri?_of_linked linked,Option.some_or]

theorem visibility_named (name : String) {callers : List Visibility}
    (open? : link.visibility = some callers) : (t.named name).visibility = callers := by
  have listed : (t.named name).meta?.bind
      (·.getPath? [ViewLink.viewKey,ViewLink.visibilityKey]) =
        some (.arr (callers.map Visibility.encode)) := by
    change ((ViewLink.normalize t.metadata).get? ViewLink.viewKey).bind
      (Json.get? ViewLink.visibilityKey) = _
    rw [ViewLink.normalize_of_nested (ViewLink.nestedUri?_of_linked linked),Dict.get?_insert]
    rw [if_neg (by simp [ViewLink.viewKey,ViewLink.legacyKey]),linked,Option.bind_some]
    rw [ViewLink.get?_encode,if_neg (by simp [ViewLink.uriKey,ViewLink.visibilityKey]),if_pos rfl]
    rw [open?,Option.map_some]
  rw [Tool.visibility,listed]
  dsimp only
  rw [Visibility.readsBack.list.reads callers]
  rfl

end Linked

theorem register_linked {t : AppTool} {link : ViewLink}
    (linked : t.metadata.get? ViewLink.viewKey = some link.encode)
    (view : Server.IsViewAddress link.resourceUri) {s : Server} {name : String}
    (free : s.tools.contains name = false) (handler : ToolHandler) :
    ∃ after, s.register (.appTool name t handler) = .ok after ∧
      after.tools.served.get? name = some ⟨t.named name,handler⟩ := by
  have sound : Server.Registration.Sound (.appTool name t handler) :=
    ⟨link.resourceUri,viewUri?_named linked name,view⟩
  have ok := Server.register_eq_ok.mpr ⟨(Server.takes_tool rfl rfl).mpr ⟨sound,free⟩,rfl⟩
  exact ⟨_,ok,Server.register_serves ok rfl⟩

/-- What stands of remarks about a tool. The last link stands under its two keys, and under every
other key what came first, the metadata that the tool had counting before all remarks. Where that
link leads to a view the tool is registered under any name that is free, and then has this view, and
the callers of the link where it names any. A link that is moved past metadata changes nothing. -/
theorem last_link_stands (t : AppTool) :
    (∀ remarks link, (remarks.filterMap Remark.link?).getLast? = some link →
      (∀ key, IsKey key → (t.sayAll remarks).metadata.get? key = link.toMeta.get? key) ∧
      (∀ key, ¬ IsKey key → (t.sayAll remarks).metadata.get? key =
        (t.metadata :: remarks.filterMap Remark.meta?).findSome? (·.get? key)) ∧
      (Server.IsViewAddress link.resourceUri →
        ∀ (s : Server) name handler, s.tools.contains name = false →
          ∃ after tool, s.register (.appTool name (t.sayAll remarks) handler) = .ok after ∧
            after.tools.served.get? name = some ⟨tool,handler⟩ ∧
            tool.viewUri? = some link.resourceUri ∧
            ∀ callers, link.visibility = some callers → tool.visibility = callers)) ∧
    ∀ before after link (ms : List Meta),
      t.sayAll (before ++ .view link :: ms.map .metadata ++ after) =
        t.sayAll (before ++ ms.map .metadata ++ .view link :: after) := by
  refine ⟨fun remarks link last => ⟨fun key => get?_sayAll_linked t last,
    fun key => get?_sayAll_foreign t,?_⟩,sayAll_move t⟩
  intro view s name handler free
  have linked : (t.sayAll remarks).metadata.get? ViewLink.viewKey = some link.encode :=
    (get?_sayAll_linked t last (.inl rfl)).trans link.get?_viewKey_toMeta
  obtain ⟨after,ok,served⟩ := register_linked linked view free handler
  exact ⟨after,_,ok,served,viewUri?_named linked name,fun callers => visibility_named linked name⟩

namespace Sample

/-- The metadata before the last link claims its newer key, and the one after it the older key. -/
def said : List Remark :=
  [.view ⟨"https://sample.example/",Option.none⟩,
    .metadata (.ofList [(ViewLink.viewKey,.bool true),("theme",.str "dark")]),
    .view ⟨"ui://sample/view",some [.app]⟩,
    .metadata (.ofList [(ViewLink.legacyKey,.str "ui://sample/other"),("theme",.str "light")])]

def server : Server := .named "sample"

end Sample

theorem last_link_stands_sample :
    (Sample.said.filterMap Remark.link?).getLast? = some ⟨"ui://sample/view",some [.app]⟩ ∧
    Server.IsViewAddress "ui://sample/view" ∧ Sample.server.tools.contains "show" = false ∧
    (none.sayAll Sample.said).metadata.get? ViewLink.legacyKey = some (.str "ui://sample/view") ∧
    (none.sayAll Sample.said).metadata.get? "theme" = some (.str "dark") ∧
    ∃ after tool, Sample.server.register (.appTool "show" (none.sayAll Sample.said)
        fun _ => .ok (.success [])) = .ok after ∧
      after.tools.served.get? "show" = some ⟨tool,fun _ => .ok (.success [])⟩ ∧
      tool.viewUri? = some "ui://sample/view" ∧ tool.visibility = [.app] := by
  have last : (Sample.said.filterMap Remark.link?).getLast? =
      some ⟨"ui://sample/view",some [.app]⟩ := rfl
  have view : Server.IsViewAddress "ui://sample/view" := ⟨"sample/view".toList,rfl⟩
  have free : Sample.server.tools.contains "show" = false := rfl
  have foreign : ¬ IsKey "theme" := by decide
  obtain ⟨linked,first,registered⟩ := (last_link_stands none).1 Sample.said _ last
  obtain ⟨after,tool,ok,served,shown,callers⟩ := registered view Sample.server "show" _ free
  refine ⟨last,view,free,?_,?_,after,tool,ok,served,shown,callers _ rfl⟩
  · exact (linked _ (.inr rfl)).trans (ViewLink.get?_legacyKey_toMeta _)
  · rw [first "theme" foreign]
    rfl

end AppTool

end ToolView
