import Mathlib
import ToolView.Host.Renderer
import ToolView.Proofs.Server.Answers
import ToolView.Proofs.Server.Registry
import ToolView.Proofs.View.Creation

/-! A view comes to the host in one of two ways: inside the result of a tool, or as a resource that
a server was given and is asked for. A page and a script come both ways as they were written, with
all the wishes of their author. -/

namespace ToolView

def Content.IsView (c : Content) : Prop := ∃ b, c.resource? = some b ∧ isViewUri b.resource.uri

namespace Renderer

private theorem views_eq_nil {blocks : List Content} (plain : ∀ c ∈ blocks, ¬ c.IsView) :
    (blocks.filterMap Content.resource?).filter (fun b => isViewUri b.resource.uri) = [] := by
  rw [List.filter_eq_nil_iff]
  intro b member view
  obtain ⟨c,inside,block⟩ := List.mem_filterMap.mp member
  exact plain c inside ⟨b,block,view⟩

/-- Of a result with one view in it the host renders this view, wherever it stands. -/
theorem resolveEmbedded_single (r : Renderer) {result : ToolResult} {before after : List Content}
    {v : ViewResource} (content : result.content = before ++ v.toContent :: after)
    (plain : ∀ c ∈ before ++ after, ¬ c.IsView) (view : isViewUri v.resource.uri) :
    r.resolveEmbedded result = (RenderPlan.ofContents v.resource r.sandbox).map ([·]) := by
  have front := views_eq_nil fun c member => plain c (List.mem_append_left _ member)
  have back := views_eq_nil fun c member => plain c (List.mem_append_right _ member)
  have block : v.toContent.resource? = some ⟨none,v.resource⟩ := rfl
  rw [resolveEmbedded,content,List.filterMap_append,List.filter_append,front,List.filterMap_cons,
    block]
  dsimp only
  rw [List.filter_cons_of_pos (by exact view),back,List.nil_append,List.mapM_cons]
  cases RenderPlan.ofContents v.resource r.sandbox <;> rfl

end Renderer

namespace ViewResource

/-- A view that is served is read as it is. -/
theorem complete_served {v : ViewResource} {mimeType : String}
    (typed : v.resource.mimeType = some mimeType) : v.served.complete v.resource = v.resource := by
  obtain ⟨⟨uri,type,body,meta?⟩,props⟩ := v
  cases typed
  rfl

theorem register_view {s : Server} {v : ViewResource} (view : isViewUri v.resource.uri)
    (free : s.resources.contains v.resource.uri = false) :
    ∃ after, s.register (.view v) = .ok after :=
  ⟨_,Server.addResource_eq_ok.mpr ⟨view,free,rfl⟩⟩

/-- What a client reads of a view that a server was given at any time before. -/
theorem result_readResource {s after : Server} {v : ViewResource} {mimeType : String}
    (typed : v.resource.mimeType = some mimeType) (given : s.register (.view v) = .ok after)
    {last : Server} (later : after.Extends last) :
    last.result Server.Method.readResource (some (ReadResourceParams.mk v.resource.uri).encode) =
      .ok (ReadResourceResult.mk [v.resource]).encode := by
  have held : last.resources.get? v.resource.uri = some v.served :=
    later.resources (Server.register_holds given rfl)
  have served : v.served.read v.resource.uri = .ok ⟨[v.resource]⟩ := rfl
  have read := Server.readResource_held held served
  rw [Server.result_readResource,read,List.map_singleton,complete_served typed]
  rfl

end ViewResource

namespace NewView

/-- A page or a script with its wishes reaches the host unchanged, and by both ways the same: in
the result of a tool among blocks that hold no view, and from a server that took it, whatever else
the server is given then. -/
theorem created_view_routes {n : NewView} {text : String}
    (written : n.content = .html text ∨ ∃ framework, n.content = .remoteDom text framework)
    (free : ∀ e ∈ n.wishes.extra.entries, ¬ ViewMetadata.Reserved e.1)
    (apart : ∀ e ∈ n.metadata.entries, Text.startsWith ViewMetadata.keyStart e.1 = false)
    {v : ViewResource} (made : n.create = .ok v) (r : Renderer) :
    ∃ plan : RenderPlan,
      (plan.uri = n.uri ∧ plan.mode = n.content.kind ∧ plan.content = text ∧
        plan.wishes = n.wishes) ∧
      (∀ (result : ToolResult) (before after : List Content),
        result.content = before ++ v.toContent :: after →
        (∀ c ∈ before ++ after, ¬ c.IsView) →
        ∃ received, ToolResult.decode result.encode = .ok received ∧
          r.resolveEmbedded received = .ok [plan]) ∧
      (∀ s : Server, s.resources.contains n.uri = false →
        ∃ after, s.register (.view v) = .ok after ∧
          ∀ registrations last, after.registerAll registrations = .ok last →
            ∃ json contents, last.result Server.Method.readResource
                (some (ReadResourceParams.mk n.uri).encode) = .ok json ∧
              ReadResourceResult.decode json = .ok ⟨[contents]⟩ ∧
              RenderPlan.ofContents contents r.sandbox = .ok plan) := by
  obtain ⟨view,_,_,_,uri,typed,_⟩ := create_eq_ok made
  obtain ⟨sent,_,payload,plan⟩ := plan_of_create made r.sandbox
  have same : sent = text := by
    rcases written with content | ⟨framework,content⟩
    all_goals
      rw [content] at payload
      cases payload
      rfl
  subst same
  have drawn : RenderPlan.contentFor n.content.kind sent = .ok sent := by
    rcases written with content | ⟨framework,content⟩ <;> rw [content] <;> rfl
  rw [drawn,ViewMetadata.ofMeta_extendMissing free apart] at plan
  rw [← uri] at view ⊢
  let needs := ViewNeeds.ofContents? v.resource
  refine ⟨⟨n.uri,n.content.kind,sent,needs,n.wishes,.of r.sandbox needs⟩,⟨uri.symm,rfl,rfl,rfl⟩,
    ?_,?_⟩
  · intro result before after content plain
    have kept : result.withoutNull.content = before ++ v.toContent :: after := content
    refine ⟨result.withoutNull,ToolResult.decode_encode result,?_⟩
    rw [r.resolveEmbedded_single kept plain view,plan]
    rfl
  · intro s free
    obtain ⟨after,given⟩ := ViewResource.register_view view free
    refine ⟨after,given,fun registrations last ok => ?_⟩
    have answer := ViewResource.result_readResource typed given (Server.registerAll_extends ok)
    exact ⟨_,v.resource,answer,ReadResourceResult.readsBack.reads _,plan⟩

namespace Sample

def script : NewView where
  uri := "ui://sample/script"
  content := .remoteDom "root.append('¡olé! 🎉');\n" .webComponents
  encoding := .blob
  wishes := ⟨some ("100%","40vh"),some .null,Dict.empty.insert "theme" (.str "dark")⟩
  metadata := Dict.empty.insert "author" (.str "sample")
  props := ⟨some "Script",none⟩

def answer (v : ViewResource) : ToolResult :=
  ⟨[.ofText "before",v.toContent,.ofContents (.text "file:///log" "text/plain" "after")],
    some .null,none,none⟩

def renderer : Renderer := .of "script" sandbox

end Sample

/-- A script in bytes, with wishes of every kind, comes both ways. -/
theorem created_view_routes_script :
    ∃ v plan received after json contents, Sample.script.create = .ok v ∧
      plan.mode = .remoteDom .webComponents ∧ plan.content = "root.append('¡olé! 🎉');\n" ∧
      plan.wishes = Sample.script.wishes ∧
      ToolResult.decode (Sample.answer v).encode = .ok received ∧
      Sample.renderer.resolveEmbedded received = .ok [plan] ∧
      (Server.named "sample").register (.view v) = .ok after ∧
      after.result Server.Method.readResource
        (some (ReadResourceParams.mk "ui://sample/script").encode) = .ok json ∧
      ReadResourceResult.decode json = .ok ⟨[contents]⟩ ∧
      RenderPlan.ofContents contents Sample.sandbox = .ok plan := by
  obtain ⟨v,made⟩ := exists_create (n := Sample.script) (by decide +kernel)
  obtain ⟨plan,⟨_,mode,content,wishes⟩,embedded,served⟩ := created_view_routes (.inr ⟨_,rfl⟩)
    (by decide) (by decide +kernel) made Sample.renderer
  have plain : ∀ c ∈ [Content.ofText "before"] ++
      [.ofContents (.text "file:///log" "text/plain" "after")], ¬ c.IsView := by
    rintro c member ⟨b,block,view⟩
    rcases List.mem_cons.mp member with rfl | member
    · cases block
    · cases List.mem_singleton.mp member
      cases block
      revert view
      decide
  obtain ⟨received,back,shown⟩ := embedded (Sample.answer v) [_] [_] rfl plain
  obtain ⟨after,given,reads⟩ := served (Server.named "sample") rfl
  obtain ⟨json,contents,answer,read,drawn⟩ := reads [] after rfl
  exact ⟨v,plan,received,after,json,contents,made,mode,content,wishes,back,shown,given,answer,read,
    drawn⟩

end NewView

end ToolView
