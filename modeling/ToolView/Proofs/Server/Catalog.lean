import Mathlib
import ToolView.Proofs.Server.Answers
import ToolView.Proofs.Server.Registry

/-! What a server takes, and what it answers from what it has taken. A tool is taken if its name is
free and a resource if its address is, whatever else there is; what is listed, called and read is
what was taken, and in which order that happened cannot be told from any answer. -/

namespace ToolView.Server

structure Follows (earlier : List Registration) (r : Registration) : Prop where
  sound : r.Sound
  name : ∀ t, r.tool? = some t → t.tool.name ∉ (toolsOf earlier).map (·.tool.name)
  address : ∀ x, r.resource? = some x → x.listing.uri ∉ (resourcesOf earlier).map (·.listing.uri)

/-- Registrations that can all be taken: each is sound, and no name or address comes twice. -/
structure Consistent (rs : List Registration) : Prop where
  sound : ∀ r ∈ rs, r.Sound
  names : ((toolsOf rs).map (·.tool.name)).Nodup
  addresses : ((resourcesOf rs).map (·.listing.uri)).Nodup

theorem Consistent.perm {rs rs' : List Registration} (consistent : Consistent rs)
    (perm : rs.Perm rs') : Consistent rs' where
  sound r member := consistent.sound r (perm.mem_iff.mpr member)
  names := ((perm.filterMap _).map _).nodup_iff.mp consistent.names
  addresses := ((perm.filterMap _).map _).nodup_iff.mp consistent.addresses

def CallsTool (q : Rpc.Request) (call : ToolCall) : Prop :=
  q.method = Method.callTool ∧ ∃ value, q.params = some value ∧ ToolCall.decode value = .ok call

def ReadsResource (q : Rpc.Request) (uri : String) : Prop :=
  q.method = Method.readResource ∧ ∃ value, q.params = some value ∧
    ReadResourceParams.decode value = .ok ⟨uri⟩

/-- A server answers from registrations: it lists what they add, in order and without what is kept
from the model, and calls and reads each thing by the handler that it was registered with. -/
structure Serves (s : Server) (rs : List Registration) : Prop where
  tools : ∃ tools : List Tool,
    (∀ q, q.method = Method.listTools →
      s.respond q = .success q.id (ListToolsResult.mk tools none).encode) ∧
    tools.Pairwise (·.name < ·.name) ∧
    ∀ tool, tool ∈ tools ↔ (∃ t ∈ toolsOf rs, t.tool = tool) ∧ Visibility.model ∈ tool.visibility
  resources : ∃ resources : List Resource,
    (∀ q, q.method = Method.listResources →
      s.respond q = .success q.id (ListResourcesResult.mk resources none).encode) ∧
    resources.Pairwise (·.uri < ·.uri) ∧
    ∀ listing, listing ∈ resources ↔ ∃ x ∈ resourcesOf rs, x.listing = listing
  call : ∀ t ∈ toolsOf rs, ∀ q call, CallsTool q call → call.name = t.tool.name →
    (∀ result, t.handler call.arguments = .ok result → s.respond q = .success q.id result.encode) ∧
    ∀ e, t.handler call.arguments = .error e →
      s.respond q = .success q.id (ToolResult.failure [.ofText e.message]).encode
  noTool : ∀ q call, CallsTool q call → call.name ∉ (toolsOf rs).map (·.tool.name) →
    s.respond q = .failure q.id (.plain (-32602) ("Tool not found: " ++ call.name))
  read : ∀ x ∈ resourcesOf rs, ∀ q, ReadsResource q x.listing.uri →
    (∀ result, x.read x.listing.uri = .ok result →
      s.respond q = .success q.id (ReadResourceResult.mk (result.contents.map x.complete)).encode) ∧
    ∀ e, x.read x.listing.uri = .error e → s.respond q = .failure q.id (Error.ofRead e).errorData
  noResource : ∀ q uri, ReadsResource q uri → uri ∉ (resourcesOf rs).map (·.listing.uri) →
    s.respond q = .failure q.id (.plain (-32002) ("Resource not found: " ++ uri))

section answers

variable {s : Server} {rs : List Registration} {q : Rpc.Request}

private theorem respond_eq {method : String} (asks : q.method = method) {value : Option Json}
    (carries : q.params = value) : s.respond q = match s.result method value with
      | .ok result => .success q.id result
      | .error e => .failure q.id e.errorData := by
  subst asks
  subst carries
  rfl

private theorem respond_callTool {call : ToolCall} (asks : CallsTool q call) :
    s.respond q = match s.callTool call with
      | .ok result => .success q.id result.encode
      | .error e => .failure q.id e.errorData := by
  obtain ⟨method,value,carries,read⟩ := asks
  rw [respond_eq method carries,s.result_callTool_of_read read]
  cases s.callTool call <;> rfl

private theorem respond_readResource {uri : String} (asks : ReadsResource q uri) :
    s.respond q = match s.readResource uri with
      | .ok result => .success q.id result.encode
      | .error e => .failure q.id e.errorData := by
  obtain ⟨method,value,carries,read⟩ := asks
  rw [respond_eq method carries,s.result_readResource_of_read read]
  cases s.readResource uri <;> rfl

private theorem get?_eq_none {α : Type} {d : Dict α} {key : α → String} {values : List α}
    (indexes : d.Indexes key values) {k : String} (free : k ∉ values.map key) : d.get? k = none := by
  rw [← indexes.contains_iff,Dict.contains,Bool.not_eq_true,Option.isSome_eq_false_iff,
    Option.isNone_iff_eq_none] at free
  exact free

theorem Holds.listTools (holds : s.Holds rs) : s.listTools.Pairwise (·.name < ·.name) ∧
    ∀ tool, tool ∈ s.listTools ↔
      (∃ t ∈ toolsOf rs, t.tool = tool) ∧ Visibility.model ∈ tool.visibility := by
  refine ⟨?_,fun tool => ?_⟩
  · have names : s.tools.tools.Pairwise (·.name < ·.name) :=
      List.pairwise_map.mpr holds.tools.ascending
    exact names.filter _
  · rw [Server.listTools,List.mem_filter,Toolset.tools,List.mem_map]
    refine and_congr ?_ List.contains_iff_mem
    simp only [holds.tools.mem_values]

theorem Holds.listResources (holds : s.Holds rs) : s.listResources.Pairwise (·.uri < ·.uri) ∧
    ∀ listing, listing ∈ s.listResources ↔ ∃ x ∈ resourcesOf rs, x.listing = listing := by
  refine ⟨List.pairwise_map.mpr holds.resources.ascending,fun listing => ?_⟩
  rw [Server.listResources,List.mem_map]
  simp only [holds.resources.mem_values]

theorem Holds.serves (holds : s.Holds rs) : s.Serves rs where
  tools := by
    refine ⟨s.listTools,fun q asks => ?_,holds.listTools⟩
    rw [respond_eq asks rfl,result_listTools]
  resources := by
    refine ⟨s.listResources,fun q asks => ?_,holds.listResources⟩
    rw [respond_eq asks rfl,result_listResources]
  call t member q call asks named := by
    have served : s.tools.served.get? call.name = some t :=
      (holds.tools _ t).mpr ⟨named.symm,member⟩
    rw [respond_callTool asks,callTool,Toolset.call,served]
    dsimp only
    rw [ServedTool.call]
    refine ⟨fun result runs => ?_,fun e fails => ?_⟩
    · rw [runs]
    · rw [fails]
  noTool q call asks free := by
    rw [respond_callTool asks,callTool,Toolset.call,get?_eq_none holds.tools free]
    rfl
  read x member q asks := by
    have held : s.resources.get? x.listing.uri = some x :=
      (holds.resources _ x).mpr ⟨rfl,member⟩
    rw [respond_readResource asks,readResource,held]
    dsimp only
    refine ⟨fun result runs => ?_,fun e fails => ?_⟩
    · rw [runs]
    · rw [fails]
  noResource q uri asks free := by
    rw [respond_readResource asks,readResource,get?_eq_none holds.resources free]
    rfl

end answers

namespace Sample

end Sample

end ToolView.Server
