import Mathlib
import ToolView.Host.Renderer
import ToolView.Proofs.Server.Answers
import ToolView.Proofs.Server.Registry
import ToolView.Proofs.View.Creation
import ToolView.Proofs.View.Needs

/-! From a tool to the page that it renders, over the wire: the server lists the tool with its link,
completes the contents of the page, and the host draws the page with what its author asked for. -/

namespace ToolView

/-- The client lists the tools and reads the resources of the server, by its dispatch. -/
structure Client.Fetches (client : Client) (s : Server) (refused : Server.Error → HostError)
    (garbled : DecodeError → HostError) : Prop where
  lists : client.listTools = do
    let json ← (s.result Server.Method.listTools none).mapError refused
    let result ← (ListToolsResult.decode json).mapError garbled
    return result.tools
  reads : ∀ uri, client.readResource uri = do
    let json ← (s.result Server.Method.readResource
      (some (ReadResourceParams.mk uri).encode)).mapError refused
    (ReadResourceResult.decode json).mapError garbled

/-- What is drawn for text without a type that a server completes as that of an app. -/
theorem RenderPlan.ofContents_complete {x : ServedResource}
    (typed : x.listing.mimeType = some ViewKind.app.mimeType) {c : Contents} {text : String}
    (body : c.body = .text text) (untyped : c.mimeType = none) (sandbox : SandboxConfig) :
    ∃ plan, ofContents (x.complete c) sandbox = .ok plan ∧ plan.uri = c.uri ∧ plan.mode = .app ∧
      plan.content = text ∧
      plan.needs = (match c.statedNeeds? with
        | some value => (ViewNeeds.decode value).toOption
        | none => x.needs) ∧
      plan.sandbox = .of sandbox plan.needs := by
  have needs := ServedResource.ofContents?_complete typed c
  have complete := ServedResource.complete_eq typed c
  have mode : modeOf (x.complete c) = .ok .app := by
    rw [complete,untyped]
    exact ViewKind.parse_mimeType .app
  have decoded : (x.complete c).decodedText = .ok text := by
    rw [complete,body]
    rfl
  have uri : (x.complete c).uri = c.uri := by rw [complete]
  rw [ofContents,mode,decoded]
  exact ⟨_,rfl,uri,rfl,rfl,needs,rfl⟩

namespace Renderer

theorem findTool_listed {s : Server} (keyed : s.tools.Keyed) {t : ServedTool}
    (served : s.tools.served.get? t.tool.name = some t) (model : t.tool.isVisibleTo .model)
    {client : Client} (lists : client.listTools = .ok s.listTools) {r : Renderer}
    (unknown : r.tool = none) (named : r.toolName = t.tool.name) :
    (r.findTool client).1 = .ok t.tool := by
  have found : s.listTools.find? (fun tool => tool.name == r.toolName) = some t.tool := by
    rw [Server.listTools,keyed.find?_filter,named,served,Option.map_some,Option.filter_some,
      if_pos model]
  rw [findTool,unknown,lists]
  dsimp only
  rw [found]

theorem pick?_complete {x : ServedResource} {mimeType : String}
    (typed : x.listing.mimeType = some mimeType) (uri : String) (contents : List Contents) :
    pick? uri (contents.map x.complete) = (pick? uri contents).map x.complete := by
  have same (c : Contents) : (x.complete c).uri = c.uri := by
    rw [ServedResource.complete_eq typed]
  have test : (fun c : Contents => c.uri == uri) ∘ x.complete = fun c => c.uri == uri :=
    funext fun c => congrArg (· == uri) (same c)
  rw [pick?,pick?,List.find?_map,test,List.head?_map]
  cases contents.find? fun c => c.uri == uri <;> rfl

theorem planFor_held {x : ServedResource} {mimeType : String}
    (typed : x.listing.mimeType = some mimeType) {client : Client} {uri : String}
    {first : Contents} {rest : List Contents}
    (read : client.readResource uri = .ok ⟨(first :: rest).map x.complete⟩) (r : Renderer) :
    r.planFor client uri =
      (RenderPlan.ofContents
        (x.complete (((first :: rest).find? fun c => c.uri == uri).getD first))
        r.sandbox).mapError .view := by
  have picked : pick? uri (first :: rest) =
      some (((first :: rest).find? fun c => c.uri == uri).getD first) := by
    rw [pick?]
    cases (first :: rest).find? fun c => c.uri == uri <;> rfl
  rw [planFor,read]
  dsimp only [bind,Except.bind]
  rw [pick?_complete typed,picked]
  rfl

theorem resolve_found {r : Renderer} {client : Client} {tool : Tool}
    (found : (r.findTool client).1 = .ok tool) {uri : String} (linked : tool.viewUri? = some uri) :
    (r.resolve client).1 = r.planFor client uri := by
  cases step : r.findTool client with
  | mk answer events =>
    rw [step] at found
    cases found
    rw [resolve,step]
    dsimp only
    rw [linked]

/-- The tool of an app is drawn as its author registered it: the text of the page, under the policy
for what the page itself states that it needs, or else for what was registered with it. -/
theorem app_resolves {s : Server} {registrations : List Server.Registration}
    (built : s.Built registrations) {name : String} {app : AppTool} {handler : ToolHandler}
    (tool : .appTool name app handler ∈ registrations) (model : (app.named name).isVisibleTo .model)
    {uri : String} (linked : (app.named name).viewUri? = some uri) {page : String}
    {resource : AppResource} {read : ResourceReader}
    (registered : .appResource page uri resource read ∈ registrations)
    (untyped : resource.mimeType = none) {first : Contents} {rest : List Contents}
    (reads : read uri = .ok ⟨first :: rest⟩) {c : Contents}
    (chosen : c = ((first :: rest).find? fun c => c.uri == uri).getD first) {text : String}
    (body : c.body = .text text) (plain : c.mimeType = none) {client : Client}
    {refused : Server.Error → HostError} {garbled : DecodeError → HostError}
    (fetches : client.Fetches s refused garbled) {r : Renderer} (unknown : r.tool = none)
    (named : r.toolName = name) :
    ∃ plan, (r.resolve client).1 = .ok plan ∧ plan.uri = c.uri ∧ plan.mode = .app ∧
      plan.content = text ∧
      plan.needs = (match c.statedNeeds? with
        | some value => (ViewNeeds.decode value).toOption
        | none => resource.needs) ∧
      plan.sandbox.csp = Csp.policy (plan.needs.bind (·.sources)) := by
  have served := built.serves tool rfl
  have held : s.resources.get? uri = some (resource.served page uri read) :=
    built.holds registered rfl
  have typed : (resource.served page uri read).listing.mimeType = some ViewKind.app.mimeType := by
    rw [AppResource.served,untyped]
    rfl
  have lists := fetches.lists.trans (s.read_listTools refused garbled)
  have found := findTool_listed built.keyed served model lists unknown named
  have contents := (fetches.reads uri).trans (Server.read_readResource held reads refused garbled)
  have drawn := planFor_held typed contents r
  rw [← chosen] at drawn
  obtain ⟨plan,made,address,mode,content,needs,sandbox⟩ :=
    RenderPlan.ofContents_complete typed body plain r.sandbox
  have resolved : (r.resolve client).1 = .ok plan := by
    rw [resolve_found found linked,drawn,made]
    rfl
  exact ⟨plan,resolved,address,mode,content,needs,by rw [sandbox]; rfl⟩

namespace Sample

-- An app whose link stands under the older key alone. The server reads two contents for its page,
-- the second under its address.

def app : AppTool :=
  { AppTool.none with metadata := Dict.empty.insert ViewLink.legacyKey (.str "ui://sample/app") }

def page : AppResource :=
  ⟨none,none,none,some ⟨some ⟨some ["https://api.example"],none,none,none⟩,none,none,some true⟩,.empty⟩

def other : Contents := .text "ui://sample/other" "text/plain" "other"

def main : Contents := ⟨"ui://sample/app",none,.text "<p>app</p>",none⟩

def registrations : List Server.Registration :=
  [.appTool "app" app fun _ => .ok (.success []),
    .appResource "page" "ui://sample/app" page fun _ => .ok ⟨[other,main]⟩]

def server : Server :=
  ((Server.named "sample").registerAll registrations).toOption.getD (.named "sample")

theorem server_built : server.Built registrations := .of_isOk (by decide +kernel)

def client : Client where
  listTools := do
    let json ← (server.result Server.Method.listTools none).mapError fun e => .client e.message
    let result ← (ListToolsResult.decode json).mapError fun e => .json e.message
    return result.tools
  callTool call := .error (.toolNotFound call.name)
  readResource uri := do
    let json ← (server.result Server.Method.readResource
      (some (ReadResourceParams.mk uri).encode)).mapError fun e => .client e.message
    (ReadResourceResult.decode json).mapError fun e => .json e.message

end Sample

/-- The page of the sample is drawn under the policy that was registered for it. -/
theorem app_resolves_sample : Sample.server.Built Sample.registrations ∧
    ∃ plan, ((Renderer.of "app" NewView.Sample.sandbox).resolve Sample.client).1 = .ok plan ∧
      plan.mode = .app ∧ plan.content = "<p>app</p>" ∧ plan.needs = Sample.page.needs ∧
      plan.sandbox.csp = Csp.policy (Sample.page.needs.bind (·.sources)) := by
  have built := Sample.server_built
  have fetches : Sample.client.Fetches Sample.server (fun e => .client e.message)
    (fun e => .json e.message) := ⟨rfl,fun _ => rfl⟩
  have tool : .appTool "app" Sample.app (fun _ => .ok (.success [])) ∈ Sample.registrations :=
    List.mem_cons_self
  have registered : .appResource "page" "ui://sample/app" Sample.page
      (fun _ => .ok ⟨[Sample.other,Sample.main]⟩) ∈ Sample.registrations :=
    List.mem_cons_of_mem _ List.mem_cons_self
  have model : (Sample.app.named "app").isVisibleTo .model := by decide +kernel
  have linked : (Sample.app.named "app").viewUri? = some "ui://sample/app" := by decide +kernel
  obtain ⟨plan,resolved,_,mode,content,needs,policy⟩ := app_resolves built tool model linked
    registered rfl rfl (c := Sample.main) (by decide +kernel) rfl rfl fetches
    (r := Renderer.of "app" NewView.Sample.sandbox) rfl rfl
  have asked : plan.needs = Sample.page.needs := needs
  rw [asked] at policy
  exact ⟨built,plan,resolved,mode,content,asked,policy⟩

end Renderer

end ToolView
