import Mathlib
import ToolView.Server
import ToolView.Proofs.Members

/-! What registration makes of a server. What is taken is said once: a registration that is sound
and whose name or address is free is added, and nothing else changes. So a tool stands under its
own name and a resource under its address, neither is ever replaced, and a server holds what was
registered and nothing else. -/

namespace ToolView

namespace Toolset

def Keyed (s : Toolset) : Prop := ∀ e ∈ s.served.entries, e.2.tool.name = e.1

private theorem find?_filter_entries {es : List (String × ServedTool)}
    (order : Entries.Ascending es) (keyed : ∀ e ∈ es, e.2.tool.name = e.1) (p : Tool → Bool)
    (name : String) :
    ((es.map (·.2.tool)).filter p).find? (fun t => t.name == name) =
      ((Entries.get? name es).map (·.tool)).filter p := by
  induction es with
  | nil => rfl
  | cons e es ih =>
    obtain ⟨below,rest⟩ := List.pairwise_cons.mp order
    have tail := ih rest fun d member => keyed d (List.mem_cons_of_mem _ member)
    have key : (e.2.tool.name == name) = decide (e.1 = name) := by
      rw [keyed e List.mem_cons_self]
      rfl
    rw [List.map_cons,Entries.get?_cons]
    by_cases passes : p e.2.tool
    · rw [List.filter_cons_of_pos passes,List.find?_cons,key,tail]
      by_cases here : e.1 = name
      · simp only [here,decide_true,if_true,Option.map_some,Option.filter_some,passes]
      · simp only [here,decide_false,if_false]
    · rw [List.filter_cons_of_neg passes,tail]
      -- The tool of this name fails the test, and no later entry has its key.
      by_cases here : e.1 = name
      · subst here
        rw [Entries.get?_eq_none_of_below below,if_pos rfl,Option.map_some,Option.filter_some,
          if_neg passes]
        rfl
      · rw [if_neg here]

/-- In a list of tools that pass a test, the first one of a name is the tool that stands under
it. -/
theorem Keyed.find?_filter {s : Toolset} (keyed : s.Keyed) (p : Tool → Bool) (name : String) :
    (s.tools.filter p).find? (fun t => t.name == name) =
      ((s.served.get? name).map (·.tool)).filter p := by
  rw [tools,Dict.values,List.map_map]
  exact find?_filter_entries s.served.ascending keyed p name

end Toolset

namespace Server

def Registration.tool? : Registration → Option ServedTool
  | .appTool name app handler => some ⟨app.named name,handler⟩
  | .tool plain handler => some ⟨plain,handler⟩
  | .appResource .. | .view _ => none

def Registration.resource? : Registration → Option ServedResource
  | .appResource name uri resource read => some (resource.served name uri read)
  | .view made => some made.served
  | .appTool .. | .tool .. => none

def IsViewAddress (uri : String) : Prop := "ui://".toList <+: uri.toList

theorem isViewUri_iff {uri : String} : isViewUri uri ↔ IsViewAddress uri :=
  List.isPrefixOf_iff_prefix

namespace Registration

/-- What a registration must be by itself: the address of a resource is one of a view, and so is
the one that a tool of an app resolves to. -/
def Sound : Registration → Prop
  | .appResource _ uri _ _ => IsViewAddress uri
  | .view made => IsViewAddress made.resource.uri
  | .appTool name app _ => ∃ uri, (app.named name).viewUri? = some uri ∧ IsViewAddress uri
  | .tool _ _ => True

def isApp : Registration → Bool
  | .appResource .. | .appTool .. => true
  | .view _ | .tool .. => false

end Registration

theorem addResource_eq_ok {s after : Server} {x : ServedResource} :
    s.addResource x = .ok after ↔ isViewUri x.listing.uri ∧
      s.resources.contains x.listing.uri = false ∧
      { s with resources := s.resources.insert x.listing.uri x } = after := by
  unfold addResource
  dsimp only
  split_ifs with elsewhere taken <;> simp_all

theorem addTool_eq_ok {s after : Server} {tool : Tool} {handler : ToolHandler} :
    s.addTool tool handler = .ok after ↔ s.tools.contains tool.name = false ∧
      { s with tools := s.tools.insert tool handler } = after := by
  unfold addTool
  split_ifs with taken <;> simp_all

/-- The server with a registration, whether it can be taken or not. -/
def plus (s : Server) (r : Registration) : Server :=
  { s with
    tools := match r.tool? with
      | some t => s.tools.insert t.tool t.handler
      | none => s.tools
    resources := match r.resource? with
      | some x => s.resources.insert x.listing.uri x
      | none => s.resources
    hasApps := r.isApp || s.hasApps }

private theorem checkLink_eq_ok {tool : Tool} :
    checkLink tool = .ok () ↔ ∃ uri, tool.viewUri? = some uri ∧ IsViewAddress uri := by
  unfold checkLink
  cases tool.viewUri? with
  | none => simp
  | some uri => simp [← isViewUri_iff]

/-- A server takes a registration that is sound and whose name or address is free. -/
structure Takes (s : Server) (r : Registration) : Prop where
  sound : r.Sound
  name : ∀ t, r.tool? = some t → s.tools.contains t.tool.name = false
  address : ∀ x, r.resource? = some x → s.resources.contains x.listing.uri = false

section register

variable {s after : Server} {r : Registration}

private theorem takes_resource {x : ServedResource} (adds : r.resource? = some x)
    (no : r.tool? = none) : s.Takes r ↔ r.Sound ∧ s.resources.contains x.listing.uri = false := by
  constructor
  · exact fun takes => ⟨takes.sound,takes.address x adds⟩
  · rintro ⟨sound,free⟩
    refine ⟨sound,fun t same => ?_,fun y same => ?_⟩
    · cases no.symm.trans same
    · cases adds.symm.trans same
      exact free

theorem takes_tool {t : ServedTool} (adds : r.tool? = some t) (no : r.resource? = none) :
    s.Takes r ↔ r.Sound ∧ s.tools.contains t.tool.name = false := by
  constructor
  · exact fun takes => ⟨takes.sound,takes.name t adds⟩
  · rintro ⟨sound,free⟩
    refine ⟨sound,fun u same => ?_,fun x same => ?_⟩
    · cases adds.symm.trans same
      exact free
    · cases no.symm.trans same

/-- What a server takes, and what becomes of it then. -/
theorem register_eq_ok : s.register r = .ok after ↔ s.Takes r ∧ s.plus r = after := by
  cases r with
  | appResource name uri resource read =>
    rw [takes_resource rfl rfl,and_assoc]
    exact addResource_eq_ok.trans (and_congr isViewUri_iff Iff.rfl)
  | view made =>
    rw [takes_resource rfl rfl,and_assoc]
    exact addResource_eq_ok.trans (and_congr isViewUri_iff Iff.rfl)
  | appTool name app handler =>
    rw [takes_tool rfl rfl,and_assoc]
    change (checkLink (app.named name) >>= fun _ =>
      { s with hasApps := true }.addTool (app.named name) handler) = .ok after ↔ _
    cases linked : checkLink (app.named name) with
    | error e =>
      refine ⟨nofun,fun ok => ?_⟩
      rw [checkLink_eq_ok.mpr ok.1] at linked
      cases linked
    | ok _ =>
      change Server.addTool _ _ _ = _ ↔ _
      rw [addTool_eq_ok]
      exact (and_iff_right (checkLink_eq_ok.mp linked)).symm
  | tool plain handler =>
    rw [takes_tool rfl rfl,and_assoc]
    exact addTool_eq_ok.trans (and_iff_right trivial).symm

end register

def registerAll (s : Server) (registrations : List Registration) :
    Except RegistrationFault Server := registrations.foldlM register s

/-- What a server serves goes on being served, since its name or address is taken. -/
structure Extends (s after : Server) : Prop where
  tools : ∀ {name t}, s.tools.served.get? name = some t → after.tools.served.get? name = some t
  resources : ∀ {uri x}, s.resources.get? uri = some x → after.resources.get? uri = some x

private theorem get?_insert_free {α : Type} {d : Dict α} {key : String}
    (free : d.contains key = false) (value : α) {key' : String} {value' : α}
    (found : d.get? key' = some value') : (d.insert key value).get? key' = some value' := by
  rw [Dict.get?_insert,if_neg,found]
  rintro rfl
  rw [Dict.contains,found] at free
  cases free

theorem register_extends {s after : Server} {r : Registration} (ok : s.register r = .ok after) :
    s.Extends after := by
  obtain ⟨takes,rfl⟩ := register_eq_ok.mp ok
  refine ⟨fun {name t} found => ?_,fun {uri x} found => ?_⟩
  · rw [plus]
    cases adds : r.tool? with
    | none => exact found
    | some u => exact get?_insert_free (takes.name u adds) _ found
  · rw [plus]
    cases adds : r.resource? with
    | none => exact found
    | some y => exact get?_insert_free (takes.address y adds) _ found

theorem register_holds {s after : Server} {r : Registration} (ok : s.register r = .ok after)
    {x : ServedResource} (adds : r.resource? = some x) :
    after.resources.get? x.listing.uri = some x := by
  obtain ⟨-,rfl⟩ := register_eq_ok.mp ok
  rw [plus,adds]
  exact (Dict.get?_insert ..).trans (if_pos rfl)

theorem register_serves {s after : Server} {r : Registration} (ok : s.register r = .ok after)
    {t : ServedTool} (adds : r.tool? = some t) : after.tools.served.get? t.tool.name = some t := by
  obtain ⟨-,rfl⟩ := register_eq_ok.mp ok
  rw [plus,adds]
  exact (Dict.get?_insert ..).trans (if_pos rfl)

theorem registerAll_cons {s after : Server} {r : Registration} {rest : List Registration}
    (ok : s.registerAll (r :: rest) = .ok after) :
    ∃ next, s.register r = .ok next ∧ next.registerAll rest = .ok after := by
  rw [registerAll,List.foldlM_cons] at ok
  cases first : s.register r with
  | error e => rw [first] at ok; cases ok
  | ok next => rw [first] at ok; exact ⟨next,rfl,ok⟩

theorem registerAll_extends {s after : Server} {registrations : List Registration}
    (ok : s.registerAll registrations = .ok after) : s.Extends after := by
  induction registrations generalizing s with
  | nil =>
    cases ok
    exact ⟨id,id⟩
  | cons r rest ih =>
    obtain ⟨next,first,ok⟩ := registerAll_cons ok
    have now := register_extends first
    have later := ih ok
    exact ⟨fun found => later.tools (now.tools found),
      fun found => later.resources (now.resources found)⟩

theorem registerAll_concat {s after : Server} {rs : List Registration} {r : Registration} :
    s.registerAll (rs ++ [r]) = .ok after ↔
      ∃ before, s.registerAll rs = .ok before ∧ before.register r = .ok after := by
  rw [registerAll,List.foldlM_append,← registerAll]
  cases s.registerAll rs with
  | error e =>
    constructor
    · intro ok
      cases ok
    · rintro ⟨before,failed,-⟩
      cases failed
  | ok before =>
    change (before.register r >>= fun next => .ok next) = _ ↔ _
    have last : (before.register r >>= fun next => .ok next) = before.register r := by
      cases before.register r <;> rfl
    rw [last]
    constructor
    · exact fun ok => ⟨before,rfl,ok⟩
    · rintro ⟨other,same,ok⟩
      cases same
      exact ok

def toolsOf (rs : List Registration) : List ServedTool := rs.filterMap Registration.tool?

def resourcesOf (rs : List Registration) : List ServedResource :=
  rs.filterMap Registration.resource?

/-- A server holds what registrations add, and nothing else. -/
structure Holds (s : Server) (rs : List Registration) : Prop where
  tools : s.tools.served.Indexes (·.tool.name) (toolsOf rs)
  resources : s.resources.Indexes (·.listing.uri) (resourcesOf rs)
  apps : s.hasApps = rs.any Registration.isApp

theorem Holds.register {s after : Server} {rs : List Registration} {r : Registration}
    (holds : s.Holds rs) (ok : s.register r = .ok after) : after.Holds (rs ++ [r]) := by
  obtain ⟨takes,rfl⟩ := register_eq_ok.mp ok
  refine ⟨?_,?_,?_⟩
  · rw [toolsOf,List.filterMap_append,plus]
    cases adds : r.tool? with
    | none =>
      rw [List.filterMap_cons_none adds,List.filterMap_nil,List.append_nil]
      exact holds.tools
    | some t =>
      rw [List.filterMap_cons_some adds,List.filterMap_nil]
      exact holds.tools.insert (takes.name t adds)
  · rw [resourcesOf,List.filterMap_append,plus]
    cases adds : r.resource? with
    | none =>
      rw [List.filterMap_cons_none adds,List.filterMap_nil,List.append_nil]
      exact holds.resources
    | some x =>
      rw [List.filterMap_cons_some adds,List.filterMap_nil]
      exact holds.resources.insert (takes.address x adds)
  · rw [List.any_append,List.any_cons,List.any_nil,Bool.or_false,← holds.apps,Bool.or_comm]
    rfl

def emptied (s : Server) : Server := ⟨s.name,s.version,s.instructions,.empty,.empty,false⟩

theorem registerAll_emptied {s after : Server} {rs : List Registration}
    (ok : s.registerAll rs = .ok after) : after.emptied = s.emptied := by
  induction rs using List.reverseRecOn generalizing after with
  | nil => cases ok; rfl
  | append_singleton rs r ih =>
    obtain ⟨before,front,last⟩ := registerAll_concat.mp ok
    have header := ih front
    obtain ⟨-,rfl⟩ := register_eq_ok.mp last
    exact header

theorem registerAll_holds {s after : Server} {rs : List Registration}
    (ok : s.emptied.registerAll rs = .ok after) : after.Holds rs := by
  induction rs using List.reverseRecOn generalizing after with
  | nil =>
    cases ok
    exact ⟨.empty,.empty,rfl⟩
  | append_singleton rs r ih =>
    obtain ⟨before,ok,last⟩ := registerAll_concat.mp ok
    exact (ih ok).register last

/-- The server is what registrations make of one with which nothing was registered. -/
def Built (s : Server) (registrations : List Registration) : Prop :=
  ∃ name version instructions,
    (Server.mk name version instructions .empty .empty false).registerAll registrations = .ok s

namespace Built

variable {s : Server} {registrations : List Registration}

theorem registerAll (built : s.Built registrations) :
    s.emptied.registerAll registrations = .ok s := by
  obtain ⟨name,version,instructions,ok⟩ := built
  rw [show s.emptied = ⟨name,version,instructions,.empty,.empty,false⟩ from registerAll_emptied ok]
  exact ok

theorem holds_all (built : s.Built registrations) : s.Holds registrations :=
  registerAll_holds built.registerAll

theorem keyed (built : s.Built registrations) : s.tools.Keyed :=
  fun _ member => built.holds_all.tools.key_eq member

/-- A tool that is registered is served under its name, with its handler. -/
theorem serves (built : s.Built registrations) {r : Registration} (member : r ∈ registrations)
    {t : ServedTool} (adds : r.tool? = some t) : s.tools.served.get? t.tool.name = some t :=
  (built.holds_all.tools _ t).mpr ⟨rfl,List.mem_filterMap.mpr ⟨r,member,adds⟩⟩

/-- A resource that is registered is held under its address, with its reader. -/
theorem holds (built : s.Built registrations) {r : Registration} (member : r ∈ registrations)
    {x : ServedResource} (adds : r.resource? = some x) :
    s.resources.get? x.listing.uri = some x :=
  (built.holds_all.resources _ x).mpr ⟨rfl,List.mem_filterMap.mpr ⟨r,member,adds⟩⟩

theorem of_isOk {name : String} (accepted : ((named name).registerAll registrations).isOk) :
    (((named name).registerAll registrations).toOption.getD (named name)).Built registrations := by
  cases result : (named name).registerAll registrations with
  | error e => rw [result] at accepted; cases accepted
  | ok s => exact ⟨name,defaultVersion,none,result⟩

end Built

end Server

end ToolView
