import Mathlib
import ToolView.Proofs.Bridge.Tools
import ToolView.Proofs.Bridge.Lifecycle

/-! The version that a bridge and its view agree on. The view asks for one and the host is set to one
at most, and both may be any text. A view never gets a newer version than it asks for, if that one
is spoken; but the limit of the host holds only where it is a version that is spoken, or where what
the view asks for is within it anyway. -/

namespace ToolView

/-- A view that introduces itself has the version that it was read with. -/
theorem Bridge.InitializeParams.version_of_decode {json : Json} {p : InitializeParams}
    (read : decode json = .ok p) :
    json.part? 0 "protocolVersion" = some (.str p.protocolVersion) := by
  obtain ⟨f,info,able,-,rfl⟩ :=
    (Decode.takes_of_record read).of_seq (.seq (.map .field _) .field)
  obtain ⟨g,capabilities,front,-,rfl⟩ := able.of_seq (.map .field _)
  obtain ⟨version,named,rfl⟩ := front.of_map
  exact named.of_text 0

namespace Bridge

theorem latestVersion_mem : latestVersion ∈ versions := by decide

theorem negotiateVersion_mem (asked : String) : negotiateVersion asked ∈ versions := by
  rw [negotiateVersion]
  split_ifs with spoken
  · exact spoken
  · exact latestVersion_mem

theorem negotiateVersion_of_mem {asked : String} (spoken : asked ∈ versions) :
    negotiateVersion asked = asked := if_pos spoken

/-- A limit that is spoken is a bound, and any other one is none. -/
theorem chooseVersion_eq (limit asked : String) : chooseVersion limit asked =
    if limit ∈ versions then min limit (negotiateVersion asked) else negotiateVersion asked := by
  rw [chooseVersion]
  by_cases spoken : limit ∈ versions
  · rw [if_pos spoken,negotiateVersion_of_mem spoken]
    split_ifs with older
    · exact (min_eq_left older.2.le).symm
    · exact (min_eq_right (not_lt.mp fun before => older ⟨spoken,before⟩)).symm
  · rw [if_neg spoken,if_neg fun both => spoken both.1]

/-- A version for a view that asks for one, on a host that is configured for one at most. -/
structure Agreed (limit asked v : String) : Prop where
  spoken : v ∈ versions
  granted : asked ∈ versions → asked ≤ limit → v = asked
  notNewer : asked ∈ versions → v ≤ asked
  limited : v ≤ limit ↔ limit ∈ versions ∨ asked ∈ versions ∧ asked ≤ limit ∨
    asked ∉ versions ∧ latestVersion ≤ limit

private theorem negotiateVersion_le {limit asked : String} : negotiateVersion asked ≤ limit ↔
    asked ∈ versions ∧ asked ≤ limit ∨ asked ∉ versions ∧ latestVersion ≤ limit := by
  rw [negotiateVersion]
  split_ifs with spoken
  · simp [spoken]
  · simp [spoken]

theorem chooseVersion_agreed (limit asked : String) :
    Agreed limit asked (chooseVersion limit asked) := by
  have offered := negotiateVersion_mem asked
  rw [chooseVersion_eq]
  constructor
  · split_ifs with spoken
    · rcases min_choice limit (negotiateVersion asked) with same | same <;> rw [same] <;> assumption
    · exact offered
  · intro spoken within
    rw [negotiateVersion_of_mem spoken,min_eq_right within,ite_self]
  · intro spoken
    rw [negotiateVersion_of_mem spoken]
    split_ifs
    · exact min_le_right limit asked
    · exact le_rfl
  · rw [← negotiateVersion_le]
    split_ifs with spoken
    · exact ⟨fun _ => .inl spoken,fun _ => min_le_left _ _⟩
    · exact ⟨.inr,fun either => either.resolve_left spoken⟩

theorem introduce_early {b : Bridge} (early : b.phase < .initializing) (p : InitializeParams) :
    b.introduce p =
      let v := chooseVersion b.config.protocolVersion p.protocolVersion
      (.ok (InitializeResult.mk v b.config.hostCapabilities b.config.hostInfo
          (some b.hostContext)).encode,
        { b with appInfo := p.clientInfo, protocolVersion := some v, phase := .initializing }) := by
  unfold introduce
  split
  next late => exact absurd (late ▸ early) (by decide)
  next late => exact absurd (late ▸ early) (by decide)
  next late => exact absurd (late ▸ early) (by decide)
  all_goals rfl

theorem request_handshake (s : Surroundings) (b : Bridge) {r : Rpc.Request}
    (method : r.method = Method.handshake) : b.request s r =
      match params InitializeParams.decode r.params with
      | .error e => ⟨.error e,b,[]⟩
      | .ok p => ⟨(b.introduce p).1,(b.introduce p).2,[]⟩ := by
  unfold request
  exact (if_pos method).trans rfl

namespace Moment

variable {m : Moment}

/-- The view that is introduced gets the version that is chosen for what it has asked for. -/
theorem introduced (introduces : m.introduces) : ∃ r p reply, m.request? = some r ∧
    params InitializeParams.decode r.params = .ok p ∧ m.posted = [reply] ∧
    let v := chooseVersion m.before.config.protocolVersion p.protocolVersion
    (∃ result, success? reply = some result ∧ result.get? "protocolVersion" = some (.str v)) ∧
      m.after.protocolVersion = some v := by
  have early := (introduces_phase introduces).1
  unfold Moment.introduces at introduces
  split at introduces
  next r said =>
    simp only [Bool.and_eq_true,beq_iff_eq] at introduces
    obtain ⟨method,succeeds⟩ := introduces
    obtain ⟨message,comes,decodes⟩ := message_of_said said
    have alive : m.before.phase ≠ .closed := (early.trans (by decide)).ne
    have asks : m.request? = some r := request?_eq_some.mpr ⟨alive,message,comes,decodes⟩
    have output := output_request asks
    rw [request_handshake _ _ method] at output
    cases read : params InitializeParams.decode r.params with
    | error e =>
      rw [read] at output
      rw [posted,Output.posted,output] at succeeds
      cases succeeds
    | ok p =>
      rw [read] at output
      dsimp only at output
      rw [introduce_early early] at output
      have distinct : ["protocolVersion","hostCapabilities","hostInfo","hostContext"].Nodup := by
        decide
      refine ⟨r,p,_,asks,read,by rw [posted,Output.posted,output],⟨_,rfl,?_⟩,
        by rw [after,output]⟩
      exact Json.get?_record (by exact distinct) "protocolVersion"
  next => cases introduces

end Moment

/-- Once a view is introduced its version stays. -/
theorem turn_protocolVersion {b after : Bridge} {input : Input} {posted : List Rpc.Message}
    (turn : Turn b input posted after) (late : .initializing ≤ b.phase) :
    after.protocolVersion = b.protocolVersion := by
  cases turn with
  | introduced message r info result said method early shown => exact absurd late (not_le.mpr early)
  | _ => rfl

theorem final_protocolVersion {b : Bridge} (late : .initializing ≤ b.phase)
    (inputs : List (Surroundings × Input)) :
    (b.final inputs).protocolVersion = b.protocolVersion := by
  have kept := final_keeps
    (P := fun after => .initializing ≤ after.phase ∧ after.protocolVersion = b.protocolVersion)
    (fun _ _ _ _ turn ⟨late,same⟩ =>
      ⟨late.trans (turn_phase turn),(turn_protocolVersion turn late).trans same⟩)
    ⟨late,rfl⟩ inputs
  exact kept.2

/-- A view that is introduced, at whatever moment of a run, is told one version for the one that it
has asked for, and the bridge keeps it to the end of the run. -/
theorem introduced_version {b : Bridge} {inputs : List (Surroundings × Input)} {m : Moment}
    (member : m ∈ b.trace inputs) (introduces : m.introduces) :
    ∃ message value asked v reply result, m.input = .message message ∧
      message.part? 3 "params" = some value ∧ value.part? 0 "protocolVersion" = some (.str asked) ∧
      m.posted = [reply] ∧ success? reply = some result ∧
      result.get? "protocolVersion" = some (.str v) ∧ m.after.protocolVersion = some v ∧
      (b.final inputs).protocolVersion = some v ∧ Agreed b.config.protocolVersion asked v := by
  obtain ⟨r,p,reply,asks,read,posted,⟨result,success,told⟩,kept⟩ := Moment.introduced introduces
  obtain ⟨message,value,comes,carries,decodes⟩ := Moment.carried asks read nofun
  obtain ⟨first,rest,rfl,reached⟩ := mem_trace_split member
  have config : m.before.config = b.config := by rw [reached,final_config]
  rw [config] at told kept
  have late : .initializing ≤ m.after.phase := (introduces_phase introduces).2.ge
  refine ⟨message,value,_,_,reply,result,comes,carries,InitializeParams.version_of_decode decodes,
    posted,success,told,kept,?_,chooseVersion_agreed _ _⟩
  rw [final_append,← reached]
  change (m.after.final rest).protocolVersion = _
  rw [final_protocolVersion late,kept]

namespace Sample

def limited (limit : String) : HostConfig := { host with protocolVersion := limit }

def versioned (asked : String) : List (Surroundings × Input) :=
  [tells Method.proxyReady,asks 1 Method.handshake [("protocolVersion",some (.str asked))],
    tells Method.initialized,
    asks 2 Method.handshake [("protocolVersion",some (.str latestVersion))]]

def asking (limit asked : String) : Moment :=
  let input := asks 1 Method.handshake [("protocolVersion",some (.str asked))]
  ⟨(start (limited limit) plan).final [tells Method.proxyReady],input.1,input.2⟩

theorem asking_mem (limit asked : String) :
    asking limit asked ∈ (start (limited limit) plan).trace (versioned asked) :=
  List.mem_cons_of_mem _ List.mem_cons_self

end Sample

/-- Between the versions that are spoken a limit lets the older one pass. -/
theorem introduced_version_older :
    let b := start (Sample.limited "2025-09-01") Sample.plan
    let m := Sample.asking "2025-09-01" "2025-06-18"
    m ∈ b.trace (Sample.versioned "2025-06-18") ∧ m.introduces ∧
      (b.final (Sample.versioned "2025-06-18")).protocolVersion = some "2025-06-18" ∧
      Agreed "2025-09-01" "2025-06-18" "2025-06-18" := by
  intro b m
  have introduces : m.introduces := by decide +kernel
  have member := Sample.asking_mem "2025-09-01" "2025-06-18"
  obtain ⟨message,value,asked,v,reply,result,comes,carries,named,-,-,-,-,kept,agreed⟩ :=
    introduced_version member introduces
  cases comes
  cases carries
  cases named
  have chosen : (b.final (Sample.versioned "2025-06-18")).protocolVersion = some "2025-06-18" := by
    decide +kernel
  cases chosen.symm.trans kept
  exact ⟨member,introduces,kept,agreed⟩

/-- A view that asks for the newest version gets it, though the host is configured for an older one
at most and an older one is spoken. -/
theorem introduced_version_newer :
    let b := start (Sample.limited "2025-09-01") Sample.plan
    let m := Sample.asking "2025-09-01" "2025-11-21"
    m ∈ b.trace (Sample.versioned "2025-11-21") ∧ m.introduces ∧
      b.config.protocolVersion = "2025-09-01" ∧
      (∃ v ∈ versions, v ≤ b.config.protocolVersion) ∧
      (m.posted.head?.bind success?).bind (·.get? "protocolVersion") = some (.str "2025-11-21") ∧
      m.after.protocolVersion = some "2025-11-21" ∧ ¬ "2025-11-21" ≤ b.config.protocolVersion := by
  intro b m
  refine ⟨Sample.asking_mem "2025-09-01" "2025-11-21",?_,rfl,⟨"2025-06-18",?_,?_⟩,?_,?_,?_⟩
  all_goals decide +kernel

end Bridge

end ToolView
