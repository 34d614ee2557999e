import Mathlib
import ToolView.Proofs.Bridge.Turn

/-! Runs of a bridge as lists of moments. A moment keeps the bridge as it was, so a statement about
a run can speak of what came before and of what was posted; what every turn keeps holds along the
run, and what every turn pays for out of a budget is bounded over the run. -/

namespace ToolView.Bridge

structure Moment where
  before : Bridge
  surroundings : Surroundings
  input : Input

namespace Moment

def output (m : Moment) : Output := m.before.step m.surroundings m.input

def after (m : Moment) : Bridge := m.output.bridge

def posted (m : Moment) : List Rpc.Message := m.output.posted

theorem turn (m : Moment) : Turn m.before m.input m.posted m.after :=
  step_turn m.surroundings m.before m.input

end Moment

def trace (b : Bridge) : List (Surroundings × Input) → List Moment
  | [] => []
  | (s, input) :: rest => ⟨b, s, input⟩ :: trace (b.step s input).bridge rest

def final (b : Bridge) : List (Surroundings × Input) → Bridge
  | [] => b
  | (s, input) :: rest => final (b.step s input).bridge rest

/-- The outputs of a run are those of its moments. -/
theorem run_eq_trace (b : Bridge) (inputs : List (Surroundings × Input)) :
    b.run inputs = (b.trace inputs).map Moment.output := by
  induction inputs generalizing b with
  | nil => rfl
  | cons first rest ih => exact congrArg (_ :: ·) (ih _)

theorem final_append (b : Bridge) (first rest : List (Surroundings × Input)) :
    b.final (first ++ rest) = (b.final first).final rest := by
  induction first generalizing b with
  | nil => rfl
  | cons input first ih => exact ih _

theorem trace_append (b : Bridge) (first rest : List (Surroundings × Input)) :
    b.trace (first ++ rest) = b.trace first ++ (b.final first).trace rest := by
  induction first generalizing b with
  | nil => rfl
  | cons input first ih => exact congrArg (_ :: ·) (ih _)

theorem trace_inputs (b : Bridge) (inputs : List (Surroundings × Input)) :
    (b.trace inputs).map Moment.input = inputs.map (·.2) := by
  induction inputs generalizing b with
  | nil => rfl
  | cons first rest ih => exact congrArg (_ :: ·) (ih _)

/-- A place in a run splits its inputs: the moments before it are a run to its bridge, and those
after it are a run from the bridge it leaves. -/
theorem trace_split {b : Bridge} {inputs : List (Surroundings × Input)} {past future : List Moment}
    {m : Moment} (split : b.trace inputs = past ++ m :: future) :
    ∃ first rest, inputs = first ++ (m.surroundings,m.input) :: rest ∧ past = b.trace first ∧
      m.before = b.final first ∧ future = m.after.trace rest := by
  induction past generalizing b inputs with
  | nil =>
    cases inputs with
    | nil => cases split
    | cons input rest =>
      obtain ⟨rfl,rfl⟩ := List.cons.inj split
      exact ⟨[],rest,rfl,rfl,rfl,rfl⟩
  | cons head past ih =>
    cases inputs with
    | nil => cases split
    | cons input rest =>
      obtain ⟨rfl,tail⟩ := List.cons.inj split
      obtain ⟨first,rest,rfl,rfl,reached,rfl⟩ := ih tail
      exact ⟨input :: first,rest,rfl,rfl,reached,rfl⟩

theorem mem_trace_split {b : Bridge} {inputs : List (Surroundings × Input)} {m : Moment}
    (member : m ∈ b.trace inputs) :
    ∃ first rest, inputs = first ++ (m.surroundings,m.input) :: rest ∧
      m.before = b.final first := by
  obtain ⟨past,future,split⟩ := List.append_of_mem member
  obtain ⟨first,rest,inputs,-,reached,-⟩ := trace_split split
  exact ⟨first,rest,inputs,reached⟩

theorem final_concat (b : Bridge) (first : List (Surroundings × Input)) (s : Surroundings)
    (input : Input) :
    b.final (first ++ [(s,input)]) = (Moment.mk (b.final first) s input).after := by
  rw [final_append]
  rfl

theorem trace_concat (b : Bridge) (first : List (Surroundings × Input)) (s : Surroundings)
    (input : Input) :
    b.trace (first ++ [(s,input)]) = b.trace first ++ [⟨b.final first,s,input⟩] := by
  rw [trace_append]
  rfl

theorem final_keeps {P : Bridge → Prop}
    (keeps : ∀ b input posted after, Turn b input posted after → P b → P after) {b : Bridge}
    (holds : P b) (inputs : List (Surroundings × Input)) : P (b.final inputs) := by
  induction inputs generalizing b with
  | nil => exact holds
  | cons first rest ih => exact ih (keeps b _ _ _ (step_turn first.1 b first.2) holds)

theorem turn_config {b after : Bridge} {input : Input} {posted : List Rpc.Message}
    (turn : Turn b input posted after) : after.config = b.config := by
  cases turn <;> rfl

theorem final_config (b : Bridge) (inputs : List (Surroundings × Input)) :
    (b.final inputs).config = b.config :=
  final_keeps (P := fun after => after.config = b.config)
    (fun _ _ _ _ turn same => (turn_config turn).trans same) rfl inputs

/-- What happens only where a run passes a gate, and once there, happens at most once. -/
theorem sum_le_one {P : Bridge → Prop}
    (keeps : ∀ b input posted after, Turn b input posted after → P b → P after)
    (cost : Moment → Nat) (gate : Phase)
    (onward : ∀ m : Moment, m.before.phase ≤ m.after.phase)
    (pays : ∀ m : Moment, P m.before → cost m = 0 ∨
      cost m = 1 ∧ m.before.phase < gate ∧ gate ≤ m.after.phase) {b : Bridge} (holds : P b)
    (inputs : List (Surroundings × Input)) : ((b.trace inputs).map cost).sum ≤ 1 := by
  -- Past the gate nothing costs any more, which the induction carries along.
  suffices bound : ((b.trace inputs).map cost).sum ≤ if b.phase < gate then 1 else 0 by
    exact bound.trans (by split <;> simp)
  induction inputs generalizing b with
  | nil => simp [trace]
  | cons first rest ih =>
    let m : Moment := ⟨b,first.1,first.2⟩
    have tail := ih (keeps b _ _ _ m.turn holds)
    change cost m + ((m.after.trace rest).map cost).sum ≤ _
    change ((m.after.trace rest).map cost).sum ≤ if m.after.phase < gate then 1 else 0 at tail
    obtain free | ⟨once,early,late⟩ := pays m holds
    · rw [free,Nat.zero_add]
      refine tail.trans ?_
      split_ifs with after before before
      · exact le_rfl
      · exact absurd (lt_of_le_of_lt (onward m) after) before
      · exact Nat.zero_le 1
      · exact le_rfl
    · change b.phase < gate at early
      rw [if_neg (not_lt.mpr late)] at tail
      rw [if_pos early,once,Nat.le_zero.mp tail]

end ToolView.Bridge

namespace ToolView.Renderer
open Bridge

def known (r : Renderer) : List Input :=
  (r.toolInput.map Input.toolInput).toList ++ (r.toolResult.map Input.toolResult).toList

end ToolView.Renderer

namespace ToolView.Bridge

/-- A bridge where a run starts, with what it was told before: it is new, or a renderer has told it
what is known of the tool. -/
inductive Begun : Bridge → List Input → Prop
  | new (config plan) : Begun (start config plan) []
  | rendered (r : Renderer) (plan config b) (made : r.bridge plan config = .ok b) : Begun b r.known

/-- Before its view is there, a bridge has only gathered what it was told. -/
theorem Begun.eq_start {b : Bridge} {earlier : List Input} (begun : Begun b earlier) :
    ∃ config plan, b = { start config plan with pending := earlier.filterMap Input.tells? } := by
  cases begun with
  | new config plan => exact ⟨config,plan,rfl⟩
  | rendered r plan config b made =>
    refine ⟨config,plan,?_⟩
    unfold Renderer.bridge at made
    split at made
    · cases made
    · cases made
      cases input : r.toolInput <;> cases result : r.toolResult <;>
        simp [Renderer.known,input,result] <;> rfl

namespace Sample

-- A host with two modes, whose handlers grant every mode that is asked for.

def site : Url := ⟨"https","",none,some (.domain "sandbox.example"),none,.segments [""],none,none⟩

def host : HostConfig :=
  { HostConfig.of ⟨"host","1.0"⟩ ⟨site,SandboxConfig.defaultTokens,none⟩ with
    displayModes := [.inline,.fullscreen] }

def plan : RenderPlan :=
  ⟨"ui://sample/view",.app,"<p>sample</p>",none,⟨none,none,.empty⟩,.of host.sandbox none⟩

def surroundings : Surroundings where
  client :=
    { listTools := .ok []
      callTool := fun call => .error (.toolNotFound call.name)
      readResource := fun uri => .error (.invalidResource uri) }
  handlers := { Handlers.default with displayMode := some }

def comes (input : Input) : Surroundings × Input := (surroundings,input)

def asks (id : Int64) (method : String) (members : List (String × Option Json)) :
    Surroundings × Input :=
  comes (.message (Rpc.Request.of (.number id) method (some (.record members))).encode)

def tells (method : String) : Surroundings × Input :=
  comes (.message (Rpc.Notification.of method none).encode)

def introduction : List (Surroundings × Input) :=
  [tells Method.proxyReady,
    asks 1 Method.handshake [("protocolVersion",some (.str latestVersion))]]

end Sample

end ToolView.Bridge
