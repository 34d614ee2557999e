import Mathlib
import ToolView.Proofs.Bridge.Lifecycle
import ToolView.Proofs.Bridge.Tools

/-! The mode that a view is shown in. The bridge has it twice, once for itself and once in its record
of the surroundings, and the host may leave it out of the record; but whatever the view asks for,
the handlers answer and the host sets, a mode on record is the one that the bridge has. The handlers
hear only of modes that the host offers, and a view gets into no other one by asking. -/

namespace ToolView.Bridge

/-- What becomes of a mode that a view asks for, and what is asked for it: the mode that the view
gets then is its own one, or one that is granted and offered. -/
inductive Granting (s : Surroundings) (b : Bridge) (asked : DisplayMode) :
    DisplayMode → List HostEvent → Prop
  | unoffered (apart : asked ∉ b.config.displayModes) : Granting s b asked b.displayMode []
  | refused (offered : asked ∈ b.config.displayModes)
      (none : ∀ mode, s.handlers.displayMode asked = some mode → mode ∉ b.config.displayModes) :
      Granting s b asked b.displayMode [.displayMode asked]
  | given (mode) (offered : asked ∈ b.config.displayModes)
      (grants : s.handlers.displayMode asked = some mode) (allowed : mode ∈ b.config.displayModes) :
      Granting s b asked mode [.displayMode asked]

namespace Granting

variable {s : Surroundings} {b : Bridge} {asked mode : DisplayMode} {events : List HostEvent}

theorem keeps (granting : Granting s b asked mode events) :
    mode = b.displayMode ∨ mode ∈ b.config.displayModes := by
  cases granting with
  | unoffered apart => exact .inl rfl
  | refused offered none => exact .inl rfl
  | given mode offered grants allowed => exact .inr allowed

end Granting

namespace Moment

variable {m : Moment} {mode : DisplayMode}

end Moment

/-- What a turn does to the mode of a bridge and to its record of the surroundings. -/
inductive Placed (b : Bridge) : Input → Bridge → Prop
  | kept (input after) (mode : after.displayMode = b.displayMode)
      (record : after.hostContext = b.hostContext) : Placed b input after
  | set (context after) (mode : after.displayMode = context.displayMode.getD b.displayMode)
      (record : after.hostContext = context) : Placed b (.hostContext context) after
  | shown (message r mode) (said : Rpc.Message.decode message = .ok (.request r))
      (method : r.method = Method.requestDisplayMode) (opened : b.phase ≠ .closed) :
      Placed b (.message message) (b.shownIn mode)

theorem turn_placed {b after : Bridge} {input : Input} {posted : List Rpc.Message}
    (turn : Turn b input posted after) : Placed b input after := by
  cases turn with
  | granted message r mode said method opened => exact .shown message r mode said method opened
  | changed context listens => exact .set context _ rfl rfl
  | changeHeld context introduced => exact .set context _ rfl rfl
  | changeKept context apart => exact .set context _ rfl rfl
  | _ => exact .kept _ _ rfl rfl

/-- The record names no mode, or the one that the bridge has. -/
def ModeAgrees (b : Bridge) : Prop :=
  b.hostContext.displayMode = none ∨ b.hostContext.displayMode = some b.displayMode

theorem Placed.agrees {b after : Bridge} {input : Input} (placed : Placed b input after)
    (agrees : b.ModeAgrees) : after.ModeAgrees := by
  cases placed with
  | kept _ _ mode record =>
    rw [ModeAgrees,mode,record]
    exact agrees
  | set context _ mode record =>
    rw [ModeAgrees,mode,record]
    cases context.displayMode with
    | none => exact .inl rfl
    | some named => exact .inr rfl
  | shown message r mode said method opened => exact .inr rfl

namespace Moment

variable {m : Moment}

theorem placed (m : Moment) : Placed m.before m.input m.after := turn_placed m.turn

end Moment

theorem Begun.modes {b : Bridge} {earlier : List Input} (begun : Begun b earlier) :
    b.displayMode = b.config.initialDisplayMode ∧
      b.hostContext.displayMode = some b.config.initialDisplayMode := by
  obtain ⟨config,plan,rfl⟩ := begun.eq_start
  exact ⟨rfl,rfl⟩

end ToolView.Bridge
