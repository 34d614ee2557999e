import Mathlib
import ToolView.Proofs.Bridge.Run

/-! The life of a bridge: its phase only moves on, what it holds fits the phase, and what happens
once in a life happens once in every run, whatever the view, the client and the handlers do. -/

namespace ToolView.Bridge

/-- What a bridge holds between two inputs fits its phase. -/
structure Settled (b : Bridge) : Prop where
  pageSent : b.phase ≠ .proxyReady
  emptied : .initialized ≤ b.phase → b.pending = []
  asked : b.teardownId.isSome ↔ b.phase = .tearingDown
  queued : ∀ n ∈ b.pending, isForView n

theorem turn_phase {b after : Bridge} {input : Input} {posted : List Rpc.Message}
    (turn : Turn b input posted after) : b.phase ≤ after.phase := by
  cases turn with
  | introduced message r info result said method early shown => exact early.le
  | loaded message n said method waiting =>
    exact waiting.trans_le (show Phase.awaitingProxy ≤ .loaded by decide)
  | listens message n said method waiting =>
    exact waiting.trans_le (show Phase.initializing ≤ .initialized by decide)
  | ended message r said waiting asked =>
    exact waiting.trans_le (show Phase.tearingDown ≤ .closed by decide)
  | closedAtOnce reason early => exact early.le.trans (show Phase.initializing ≤ .closed by decide)
  | asked reason alive =>
    rcases alive with waiting | waiting
    · exact waiting.trans_le (show Phase.initializing ≤ .tearingDown by decide)
    · exact waiting.trans_le (show Phase.initialized ≤ .tearingDown by decide)
  | _ => exact le_rfl

theorem turn_closed {b after : Bridge} {input : Input} {posted : List Rpc.Message}
    (turn : Turn b input posted after) (closed : b.phase = .closed) :
    posted = [] ∧ after.phase = .closed := by
  have stays : after.phase = .closed := by
    have forward := turn_phase turn
    rw [closed] at forward
    generalize after.phase = p at forward
    cases p <;> first | rfl | exact absurd forward (by decide)
  refine ⟨?_,stays⟩
  cases turn with
  | answered message r reply tools said opened id other => exact absurd closed opened
  | introduced message r info result said method early shown => cases stays
  | granted message r mode said method opened => exact absurd closed opened
  | loaded message n said method waiting => rw [closed] at waiting; cases waiting
  | listens message n said method waiting => rw [closed] at waiting; cases waiting
  | told input n tells listens => rw [closed] at listens; cases listens
  | changed context listens => rw [closed] at listens; cases listens
  | asked reason alive => cases stays
  | _ => rfl

private theorem settled_early {b : Bridge} (pageSent : b.phase ≠ .proxyReady)
    (early : b.phase < .initialized) (unasked : b.teardownId.isSome = false)
    (queued : ∀ n ∈ b.pending, isForView n) : Settled b := by
  refine ⟨pageSent,fun late => absurd (early.trans_le late) (lt_irrefl _),?_,queued⟩
  rw [unasked]
  refine ⟨nofun,fun ending => ?_⟩
  rw [ending] at early
  exact absurd early (by decide)

private theorem settled_late {b : Bridge} (late : .initialized ≤ b.phase) (emptied : b.pending = [])
    (asked : b.teardownId.isSome ↔ b.phase = .tearingDown) : Settled b := by
  refine ⟨fun early => ?_,fun _ => emptied,asked,?_⟩
  · rw [early] at late
    exact absurd late (by decide)
  · rw [emptied]
    exact fun n member => absurd member List.not_mem_nil

theorem turn_settled {b after : Bridge} {input : Input} {posted : List Rpc.Message}
    (turn : Turn b input posted after) (settled : Settled b) : Settled after := by
  obtain ⟨pageSent,emptied,asked,queued⟩ := settled
  have unasked {p : Phase} (phase : b.phase < p) (alive : p ≤ .tearingDown) :
      b.teardownId.isSome = false :=
    Bool.eq_false_iff.mpr fun some => absurd (asked.mp some) (phase.trans_le alive).ne
  cases turn with
  | introduced message r info result said method early shown =>
    exact settled_early nofun (show Phase.initializing < .initialized by decide)
      (unasked early (by decide)) queued
  | loaded message n said method waiting =>
    exact settled_early nofun (show Phase.loaded < .initialized by decide)
      (unasked (waiting.trans_lt (show Phase.awaitingProxy < .loaded by decide)) (by decide)) queued
  | listens message n said method waiting =>
    have before := unasked (waiting.trans_lt (show _ < Phase.tearingDown by decide)) le_rfl
    refine settled_late le_rfl rfl ?_
    rw [before]
    exact ⟨nofun,nofun⟩
  | ended message r said waiting named =>
    refine settled_late (show Phase.initialized ≤ .closed by decide) (emptied ?_) ⟨nofun,nofun⟩
    exact waiting ▸ (show Phase.initialized ≤ .tearingDown by decide)
  | held input n tells early =>
    refine settled_early pageSent early (unasked early (by decide)) ?_
    intro other member
    rcases List.mem_append.mp member with before | last
    · exact queued other before
    · rw [List.mem_singleton.mp last,isForView_of_tells tells]
  | changeHeld context introduced =>
    have early := introduced.trans_lt (show _ < Phase.initialized by decide)
    refine settled_early pageSent early (unasked early (by decide)) ?_
    intro other member
    rcases List.mem_append.mp member with before | last
    · exact queued other (List.mem_of_mem_filter before)
    · rw [List.mem_singleton.mp last,isForView_contextChanged]
  | closedAtOnce reason early =>
    have before := unasked early (by decide)
    refine settled_late (show Phase.initialized ≤ .closed by decide) rfl ?_
    rw [before]
    exact ⟨nofun,nofun⟩
  | asked reason alive =>
    exact settled_late (show Phase.initialized ≤ .tearingDown by decide) rfl
      ⟨fun _ => rfl,fun _ => rfl⟩
  | _ => exact ⟨pageSent,emptied,asked,queued⟩

theorem Begun.phase {b : Bridge} {earlier : List Input} (begun : Begun b earlier) :
    b.phase = .awaitingProxy := by
  obtain ⟨config,plan,rfl⟩ := begun.eq_start
  rfl

theorem Begun.settled {b : Bridge} {earlier : List Input} (begun : Begun b earlier) :
    Settled b := by
  obtain ⟨config,plan,rfl⟩ := begun.eq_start
  refine settled_early nofun (show Phase.awaitingProxy < .initialized by decide) rfl ?_
  intro n member
  obtain ⟨input,-,tells⟩ := List.mem_filterMap.mp member
  exact isForView_of_tells tells

theorem final_settled {b : Bridge} (settled : Settled b) (inputs : List (Surroundings × Input)) :
    Settled (b.final inputs) :=
  final_keeps (fun _ _ _ _ => turn_settled) settled inputs

theorem phase_le_final (b : Bridge) (inputs : List (Surroundings × Input)) :
    b.phase ≤ (b.final inputs).phase :=
  final_keeps (P := fun after => b.phase ≤ after.phase)
    (fun _ _ _ _ turn before => before.trans (turn_phase turn)) le_rfl inputs

theorem after_le_final {b : Bridge} {inputs : List (Surroundings × Input)} {m : Moment}
    (member : m ∈ b.trace inputs) : m.after.phase ≤ (b.final inputs).phase := by
  obtain ⟨first,rest,rfl,reached⟩ := mem_trace_split member
  rw [final_append,← reached]
  exact phase_le_final m.after rest

def isResourceReady : Rpc.Message → Bool
  | .notification n => n.method == Method.resourceReady
  | _ => false

def asksToEnd : Rpc.Message → Bool
  | .request r => r.method == Method.teardown
  | _ => false

def success? : Rpc.Message → Option Json
  | .response r => r.result
  | _ => none

def Moment.introduces (m : Moment) : Bool :=
  match m.input.said? with
  | some (.request r) =>
    r.method == Method.handshake && m.posted.any fun reply => (success? reply).isSome
  | _ => false

theorem isForView_cases {n : Rpc.Notification} (forView : isForView n) :
    n.method = Method.toolInput ∨ n.method = Method.toolInputPartial ∨
      n.method = Method.toolResult ∨ n.method = Method.toolCancelled ∨
      n.method = Method.contextChanged := by
  simp only [isForView,isToolNews,isContextChange,List.mem_cons,List.not_mem_nil,or_false,
    Bool.or_eq_true,decide_eq_true_eq,beq_iff_eq] at forView
  tauto

theorem not_resourceReady {n : Rpc.Notification} (forView : isForView n) :
    isResourceReady (.notification n) = false := by
  rw [isResourceReady]
  rcases isForView_cases forView with method | method | method | method | method <;>
    rw [method] <;> decide

private theorem countP_notifications {p : Rpc.Message → Bool} {ns : List Rpc.Notification}
    (apart : ∀ n ∈ ns, p (.notification n) = false) :
    (ns.map Rpc.Message.notification).countP p = 0 := by
  rw [List.countP_eq_zero]
  intro message member
  obtain ⟨n,inside,rfl⟩ := List.mem_map.mp member
  rw [apart n inside]
  exact Bool.false_ne_true

theorem mem_inOrder {pending : List Rpc.Notification} {n : Rpc.Notification} :
    n ∈ inOrder pending ↔ n ∈ pending := by
  simp only [inOrder,List.mem_append,List.mem_filter]
  cases isToolInput n <;> simp

private theorem turn_resourceReady {b after : Bridge} {input : Input} {posted : List Rpc.Message}
    (turn : Turn b input posted after) (settled : Settled b) :
    posted.countP isResourceReady = 0 ∨
      posted.countP isResourceReady = 1 ∧ b.phase < .loaded ∧ .loaded ≤ after.phase := by
  cases turn with
  | loaded message n said method waiting =>
    exact .inr ⟨by rfl,waiting.trans_lt (show _ < Phase.loaded by decide),le_rfl⟩
  | listens message n said method waiting =>
    exact .inl (countP_notifications fun n member =>
      not_resourceReady (settled.queued n (mem_inOrder.mp member)))
  | told input n tells listens =>
    exact .inl (by simp [not_resourceReady (isForView_of_tells tells)])
  | changed context listens =>
    exact .inl (by simp [not_resourceReady (isForView_contextChanged context)])
  | _ => exact .inl rfl

private theorem turn_asksToEnd {b after : Bridge} {input : Input} {posted : List Rpc.Message}
    (turn : Turn b input posted after) :
    posted.countP asksToEnd = 0 ∨
      posted.countP asksToEnd = 1 ∧ b.phase < .tearingDown ∧ .tearingDown ≤ after.phase := by
  cases turn with
  | asked reason alive =>
    refine .inr ⟨by rfl,?_,le_rfl⟩
    rcases alive with waiting | waiting
    · exact waiting.trans_lt (show _ < Phase.tearingDown by decide)
    · exact waiting.trans_lt (show _ < Phase.tearingDown by decide)
  | listens message n said method waiting =>
    exact .inl (countP_notifications fun n member => rfl)
  | _ => exact .inl rfl

/-- Only a view that has not been introduced yet is introduced. -/
theorem introduces_phase {m : Moment} (introduces : m.introduces) :
    m.before.phase < .initializing ∧ m.after.phase = .initializing := by
  have turn := m.turn
  unfold Moment.introduces at introduces
  generalize m.input = input at turn introduces
  generalize m.posted = posted at turn introduces
  generalize m.after = after at turn
  cases turn with
  | introduced message r info result said method early shown => exact ⟨early,rfl⟩
  | answered message r reply tools said opened id other =>
    simp only [said_message said,Bool.and_eq_true,beq_iff_eq] at introduces
    simp [success?,other (.inl introduces.1)] at introduces
  | granted message r mode said method opened =>
    simp only [said_message said,Bool.and_eq_true,beq_iff_eq,method] at introduces
    exact absurd introduces.1 (by decide)
  | loaded message n said method waiting => simp [said_message said] at introduces
  | listens message n said method waiting => simp [said_message said] at introduces
  | told input n tells listens => simp [said_of_tells tells] at introduces
  | unheard message passed =>
    split at introduces
    · simp at introduces
    · cases introduces
  | ended message r said waiting asked => simp [said_message said] at introduces
  | held input n tells early => simp [said_of_tells tells] at introduces
  | dropped input n tells late => simp [said_of_tells tells] at introduces
  | _ => cases introduces

private theorem countP_flatMap_posted (p : Rpc.Message → Bool) (moments : List Moment) :
    (moments.flatMap Moment.posted).countP p =
      (moments.map fun m => m.posted.countP p).sum := by
  rw [List.countP_flatMap]
  rfl

private theorem countP_eq_sum (p : Moment → Bool) (moments : List Moment) :
    moments.countP p = (moments.map fun m => if p m then 1 else 0).sum := by
  induction moments with
  | nil => rfl
  | cons m moments ih => rw [List.countP_cons,List.map_cons,List.sum_cons,ih,Nat.add_comm]

private theorem turn_teardownId {b after : Bridge} {input : Input} {posted : List Rpc.Message}
    (turn : Turn b input posted after) {id : Rpc.Id} (asked : after.teardownId = some id) :
    b.teardownId = some id ∨ ∃ q, .request q ∈ posted ∧ q.method = Method.teardown ∧ q.id = id := by
  cases turn with
  | ended message r said waiting named => cases asked
  | asked reason alive =>
    exact .inr ⟨_,List.mem_singleton_self _,rfl,Option.some.inj asked⟩
  | _ => exact .inl asked

/-- The id that a bridge waits for is that of a request that the run has posted. -/
theorem asked_of_teardownId {b : Bridge} {inputs : List (Surroundings × Input)} {id : Rpc.Id}
    (unasked : b.teardownId = none) (asked : (b.final inputs).teardownId = some id) :
    ∃ t ∈ b.trace inputs, ∃ q, .request q ∈ t.posted ∧ q.method = Method.teardown ∧ q.id = id := by
  induction inputs using List.reverseRecOn with
  | nil => rw [show b.final [] = b from rfl,unasked] at asked; cases asked
  | append_singleton first last ih =>
    rw [final_concat] at asked
    rw [trace_concat]
    obtain before | posts := turn_teardownId (Moment.turn ⟨b.final first,last.1,last.2⟩) asked
    · obtain ⟨t,member,posts⟩ := ih before
      exact ⟨t,List.mem_append_left _ member,posts⟩
    · exact ⟨_,List.mem_append_right _ (List.mem_singleton_self _),posts⟩

private theorem turn_closes {b after : Bridge} {input : Input} {posted : List Rpc.Message}
    (turn : Turn b input posted after) (alive : b.phase ≠ .closed)
    (closed : after.phase = .closed) :
    ((∃ reason, input = .teardown reason) ∧ b.phase < .initializing) ∨
    (b.phase = .tearingDown ∧ ∃ r, input.said? = some (.response r) ∧
      b.teardownId = some r.id) := by
  cases turn with
  | ended message r said waiting asked => exact .inr ⟨waiting,r,said_message said,asked⟩
  | closedAtOnce reason early => exact .inl ⟨⟨reason,rfl⟩,early⟩
  | introduced message r info result said method early shown => cases closed
  | loaded message n said method waiting => cases closed
  | listens message n said method waiting => cases closed
  | asked reason alive => cases closed
  | _ => exact absurd closed alive

/-- The life of a bridge. After any run, and over any further input: what the bridge holds fits its
phase, the phase does not go back, and a closed bridge stays closed and silent. A bridge closes only
when it is torn down before the view was introduced, or when the view answers the request to end by
its id. Over the run the page is sent at most once, the view is introduced at most once, and it is
asked to end at most once. -/
theorem lifecycle {b : Bridge} {earlier : List Input} (begun : Begun b earlier)
    (inputs : List (Surroundings × Input)) :
    (∀ s input, let m : Moment := ⟨b.final inputs,s,input⟩
      Settled m.before ∧ Settled m.after ∧ m.before.phase ≤ m.after.phase ∧
      (m.before.phase = .closed → m.after.phase = .closed ∧ m.posted = []) ∧
      (m.before.phase ≠ .closed → m.after.phase = .closed →
        ((∃ reason, input = .teardown reason) ∧ ∀ t ∈ b.trace inputs, t.introduces = false) ∨
        (m.before.phase = .tearingDown ∧ ∃ r, input.said? = some (.response r) ∧
          ∃ t ∈ b.trace inputs, ∃ q, .request q ∈ t.posted ∧ q.method = Method.teardown ∧
            q.id = r.id))) ∧
    ((b.trace inputs).flatMap Moment.posted).countP isResourceReady ≤ 1 ∧
    (b.trace inputs).countP Moment.introduces ≤ 1 ∧
    ((b.trace inputs).flatMap Moment.posted).countP asksToEnd ≤ 1 := by
  have onward (m : Moment) : m.before.phase ≤ m.after.phase := turn_phase m.turn
  have keeps (b : Bridge) (input posted after) (turn : Turn b input posted after) :
      Settled b → Settled after := turn_settled turn
  refine ⟨?_,?_,?_,?_⟩
  · intro s input m
    have settled := final_settled begun.settled inputs
    refine ⟨settled,turn_settled m.turn settled,onward m,?_,?_⟩
    · intro closed
      exact (turn_closed m.turn closed).symm
    · intro alive closed
      obtain ⟨ends,early⟩ | ⟨waiting,r,said,named⟩ := turn_closes m.turn alive closed
      · refine .inl ⟨ends,fun t member => Bool.eq_false_iff.mpr fun introduces => ?_⟩
        have late := after_le_final member
        rw [(introduces_phase introduces).2] at late
        exact absurd early (not_lt.mpr late)
      · have unasked : b.teardownId = none := by
          obtain ⟨config,plan,rfl⟩ := begun.eq_start
          rfl
        exact .inr ⟨waiting,r,said,asked_of_teardownId unasked named⟩
  · rw [countP_flatMap_posted]
    exact sum_le_one keeps _ .loaded onward
      (fun m settled => turn_resourceReady m.turn settled) begun.settled inputs
  · rw [countP_eq_sum]
    refine sum_le_one keeps _ .initializing onward (fun m settled => ?_) begun.settled inputs
    by_cases introduces : m.introduces
    · obtain ⟨early,late⟩ := introduces_phase introduces
      exact .inr ⟨if_pos introduces,early,late.ge⟩
    · exact .inl (if_neg introduces)
  · rw [countP_flatMap_posted]
    exact sum_le_one keeps _ .tearingDown onward (fun m _ => turn_asksToEnd m.turn)
      begun.settled inputs

def Sample.life : List (Surroundings × Input) :=
  introduction ++ [tells Method.initialized,
    asks 2 Method.handshake [("protocolVersion",some (.str latestVersion))],
    comes (.teardown none),comes (.teardown none),
    comes (.message (Rpc.Response.success (.number 1) nothing).encode)]

theorem lifecycle_sample :
    let b := start Sample.host Sample.plan
    Begun b [] ∧ (b.final Sample.life).phase = .closed ∧ Settled (b.final Sample.life) ∧
      ((b.trace Sample.life).flatMap Moment.posted).countP isResourceReady ≤ 1 ∧
      (b.trace Sample.life).countP Moment.introduces ≤ 1 ∧
      ((b.trace Sample.life).flatMap Moment.posted).countP asksToEnd ≤ 1 := by
  have begun : Begun (start Sample.host Sample.plan) [] := .new Sample.host Sample.plan
  obtain ⟨steps,counts⟩ := lifecycle begun Sample.life
  exact ⟨begun,by decide +kernel,(steps Sample.surroundings (.teardown none)).1,counts⟩

end ToolView.Bridge
