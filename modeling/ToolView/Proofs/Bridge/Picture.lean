import Mathlib
import ToolView.Proofs.Members
import ToolView.Proofs.Bridge.Lifecycle
import ToolView.Proofs.Bridge.Delivery

/-! What a view takes its surroundings to be, from the messages that it is sent alone. The host's
own record of them and the view's picture can come apart in one way only: a change waits for the
view, a mode is granted meanwhile, and the change, which is older, is delivered last. -/

namespace ToolView.Bridge

def withMember (key : String) (value json : Json) : Json :=
  match json.object? with
  | some o => .ofObject (o.insert key value)
  | none => json

def Input.asks? (input : Input) : Option String :=
  match input.said? with
  | some (.request r) => some r.method
  | _ => none

/-- What a view takes its surroundings to be when it has read a message, which may be the response
to what it has asked for. -/
def look (asked : Option String) (seen : Option Json) : Rpc.Message → Option Json
  | .notification n => if isContextChange n then n.params else seen
  | .response r =>
    match r.result with
    | none => seen
    | some result =>
      if asked = some Method.handshake then result.get? "hostContext"
      else if asked = some Method.requestDisplayMode then
        match result.get? "mode" with
        | some mode => seen.map (withMember "displayMode" mode)
        | none => seen
      else seen
  | _ => seen

/-- The surroundings of a view as the messages of a run show them. -/
def picture (moments : List Moment) : Option Json :=
  moments.foldl (fun seen m => m.posted.foldl (look m.input.asks?) seen) none

/-- What makes the surroundings of a view others than they were. -/
inductive Shift where
  | changed (context : HostContext)
  | granted (mode : DisplayMode)

def granted? (message : Rpc.Message) : Option DisplayMode :=
  (success? message).bind fun result =>
    (result.get? "mode").bind fun mode => (DisplayMode.decode mode).toOption

def shift? (phase : Phase) (input : Input) (posted : List Rpc.Message) : Option (Phase × Shift) :=
  match input with
  | .hostContext context => some (phase,.changed context)
  | .message _ =>
    if input.asks? = some Method.requestDisplayMode then
      (posted.findSome? granted?).map fun mode => (phase,.granted mode)
    else none
  | _ => none

def Moment.shift? (m : Moment) : Option (Phase × Shift) :=
  Bridge.shift? m.before.phase m.input m.posted

def shifts (moments : List Moment) : List (Phase × Shift) := moments.filterMap Moment.shift?

/-- A change that waits for the view until it listens. -/
def waits? : Phase × Shift → Option HostContext
  | (.initializing,.changed context) => some context
  | _ => none

def awaited (all : List (Phase × Shift)) : Option HostContext := (all.filterMap waits?).getLast?

/-- A change waited for the view and was overtaken: another mode than the one it names was granted
while it waited, and nothing has shifted since. -/
def Overtaken (all : List (Phase × Shift)) : Prop :=
  ∃ context mode, awaited all = some context ∧
    all.getLast? = some (.initializing,.granted mode) ∧ context.displayMode ≠ some mode

section overtaking
variable {all : List (Phase × Shift)} {phase : Phase}

theorem not_overtaken_of_none (unheld : awaited all = none) : ¬ Overtaken all := by
  rintro ⟨context,mode,held,-,-⟩
  rw [unheld] at held
  cases held

theorem not_overtaken_changed (context : HostContext) :
    ¬ Overtaken (all ++ [(phase,.changed context)]) := by
  rintro ⟨_,mode,-,last,-⟩
  rw [List.getLast?_concat] at last
  cases last

theorem awaited_granted (mode : DisplayMode) :
    awaited (all ++ [(phase,.granted mode)]) = awaited all := by
  rw [awaited,List.filterMap_append,List.filterMap_cons_none (by cases phase <;> rfl),
    List.filterMap_nil,List.append_nil,awaited]

theorem overtaken_granted (mode : DisplayMode) :
    Overtaken (all ++ [(phase,.granted mode)]) ↔ phase = .initializing ∧
      ∃ context, awaited all = some context ∧ context.displayMode ≠ some mode := by
  rw [Overtaken,awaited_granted,List.getLast?_concat]
  constructor
  · rintro ⟨context,_,held,last,other⟩
    cases last
    exact ⟨rfl,context,held,other⟩
  · rintro ⟨rfl,context,held,other⟩
    exact ⟨context,mode,held,rfl,other⟩

end overtaking

private theorem context_nodup : ["toolInfo","theme","displayMode","availableDisplayModes",
    "containerDimensions","locale","timeZone","platform"].Nodup := by decide

private theorem encode_displayMode (c : HostContext) :
    c.encode.get? "displayMode" = c.displayMode.map DisplayMode.encode := by
  rw [HostContext.encode,Json.get?_record]
  · rfl
  · exact context_nodup

private theorem encode_inj {c d : HostContext} (same : c.encode = d.encode) :
    c.displayMode = d.displayMode := by
  have modes := congrArg (Json.get? "displayMode") same
  rw [encode_displayMode,encode_displayMode] at modes
  refine Option.map_injective ?_ modes
  intro m n equal
  cases m <;> cases n <;> first | rfl | exact absurd equal (by decide)

/-- A view that sets the mode it is granted sees what the host then has on record. -/
private theorem withMember_encode (c : HostContext) (mode : DisplayMode) :
    withMember "displayMode" mode.encode c.encode = { c with displayMode := some mode }.encode := by
  unfold withMember HostContext.encode
  rw [Json.record_eq,Json.object?_ofObject,Json.record_eq]
  refine congrArg Json.ofObject
    (Json.members_insert [("toolInfo",c.toolInfo),("theme",c.theme.map .str)] ?_ mode.encode)
  exact context_nodup

private theorem look_notifications (asked : Option String) (seen : Option Json)
    (ns : List Rpc.Notification) :
    (ns.map .notification).foldl (look asked) seen =
      (ns.filter isContextChange).foldl (fun _ n => n.params) seen := by
  induction ns generalizing seen with
  | nil => rfl
  | cons n ns ih =>
    rw [List.map_cons,List.foldl_cons,ih,look]
    split_ifs with change
    · rw [List.filter_cons_of_pos change,List.foldl_cons]
    · rw [List.filter_cons_of_neg change]

private theorem inOrder_changes (pending : List Rpc.Notification) :
    (inOrder pending).filter isContextChange = pending.filter isContextChange := by
  have input (n : Rpc.Notification) : (isContextChange n && isToolInput n) = false := by
    cases change : isContextChange n with
    | false => rfl
    | true => rw [not_toolInput change]; rfl
  have others (n : Rpc.Notification) :
      (isContextChange n && !isToolInput n) = isContextChange n := by
    cases change : isContextChange n with
    | false => rfl
    | true => rw [not_toolInput change]; rfl
  rw [inOrder,List.filter_append,List.filter_filter,List.filter_filter]
  simp only [input,others,List.filter_false,List.nil_append]

/-- The host's record differs from what the view has seen, or is about to see, in the mode at most,
and does so just if a change was overtaken. -/
structure Follows (all : List (Phase × Shift)) (b : Bridge) (c : HostContext) : Prop where
  elsewhere : b.hostContext = { c with displayMode := b.hostContext.displayMode }
  current : b.hostContext = c ↔ ¬ Overtaken all

/-- What a view has seen by the time that the bridge is in some phase. -/
structure Tracks (seen : Option Json) (all : List (Phase × Shift)) (b : Bridge) : Prop where
  unseen : b.phase < .initializing →
    seen = none ∧ awaited all = none ∧ b.pending.filter isContextChange = []
  waiting : b.phase = .initializing → ∃ c, Follows all b c ∧
    (awaited all = none ∧ b.pending.filter isContextChange = [] ∧ seen = some c.encode ∨
      awaited all = some c ∧ b.pending.filter isContextChange = [contextChanged c])
  seeing : b.phase = .initialized → ∃ c, Follows all b c ∧ seen = some c.encode

section turns
variable {b after : Bridge} {input : Input} {posted : List Rpc.Message} {seen : Option Json}
  {all : List (Phase × Shift)}

theorem Tracks.of_late (late : .tearingDown ≤ after.phase) : Tracks seen all after where
  unseen early := absurd (early.trans_le (le_trans (by decide) late)) (lt_irrefl _)
  waiting here := absurd late (here ▸ (by decide : ¬ Phase.tearingDown ≤ .initializing))
  seeing here := absurd late (here ▸ (by decide : ¬ Phase.tearingDown ≤ .initialized))

/-- What touches neither the record nor the changes that wait keeps the view's picture right. -/
theorem Tracks.quiet (tracks : Tracks seen all b) (record : after.hostContext = b.hostContext)
    (queue : after.pending.filter isContextChange = b.pending.filter isContextChange)
    (phase : after.phase = b.phase) : Tracks seen all after where
  unseen early := by
    rw [queue]
    exact tracks.unseen (phase ▸ early)
  waiting here := by
    obtain ⟨c,⟨elsewhere,current⟩,rest⟩ := tracks.waiting (phase ▸ here)
    rw [queue]
    exact ⟨c,⟨record.symm ▸ elsewhere,record.symm ▸ current⟩,rest⟩
  seeing here := by
    obtain ⟨c,⟨elsewhere,current⟩,rest⟩ := tracks.seeing (phase ▸ here)
    exact ⟨c,⟨record.symm ▸ elsewhere,record.symm ▸ current⟩,rest⟩

private theorem shownIn_hostContext {c : HostContext} (follows : Follows all b c)
    (mode : DisplayMode) :
    (b.shownIn mode).hostContext = { c with displayMode := some mode } := by
  rw [shownIn,follows.elsewhere]

private theorem shown_eq_self {c : HostContext} {mode : DisplayMode} :
    { c with displayMode := some mode } = c ↔ c.displayMode = some mode := by
  constructor
  · intro equal
    rw [← equal]
  · intro equal
    rw [← equal]

/-- A mode that is granted goes into the record and into the picture, but not into a change that
waits. -/
theorem Tracks.granted (tracks : Tracks seen all b) (mode : DisplayMode) :
    Tracks (seen.map (withMember "displayMode" mode.encode)) (all ++ [(b.phase,.granted mode)])
      (b.shownIn mode) := by
  have same : awaited (all ++ [(b.phase,.granted mode)]) = awaited all := awaited_granted mode
  constructor
  · intro early
    obtain ⟨unseen,unheld,queue⟩ := tracks.unseen early
    rw [same,unseen]
    exact ⟨rfl,unheld,queue⟩
  · intro here
    obtain ⟨c,follows,held⟩ := tracks.waiting here
    have record := shownIn_hostContext follows mode
    rw [same]
    -- Nothing waits and the picture moves with the record, or a change waits and the record alone
    -- moves: what the view will see when it listens is still that change.
    rcases held with ⟨unheld,queue,rfl⟩ | ⟨held,queue⟩
    · refine ⟨{ c with displayMode := some mode },⟨?_,?_⟩,.inl ⟨unheld,queue,?_⟩⟩
      · rw [record]
      · exact ⟨fun _ => not_overtaken_of_none (same.trans unheld),fun _ => record⟩
      · rw [Option.map_some,withMember_encode]
    · refine ⟨c,⟨?_,?_⟩,.inr ⟨held,queue⟩⟩
      · rw [record]
      · rw [record,shown_eq_self,overtaken_granted,held]
        constructor
        · rintro equal ⟨-,_,⟨⟩,other⟩
          exact other equal
        · intro kept
          by_contra other
          exact kept ⟨here,c,rfl,other⟩
  · intro here
    obtain ⟨c,follows,rfl⟩ := tracks.seeing here
    have record := shownIn_hostContext follows mode
    refine ⟨{ c with displayMode := some mode },⟨?_,?_⟩,?_⟩
    · rw [record]
    · refine ⟨fun _ overtaken => ?_,fun _ => record⟩
      have waiting := ((overtaken_granted mode).mp overtaken).1
      cases waiting.symm.trans here
    · rw [Option.map_some,withMember_encode]

/-- A change that waits is what the view will have seen when it listens. -/
theorem Tracks.changeHeld (context : HostContext)
    (here : b.phase = .initializing) :
    Tracks seen (all ++ [(b.phase,.changed context)])
      { b.inContext context with
        pending := b.pending.filter (!isContextChange ·) ++ [contextChanged context] } := by
  have held : awaited (all ++ [(b.phase,.changed context)]) = some context := by
    rw [awaited,List.filterMap_append,here]
    exact List.getLast?_concat
  constructor
  · intro early
    exact absurd early (here ▸ lt_irrefl _)
  · intro _
    refine ⟨context,⟨rfl,fun _ => not_overtaken_changed context,fun _ => rfl⟩,.inr ⟨held,?_⟩⟩
    rw [List.filter_append,List.filter_filter]
    simp only [Bool.and_not_self,List.filter_false,List.nil_append]
    rfl
  · intro other
    cases here.symm.trans other

theorem Tracks.changed (context : HostContext) (here : b.phase = .initialized) :
    Tracks (some context.encode) (all ++ [(b.phase,.changed context)]) (b.inContext context) := by
  constructor
  · intro early
    rw [show (b.inContext context).phase = _ from here] at early
    exact absurd early (by decide)
  · intro other
    cases here.symm.trans other
  · intro _
    exact ⟨context,⟨rfl,fun _ => not_overtaken_changed context,fun _ => rfl⟩,rfl⟩

theorem Tracks.changeKept (tracks : Tracks seen all b) (context : HostContext)
    (apart : b.phase ≠ .initializing ∧ b.phase ≠ .initialized) :
    Tracks seen (all ++ [(b.phase,.changed context)]) (b.inContext context) := by
  constructor
  · intro early
    obtain ⟨unseen,unheld,queue⟩ := tracks.unseen early
    refine ⟨unseen,?_,queue⟩
    rw [awaited,List.filterMap_append,List.filterMap_cons_none,List.filterMap_nil,List.append_nil]
    · exact unheld
    · rw [waits?]
      intro _ same
      exact absurd (congrArg Prod.fst same) apart.1
  · exact fun here => absurd here apart.1
  · exact fun here => absurd here apart.2

theorem Tracks.loaded (tracks : Tracks seen all b) (here : b.phase = .awaitingProxy) :
    Tracks seen all { b with phase := .loaded } where
  unseen _ := tracks.unseen (here ▸ (by decide : Phase.awaitingProxy < .initializing))
  waiting other := by cases other
  seeing other := by cases other

/-- A view that introduces itself is shown the record as it stands. -/
theorem Tracks.introduced (tracks : Tracks seen all b) (early : b.phase < .initializing)
    {info : Option AppInfo} {version : Option String} :
    Tracks (some b.hostContext.encode) all
      { b with appInfo := info, protocolVersion := version, phase := .initializing } := by
  obtain ⟨-,unheld,queue⟩ := tracks.unseen early
  constructor
  · intro other
    exact absurd other (lt_irrefl _)
  · intro _
    exact ⟨b.hostContext,⟨rfl,fun _ => not_overtaken_of_none unheld,fun _ => rfl⟩,
      .inl ⟨unheld,queue,rfl⟩⟩
  · intro other
    cases other

theorem Tracks.listens (tracks : Tracks seen all b) (here : b.phase = .initializing) :
    Tracks (((inOrder b.pending).map .notification).foldl (look none) seen) all
      { b with phase := .initialized, pending := [] } := by
  constructor
  · intro early
    exact absurd early (by decide : ¬ Phase.initialized < .initializing)
  · intro other
    cases other
  · intro _
    obtain ⟨c,⟨elsewhere,current⟩,held⟩ := tracks.waiting here
    refine ⟨c,⟨elsewhere,current⟩,?_⟩
    rw [look_notifications,inOrder_changes]
    rcases held with ⟨-,queue,rfl⟩ | ⟨-,queue⟩
    · rw [queue]
      rfl
    · rw [queue]
      rfl

private theorem asks_request {message : Json} {r : Rpc.Request}
    (said : Rpc.Message.decode message = .ok (.request r)) :
    (Input.message message).asks? = some r.method := by
  rw [Input.asks?,said_message said]

private theorem asks_notification {message : Json} {n : Rpc.Notification}
    (said : Rpc.Message.decode message = .ok (.notification n)) :
    (Input.message message).asks? = none := by
  rw [Input.asks?,said_message said]

private theorem shift_message {message : Json} (phase : Phase)
    (other : (Input.message message).asks? ≠ some Method.requestDisplayMode) :
    shift? phase (.message message) posted = none := if_neg other

private theorem shift_notification {message : Json} {n : Rpc.Notification}
    (said : Rpc.Message.decode message = .ok (.notification n)) (phase : Phase) :
    shift? phase (.message message) posted = none := by
  apply shift_message phase
  rw [asks_notification said]
  exact (Option.some_ne_none _).symm

private theorem shift_silent (message : Json) (phase : Phase) :
    shift? phase (.message message) [] = none := by
  simp only [shift?]
  split_ifs <;> rfl

private theorem shift_of_tells {n : Rpc.Notification} (tells : input.tells? = some n)
    (phase : Phase) : shift? phase input posted = none := by
  cases input <;> first | rfl | cases tells

private theorem look_unanswered {r : Rpc.Request} {reply : Rpc.Response}
    (other : r.method = Method.handshake ∨ r.method = Method.requestDisplayMode →
      reply.result = none) :
    look (some r.method) seen (.response reply) = seen := by
  rw [look]
  split
  next => rfl
  next result answered =>
    have apart : ¬ (r.method = Method.handshake ∨ r.method = Method.requestDisplayMode) := by
      intro either
      cases (other either).symm.trans answered
    rw [not_or] at apart
    rw [if_neg (fun same => apart.1 (Option.some.inj same)),
      if_neg (fun same => apart.2 (Option.some.inj same))]

private theorem shift_unanswered {r : Rpc.Request} {reply : Rpc.Response} {message : Json}
    (asks : (Input.message message).asks? = some r.method) (phase : Phase)
    (other : r.method = Method.handshake ∨ r.method = Method.requestDisplayMode →
      reply.result = none) :
    shift? phase (.message message) [.response reply] = none := by
  by_cases display : r.method = Method.requestDisplayMode
  · have refused := other (.inr display)
    simp only [shift?,asks,display,if_true,List.findSome?_cons,granted?,success?,refused]
    rfl
  · refine shift_message phase ?_
    rw [asks]
    exact fun same => display (Option.some.inj same)

theorem tracks_turn (turn : Turn b input posted after) (tracks : Tracks seen all b) :
    Tracks (posted.foldl (look input.asks?) seen) (all ++ (shift? b.phase input posted).toList)
      after := by
  cases turn with
  | unheard message passed =>
    rw [shift_silent,Option.toList_none,List.append_nil]
    exact tracks
  | answered message r reply tools said opened id other =>
    rw [shift_unanswered (asks_request said) b.phase other,Option.toList_none,List.append_nil,
      List.foldl_cons,List.foldl_nil,asks_request said,look_unanswered other]
    exact tracks.quiet rfl rfl rfl
  | introduced message r info result said method early shown =>
    have asks : (Input.message message).asks? = some Method.handshake := by
      rw [asks_request said,method]
    have context : result.encode.get? "hostContext" = some b.hostContext.encode := by
      rw [InitializeResult.encode,Json.get?_record]
      · rw [shown]
        rfl
      · exact (by decide : ["protocolVersion","hostCapabilities","hostInfo","hostContext"].Nodup)
    rw [shift_message b.phase (by rw [asks]; decide),Option.toList_none,List.append_nil,asks,
      List.foldl_cons,List.foldl_nil,look,Rpc.Response.success]
    simp only [if_true,context]
    exact tracks.introduced early
  | granted message r mode said method opened =>
    have asks : (Input.message message).asks? = some Method.requestDisplayMode := by
      rw [asks_request said,method]
    have named : (DisplayModeParams.mk mode).encode.get? "mode" = some mode.encode := by
      rw [DisplayModeParams.encode,Json.get?_record]
      · rfl
      · exact (by decide : ["mode"].Nodup)
    have read : DisplayMode.decode mode.encode = .ok mode := by
      cases mode <;> rfl
    have shifts : shift? b.phase (.message message)
        [.response (.success r.id (DisplayModeParams.mk mode).encode)] =
          some (b.phase,.granted mode) := by
      simp only [shift?,asks,if_true,List.findSome?_cons,granted?,success?,Rpc.Response.success,
        Option.bind_some,named,read,Except.toOption,Option.map_some]
    rw [shifts,asks,List.foldl_cons,List.foldl_nil,look,Rpc.Response.success]
    simp only [if_neg (by decide : some Method.requestDisplayMode ≠ some Method.handshake),if_true,
      named]
    exact tracks.granted mode
  | loaded message n said method waiting =>
    rw [shift_notification said,Option.toList_none,List.append_nil]
    exact tracks.loaded waiting
  | listens message n said method waiting =>
    rw [shift_notification said,Option.toList_none,List.append_nil,asks_notification said]
    exact tracks.listens waiting
  | ended message r said waiting asked =>
    exact .of_late (show Phase.tearingDown ≤ .closed by decide)
  | told input n tells listens =>
    rw [shift_of_tells tells,Option.toList_none,List.append_nil,List.foldl_cons,List.foldl_nil,look,
      kept_of_tells tells]
    exact tracks
  | held input n tells early =>
    rw [shift_of_tells tells,Option.toList_none,List.append_nil]
    refine tracks.quiet rfl ?_ rfl
    rw [List.filter_append,List.filter_cons_of_neg (by rw [kept_of_tells tells]; decide),
      List.filter_nil,List.append_nil]
  | dropped input n tells late => exact .of_late late
  | changed context listens => exact .changed context listens
  | changeHeld context introduced => exact .changeHeld context introduced
  | changeKept context apart => exact tracks.changeKept context apart
  | closedAtOnce reason early => exact .of_late (show Phase.tearingDown ≤ .closed by decide)
  | asked reason alive => exact .of_late le_rfl
  | endsAlready reason late => exact .of_late late

end turns

theorem picture_concat (moments : List Moment) (m : Moment) :
    picture (moments ++ [m]) = m.posted.foldl (look m.input.asks?) (picture moments) := by
  rw [picture,List.foldl_append]
  rfl

theorem shifts_concat (moments : List Moment) (m : Moment) :
    shifts (moments ++ [m]) = shifts moments ++ m.shift?.toList := by
  rw [shifts,List.filterMap_append]
  cases shift : m.shift? with
  | none => rw [List.filterMap_cons_none shift]; rfl
  | some s => rw [List.filterMap_cons_some shift]; rfl

theorem tracks_trace {b : Bridge} {earlier : List Input} (begun : Begun b earlier)
    (inputs : List (Surroundings × Input)) :
    Tracks (picture (b.trace inputs)) (shifts (b.trace inputs)) (b.final inputs) := by
  induction inputs using List.reverseRecOn with
  | nil =>
    obtain ⟨config,plan,rfl⟩ := begun.eq_start
    -- What a renderer has told before is news of the tool and no change of the surroundings.
    refine ⟨fun _ => ⟨rfl,rfl,?_⟩,nofun,nofun⟩
    refine List.filter_eq_nil_iff.mpr fun n member => ?_
    obtain ⟨input,-,tells⟩ := List.mem_filterMap.mp member
    rw [kept_of_tells tells]
    exact Bool.false_ne_true
  | append_singleton first last ih =>
    rw [trace_concat,final_concat,picture_concat,shifts_concat]
    exact tracks_turn (Moment.turn ⟨b.final first,last.1,last.2⟩) ih

/-- A view that listens sees its surroundings as the host has them on record, unless the last thing
that made them others was a mode granted before it listened, while a change that names another mode
was waiting for it. -/
theorem picture_current_iff {b : Bridge} {earlier : List Input} (begun : Begun b earlier)
    (inputs : List (Surroundings × Input)) (listens : (b.final inputs).phase = .initialized) :
    picture (b.trace inputs) = some (b.final inputs).hostContext.encode ↔
      ¬ Overtaken (shifts (b.trace inputs)) := by
  obtain ⟨c,⟨elsewhere,current⟩,seen⟩ := (tracks_trace begun inputs).seeing listens
  rw [seen,← current]
  constructor
  · intro same
    rw [elsewhere,← encode_inj (Option.some.inj same)]
  · intro same
    rw [same]

def Sample.overtaking : List (Surroundings × Input) :=
  introduction ++ [comes (.hostContext { host.hostContext with theme := "light" }),
    asks 2 Method.requestDisplayMode [("mode",some (.str "fullscreen"))],
    tells Method.initialized]

theorem picture_current_iff_overtaking :
    let b := start Sample.host Sample.plan
    Begun b [] ∧ (b.final Sample.overtaking).phase = .initialized ∧
      (picture (b.trace Sample.overtaking) = some (b.final Sample.overtaking).hostContext.encode ↔
        ¬ Overtaken (shifts (b.trace Sample.overtaking))) := by
  have begun : Begun (start Sample.host Sample.plan) [] := .new Sample.host Sample.plan
  exact ⟨begun,by decide +kernel,picture_current_iff begun Sample.overtaking (by decide +kernel)⟩

/-- The view goes back to the mode that the change names, while the host has the one it granted. -/
theorem picture_stale : ∃ b earlier inputs, Begun b earlier ∧
    (b.final inputs).phase = .initialized ∧ (b.final inputs).displayMode = .fullscreen ∧
    picture (b.trace inputs) =
      some { (b.final inputs).hostContext with displayMode := some .inline }.encode ∧
    picture (b.trace inputs) ≠ some (b.final inputs).hostContext.encode :=
  ⟨start Sample.host Sample.plan,[],Sample.overtaking,.new _ _,by decide +kernel,by decide +kernel,
    by decide +kernel,by decide +kernel⟩

end ToolView.Bridge
