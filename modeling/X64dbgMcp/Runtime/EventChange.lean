import X64dbgMcp.Runtime.Snapshot

/-!
# What a callback does to the event log

A callback first moves the session bookkeeping, then records at most one event,
and may close the debug session.  A callback that announces or establishes a
session always records.  `Change` says this once; everything about event
histories follows from it.
-/

namespace X64dbgMcp.Runtime

open Trace

/-- The session bookkeeping at the beginning of a callback. -/
inductive SessionMove where
  | none
  | announce
  | establish
  deriving DecidableEq

namespace EventLog

/-- What a callback does to the session of the log. -/
def sessionMove (log : EventLog) (callbackType : CallbackType) : SessionMove :=
  match callbackType with
  | .initDebug => .announce
  | .attach => if log.candidateEventSession.isNone then .announce else .none
  | .createProcess => if log.eventSessionEstablished then .none else .establish
  | _ => .none

/-- The log behind that. -/
def move (log : EventLog) : SessionMove → EventLog
  | .none => log
  | .announce => log.openCandidate
  | .establish => log.establish

/-- Close the session of a log or leave it. -/
def closeIf (log : EventLog) (closes : Bool) : EventLog :=
  if closes then log.closeCandidate else log

/-- One callback: the move, the recorded event and whether the session closes. -/
inductive Change (before : EventLog) : SessionMove → Bool → List EventRecord → EventLog → Prop
  | kept : Change before .none false [] before
  | recorded (move : SessionMove) (closes : Bool) (input : RecordInput) (event : EventRecord) :
      Change before move closes ((before.move move).recordEventLocked input event).1.toList
        (((before.move move).recordEventLocked input event).2.closeIf closes)

theorem Change.of_eq {before after : EventLog} (same : after = before) :
    Change before .none false [] after :=
  same ▸ .kept

/-- A change that closes nothing. -/
theorem leavesOpen {before after : EventLog} {move : SessionMove} {recorded : List EventRecord}
    {closing : Prop} (change : Change before move false recorded after) :
    ∃ closes, (closes = true → closing) ∧ Change before move closes recorded after :=
  ⟨false, by simp, change⟩

end EventLog

/-- The flags that identify the callbacks which move the session. -/
structure Plan.Marked (plan : Plan) : Prop where
  initDebug : plan.callbackType = .initDebug → plan.resetOrigin = true
  attach : plan.callbackType = .attach → plan.markAttached = true
  createProcess : plan.callbackType = .createProcess → plan.markLaunched = true

namespace State

open EventLog

theorem events_updateSession (state : State) (plan : Plan) :
    (state.updateSession plan).events =
      state.events.move (state.events.sessionMove plan.callbackType) := by
  cases same : plan.callbackType <;> simp [updateSession, same, sessionMove, EventLog.move]
  case createProcess =>
    cases state.events.eventSessionEstablished <;> rfl
  case attach =>
    cases state.events.candidateEventSession <;> rfl

@[simp]
theorem events_planException (state : State) (info : Option ExceptionInfo) :
    (state.planException info).2.events = state.events := by
  simp only [planException]
  split <;> rfl

@[simp]
theorem events_correlateException (state : State) (plan : Plan) :
    (state.correlateException plan).2.events = state.events := by
  simp only [correlateException]
  split
  · rfl
  · split <;> rfl

@[simp]
theorem events_finishCreateThread (state : State) (wait : HandshakeWait) :
    (state.finishCreateThread wait).events = state.events := by
  simp only [finishCreateThread]
  split <;> rfl

theorem events_onCreateThread (state : State) (info : CreateThreadInfo) :
    (state.onCreateThread info).events = state.events := by
  simp only [onCreateThread]
  split
  · rfl
  · split
    · rfl
    · split
      · rfl
      · simp

theorem events_handshakeEnded {state target : State} {index : Nat}
    (ended : state.handshakeEnded index = some target) : target.events = state.events := by
  simp only [handshakeEnded] at ended
  split at ended
  · cases ended
  · split at ended <;> cases ended
    · simp
    · rfl

theorem events_onTraceExecute (state : State) (now : TimePoint) (info : TraceExecuteInfo) :
    (state.onTraceExecute now info).2.events = state.events := by
  simp only [onTraceExecute]
  split <;> rfl

/-- Correlation replaces only the pause and the event of a plan. -/
theorem correlateException_plan (state : State) (plan : Plan) :
    ∃ pause event, (state.correlateException plan).1 =
      { plan with pause := pause, event := event } := by
  simp only [correlateException]
  split
  · exact ⟨_, _, rfl⟩
  · split <;> exact ⟨plan.pause, plan.event, rfl⟩

theorem sessionMove_of_superseded {state : State} {plan : Plan}
    (superseded : state.superseded plan = true) (log : EventLog) :
    log.sessionMove plan.callbackType = .none := by
  simp only [State.superseded, Bool.and_eq_true, Bool.or_eq_true, beq_iff_eq] at superseded
  rcases superseded with ⟨-, ⟨resume, -⟩ | ⟨-, ((stepped | breakpoint) | exception) | system⟩⟩
  · rw [resume]
    rfl
  · rw [stepped]
    rfl
  · rw [breakpoint]
    rfl
  · rw [exception]
    rfl
  · rw [system]
    rfl

theorem sessionMove_of_quiet {plan : Plan} (quiet : plan.Quiet) (marked : plan.Marked)
    (log : EventLog) : log.sessionMove plan.callbackType = .none := by
  rcases quiet with ⟨resetOrigin, markLaunched, markAttached, -, -, -⟩
  cases type : plan.callbackType with
  | initDebug => cases resetOrigin.symm.trans (marked.initDebug type)
  | attach => cases markAttached.symm.trans (marked.attach type)
  | createProcess => cases markLaunched.symm.trans (marked.createProcess type)
  | _ => rfl

section Commit

variable {before : EventLog} {state : State} {move : SessionMove}

theorem change_refinePause (moved : state.events = before.move move) (input : RecordInput)
    (plan : Plan) :
    Change before move false (state.refinePause input plan).1
      (state.refinePause input plan).2.events := by
  have recorded : Change before move false _ _ :=
    .recorded move false input { plan.event with generation := state.generation + 1 }
  rw [← moved] at recorded
  exact recorded

theorem change_commitState (moved : state.events = before.move move) (input : CallbackInput)
    (plan : Plan) :
    Change before move plan.clearProcess (state.commitState input plan).1
      (state.commitState input plan).2.events := by
  have recorded : Change before move plan.clearProcess _ _ :=
    .recorded move plan.clearProcess input.record
      { plan.event with generation := state.generation + 1 }
  rw [← moved] at recorded
  have closed : (state.commitState input plan).2.events =
      (state.events.recordEventLocked input.record
        { plan.event with generation := state.generation + 1 }).2.closeIf plan.clearProcess := by
    simp only [commitState, commitTraceEventLocked, closeIf]
    split <;> rfl
  rw [closed]
  exact recorded

end Commit

/-- The locked part of a callback. -/
theorem change_performPlan (state : State) (input : CallbackInput) {plan : Plan}
    (quietly : plan.RepeatsQuietly) (marked : plan.Marked) :
    ∃ closes, (closes = true → plan.clearProcess = true) ∧
      Change state.events (state.events.sessionMove plan.callbackType) closes
        (state.performPlan input plan).1 (state.performPlan input plan).2.events := by
  simp only [performPlan]
  split
  · rename_i superseded
    refine leavesOpen ?_
    rw [events_updateSession, sessionMove_of_superseded superseded]
    exact .kept
  · have moved : (((state.updateSession plan).releasePause plan).correlateException plan).2.events =
        state.events.move (state.events.sessionMove plan.callbackType) := by
      rw [events_correlateException]
      exact events_updateSession state plan
    have correlatedQuietly := repeatsQuietly_correlateException
      ((state.updateSession plan).releasePause plan) quietly
    rcases correlateException_plan ((state.updateSession plan).releasePause plan) plan with
      ⟨pause, event, planned⟩
    generalize ((state.updateSession plan).releasePause plan).correlateException plan =
      correlated at moved correlatedQuietly planned
    rcases correlated with ⟨correlatedPlan, settled⟩
    dsimp only at moved correlatedQuietly planned ⊢
    have type : correlatedPlan.callbackType = plan.callbackType := by rw [planned]
    have correlatedMarked : correlatedPlan.Marked := by
      rw [planned]
      exact ⟨marked.initDebug, marked.attach, marked.createProcess⟩
    have identified : ((settled.updateOrigin correlatedPlan).updateIdentity
        correlatedPlan).2.events = state.events.move
          (state.events.sessionMove plan.callbackType) := moved
    have committed : ∃ closes, (closes = true → plan.clearProcess = true) ∧
        Change state.events (state.events.sessionMove plan.callbackType) closes _ _ :=
      ⟨_, fun closes => (congrArg Plan.clearProcess planned).symm.trans closes,
        change_commitState identified input
          ((settled.updateOrigin correlatedPlan).updateIdentity correlatedPlan).1⟩
    simp only [commitPlan]
    split
    · split
      · rename_i repeats
        have quiet : correlatedPlan.Quiet := by
          apply correlatedQuietly
          simp only [repeatsPause, callbackType_updateIdentity, pauseKind_updateIdentity,
            Bool.or_eq_true, Bool.and_eq_true, beq_iff_eq] at repeats
          rcases repeats with isPause | ⟨isUser, -⟩
          · exact .inl isPause
          · exact .inr isUser
        have unmoved := sessionMove_of_quiet quiet correlatedMarked state.events
        rw [type] at unmoved
        refine leavesOpen ?_
        rw [unmoved] at identified ⊢
        exact Change.of_eq identified
      · split
        · exact leavesOpen (change_refinePause identified _ _)
        · exact committed
    · exact committed

/-- The locked part of a callback whose pause is never dropped. -/
theorem change_performPlan_of_kind (state : State) (input : CallbackInput) (plan : Plan)
    (type : plan.callbackType ≠ .pauseDebug) (kind : plan.pause.kind ≠ .userPause)
    (marked : plan.Marked) :
    ∃ closes, (closes = true → plan.clearProcess = true) ∧
      Change state.events (state.events.sessionMove plan.callbackType) closes
        (state.performPlan input plan).1 (state.performPlan input plan).2.events :=
  change_performPlan state input (Plan.repeatsQuietly_of_kind type kind) marked

end State

/-- A raw debug event moves no session. -/
theorem State.change_onDebugEvent (state : State) (input : RecordInput) (event : DebugEvent) :
    EventLog.Change state.events .none false (state.onDebugEvent input event).1
      (state.onDebugEvent input event).2.events := by
  simp only [State.onDebugEvent]
  split
  · exact .kept
  · rename_i record _
    exact .recorded .none false input record

/-- The kind of a callback that runs the locked part. -/
def Callback.type : Callback → Option CallbackType
  | .initDebug => some .initDebug
  | .createProcess _ => some .createProcess
  | .systemBreakpoint => some .systemBreakpoint
  | .breakpoint _ => some .breakpoint
  | .exception _ => some .exception
  | .pauseDebug => some .pauseDebug
  | .stepped => some .stepped
  | .resumeDebug => some .resumeDebug
  | .attach _ => some .attach
  | .detach _ => some .detach
  | .stoppingDebug => some .stoppingDebug
  | .exitProcess _ => some .exitProcess
  | .stopDebug => some .stopDebug
  | .debugEvent _ | .createThread _ | .traceExecute _ | .other => none

/-- The session bookkeeping of a callback. -/
def EventLog.callbackMove (log : EventLog) (callback : Callback) : SessionMove :=
  match callback.type with
  | none => .none
  | some callbackType => log.sessionMove callbackType

namespace State

open EventLog

/-- A plan that keeps the process keeps the session open. -/
theorem change_of_open {plan : Plan} {before after : EventLog} {move : SessionMove}
    {recorded : List EventRecord} (callback : Callback) (keeps : plan.clearProcess = false)
    (change : ∃ closes, (closes = true → plan.clearProcess = true) ∧
      Change before move closes recorded after) :
    ∃ closes, (closes = true → callback = .stopDebug) ∧
      Change before move closes recorded after := by
  rcases change with ⟨closes, closing, change⟩
  refine ⟨closes, ?_, change⟩
  intro closed
  cases keeps.symm.trans (closing closed)

/-- What a callback does to the event log. -/
theorem change_onDebuggerEvent (state : State) (input : CallbackInput) (callback : Callback) :
    ∃ closes, (closes = true → callback = .stopDebug) ∧
      Change state.events (state.events.callbackMove callback) closes
        (state.onDebuggerEvent input callback).1.recorded
        (state.onDebuggerEvent input callback).2.events := by
  cases callback with
  | initDebug =>
      exact change_of_open .initDebug rfl (change_performPlan_of_kind state input Plan.initDebug
        (by rintro ⟨⟩) (by rintro ⟨⟩)
        (by constructor <;> simp [Plan.initDebug]))
  | createProcess info =>
      exact change_of_open (.createProcess info) rfl (change_performPlan_of_kind state input
        (Plan.createProcess info) (by rintro ⟨⟩) (by rintro ⟨⟩)
        (by constructor <;> simp [Plan.createProcess]))
  | systemBreakpoint =>
      exact change_of_open .systemBreakpoint rfl (change_performPlan_of_kind state input
        Plan.systemBreakpoint (by rintro ⟨⟩) (by rintro ⟨⟩) (by constructor <;> rintro ⟨⟩))
  | breakpoint info =>
      refine change_of_open (.breakpoint info) rfl (change_performPlan_of_kind state input
        (Plan.breakpoint info) (by rintro ⟨⟩) ?_ (by constructor <;> rintro ⟨⟩))
      cases info <;> rintro ⟨⟩
  | exception info =>
      have planned : (state.planException info).1.callbackType = .exception ∧
          (state.planException info).1.clearProcess = false := by
        simp only [planException]
        split <;> exact ⟨rfl, rfl⟩
      have marked : (state.planException info).1.Marked := by
        constructor <;> rw [planned.1] <;> rintro ⟨⟩
      have change := change_of_open (.exception info) planned.2 (change_performPlan
        (state.planException info).2 input (state.repeatsQuietly_planException info) marked)
      rw [events_planException, planned.1] at change
      exact change
  | pauseDebug =>
      exact change_of_open .pauseDebug rfl (change_performPlan state.planPauseDebug.2 input
        Plan.repeatsQuietly_pauseDebug (by constructor <;> rintro ⟨⟩))
  | stepped =>
      exact change_of_open .stepped rfl (change_performPlan_of_kind state input Plan.stepped
        (by rintro ⟨⟩) (by rintro ⟨⟩) (by constructor <;> rintro ⟨⟩))
  | resumeDebug =>
      exact change_of_open .resumeDebug rfl (change_performPlan_of_kind state input
        Plan.resumeDebug (by rintro ⟨⟩) (by rintro ⟨⟩) (by constructor <;> rintro ⟨⟩))
  | attach processId =>
      exact change_of_open (.attach processId) rfl (change_performPlan_of_kind state input
        (Plan.attach processId) (by rintro ⟨⟩) (by rintro ⟨⟩)
        (by constructor <;> simp [Plan.attach]))
  | detach processId =>
      exact change_of_open (.detach processId) rfl (change_performPlan_of_kind state input
        (Plan.detach processId) (by rintro ⟨⟩) (by rintro ⟨⟩) (by constructor <;> rintro ⟨⟩))
  | stoppingDebug =>
      exact change_of_open .stoppingDebug rfl (change_performPlan_of_kind state input
        Plan.stoppingDebug (by rintro ⟨⟩) (by rintro ⟨⟩) (by constructor <;> rintro ⟨⟩))
  | exitProcess exitCode =>
      exact change_of_open (.exitProcess exitCode) rfl (change_performPlan_of_kind state input
        (Plan.exitProcess exitCode) (by rintro ⟨⟩) (by rintro ⟨⟩) (by constructor <;> rintro ⟨⟩))
  | stopDebug =>
      rcases change_performPlan_of_kind state input Plan.stopDebug (by rintro ⟨⟩) (by rintro ⟨⟩)
        (by constructor <;> rintro ⟨⟩) with ⟨closes, -, change⟩
      exact ⟨closes, fun _ => rfl, change⟩
  | debugEvent event =>
      cases event with
      | none => exact leavesOpen .kept
      | some event => exact leavesOpen (change_onDebugEvent state input.record event)
  | createThread info =>
      cases info with
      | none => exact leavesOpen .kept
      | some info => exact leavesOpen (.of_eq (events_onCreateThread state info))
  | traceExecute info =>
      cases info with
      | none => exact leavesOpen .kept
      | some info => exact leavesOpen (.of_eq (events_onTraceExecute state input.now info))
  | other => exact leavesOpen .kept

end State

/-- The session bookkeeping of a step. -/
def EventLog.actionMove (log : EventLog) : Action → SessionMove
  | .callback callback _ => log.callbackMove callback
  | _ => .none

/-- The step does not accept another instance identifier. -/
def Action.keepsInstance : Action → Bool
  | .sidecarReady _ => false
  | _ => true

namespace State

open EventLog

/-- Step lemma: what any step does to the event log. -/
theorem change_next {state target : State} {action : Action} {output : Output}
    (keeps : action.keepsInstance = true)
    (stepped : next state action = some (output, target)) :
    ∃ closes, (closes = true → ∃ input, action = .callback .stopDebug input) ∧
      Change state.events (state.events.actionMove action) closes output.recorded
        target.events := by
  cases action with
  | callback callback input =>
      simp only [next, Option.some.injEq] at stepped
      rcases state.change_onDebuggerEvent input callback with ⟨closes, closing, change⟩
      rw [stepped] at change
      exact ⟨closes, fun closed => ⟨input, closing closed ▸ rfl⟩, change⟩
  | handshakeEnded index =>
      simp only [next, Option.map_eq_some_iff, Prod.mk.injEq] at stepped
      rcases stepped with ⟨ended, endedEq, rfl, rfl⟩
      exact leavesOpen (.of_eq (events_handshakeEnded endedEq))
  | reconcileDebuggerLiveness isDebugging processDied =>
      cases stepped
      refine leavesOpen (Change.of_eq ?_)
      simp only [reconcileDebuggerLiveness]
      split
      · rfl
      · split <;> rfl
  | reconcileTraceProcessExit processDied =>
      cases stepped
      refine leavesOpen (Change.of_eq ?_)
      simp only [reconcileTraceProcessExit]
      split
      · rfl
      · split
        · rfl
        · split <;> rfl
  | sidecarReady instanceId => cases keeps
  | sidecarLost =>
      simp only [next] at stepped
      split at stepped <;> cases stepped <;> exact leavesOpen .kept
  | pauseCallbackReturned =>
      cases stepped
      exact leavesOpen .kept
  | pluginState pluginState =>
      cases stepped
      exact leavesOpen .kept
  | traceSide trace =>
      cases stepped
      exact leavesOpen .kept
  | pauseInterrupt pending selectedThreadId =>
      cases stepped
      exact leavesOpen .kept

end State

end X64dbgMcp.Runtime
