import X64dbgMcp.Runtime.State

/-!
# Debugger callbacks

`onDebuggerEvent` is the callback that x64dbg calls for every debugger event.
It translates the callback into a plan, settles the trace and session
bookkeeping, and commits at most one new generation.  Two reconciliation
functions write the same fields when callbacks were missed.

Everything runs under the state mutex, so each call is one step.  The wait of a
create-thread callback for its helper's handle is the exception: it is split
into the call and its wake-up.
-/

namespace X64dbgMcp.Runtime

open Trace

/-- The callbacks of x64dbg that the runtime handles. -/
inductive CallbackType where
  | initDebug
  | createProcess
  | systemBreakpoint
  | breakpoint
  | exception
  | pauseDebug
  | stepped
  | resumeDebug
  | attach
  | detach
  | stoppingDebug
  | exitProcess
  | stopDebug
  deriving DecidableEq

/-- What the breakpoint callback tells. -/
structure BreakpointInfo where
  addr : UInt64
  type : UInt32
  hitCount : UInt32
  deriving DecidableEq

/-- What the exception callback tells. -/
structure ExceptionInfo where
  exceptionCode : UInt32
  exceptionAddress : UInt64
  firstChance : UInt32
  deriving DecidableEq

/-- What the create-thread callback tells. -/
structure CreateThreadInfo where
  threadId : UInt32
  startAddress : UInt64
  deriving DecidableEq

/-- What the trace callback tells. -/
structure TraceExecuteInfo where
  cip : UInt64
  stop : Bool
  deriving DecidableEq

/-- What a raw debug event is about. -/
inductive DebugEventDetail where
  | exception (info : ExceptionInfo)
  | createThread (startAddress : UInt64)
  | exitThread (exitCode : UInt32)
  | loadDll (base : UInt64)
  | unloadDll (base : UInt64)
  | outputDebugString (data : UInt64) (length : UInt16) (unicode : UInt16)
  | rip (error type : UInt32)
  | other
  deriving DecidableEq

/-- A raw debug event. -/
structure DebugEvent where
  processId : UInt32
  threadId : UInt32
  detail : DebugEventDetail
  deriving DecidableEq

/-- A callback with its payload; `none` stands for a null pointer on the way to
the payload. -/
inductive Callback where
  | initDebug
  | createProcess (info : Option (UInt32 × UInt32))
  | systemBreakpoint
  | breakpoint (info : Option BreakpointInfo)
  | exception (info : Option ExceptionInfo)
  | pauseDebug
  | stepped
  | resumeDebug
  | attach (processId : Option UInt32)
  | detach (processId : Option UInt32)
  | stoppingDebug
  | exitProcess (exitCode : Option UInt32)
  | stopDebug
  | debugEvent (event : Option DebugEvent)
  | createThread (info : Option CreateThreadInfo)
  | traceExecute (info : Option TraceExecuteInfo)
  | other
  deriving DecidableEq

/-- What a callback reads from outside: the clocks, the allocator, and whether
the traced process has died. -/
structure CallbackInput where
  record : RecordInput
  now : TimePoint
  processDied : Bool
  deriving DecidableEq

/-- What a step shows: the events handed to the event stream, and the answer of
a trace callback. -/
structure Output where
  recorded : List EventRecord := []
  stop : Option Bool := none
  deriving DecidableEq

/-- `bp_exception`: the type of a breakpoint on an exception. -/
def bpException : UInt32 := 16

/-- `EXCEPTION_BREAKPOINT` -/
def exceptionBreakpoint : UInt32 := 0x80000003

/-- The local variables that the callback switch fills in. -/
structure Plan where
  callbackType : CallbackType
  next : DebuggeeState
  event : EventRecord
  pause : PauseObservation := {}
  callbackProcessId : Option UInt32 := none
  callbackThreadId : Option UInt32 := none
  clearProcess : Bool := false
  hasPauseReason : Bool := false
  refineCurrentPause : Bool := false
  resetOrigin : Bool := false
  markLaunched : Bool := false
  markAttached : Bool := false
  markDetaching : Bool := false
  exceptionBreakpointCallback : Bool := false
  clearPendingException : Bool := false
  deriving DecidableEq

namespace Plan

/-- A session begins. -/
def initDebug : Plan where
  callbackType := .initDebug
  next := .starting
  event := { kind := .debugInitialized }
  resetOrigin := true

/-- The process was created and is paused. -/
def createProcess (info : Option (UInt32 × UInt32)) : Plan where
  callbackType := .createProcess
  next := .paused
  event :=
    match info with
    | none => { kind := .processCreated }
    | some (processId, threadId) =>
        { kind := .processCreated
          processId := processId
          threadId := threadId
          hasProcessId := true
          hasThreadId := true }
  pause := { kind := .processCreated }
  callbackProcessId := info.map Prod.fst
  callbackThreadId := info.map Prod.snd
  markLaunched := true
  hasPauseReason := true

/-- The process is paused at its system breakpoint. -/
def systemBreakpoint : Plan where
  callbackType := .systemBreakpoint
  next := .paused
  event := { kind := .systemBreakpoint }
  pause := { kind := .systemBreakpoint }
  hasPauseReason := true
  refineCurrentPause := true

/-- The process is paused at a breakpoint. -/
def breakpoint (info : Option BreakpointInfo) : Plan where
  callbackType := .breakpoint
  next := .paused
  event :=
    match info with
    | none => { kind := .breakpoint }
    | some info =>
        { kind := .breakpoint
          address := info.addr
          hasAddress := true
          breakpointType := info.type.toUInt8
          auxiliary := info.hitCount }
  pause :=
    match info with
    | none => { kind := .breakpoint }
    | some info =>
        { kind := .breakpoint
          address := info.addr
          hasAddress := true
          breakpointType := info.type.toUInt8
          hitCount := info.hitCount }
  hasPauseReason := true
  refineCurrentPause := true
  exceptionBreakpointCallback := info.any fun info => info.type == bpException

/-- The process is paused by an exception. -/
def exception (info : Option ExceptionInfo) : Plan where
  callbackType := .exception
  next := .paused
  event :=
    match info with
    | none => { kind := .exception }
    | some info =>
        { kind := .exception
          code := info.exceptionCode.toUInt64
          address := info.exceptionAddress
          hasCode := true
          hasAddress := true
          firstChance := info.firstChance != 0 }
  pause :=
    match info with
    | none => { kind := .exception }
    | some info =>
        { kind := .exception
          exceptionCode := info.exceptionCode.toUInt64
          hasExceptionCode := true
          address := info.exceptionAddress
          hasAddress := true
          firstChance := info.firstChance != 0 }
  hasPauseReason := true
  refineCurrentPause := true
  clearPendingException := true

/-- The breakpoint exception of an interrupt that the runtime owns is reported
as a user pause. -/
def asOwnedPause (plan : Plan) : Plan :=
  { plan with
    pause :=
      { plan.pause with
        kind := .userPause
        hasAddress := false
        hasExceptionCode := false
        firstChance := false }
    event :=
      { plan.event with
        kind := .paused
        hasAddress := false
        hasCode := false
        firstChance := false } }

/-- The process is paused. -/
def pauseDebug : Plan where
  callbackType := .pauseDebug
  next := .paused
  event := { kind := .paused }
  pause := { kind := .userPause }
  hasPauseReason := true

/-- A step has ended. -/
def stepped : Plan where
  callbackType := .stepped
  next := .paused
  event := { kind := .stepped }
  pause := { kind := .step }
  hasPauseReason := true

/-- The process runs. -/
def resumeDebug : Plan where
  callbackType := .resumeDebug
  next := .running
  event := { kind := .resumed }
  clearPendingException := true

/-- The debugger attaches to a process. -/
def attach (processId : Option UInt32) : Plan where
  callbackType := .attach
  next := .starting
  event := { kind := .attached }
  callbackProcessId := processId.filter fun processId => processId != 0
  markAttached := true

/-- The debugger detaches from the process. -/
def detach (processId : Option UInt32) : Plan where
  callbackType := .detach
  next := .stopping
  event := { kind := .detached }
  callbackProcessId := processId
  markDetaching := true

/-- The session is about to stop. -/
def stoppingDebug : Plan where
  callbackType := .stoppingDebug
  next := .stopping
  event := { kind := .stopping }

/-- The process has exited. -/
def exitProcess (exitCode : Option UInt32) : Plan where
  callbackType := .exitProcess
  next := .exited
  event := { kind := .processExited, auxiliary := exitCode.getD 0 }

/-- The session has stopped. -/
def stopDebug : Plan where
  callbackType := .stopDebug
  next := .absent
  event := { kind := .debugStopped }
  clearProcess := true
  resetOrigin := true

end Plan

namespace State

/-! ## The raw debug event -/

/-- The exception remembered until its callback arrives. -/
def pendingOf (event : DebugEvent) (info : ExceptionInfo) : PendingExceptionObservation where
  processId := event.processId
  threadId := event.threadId
  code := info.exceptionCode
  address := info.exceptionAddress
  firstChance := info.firstChance != 0
  valid := true

/-- The generic record of a raw event, when it has one. -/
def genericRecord (generation : Nat) (event : DebugEvent) : Option EventRecord :=
  let base : EventRecord :=
    { generation := generation
      processId := event.processId
      threadId := event.threadId
      hasProcessId := true
      hasThreadId := true }
  match event.detail with
  | .exception _ => none
  | .createThread start =>
      some { base with kind := .threadCreated, address := start, hasAddress := start != 0 }
  | .exitThread exitCode => some { base with kind := .threadExited, auxiliary := exitCode }
  | .loadDll library =>
      some { base with kind := .dllLoaded, address := library, hasAddress := library != 0 }
  | .unloadDll library =>
      some { base with kind := .dllUnloaded, address := library, hasAddress := library != 0 }
  | .outputDebugString data length unicode =>
      some
        { base with
          kind := .debugString
          address := data
          hasAddress := data != 0
          auxiliary := length.toUInt32
          firstChance := unicode != 0 }
  | .rip error type =>
      some { base with kind := .rip, auxiliary := error, code := type.toUInt64, hasCode := true }
  | .other => none

/-- A raw debug event: it is recorded, and an exception is kept for its callback. -/
def onDebugEvent (state : State) (input : RecordInput) (event : DebugEvent) :
    List EventRecord × State :=
  let generic := genericRecord (state.generation + 1) event
  let observed :=
    { state with
      rawEventSequence := state.rawEventSequence + 1
      nativePauseEvent := none
      pendingTraceThread :=
        match event.detail with
        | .createThread _ => generic
        | _ => none
      processId := event.processId
      activeThreadId := event.threadId
      generation := state.generation + 1
      pendingException :=
        match event.detail with
        | .exception info => pendingOf event info
        | _ => state.pendingException }
  match generic with
  | none => ([], observed)
  | some record => observed.recordEventLocked input record

/-! ## Create-thread and trace callbacks -/

/-- Offer the created thread to the coordinator.  On a match the callback goes on
to pause the debuggee. -/
def finishCreateThread (state : State) (wait : HandshakeWait) : State :=
  let control := state.trace.control
  let result := control.stop.threadCreated state.processEpoch wait.raw.processId wait.threadId
    (wait.raw.kind == .threadCreated) wait.entry
  if !control.trace.active then state
  else
    { state with
      trace :=
        { state.trace with
          control := { control with stop := result.2 }
          pauseCallbackInFlight := result.1 || state.trace.pauseCallbackInFlight } }

/-- A new thread is matched with the helper thread of a trace. -/
def onCreateThread (state : State) (info : CreateThreadInfo) : State :=
  match state.pendingTraceThread with
  | none => state
  | some raw =>
      if raw.threadId != info.threadId || raw.address != info.startAddress then state
      else
        let wait : HandshakeWait :=
          ⟨state.trace.control.stop.ticket, raw, info.threadId, info.startAddress⟩
        if state.trace.control.trace.active && state.trace.control.stop.interruptInFlight &&
            state.trace.interruptThread.isNone &&
            info.startAddress == state.trace.interruptAddress then
          { state with handshakes := state.handshakes ++ [wait] }
        else state.finishCreateThread wait

/-- The condition on which a create-thread callback stops waiting. -/
def handshakeOver (state : State) (wait : HandshakeWait) : Bool :=
  !state.trace.control.stop.current wait.ticket ||
    !state.trace.control.stop.interruptInFlight || state.trace.interruptThread.isSome ||
    state.trace.supervisorStopping

/-- The wait of a create-thread callback ends, by its condition or by its
timeout. -/
def handshakeEnded (state : State) (index : Nat) : Option State :=
  match state.handshakes[index]? with
  | none => none
  | some wait =>
      let woken := { state with handshakes := state.handshakes.eraseIdx index }
      if woken.handshakeOver wait && woken.trace.interruptThread.isSome then
        some (woken.finishCreateThread wait)
      else
        some
          { woken with
            trace :=
              { woken.trace with
                control :=
                  { woken.trace.control with
                    stop := woken.trace.control.stop.abandonIssue wait.ticket } } }

/-- A traced instruction; tells whether the trace shall stop. -/
def onTraceExecute (state : State) (now : TimePoint) (info : TraceExecuteInfo) :
    Option Bool × State :=
  let control := state.trace.control
  if control.trace.active && control.stop.ticket.process == state.processEpoch then
    let result := control.step info.cip info.stop now
    (some result.1, { state with trace := { state.trace with control := result.2 } })
  else (some info.stop, state)

/-! ## The callbacks that change the debuggee state -/

/-- Correlate a breakpoint exception with an interrupt that the runtime owns. -/
def planException (state : State) (info : Option ExceptionInfo) : Plan × State :=
  let plan := Plan.exception info
  if (state.pauseInterruptPending || state.ownedPauseException) &&
      plan.pause.hasExceptionCode &&
      plan.pause.exceptionCode == exceptionBreakpoint.toUInt64 then
    (plan.asOwnedPause, { state with pauseInterruptPending := false, ownedPauseException := true })
  else (plan, state)

/-- A pause that ends a pending interrupt is owned. -/
def planPauseDebug (state : State) : Plan × State :=
  (Plan.pauseDebug,
    { state with
      pauseInterruptPending := false
      ownedPauseException := state.pauseInterruptPending || state.ownedPauseException })

/-- Announce or establish the event session. -/
def updateSession (state : State) (plan : Plan) : State :=
  let opened :=
    if plan.callbackType == .initDebug ||
        (plan.callbackType == .attach && state.events.candidateEventSession.isNone) then
      state.events.openCandidate
    else state.events
  let established :=
    if plan.callbackType == .createProcess && !opened.eventSessionEstablished then
      opened.establish
    else opened
  { state with events := established }

/-- A resume that belongs to a pause already committed, or a refinement of a
pause older than the admitted trace. -/
def superseded (state : State) (plan : Plan) : Bool :=
  state.trace.control.trace.active &&
    ((plan.callbackType == .resumeDebug && state.trace.control.stop.lateResume) ||
      (decide (state.rawEventSequence ≤ state.trace.admissionEvent) &&
        (plan.callbackType == .stepped || plan.callbackType == .breakpoint ||
          plan.callbackType == .exception || plan.callbackType == .systemBreakpoint)))

/-- Forget the owned interrupt on a resume and the native pause on anything but
a pause. -/
def releasePause (state : State) (plan : Plan) : State :=
  let resumed := plan.callbackType == .resumeDebug
  { state with
    ownedPauseException := if resumed then false else state.ownedPauseException
    ownedPauseSelectedThreadId := if resumed then 0 else state.ownedPauseSelectedThreadId
    nativePauseEvent :=
      if plan.next != .paused || plan.markAttached || plan.markLaunched then none
      else state.nativePauseEvent }

/-- Report an exception breakpoint as the exception that is pending for it. -/
def correlateException (state : State) (plan : Plan) : Plan × State :=
  let pending := state.pendingException
  if plan.exceptionBreakpointCallback && pending.valid && plan.pause.hasAddress &&
      pending.code.toUInt64 == plan.pause.address &&
      (pending.processId == 0 || pending.processId == state.processId) &&
      (pending.threadId == 0 || pending.threadId == state.activeThreadId) then
    ({ plan with
        pause :=
          { plan.pause with
            kind := .exception
            exceptionCode := pending.code.toUInt64
            hasExceptionCode := true
            address := pending.address
            hasAddress := pending.address != 0
            firstChance := pending.firstChance }
        event :=
          { plan.event with
            kind := .exception
            code := pending.code.toUInt64
            hasCode := true
            address := pending.address
            hasAddress := pending.address != 0
            firstChance := pending.firstChance } },
      { state with pendingException := { pending with valid := false } })
  else if plan.clearPendingException then
    (plan, { state with pendingException := { pending with valid := false } })
  else (plan, state)

/-- The origin of the session after the callback. -/
def updateOrigin (state : State) (plan : Plan) : State :=
  let reset := if plan.resetOrigin then SessionOrigin.none else state.sessionOrigin
  let marked := if plan.markAttached then SessionOrigin.attached else reset
  { state with
    sessionOrigin := if plan.markLaunched && marked != .attached then .launched else marked
    processEpoch :=
      if plan.markAttached || plan.markLaunched then state.processEpoch + 1
      else state.processEpoch }

/-- Store the process and thread of the callback and stamp the event with them. -/
def updateIdentity (state : State) (plan : Plan) : Plan × State :=
  let processId :=
    if plan.clearProcess then 0 else plan.callbackProcessId.getD state.processId
  let threadId :=
    if plan.clearProcess then 0 else plan.callbackThreadId.getD state.activeThreadId
  let eventProcess := if plan.clearProcess then state.processId else processId
  let eventThread := if plan.clearProcess then state.activeThreadId else threadId
  ({ plan with
      event :=
        { plan.event with
          processId := eventProcess
          threadId := eventThread
          hasProcessId := eventProcess != 0
          hasThreadId := eventThread != 0 }
      pause :=
        if plan.next == .paused && threadId != 0 then
          { plan.pause with threadId := threadId, hasThreadId := true }
        else plan.pause },
    { state with
      processId := processId
      activeThreadId := threadId
      pauseInterruptPending := !plan.clearProcess && state.pauseInterruptPending
      ownedPauseException := !plan.clearProcess && state.ownedPauseException
      ownedPauseSelectedThreadId :=
        if plan.clearProcess then 0 else state.ownedPauseSelectedThreadId })

/-- The reason published when a trace ends at the current pause. -/
def traceFallback (state : State) : TraceReason :=
  match state.latestPause.kind with
  | .breakpoint => .breakpoint
  | .exception => .exception
  | _ => .userPause

/-- The callback proves that the traced process is gone. -/
def traceProcessGone (state : State) (callbackType : CallbackType) (processDied : Bool) : Bool :=
  let stop := state.trace.control.stop
  (callbackType == .exitProcess && stop.ticket.process == state.processEpoch &&
      state.trace.process.all fun process => process.processId == state.processId) ||
    (callbackType == .stopDebug &&
      ((!stop.unresolved && !stop.interruptInFlight) ||
        (state.trace.process.isSome && processDied)))

/-- Tell the trace coordinator, after the state is committed. -/
def commitTraceEventLocked (state : State) (callbackType : CallbackType)
    (processDied : Bool) : State :=
  let control := state.trace.control
  let resumed :=
    if callbackType == .resumeDebug && control.trace.active then
      { control with stop := control.stop.onResumed }
    else control
  let paused :=
    if callbackType == .pauseDebug && resumed.trace.active then
      resumed.pauseCommitted state.traceFallback
    else resumed
  let exited :=
    if ({ state with trace := { state.trace with control := paused } }).traceProcessGone
        callbackType processDied then
      paused.processExited
    else paused
  { state with
    nativePauseEvent :=
      if callbackType == .pauseDebug then some state.rawEventSequence
      else state.nativePauseEvent
    trace := { state.trace with control := exited } }

/-- A pause callback while paused that starts a new pause for an admitted trace. -/
def newTracePause (state : State) (plan : Plan) : Bool :=
  plan.callbackType == .pauseDebug && state.trace.control.trace.active &&
    decide (state.latestPause.generation ≤ state.trace.admissionGeneration)

/-- Both sides of a pause callback are user pauses: nothing new is observed. -/
def repeatsPause (state : State) (plan : Plan) : Bool :=
  plan.callbackType == .pauseDebug ||
    (plan.pause.kind == .userPause && state.latestPause.kind == .userPause)

/-- The callback explains the current pause. -/
def refinesPause (state : State) (plan : Plan) : Bool :=
  plan.refineCurrentPause ||
    (plan.callbackType == .stepped && state.latestPause.kind == .userPause)

/-- Replace the current pause by its refinement. -/
def refinePause (state : State) (input : RecordInput) (plan : Plan) :
    List EventRecord × State :=
  let observed := state.generation + 1
  State.recordEventLocked
    { state with
      generation := observed
      pausedGeneration := observed
      latestPause := { plan.pause with generation := observed } }
    input { plan.event with generation := observed }

/-- Store the next debuggee state with its generation. -/
def enter (state : State) (plan : Plan) : State :=
  let observed := state.generation + 1
  { state with
    debuggeeState := plan.next
    generation := observed
    attachProcessId :=
      if plan.markAttached then plan.callbackProcessId.getD 0 else state.attachProcessId
    attachGeneration := if plan.markAttached then observed else state.attachGeneration
    detachProcessId :=
      if plan.markDetaching then plan.callbackProcessId.getD state.processId
      else state.detachProcessId
    detachGeneration := if plan.markDetaching then observed else state.detachGeneration
    pausedGeneration := if plan.next == .paused then observed else state.pausedGeneration
    latestPause :=
      if plan.next == .paused then
        { plan.pause with
          generation := observed
          kind := if plan.hasPauseReason then plan.pause.kind else .unknown }
      else state.latestPause
    runningGeneration := if plan.next == .running then observed else state.runningGeneration
    absentGeneration := if plan.next == .absent then observed else state.absentGeneration }

/-- Enter the next state, record its event and tell the coordinator. -/
def commitState (state : State) (input : CallbackInput) (plan : Plan) :
    List EventRecord × State :=
  let entered := state.enter plan
  let result := entered.recordEventLocked input.record
    { plan.event with generation := entered.generation }
  let closed :=
    if plan.clearProcess then { result.2 with events := result.2.events.closeCandidate }
    else result.2
  (result.1, closed.commitTraceEventLocked plan.callbackType input.processDied)

/-- The decision between a repeated pause, a refinement and a new state. -/
def commitPlan (state : State) (input : CallbackInput) (plan : Plan) :
    List EventRecord × State :=
  if plan.next == .paused && state.debuggeeState == .paused && !state.newTracePause plan then
    if state.repeatsPause plan then
      ([], state.commitTraceEventLocked plan.callbackType input.processDied)
    else if state.refinesPause plan then state.refinePause input.record plan
    else state.commitState input plan
  else state.commitState input plan

/-- The locked part of the callback. -/
def performPlan (state : State) (input : CallbackInput) (plan : Plan) :
    List EventRecord × State :=
  let announced := state.updateSession plan
  if announced.superseded plan then ([], announced)
  else
    let correlated := (announced.releasePause plan).correlateException plan
    let identified := (correlated.2.updateOrigin correlated.1).updateIdentity correlated.1
    identified.2.commitPlan input identified.1

/-- `OnDebuggerEvent`, for every callback. -/
def onDebuggerEvent (state : State) (input : CallbackInput) : Callback → Output × State
  | .initDebug => report (state.performPlan input Plan.initDebug)
  | .createProcess info => report (state.performPlan input (Plan.createProcess info))
  | .systemBreakpoint => report (state.performPlan input Plan.systemBreakpoint)
  | .breakpoint info => report (state.performPlan input (Plan.breakpoint info))
  | .exception info =>
      let planned := state.planException info
      report (planned.2.performPlan input planned.1)
  | .pauseDebug =>
      let planned := state.planPauseDebug
      report (planned.2.performPlan input planned.1)
  | .stepped => report (state.performPlan input Plan.stepped)
  | .resumeDebug => report (state.performPlan input Plan.resumeDebug)
  | .attach processId => report (state.performPlan input (Plan.attach processId))
  | .detach processId => report (state.performPlan input (Plan.detach processId))
  | .stoppingDebug => report (state.performPlan input Plan.stoppingDebug)
  | .exitProcess exitCode => report (state.performPlan input (Plan.exitProcess exitCode))
  | .stopDebug => report (state.performPlan input Plan.stopDebug)
  | .debugEvent none => ({}, state)
  | .debugEvent (some event) => report (state.onDebugEvent input.record event)
  | .createThread none => ({}, state)
  | .createThread (some info) => ({}, state.onCreateThread info)
  | .traceExecute none => ({}, state)
  | .traceExecute (some info) =>
      let result := state.onTraceExecute input.now info
      ({ stop := result.1 }, result.2)
  | .other => ({}, state)
where
  report (result : List EventRecord × State) : Output × State :=
    ({ recorded := result.1 }, result.2)

/-! ## Reconciliation -/

/-- The debugger is no longer debugging although no callback said so. -/
def reconcileDebuggerLiveness (state : State) (isDebugging processDied : Bool) : State :=
  if state.debuggeeState == .starting || isDebugging then state
  else if state.debuggeeState == .absent then
    state.commitTraceEventLocked .stopDebug processDied
  else
    State.commitTraceEventLocked
      { state with
        debuggeeState := .absent
        sessionOrigin := .none
        processId := 0
        activeThreadId := 0
        pauseInterruptPending := false
        ownedPauseException := false
        nativePauseEvent := none
        ownedPauseSelectedThreadId := 0
        latestPause := {}
        generation := state.generation + 1
        absentGeneration := state.generation + 1 }
      .stopDebug processDied

/-- The owned handle proves that the traced process died.  The state of a newer
process is not overwritten. -/
def reconcileTraceProcessExit (state : State) (processDied : Bool) : State :=
  match state.trace.process with
  | none => state
  | some process =>
      if !processDied then state
      else
        let cleared :=
          if state.trace.control.stop.ticket.process == state.processEpoch &&
              state.processId == process.processId then
            { state with
              debuggeeState := .exited
              processId := 0
              activeThreadId := 0
              nativePauseEvent := none
              latestPause := {}
              generation := state.generation + 1 }
          else state
        let control := cleared.trace.control.processExited
        let released :=
          !control.stop.interruptInFlight && !cleared.trace.pauseCallbackInFlight
        { cleared with
          trace :=
            { cleared.trace with
              control := control
              interruptThread := if released then none else cleared.trace.interruptThread
              process := if released then none else cleared.trace.process
              interruptAddress := if released then 0 else cleared.trace.interruptAddress } }

end State

/-- The steps of the runtime: callbacks, reconciliation, and what the rest of
the plugin does to the fields that callbacks read. -/
inductive Action where
  | callback (callback : Callback) (input : CallbackInput)
  | handshakeEnded (index : Nat)
  /-- The pause issued for a correlated create-thread callback returned. -/
  | pauseCallbackReturned
  | reconcileDebuggerLiveness (isDebugging processDied : Bool)
  | reconcileTraceProcessExit (processDied : Bool)
  /-- The sidecar's handshake was accepted. -/
  | sidecarReady (instanceId : String)
  /-- The worker's connection ended. -/
  | sidecarLost
  | pluginState (pluginState : PluginState)
  /-- Request handlers and the trace supervisor, under the trace mutex. -/
  | traceSide (trace : TraceSide)
  /-- The pause handler arms or disarms its interrupt. -/
  | pauseInterrupt (pending : Bool) (selectedThreadId : UInt32)
  deriving DecidableEq

namespace State

/-- One step of the runtime.  Only a wake-up without a waiting callback is
disabled. -/
def next : Transition.Step State Action Output := fun state action =>
  match action with
  | .callback callback input => some (state.onDebuggerEvent input callback)
  | .handshakeEnded index => (state.handshakeEnded index).map fun state => ({}, state)
  | .pauseCallbackReturned =>
      some ({}, { state with trace := { state.trace with pauseCallbackInFlight := false } })
  | .reconcileDebuggerLiveness isDebugging processDied =>
      some ({}, state.reconcileDebuggerLiveness isDebugging processDied)
  | .reconcileTraceProcessExit processDied =>
      some ({}, state.reconcileTraceProcessExit processDied)
  | .sidecarReady instanceId =>
      some ({},
        { state with
          events := { state.events with instanceId := instanceId }
          pluginState := .ready
          generation := state.generation + 1 })
  | .sidecarLost =>
      if state.pluginState == .ready then
        some ({}, { state with pluginState := .starting, generation := state.generation + 1 })
      else some ({}, state)
  | .pluginState pluginState => some ({}, { state with pluginState := pluginState })
  | .traceSide trace => some ({}, { state with trace := trace })
  | .pauseInterrupt pending selectedThreadId =>
      some ({},
        { state with
          pauseInterruptPending := pending
          ownedPauseSelectedThreadId := selectedThreadId })

end State

end X64dbgMcp.Runtime
