import X64dbgMcp.Trace.Policy
import X64dbgMcp.Transition.Execution

/-!
# Trace stop coordinator

`TraceStopCoordinator` decides when a running trace may be published as
terminal.  Its operations arrive from the request executor, the debugger
callbacks and the trace supervisor, serialised by one mutex; tickets fence the
native submission and the interrupt that is created outside that mutex.

Every operation is a total function on the coordinator and the trace.  `apply`
collects them into one transition, labelled by the call and observed through
the events that a later reader of the history needs.
-/

namespace X64dbgMcp.Trace

/-- The trace and the process that a request is about. -/
structure Ticket where
  trace : UInt64 := 0
  process : UInt64 := 0
  deriving DecidableEq

/-- What is known of the stop of the current trace. -/
structure TraceStopCoordinator where
  ticket : Ticket := {}
  processId : UInt32 := 0
  threadId : UInt32 := 0
  address : UInt64 := 0
  requestedAt : TimePoint := 0
  fallback : TraceReason := .interrupted
  submitted : Bool := false
  resumed : Bool := false
  requested : Bool := false
  cooperative : Bool := false
  paused : Bool := false
  exited : Bool := false
  interruptInFlight : Bool := false
  attempted : Bool := false
  issued : Bool := false
  consumed : Bool := false
  issueAbandoned : Bool := false
  deriving DecidableEq

/-- The trace together with the coordinator that is allowed to end it. -/
structure TraceControl where
  trace : TracePolicy := {}
  stop : TraceStopCoordinator := {}
  deriving DecidableEq

namespace TraceStopCoordinator

/-- 50 ms. -/
def kCooperativeGrace : TimePoint := 50000000

/-- A fresh coordinator for the next serial number. -/
def begin (stop : TraceStopCoordinator) (processEpoch : UInt64) (processId : UInt32) :
    TraceStopCoordinator :=
  { ticket := ⟨stop.ticket.trace + 1, processEpoch⟩
    processId := processId }

/-- The ticket is that of the current trace, whose process lives. -/
def current (stop : TraceStopCoordinator) (ticket : Ticket) : Bool :=
  ticket == stop.ticket && !stop.exited

/-- A helper thread was issued and has not been seen. -/
def unresolved (stop : TraceStopCoordinator) : Bool :=
  stop.issued && !stop.consumed && !stop.exited

/-- The debuggee is paused while the helper is unresolved. -/
def blocked (stop : TraceStopCoordinator) : Bool :=
  stop.paused && stop.unresolved

/-- The debuggee was paused before the trace command was taken. -/
def lateResume (stop : TraceStopCoordinator) : Bool :=
  stop.paused && !stop.submitted

/-- The time from which an interrupt may be reserved.  A request within 50 ms of the
end of the clock makes the sum overflow. -/
def wakeAt (stop : TraceStopCoordinator) (trace : TracePolicy) : TimePoint :=
  if !stop.resumed || stop.attempted || stop.cooperative || stop.paused || stop.exited then
    TimePoint.max
  else if stop.requested then stop.requestedAt + kCooperativeGrace
  else trace.deadline

/-- The helper thread was created. -/
def issue (stop : TraceStopCoordinator) (ticket : Ticket) (threadId : UInt32)
    (address : UInt64) : Bool × TraceStopCoordinator :=
  if !stop.current ticket || !stop.interruptInFlight || stop.issued || stop.issueAbandoned ||
      stop.cooperative || stop.paused || threadId == 0 || address == 0 then
    (false, stop)
  else
    (true, { stop with threadId := threadId, address := address, issued := true })

/-- No helper thread was created. -/
def abandonIssue (stop : TraceStopCoordinator) (ticket : Ticket) : TraceStopCoordinator :=
  if stop.current ticket && !stop.issued then { stop with issueAbandoned := true } else stop

/-- A create-thread event is matched with the helper. -/
def threadCreated (stop : TraceStopCoordinator) (processEpoch : UInt64) (processId : UInt32)
    (threadId : UInt32) (rawCreateThread : Bool) (address : UInt64) :
    Bool × TraceStopCoordinator :=
  if !stop.issued || stop.consumed || stop.exited || stop.ticket.process != processEpoch ||
      stop.processId != processId || stop.threadId != threadId || !rawCreateThread ||
      stop.address != address then
    (false, stop)
  else
    (true, { stop with consumed := true })

/-- A resume callback; it cannot erase a pause committed before the submission
returned. -/
def onResumed (stop : TraceStopCoordinator) : TraceStopCoordinator :=
  if stop.lateResume then stop else { stop with resumed := true, paused := false }

/-- All conditions under which the trace may be published as terminal. -/
def mayFinalize (stop : TraceStopCoordinator) : Bool :=
  stop.submitted && !stop.interruptInFlight && (stop.paused || stop.exited) && !stop.unresolved

end TraceStopCoordinator

namespace TraceControl

open TraceStopCoordinator

/-- End the trace where that is allowed. -/
def finalize (control : TraceControl) : TraceControl :=
  if control.stop.mayFinalize then
    { control with trace := control.trace.finalize control.stop.fallback }
  else control

/-- The direct submission returned.  A synchronous rejection with no resume has
no native work left behind. -/
def onSubmitted (control : TraceControl) (ticket : Ticket) (accepted : Bool) : TraceControl :=
  if ticket ≠ control.stop.ticket then control
  else if accepted then
    finalize
      { trace := control.trace.submitted
        stop := { control.stop with submitted := true } }
  else
    finalize
      { control with
        stop :=
          { control.stop with
            submitted := true
            paused := if control.stop.resumed then control.stop.paused else true } }

/-- Ask the trace to stop. -/
def request (control : TraceControl) (reason : TraceReason) (now : TimePoint) :
    Bool × TraceControl :=
  let result := control.trace.requestStop reason
  if !result.1 then (false, { control with trace := result.2 })
  else if control.stop.requested then (true, { control with trace := result.2 })
  else
    (true,
      { trace := result.2
        stop := { control.stop with requested := true, requestedAt := now } })

/-- One traced instruction.  Once an interrupt is issued the cooperative stop is
not requested a second time, but a native stop is never overridden. -/
def step (control : TraceControl) (address : UInt64) (nativeStop : Bool)
    (now : TimePoint) : Bool × TraceControl :=
  let result := control.trace.onStep address nativeStop now
  let resumed := { control.stop with resumed := true }
  if control.stop.issued then (nativeStop, { trace := result.2, stop := resumed })
  else
    (result.1,
      { trace := result.2
        stop :=
          { resumed with
            cooperative := if result.1 then true else control.stop.cooperative } })

/-- Reserve the one interrupt of this trace.  Reaching the deadline is itself a
stop request; the first component tells whether that request was accepted. -/
def reserve (control : TraceControl) (now : TimePoint) :
    Bool × Option Ticket × TraceControl :=
  if !control.trace.active || control.stop.exited then (false, none, control)
  else
    let asked :=
      if control.trace.deadline ≤ now then control.request .timeout now else (false, control)
    if !asked.2.stop.requested || decide (now < asked.2.stop.wakeAt asked.2.trace) ||
        !asked.2.stop.resumed then
      (asked.1, none, asked.2)
    else
      (asked.1, some asked.2.stop.ticket,
        { asked.2 with
          stop := { asked.2.stop with attempted := true, interruptInFlight := true } })

/-- The interrupt operation returned.  A failed retirement is deliberately kept
as an issued helper. -/
def finishInterrupt (control : TraceControl) (ticket : Ticket) (safelyRetired : Bool) :
    TraceControl :=
  if ticket ≠ control.stop.ticket ∨ control.stop.interruptInFlight = false then control
  else
    finalize
      { control with
        stop := { control.stop with interruptInFlight := false, issued := !safelyRetired } }

/-- A callback has paused the debuggee. -/
def pauseCommitted (control : TraceControl) (fallback : TraceReason) : TraceControl :=
  if control.stop.exited then control
  else finalize { control with stop := { control.stop with paused := true, fallback := fallback } }

/-- The traced process is gone. -/
def processExited (control : TraceControl) : TraceControl :=
  finalize { control with stop := { control.stop with exited := true, fallback := .processExit } }

end TraceControl

/-- One call on the trace or its coordinator.  `begin` is `Start` followed, when
it succeeds, by `Begin`, which the request handler does under one lock. -/
inductive TraceCall where
  | begin (arguments : TracePolicy.StartArguments) (processEpoch : UInt64) (processId : UInt32)
  | submitted (ticket : Ticket) (accepted : Bool)
  | request (reason : TraceReason) (now : TimePoint)
  | step (address : UInt64) (nativeStop : Bool) (now : TimePoint)
  | reserve (now : TimePoint)
  | issue (ticket : Ticket) (threadId : UInt32) (address : UInt64)
  | abandonIssue (ticket : Ticket)
  | finishInterrupt (ticket : Ticket) (safelyRetired : Bool)
  | threadCreated (processEpoch : UInt64) (processId : UInt32) (threadId : UInt32)
      (rawCreateThread : Bool) (address : UInt64)
  | resumed
  | pauseCommitted (fallback : TraceReason)
  | processExited
  deriving DecidableEq

/-- What a call is remembered for: that it was made, with its arguments, or what it
returned. -/
inductive TraceEvent where
  | began (ticket : Ticket) (processId : UInt32)
  | submitted (ticket : Ticket) (accepted : Bool)
  /-- An accepted stop request. -/
  | requested (now : TimePoint)
  /-- A traced instruction and whether tracing was told to stop. -/
  | stepped (stop : Bool)
  | reserved (ticket : Ticket)
  | issued (ticket : Ticket) (threadId : UInt32) (address : UInt64)
  | interruptFinished (ticket : Ticket) (safelyRetired : Bool)
  /-- The create-thread event was the helper's. -/
  | threadCreated
  | resumed
  | pauseCommitted
  | processExited
  deriving DecidableEq

namespace TraceControl

open TraceStopCoordinator

/-- `Start` and `Begin` as the request handler pairs them. -/
def beginTrace (control : TraceControl) (arguments : TracePolicy.StartArguments)
    (processEpoch : UInt64) (processId : UInt32) : List TraceEvent × TraceControl :=
  match control.trace.start arguments with
  | none => ([], control)
  | some trace =>
      let stop := control.stop.begin processEpoch processId
      ([.began stop.ticket processId], { trace := trace, stop := stop })

/-- Perform one call and report the events it causes. -/
def apply (control : TraceControl) : TraceCall → List TraceEvent × TraceControl
  | .begin arguments processEpoch processId =>
      control.beginTrace arguments processEpoch processId
  | .submitted ticket accepted =>
      ([.submitted ticket accepted], control.onSubmitted ticket accepted)
  | .request reason now =>
      let result := control.request reason now
      (if result.1 then [.requested now] else [], result.2)
  | .step address nativeStop now =>
      let result := control.step address nativeStop now
      ([.stepped result.1], result.2)
  | .reserve now =>
      let result := control.reserve now
      ((if result.1 then [.requested now] else []) ++
          (result.2.1.map TraceEvent.reserved).toList,
        result.2.2)
  | .issue ticket threadId address =>
      let result := control.stop.issue ticket threadId address
      (if result.1 then [.issued ticket threadId address] else [],
        { control with stop := result.2 })
  | .abandonIssue ticket => ([], { control with stop := control.stop.abandonIssue ticket })
  | .finishInterrupt ticket safelyRetired =>
      ([.interruptFinished ticket safelyRetired], control.finishInterrupt ticket safelyRetired)
  | .threadCreated processEpoch processId threadId rawCreateThread address =>
      let result :=
        control.stop.threadCreated processEpoch processId threadId rawCreateThread address
      (if result.1 then [.threadCreated] else [], { control with stop := result.2 })
  | .resumed => ([.resumed], { control with stop := control.stop.onResumed })
  | .pauseCommitted fallback => ([.pauseCommitted], control.pauseCommitted fallback)
  | .processExited => ([.processExited], control.processExited)

/-- The calls as a transition; every call is enabled in every state. -/
def next : Transition.Step TraceControl TraceCall (List TraceEvent) :=
  fun control call => some (control.apply call)

@[simp]
theorem next_eq_some_iff {control target : TraceControl} {call : TraceCall}
    {events : List TraceEvent} :
    next control call = some (events, target) ↔ control.apply call = (events, target) := by
  simp [next]

end TraceControl

end X64dbgMcp.Trace
