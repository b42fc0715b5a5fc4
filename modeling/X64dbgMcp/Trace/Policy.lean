import Mathlib.Data.List.Basic

/-!
# Trace record of the plugin

`TracePolicy` is the record of one bounded instruction trace: its identity, its
step budget and deadline, the points collected so far and the reason for which
it stops.  A pending reason is recorded first and published only by `finalize`,
so a stop request and the end of the trace are different events.

Time points are the 64-bit nanosecond counts of the steady clock.
-/

namespace X64dbgMcp.Trace

/-- Nanoseconds of the steady clock, whose sums wrap around. -/
abbrev TimePoint := Int64

/-- `time_point::max()`, used as "never". -/
def TimePoint.max : TimePoint :=
  Int64.maxValue

/-- Into calls or over them. -/
inductive TraceMode where
  | into
  | over
  deriving DecidableEq

/-- The states of a trace. -/
inductive TraceState where
  | starting
  | running
  | completed
  | cancelled
  | timedOut
  | interrupted
  deriving DecidableEq

/-- Why a trace ends. -/
inductive TraceReason where
  | none
  | maxSteps
  | cancelled
  | timeout
  | breakpoint
  | exception
  | userPause
  | processExit
  | backendShutdown
  | interrupted
  deriving DecidableEq

/-- A module of the debuggee as captured when the trace starts. -/
structure TraceModule where
  base : UInt64
  size : UInt64
  name : String
  deriving DecidableEq

/-- An instruction that the trace has come to. -/
structure TracePoint where
  address : UInt64
  deriving DecidableEq

/-- A trace with its limits and what it has recorded. -/
structure TracePolicy where
  id : String := ""
  mode : TraceMode := .into
  state : TraceState := .interrupted
  reason : TraceReason := .none
  pendingReason : TraceReason := .none
  maxSteps : Nat := 0
  stepsExecuted : Nat := 0
  deadline : TimePoint := 0
  points : List TracePoint := []
  modules : List TraceModule := []
  deriving DecidableEq

namespace TracePolicy

/-- The most steps of a trace. -/
def kMaxSteps : Nat := 4096

/-- The most points, with the one it starts at. -/
def kMaxPoints : Nat := kMaxSteps + 1

/-- The trace has begun and not ended. -/
def active (trace : TracePolicy) : Bool :=
  trace.state == .starting || trace.state == .running

/-- The trace has ended. -/
def terminal (trace : TracePolicy) : Bool :=
  !trace.id.isEmpty && !trace.active

/-- Arguments of `Start`.  `allocated` tells whether the point buffer could be
reserved; a failed allocation is caught and reported as a refusal. -/
structure StartArguments where
  id : String
  mode : TraceMode
  maxSteps : Nat
  deadline : TimePoint
  initialAddress : UInt64
  modules : List TraceModule
  allocated : Bool
  deriving DecidableEq

/-- Start a trace, or refuse and leave the record alone. -/
def start (trace : TracePolicy) (arguments : StartArguments) : Option TracePolicy :=
  if arguments.id.isEmpty || trace.active || arguments.maxSteps == 0 ||
      decide (kMaxSteps < arguments.maxSteps) || arguments.initialAddress == 0 then
    none
  else if !arguments.allocated then
    none
  else
    some
      { id := arguments.id
        mode := arguments.mode
        state := .starting
        reason := .none
        pendingReason := .none
        maxSteps := arguments.maxSteps
        stepsExecuted := 0
        deadline := arguments.deadline
        points := [⟨arguments.initialAddress⟩]
        modules := arguments.modules }

/-- The debugger has taken the command. -/
def submitted (trace : TracePolicy) : TracePolicy :=
  if trace.state = .starting then { trace with state := .running } else trace

/-- The reason pending after one more step, in the order in which the source
tests them: an earlier reason, the deadline, the step budget, a native stop. -/
def stepReason (pending : TraceReason) (late exhausted nativeStop : Bool) : TraceReason :=
  if pending = .none then
    if late then .timeout
    else if exhausted then .maxSteps
    else if nativeStop then .interrupted
    else .none
  else pending

/-- Record one executed step; the result says whether tracing has to stop. -/
def onStep (trace : TracePolicy) (address : UInt64) (nativeStop : Bool)
    (now : TimePoint) : Bool × TracePolicy :=
  if !trace.active then (true, trace)
  else
    let points :=
      if trace.points.length < kMaxPoints ∧ trace.points.length < trace.maxSteps + 1 then
        trace.points ++ [⟨address⟩]
      else trace.points
    let steps :=
      if trace.stepsExecuted < trace.maxSteps then trace.stepsExecuted + 1
      else trace.stepsExecuted
    let pending := stepReason trace.pendingReason (decide (trace.deadline ≤ now))
      (decide (trace.maxSteps ≤ steps)) nativeStop
    (pending != .none,
      { trace with
        state := .running
        points := points
        stepsExecuted := steps
        pendingReason := pending })

/-- Accept a stop request of an active trace.  The first reason is kept, except
that a shutdown replaces a pending timeout. -/
def requestStop (trace : TracePolicy) (reason : TraceReason) : Bool × TracePolicy :=
  if !trace.active || reason == .none then (false, trace)
  else if trace.pendingReason = .none ∨
      trace.pendingReason = .timeout ∧ reason = .backendShutdown then
    (true, { trace with pendingReason := reason })
  else (true, trace)

/-- The state published for a final reason. -/
def finalState : TraceReason → TraceState
  | .maxSteps => .completed
  | .cancelled => .cancelled
  | .timeout => .timedOut
  | _ => .interrupted

/-- The reason published when a trace ends with `pending` recorded. -/
def finalReason (pending fallback : TraceReason) : TraceReason :=
  let reason := if pending = .none then fallback else pending
  if reason = .none then .interrupted else reason

/-- Publish the end of an active trace. -/
def finalize (trace : TracePolicy) (fallback : TraceReason) : TracePolicy :=
  if trace.active then
    { trace with
      reason := finalReason trace.pendingReason fallback
      state := finalState (finalReason trace.pendingReason fallback)
      pendingReason := .none }
  else trace

/-! ## What the operations do to `active` -/

theorem active_of_start {trace started : TracePolicy} {arguments : StartArguments}
    (accepted : trace.start arguments = some started) : started.active = true := by
  unfold start at accepted
  split at accepted
  · contradiction
  · split at accepted
    · contradiction
    · cases accepted
      rfl

theorem inactive_of_start {trace started : TracePolicy} {arguments : StartArguments}
    (accepted : trace.start arguments = some started) : trace.active = false := by
  unfold start at accepted
  split at accepted
  · contradiction
  · rename_i admitted
    simp only [Bool.or_eq_true, not_or] at admitted
    exact Bool.eq_false_iff.mpr admitted.1.1.1.2

@[simp]
theorem active_submitted (trace : TracePolicy) : trace.submitted.active = trace.active := by
  unfold submitted
  split
  · rename_i starting
    simp [active, starting]
  · rfl

@[simp]
theorem active_onStep (trace : TracePolicy) (address : UInt64) (nativeStop : Bool)
    (now : TimePoint) : (trace.onStep address nativeStop now).2.active = trace.active := by
  unfold onStep
  cases isActive : trace.active <;> simp [active]
  simpa [active] using isActive

@[simp]
theorem active_requestStop (trace : TracePolicy) (reason : TraceReason) :
    (trace.requestStop reason).2.active = trace.active := by
  unfold requestStop
  split
  · rfl
  · split <;> rfl

theorem requestStop_of_inactive {trace : TracePolicy} (reason : TraceReason)
    (inactive : trace.active = false) : trace.requestStop reason = (false, trace) := by
  simp [requestStop, inactive]

/-- `finalize` always leaves a trace that is no longer active. -/
@[simp]
theorem active_finalize (trace : TracePolicy) (fallback : TraceReason) :
    (trace.finalize fallback).active = false := by
  unfold finalize
  split
  · unfold active
    cases finalReason trace.pendingReason fallback <;> rfl
  · rename_i inactive
    exact Bool.eq_false_iff.mpr inactive

@[simp]
theorem deadline_requestStop (trace : TracePolicy) (reason : TraceReason) :
    (trace.requestStop reason).2.deadline = trace.deadline := by
  unfold requestStop
  split
  · rfl
  · split <;> rfl

end TracePolicy

end X64dbgMcp.Trace
