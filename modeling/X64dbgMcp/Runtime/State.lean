import X64dbgMcp.Runtime.EventLog
import X64dbgMcp.Trace.StopCoordinator

/-!
# The state of the plugin runtime

The part of `Runtime` that debugger callbacks read and write under the state
mutex.  The fields guarded by the trace mutex and the event histories are kept
in records of their own; everything else is flat, as in the source.
-/

namespace X64dbgMcp.Runtime

open Trace

/-- The states of the plugin. -/
inductive PluginState where
  | starting
  | ready
  | draining
  | stopped
  deriving DecidableEq

/-- The states of the debuggee. -/
inductive DebuggeeState where
  | absent
  | starting
  | paused
  | running
  | stopping
  | exited
  deriving DecidableEq

/-- How the session came about. -/
inductive SessionOrigin where
  | none
  | launched
  | attached
  deriving DecidableEq

/-- Why the debuggee is paused. -/
inductive PauseReasonKind where
  | unknown
  | processCreated
  | systemBreakpoint
  | breakpoint
  | exception
  | step
  | userPause
  deriving DecidableEq

/-- A pause as a callback told of it. -/
structure PauseObservation where
  generation : Nat := 0
  kind : PauseReasonKind := .unknown
  address : UInt64 := 0
  exceptionCode : UInt64 := 0
  hitCount : UInt32 := 0
  threadId : UInt32 := 0
  breakpointType : UInt8 := 0
  hasAddress : Bool := false
  hasExceptionCode : Bool := false
  firstChance : Bool := false
  hasThreadId : Bool := false
  deriving DecidableEq

/-- An exception that a raw event has announced. -/
structure PendingExceptionObservation where
  processId : UInt32 := 0
  threadId : UInt32 := 0
  code : UInt32 := 0
  address : UInt64 := 0
  firstChance : Bool := false
  valid : Bool := false
  deriving DecidableEq

/-- An owned handle of the traced process. -/
structure ProcessHandle where
  processId : UInt32
  deriving DecidableEq

/-- The fields that the trace mutex guards. -/
structure TraceSide where
  control : TraceControl := {}
  admissionEvent : Nat := 0
  admissionGeneration : Nat := 0
  process : Option ProcessHandle := none
  /-- The thread identifier of the helper's handle. -/
  interruptThread : Option UInt32 := none
  interruptAddress : UInt64 := 0
  pauseCallbackInFlight : Bool := false
  supervisorStopping : Bool := false
  deriving DecidableEq

/-- A create-thread callback that waits for the helper's handle. -/
structure HandshakeWait where
  ticket : Ticket
  raw : EventRecord
  threadId : UInt32
  entry : UInt64
  deriving DecidableEq

/-- What callbacks read and write. -/
structure State where
  pluginState : PluginState := .stopped
  debuggeeState : DebuggeeState := .absent
  sessionOrigin : SessionOrigin := .none
  generation : Nat := 0
  pausedGeneration : Nat := 0
  runningGeneration : Nat := 0
  absentGeneration : Nat := 0
  processId : UInt32 := 0
  activeThreadId : UInt32 := 0
  attachProcessId : UInt32 := 0
  attachGeneration : Nat := 0
  detachProcessId : UInt32 := 0
  detachGeneration : Nat := 0
  pauseInterruptPending : Bool := false
  ownedPauseException : Bool := false
  ownedPauseSelectedThreadId : UInt32 := 0
  processEpoch : UInt64 := 0
  rawEventSequence : Nat := 0
  nativePauseEvent : Option Nat := none
  pendingTraceThread : Option EventRecord := none
  latestPause : PauseObservation := {}
  pendingException : PendingExceptionObservation := {}
  trace : TraceSide := {}
  events : EventLog := {}
  /-- Callbacks blocked inside the create-thread handshake. -/
  handshakes : List HandshakeWait := []
  deriving DecidableEq

/-- The five fields that a snapshot reader relies on. -/
structure Observation where
  debuggeeState : DebuggeeState
  processId : UInt32
  activeThreadId : UInt32
  latestPause : PauseObservation
  sessionOrigin : SessionOrigin
  deriving DecidableEq

namespace State

/-- What a snapshot reader relies on. -/
def observation (state : State) : Observation where
  debuggeeState := state.debuggeeState
  processId := state.processId
  activeThreadId := state.activeThreadId
  latestPause := state.latestPause
  sessionOrigin := state.sessionOrigin

/-- Begin reading the paused debuggee: the generation to compare with later. -/
def beginPausedSnapshot (state : State) : Option Nat :=
  if state.pluginState != .ready || state.debuggeeState != .paused then none
  else some state.generation

/-- The snapshot of this generation still holds. -/
def pausedSnapshotCurrent (state : State) (generation : Nat) : Bool :=
  state.pluginState == .ready && state.debuggeeState == .paused &&
    state.generation == generation

/-- So does the pause of this generation. -/
def pauseObservationCurrent (state : State) (generation pauseGeneration : Nat) : Bool :=
  state.pausedSnapshotCurrent generation && state.pausedGeneration == pauseGeneration

/-- The generation at which the debuggee was last seen in a state. -/
def observedGeneration (state : State) : DebuggeeState → Nat
  | .paused => state.pausedGeneration
  | .running => state.runningGeneration
  | .absent => state.absentGeneration
  | .starting | .stopping | .exited => 0

/-- What `WaitForState` returns when it ends in this state. -/
def waitForState (state : State) (expected : DebuggeeState) (afterGeneration : Nat) : Bool :=
  state.pluginState == .ready && afterGeneration < state.observedGeneration expected

/-- What `WaitForPauseReason` returns when it ends in this state. -/
def waitForPauseReason (state : State) (reason : PauseReasonKind) (afterGeneration : Nat) : Bool :=
  state.pluginState == .ready && afterGeneration < state.pausedGeneration &&
    state.latestPause.kind == reason

/-- Record an event in the log of the state. -/
def recordEventLocked (state : State) (input : RecordInput) (event : EventRecord) :
    List EventRecord × State :=
  let result := state.events.recordEventLocked input event
  (result.1.toList, { state with events := result.2 })

end State

end X64dbgMcp.Runtime
