import Mathlib.Logic.Function.Basic
import X64dbgMcp.Transition.Execution

/-!
# The debugger executor

`DebuggerExecutor` runs operations of concurrent `Execute` calls on a single
worker thread, through a bounded queue.  Atomic steps are the locked sections,
the loads and stores of the two flags of a work item, and the completion of its
promise, so every interleaving of callers, worker and `Stop` is an execution.

Deadlines are not modelled: a wait whose promise is not set may end at any time.
Each `Execute` call is identified by a number and owns one work item.
-/

namespace X64dbgMcp.Executor

/-- How a call of `Execute` ends. -/
inductive ExecutionStatus where
  | completed
  | busy
  | timedOutQueued
  | timedOutStarted
  | stopped
  deriving DecidableEq

/-- What a call of `Execute` returns. -/
structure ExecutionResult where
  status : ExecutionStatus
  value : String := ""
  deriving DecidableEq

/-- Where an `Execute` call stands. -/
inductive CallPoint where
  /-- Before its locked section. -/
  | idle
  /-- Queued, waiting for the promise or the deadline. -/
  | waiting
  /-- The wait timed out; `cancelled` is not stored yet. -/
  | expired
  /-- `cancelled` is stored; `started` is not loaded yet. -/
  | cancelling
  | returned (result : ExecutionResult)
  deriving DecidableEq

/-- One call and its work item.  The last two fields record what really happened
to the operation: how often it was invoked, and how each invocation ended
(`none` for an exception). -/
structure Call where
  point : CallPoint := .idle
  started : Bool := false
  cancelled : Bool := false
  completion : Option String := none
  runs : Nat := 0
  outcomes : List (Option String) := []
  deriving DecidableEq

/-- Where the worker thread stands, with the work item it holds. -/
inductive WorkerPoint where
  | absent
  | idle
  /-- Popped; `cancelled` is not loaded yet. -/
  | popped (id : Nat)
  /-- `cancelled` was loaded as true; the promise is not set yet. -/
  | skipping (id : Nat)
  /-- `cancelled` was loaded as false; `started` is not stored yet. -/
  | starting (id : Nat)
  /-- `started` is stored; the operation is not invoked yet. -/
  | started (id : Nat)
  | running (id : Nat)
  /-- The operation ended; the promise is not set yet. -/
  | finishing (id : Nat) (outcome : Option String)
  /-- The thread function returned; the thread is not joined. -/
  | exited
  deriving DecidableEq

/-- How far a call of `Stop` has come. -/
inductive StopPoint where
  | idle
  | joining
  | clearing
  deriving DecidableEq

/-- The executor, its callers and its two threads.  The logs record the order in
which work was queued and in which operations were invoked. -/
structure State where
  accepting : Bool := false
  stopping : Bool := false
  queue : List Nat := []
  worker : WorkerPoint := .absent
  stop : StopPoint := .idle
  calls : Nat → Call := fun _ => {}
  queuedLog : List Nat := []
  startLog : List Nat := []

/-- The steps of the executor: its callers, its worker and `Stop`. -/
inductive Action where
  /-- `Start`; the flag tells whether the thread could be created. -/
  | start (created : Bool)
  /-- The locked section of `Execute`. -/
  | enqueue (id : Nat)
  /-- The wait of `Execute` finds the promise set. -/
  | observeReady (id : Nat)
  | observeTimeout (id : Nat)
  | storeCancelled (id : Nat)
  | loadStarted (id : Nat)
  | pop
  | exitWorker
  | loadCancelled
  | completeSkipped
  | storeStarted
  | invoke
  /-- The operation returns a value or throws. -/
  | endOperation (outcome : Option String)
  | completeRun
  | stopCancel
  | stopJoin
  | stopClear
  deriving DecidableEq

/-- How many tasks may wait. -/
def kCapacity : Nat := 32

namespace WorkerPoint

/-- The work item in the hands of the worker. -/
def held : WorkerPoint → Option Nat
  | .popped id | .skipping id | .starting id | .started id | .running id => some id
  | .finishing id _ => some id
  | .absent | .idle | .exited => none

/-- The work item that the worker holds and has not invoked. -/
def pending : WorkerPoint → Option Nat
  | .popped id | .skipping id | .starting id | .started id => some id
  | _ => none

/-- `worker_.joinable()`. -/
def joinable (worker : WorkerPoint) : Bool :=
  worker != .absent

end WorkerPoint

namespace State

/-- Store the state of a call. -/
def setCall (state : State) (id : Nat) (call : Call) : State :=
  { state with calls := Function.update state.calls id call }

/-- Store how far a call has come. -/
def setPoint (state : State) (id : Nat) (point : CallPoint) : State :=
  state.setCall id { state.calls id with point := point }

/-- Return from `Execute`. -/
def answer (state : State) (id : Nat) (status : ExecutionStatus) (value : String) : State :=
  state.setPoint id (.returned ⟨status, value⟩)

/-- Set the promise of a work item and look for the next one. -/
def complete (state : State) (id : Nat) (value : String) : State :=
  { state.setCall id { state.calls id with completion := some value } with worker := .idle }

/-- `Start`, which does nothing while there is a thread. -/
def start (state : State) (created : Bool) : State :=
  if state.accepting || state.worker.joinable then state
  else if created then { state with stopping := false, accepting := true, worker := .idle }
  else { state with stopping := false, accepting := false }

/-- The admission of `Execute`: refused, full or queued. -/
def enqueue (state : State) (id : Nat) : State :=
  if !state.accepting then state.answer id .stopped ""
  else if kCapacity ≤ state.queue.length then state.answer id .busy ""
  else
    { state.setPoint id .waiting with
      queue := state.queue ++ [id]
      queuedLog := state.queuedLog ++ [id] }

/-- `Stop` cancels everything queued under the lock. -/
def stopCancel (state : State) : State :=
  { state with
    accepting := false
    stopping := true
    calls := fun id =>
      if id ∈ state.queue then { state.calls id with cancelled := true } else state.calls id
    stop := .joining }

/-- The steps of callers, worker and `Stop`. -/
def next : Transition.Step State Action Unit := fun state action =>
  match action with
  | .start created => some ((), state.start created)
  | .enqueue id =>
      if (state.calls id).point = .idle then some ((), state.enqueue id) else none
  | .observeReady id =>
      match (state.calls id).point, (state.calls id).completion with
      | .waiting, some value => some ((), state.answer id .completed value)
      | _, _ => none
  | .observeTimeout id =>
      match (state.calls id).point, (state.calls id).completion with
      | .waiting, none => some ((), state.setPoint id .expired)
      | _, _ => none
  | .storeCancelled id =>
      if (state.calls id).point = .expired then
        some ((), state.setCall id
          { state.calls id with point := .cancelling, cancelled := true })
      else none
  | .loadStarted id =>
      if (state.calls id).point = .cancelling then
        some ((), state.answer id
          (if (state.calls id).started then .timedOutStarted else .timedOutQueued) "")
      else none
  | .pop =>
      match state.worker, state.queue with
      | .idle, id :: rest => some ((), { state with worker := .popped id, queue := rest })
      | _, _ => none
  | .exitWorker =>
      if state.worker = .idle ∧ state.stopping = true ∧ state.queue = [] then
        some ((), { state with worker := .exited })
      else none
  | .loadCancelled =>
      match state.worker with
      | .popped id =>
          if (state.calls id).cancelled then some ((), { state with worker := .skipping id })
          else some ((), { state with worker := .starting id })
      | _ => none
  | .completeSkipped =>
      match state.worker with
      | .skipping id => some ((), state.complete id "")
      | _ => none
  | .storeStarted =>
      match state.worker with
      | .starting id =>
          some ((), { state.setCall id { state.calls id with started := true } with
            worker := .started id })
      | _ => none
  | .invoke =>
      match state.worker with
      | .started id =>
          some ((), { state.setCall id
              { state.calls id with runs := (state.calls id).runs + 1 } with
            worker := .running id
            startLog := state.startLog ++ [id] })
      | _ => none
  | .endOperation outcome =>
      match state.worker with
      | .running id =>
          some ((), { state.setCall id
              { state.calls id with outcomes := (state.calls id).outcomes ++ [outcome] } with
            worker := .finishing id outcome })
      | _ => none
  | .completeRun =>
      match state.worker with
      -- An exception is answered with an empty value.
      | .finishing id outcome => some ((), state.complete id (outcome.getD ""))
      | _ => none
  | .stopCancel =>
      if state.stop = .idle then some ((), state.stopCancel) else none
  | .stopJoin =>
      if state.stop = .joining ∧ (state.worker = .absent ∨ state.worker = .exited) then
        some ((), { state with worker := .absent, stop := .clearing })
      else none
  | .stopClear =>
      if state.stop = .clearing then
        some ((), { state with queue := [], stopping := false, stop := .idle })
      else none

@[simp]
theorem calls_setCall (state : State) (id other : Nat) (call : Call) :
    (state.setCall id call).calls other = if other = id then call else state.calls other :=
  Function.update_apply state.calls id call other

@[simp]
theorem setCall_self (state : State) (id : Nat) : state.setCall id (state.calls id) = state := by
  simp [setCall]

/-- A property of all calls after one of them was replaced. -/
theorem forall_setCall {state : State} {id : Nat} {call : Call} {motive : Nat → Call → Prop}
    (replaced : motive id call) (kept : ∀ other, other ≠ id → motive other (state.calls other))
    (other : Nat) : motive other ((state.setCall id call).calls other) :=
  (Function.forall_update_iff state.calls motive).mpr ⟨replaced, kept⟩ other

end State

end X64dbgMcp.Executor
