import X64dbgMcp.Collection.LossyLine
import X64dbgMcp.Events.Accounting
import X64dbgMcp.Events.EventPage
import X64dbgMcp.Ipc.ToolError
import X64dbgMcp.Runtime.EventSession

/-!
# Waiting for an event

`events.wait` subscribes to the published events, asks the plugin for the number
of its latest record and then takes the first published event beyond it.  The
events come over another pipe than the answer: recording enqueues them, the
worker of the stream writes them, and the sidecar reads and publishes them.

One call is followed from its subscription on; the channel gives it every
published value in order or interrupts it.
-/

namespace X64dbgMcp.Events

open Transition Collection Text Plugin
open X64dbgMcp.Runtime
open X64dbgMcp.Ipc (ToolError)

/-- What the plugin answers while the call is armed. -/
structure Barrier where
  sessionId : String
  latestSequence : Nat
  deriving DecidableEq

/-- A call of `events.wait`, with the published values it has not received. -/
inductive WaitCall where
  | idle
  | armed (pending : List Frame)
  | waiting (barrier : Barrier) (pending : List Frame)
  | answered (barrier : Barrier) (event : EventRecord)
  | failed (error : ToolError)

/-- The error of a wait whose session has ended. -/
def sessionChanged : ToolError where
  code := .cancelled
  message := "debuggee session changed while waiting for an event"
  recoverable := true
  safeToRetry := false
  details := .object []

/-- The error of a wait that was too slow for the publisher. -/
def waitOverflowed (skipped : UInt64) : ToolError where
  code := .internal
  message := "native event wait overflowed"
  recoverable := true
  safeToRetry := false
  details := .object [("skipped", .number (.posInt skipped))]

/-- The error of a wait whose connection is gone. -/
def waitClosed : ToolError where
  code := .pluginUnavailable
  message := "native event transport closed"
  recoverable := true
  safeToRetry := true
  details := .object []

/-- The error of a wait that saw no matching event in time. -/
def waitTimedOut : ToolError where
  code := .timeout
  message := "no matching debugger event was observed"
  recoverable := true
  safeToRetry := true
  details := .object []

/-- The body of the loop of `wait_event`: a value is skipped or ends the call. -/
def examine (types : List EventKind) (barrier : Barrier) :
    Frame → Option (Except ToolError EventRecord)
  | .gap _ => none
  | .event event =>
      if event.sessionId ≠ barrier.sessionId then
        if event.kind = .processCreated then some (.error sessionChanged) else none
      else if event.sequence ≤ barrier.latestSequence then none
      else if wanted types event.kind then some (.ok event)
      else none

/-- The plugin, the event pipe and one call. -/
structure Delivery where
  runtime : State
  stream : EventStream
  /-- Frames that the worker wrote and the sidecar has not read. -/
  pipe : List Frame
  call : WaitCall

/-- The steps on the way of an event from the runtime to a waiting call. -/
inductive DeliveryAction where
  /-- A step of the runtime; `stored` tells whether the stream could allocate room. -/
  | runtime (action : Action) (stored : Bool)
  | stream (action : StreamAction)
  /-- The sidecar reads a frame and publishes it. -/
  | receive
  /-- The connection ends; what was not read is gone. -/
  | broken
  | arm
  | barrier (requestId : String) (deadlineUnixMs : Nat) (input : PageInput)
  /-- The barrier's request failed or its answer lacks a field. -/
  | refused (error : ToolError)
  | recv
  | lagged (skipped : UInt64)
  | closed
  | timedOut

/-- The events recorded by a step, and those that it keeps from the call. -/
structure DeliveryOutput where
  recorded : List EventRecord := []
  lost : List EventRecord := []

/-! ## Losses -/

/-- The events that frames carry, in order. -/
def framesEvents (frames : List Frame) : List EventRecord :=
  frames.flatMap Frame.events

namespace EventStream

/-- What `Enqueue` evicts or refuses. -/
def evicts (stream : EventStream) (event : EventRecord) (stored : Bool) : List EventRecord :=
  if stream.stopping then [event]
  else
    (if stream.queue.length == kMaxQueuedEvents then stream.queue.head?.toList else []) ++
      (if stored then [] else [event])

/-- The events that a step of the worker, of `Start` or of `Stop` discards. -/
def discards (stream : EventStream) : StreamAction → List EventRecord
  | .clear | .createPipe true => stream.queue
  | .restore false => framesEvents stream.inHand
  | .throw => framesEvents stream.inHand ++ stream.queue
  | _ => []

/-- Enqueue the events of one step. -/
def enqueueAll (stored : Bool) : EventStream → List EventRecord → List EventRecord × EventStream
  | stream, [] => ([], stream)
  | stream, event :: rest =>
      let (lost, reached) := enqueueAll stored (stream.enqueue event stored).2 rest
      (stream.evicts event stored ++ lost, reached)

end EventStream

/-- A step of the runtime gives its recorded events to the stream, and the
instance that it accepts. -/
def EventStream.follow (stream : EventStream) (action : Action) (stored : Bool)
    (recorded : List EventRecord) : List EventRecord × EventStream :=
  let (lost, enqueued) := stream.enqueueAll stored recorded
  match action.accepted with
  | none => (lost, enqueued)
  | some instanceId =>
      (lost,
        { enqueued with
          instanceId := if stored then instanceId else enqueued.instanceId
          stopping := !stored || enqueued.stopping })

/-- Publish a frame.  Without a subscription the call never sees it. -/
def WaitCall.publish (frame : Frame) : WaitCall → List EventRecord × WaitCall
  | .armed pending => ([], .armed (pending ++ [frame]))
  | .waiting barrier pending => ([], .waiting barrier (pending ++ [frame]))
  | call => (frame.events, call)

namespace Delivery

/-- The request for the barrier. -/
def barrierRequest (requestId : String) (deadlineUnixMs : Nat) : Request where
  requestId := requestId
  method := "events.list"
  deadlineUnixMs := deadlineUnixMs
  mutation := false
  pageLimit := 1

/-- A waiting call ends in an error. -/
def interrupt (delivery : Delivery) (error : ToolError) : Option (DeliveryOutput × Delivery) :=
  match delivery.call with
  | .waiting _ _ => some ({}, { delivery with call := .failed error })
  | _ => none

/-- One step of the delivery. -/
def next (types : List EventKind) : Step Delivery DeliveryAction DeliveryOutput :=
  fun delivery action =>
    match action with
    | .runtime action stored =>
        (State.next delivery.runtime action).map fun (output, runtime) =>
          let (lost, stream) := delivery.stream.follow action stored output.recorded
          ({ recorded := output.recorded, lost := lost },
            { delivery with runtime := runtime, stream := stream })
    | .stream action =>
        match action with
        -- These come with steps of the runtime.
        | .enqueue _ _ | .setInstanceId _ _ => none
        | .disconnect =>
            (delivery.stream.next .disconnect).map fun (_, stream) =>
              ({ lost := framesEvents delivery.pipe },
                { delivery with stream := stream, pipe := [] })
        | action =>
            (delivery.stream.next action).map fun (output, stream) =>
              ({ lost := delivery.stream.discards action },
                { delivery with stream := stream, pipe := delivery.pipe ++ output.delivered })
    | .receive =>
        match delivery.pipe with
        | [] => none
        | frame :: rest =>
            let (lost, call) := delivery.call.publish frame
            some ({ lost := lost }, { delivery with pipe := rest, call := call })
    | .broken => some ({ lost := framesEvents delivery.pipe }, { delivery with pipe := [] })
    | .arm =>
        match delivery.call with
        | .idle => some ({}, { delivery with call := .armed [] })
        | _ => none
    | .barrier requestId deadlineUnixMs input =>
        match delivery.call with
        | .armed pending =>
            match listEvents delivery.runtime.events
                (barrierRequest requestId deadlineUnixMs) input with
            | .error _ => none
            | .ok page =>
                some ({},
                  { delivery with
                    call := .waiting ⟨page.sessionId, page.latestSequence⟩ pending })
        | _ => none
    | .refused error =>
        match delivery.call with
        | .armed _ => some ({}, { delivery with call := .failed error })
        | _ => none
    | .recv =>
        match delivery.call with
        | .waiting barrier (frame :: rest) =>
            match examine types barrier frame with
            | none => some ({}, { delivery with call := .waiting barrier rest })
            | some (.error error) => some ({}, { delivery with call := .failed error })
            | some (.ok event) => some ({}, { delivery with call := .answered barrier event })
        | _ => none
    | .lagged skipped => delivery.interrupt (waitOverflowed skipped)
    | .closed => delivery.interrupt waitClosed
    | .timedOut => delivery.interrupt waitTimedOut

end Delivery

/-! ## The line of events on their way -/

variable {stream after : EventStream} {event : EventRecord} {stored : Bool}

theorem framesEvents_append (first second : List Frame) :
    framesEvents (first ++ second) = framesEvents first ++ framesEvents second :=
  List.flatMap_append

theorem framesEvents_singleton (frame : Frame) : framesEvents [frame] = frame.events :=
  List.flatMap_singleton Frame.events frame

namespace EventStream

/-- The events of the stream, the next one first. -/
def line (stream : EventStream) : List EventRecord :=
  framesEvents stream.inHand ++ stream.queue

theorem passes_enqueue (stream : EventStream) (event : EventRecord) (stored : Bool) :
    Passes stream.line [event] (stream.evicts event stored) (stream.enqueue event stored).2.line := by
  cases running : stream.stopping with
  | true =>
      simp only [enqueue, evicts, running, if_true]
      exact .refuse _ _
  | false =>
      have queue : Passes stream.queue [event] (stream.evicts event stored)
          (stream.enqueue event stored).2.queue := by
        simp only [enqueue, evicts, running, Bool.false_eq_true, if_false]
        have ends : ∀ line : List EventRecord, Passes line [event]
            (if stored then [] else [event]) (if stored then line ++ [event] else line) := by
          intro line
          cases stored
          · exact .refuse line [event]
          · exact .join line [event]
        cases queue : stream.queue with
        | nil => exact ends []
        | cons head rest =>
            by_cases full : (head :: rest).length == kMaxQueuedEvents
            · simp only [full, if_true]
              exact (Passes.front [head] rest).trans (ends rest)
            · simp only [full]
              exact ends (head :: rest)
      have hand : (stream.enqueue event stored).2.inHand = stream.inHand := by
        simp only [enqueue, running, Bool.false_eq_true, if_false]
        rfl
      rw [line, line, hand]
      exact queue.behind _

theorem passes_enqueueAll (stored : Bool) (stream : EventStream) (events : List EventRecord) :
    Passes stream.line events (enqueueAll stored stream events).1
      (enqueueAll stored stream events).2.line := by
  induction events generalizing stream with
  | nil => exact .refl _
  | cons event rest ih => exact (passes_enqueue stream event stored).trans (ih _)

theorem passes_follow (stream : EventStream) (action : Action) (stored : Bool)
    (events : List EventRecord) :
    Passes stream.line events (stream.follow action stored events).1
      (stream.follow action stored events).2.line := by
  have passes := passes_enqueueAll stored stream events
  simp only [follow]
  split <;> exact passes

/-- What a step discards was on its way. -/
theorem mem_line_of_discards {action : StreamAction} (lost : event ∈ stream.discards action) :
    event ∈ stream.line := by
  simp only [discards] at lost
  split at lost
  · exact List.mem_append_right _ lost
  · exact List.mem_append_right _ lost
  · exact List.mem_append_left _ lost
  · exact lost
  · cases lost

theorem line_of_free (free : stream.worker.frame = none) : stream.line = stream.queue := by
  rw [line, inHand_of_free free]
  rfl

/-- A step of the stream alone: what it writes was first in line. -/
theorem passes_next {action : StreamAction} {output : StreamOutput}
    (notEnqueue : ∀ event stored, action ≠ .enqueue event stored)
    (stepped : next stream action = some (output, after)) :
    Passes stream.line [] (stream.discards action) (framesEvents output.delivered ++ after.line) := by
  have kept : Passes stream.line [] (stream.discards action) stream.line := by
    refine ⟨by simp, ?_, ?_⟩
    · intro event member
      rw [List.append_nil] at member
      exact .inr member
    · intro event lost
      rw [List.append_nil]
      exact mem_line_of_discards lost
  cases effect_next stepped with
  | quiet other queue dropped frame isOpen =>
      have same : after.line = stream.line := by rw [line, line, inHand, inHand, queue, frame]
      rw [same]
      exact kept
  | reset resets closed queue dropped frame =>
      have discarded : stream.discards action = stream.queue := by
        rcases resets with rfl | rfl <;> rfl
      have same : after.line = framesEvents stream.inHand ++ [] := by
        rw [line, inHand, inHand, queue, frame]
      rw [discarded, same]
      exact (Passes.all stream.queue).behind _
  | enqueued event stored running => exact absurd rfl (notEnqueue event stored)
  | tookGap free =>
      rw [line_of_free free] at kept ⊢
      exact kept
  | tookEvent event rest free queue =>
      rw [line_of_free free, queue] at kept ⊢
      exact kept
  | delivered frame held =>
      rw [line, inHand_of_holding held] at kept ⊢
      exact kept
  | restored frame stored held =>
      have hand := inHand_of_refused held
      rw [line, hand] at kept ⊢
      cases frame with
      | gap dropped => exact kept
      | event event =>
          cases stored with
          | true => exact kept
          | false =>
              rw [discards, hand]
              exact .front [event] stream.queue
  | thrown => exact .all _

end EventStream

/-! ## Steps of the whole chain -/

/-- What is known of a call while it goes on. -/
inductive Phase where
  | before
  | waiting (barrier : Barrier)
  | answered (barrier : Barrier) (event : EventRecord)
  | failed

namespace WaitCall

/-- The frames that a call has not looked at. -/
def pending : WaitCall → List Frame
  | .armed pending | .waiting _ pending => pending
  | _ => []

/-- How far a call has come, without its frames. -/
def phase : WaitCall → Phase
  | .idle | .armed _ => .before
  | .waiting barrier _ => .waiting barrier
  | .answered barrier event => .answered barrier event
  | .failed _ => .failed

theorem passes_publish (call : WaitCall) (frame : Frame) :
    (call.publish frame).2.phase = call.phase ∧
      ∀ rest, Passes (framesEvents call.pending ++ (frame.events ++ rest)) []
        (call.publish frame).1 (framesEvents (call.publish frame).2.pending ++ rest) := by
  have joined : ∀ (pending : List Frame) (rest : List EventRecord),
      Passes (framesEvents pending ++ (frame.events ++ rest)) [] []
        (framesEvents (pending ++ [frame]) ++ rest) := by
    intro pending rest
    rw [framesEvents_append, framesEvents_singleton, List.append_assoc]
    exact .refl _
  cases call with
  | armed pending => exact ⟨rfl, joined pending⟩
  | waiting barrier pending => exact ⟨rfl, joined pending⟩
  | _ => exact ⟨rfl, fun rest => .front frame.events rest⟩

end WaitCall

namespace Delivery

/-- Everything recorded that may still reach the call, in order. -/
def line (delivery : Delivery) : List EventRecord :=
  framesEvents delivery.call.pending ++ (framesEvents delivery.pipe ++ delivery.stream.line)

/-- What one step can do. -/
inductive Moves (types : List EventKind) (before : Delivery) (action : DeliveryAction)
    (output : DeliveryOutput) (after : Delivery) : Prop
  | passed (passes : Passes before.line output.recorded output.lost after.line)
      (phase : after.call.phase = before.call.phase)
  | asked (barrier : Barrier) (quiet : output = {}) (line : after.line = before.line)
      (phase : before.call.phase = .before) (asks : after.call.phase = .waiting barrier)
  | skipped (barrier : Barrier) (frame : Frame) (rest : List Frame) (quiet : output = {})
      (call : before.call = .waiting barrier (frame :: rest))
      (skips : examine types barrier frame = none)
      (next : after = { before with call := .waiting barrier rest })
  | answered (barrier : Barrier) (frame : Frame) (rest : List Frame) (event : EventRecord)
      (quiet : output = {}) (call : before.call = .waiting barrier (frame :: rest))
      (answers : examine types barrier frame = some (.ok event))
      (next : after = { before with call := .answered barrier event })
  | failed (error : ToolError) (quiet : output = {})
      (next : after = { before with call := .failed error })

theorem moves_next {types : List EventKind} {before after : Delivery} {action : DeliveryAction}
    {output : DeliveryOutput} (stepped : next types before action = some (output, after)) :
    Moves types before action output after := by
  cases action with
  | runtime action stored =>
      simp only [next, Option.map_eq_some_iff, Prod.mk.injEq, Prod.exists] at stepped
      rcases stepped with ⟨observed, runtime, -, rfl, rfl⟩
      exact .passed (((before.stream.passes_follow action stored observed.recorded).behind _).behind _)
        rfl
  | stream action =>
      simp only [next] at stepped
      split at stepped
      · cases stepped
      · cases stepped
      · simp only [Option.map_eq_some_iff, Prod.mk.injEq, Prod.exists] at stepped
        rcases stepped with ⟨observed, stream, stepped, rfl, rfl⟩
        have same : stream.line = before.stream.line := by
          simp only [EventStream.next] at stepped
          split at stepped
          · rename_i disconnecting
            cases stepped
            rw [EventStream.line_of_free rfl, EventStream.line_of_free (by rw [disconnecting]; rfl)]
          · cases stepped
        refine .passed ?_ rfl
        simp only [line, same]
        exact (Passes.front _ _).behind _
      · rename_i notEnqueue notSet notDisconnect
        simp only [Option.map_eq_some_iff, Prod.mk.injEq, Prod.exists] at stepped
        rcases stepped with ⟨observed, stream, stepped, rfl, rfl⟩
        refine .passed ?_ rfl
        have passes := EventStream.passes_next notEnqueue stepped
        simp only [line, framesEvents_append, List.append_assoc]
        exact (passes.behind _).behind _
  | receive =>
      simp only [next] at stepped
      split at stepped
      · cases stepped
      · rename_i frame rest written
        cases stepped
        rcases before.call.passes_publish frame with ⟨phase, passes⟩
        refine .passed ?_ phase
        have published := passes (framesEvents rest ++ before.stream.line)
        rw [← List.append_assoc frame.events] at published
        rw [line, written]
        exact published
  | broken =>
      cases stepped
      exact .passed ((Passes.front _ _).behind _) rfl
  | arm =>
      simp only [next] at stepped
      split at stepped
      · rename_i idle
        cases stepped
        refine .passed ?_ (by rw [idle]; rfl)
        rw [line, line, idle]
        exact .refl _
      · cases stepped
  | barrier requestId deadlineUnixMs input =>
      simp only [next] at stepped
      split at stepped
      · rename_i pending armed
        split at stepped
        · cases stepped
        · cases stepped
          refine .asked _ rfl ?_ (by rw [armed]; rfl) rfl
          rw [line, line, armed]
          rfl
      · cases stepped
  | refused error =>
      simp only [next] at stepped
      split at stepped <;> cases stepped
      exact .failed error rfl rfl
  | recv =>
      simp only [next] at stepped
      split at stepped
      · rename_i barrier frame rest waiting
        split at stepped
        · rename_i skips
          cases stepped
          exact .skipped barrier frame rest rfl waiting skips rfl
        · rename_i error _
          cases stepped
          exact .failed error rfl rfl
        · rename_i event answers
          cases stepped
          exact .answered barrier frame rest event rfl waiting answers rfl
      · cases stepped
  | lagged skipped =>
      simp only [next, interrupt] at stepped
      split at stepped <;> cases stepped
      exact .failed _ rfl rfl
  | closed =>
      simp only [next, interrupt] at stepped
      split at stepped <;> cases stepped
      exact .failed _ rfl rfl
  | timedOut =>
      simp only [next, interrupt] at stepped
      split at stepped <;> cases stepped
      exact .failed _ rfl rfl

/-- The first frame that a waiting call has not received. -/
theorem line_of_waiting {delivery : Delivery} {barrier : Barrier} {frame : Frame}
    {rest : List Frame} (call : delivery.call = .waiting barrier (frame :: rest)) :
    delivery.line = frame.events ++ { delivery with call := .waiting barrier rest }.line := by
  rw [line, call, line, ← List.append_assoc frame.events]
  rfl

/-- A call that ends receives nothing more. -/
theorem line_sublist (delivery : Delivery) (call : WaitCall) (ends : call.pending = []) :
    ({ delivery with call := call }.line).Sublist delivery.line := by
  simp only [line, ends]
  exact List.sublist_append_right _ _

/-- Only a step of the runtime records anything. -/
theorem runtime_next {types : List EventKind} {before after : Delivery} {action : DeliveryAction}
    {output : DeliveryOutput} (stepped : next types before action = some (output, after)) :
    (after.runtime = before.runtime ∧ output.recorded = []) ∨
      ∃ step stored observed, action = .runtime step stored ∧
        State.next before.runtime step = some (observed, after.runtime) ∧
        output.recorded = observed.recorded := by
  cases action with
  | runtime step stored =>
      simp only [next, Option.map_eq_some_iff, Prod.mk.injEq, Prod.exists] at stepped
      rcases stepped with ⟨observed, runtime, stepped, rfl, rfl⟩
      exact .inr ⟨step, stored, observed, rfl, stepped, rfl⟩
  | stream action =>
      left
      simp only [next] at stepped
      split at stepped
      · cases stepped
      · cases stepped
      · simp only [Option.map_eq_some_iff, Prod.mk.injEq, Prod.exists] at stepped
        rcases stepped with ⟨_, _, -, rfl, rfl⟩
        exact ⟨rfl, rfl⟩
      · simp only [Option.map_eq_some_iff, Prod.mk.injEq, Prod.exists] at stepped
        rcases stepped with ⟨_, _, -, rfl, rfl⟩
        exact ⟨rfl, rfl⟩
  | barrier requestId deadlineUnixMs input =>
      left
      simp only [next] at stepped
      split at stepped
      · split at stepped <;> cases stepped
        exact ⟨rfl, rfl⟩
      · cases stepped
  | recv =>
      left
      simp only [next] at stepped
      split at stepped
      · split at stepped <;> cases stepped <;> exact ⟨rfl, rfl⟩
      · cases stepped
  | _ =>
      left
      simp only [next, interrupt] at stepped
      first
        | cases stepped
          exact ⟨rfl, rfl⟩
        | split at stepped <;> cases stepped
          exact ⟨rfl, rfl⟩

theorem kept_next {types : List EventKind} {instances : List String} {recorded : List EventRecord}
    {before after : Delivery} {action : DeliveryAction} {output : DeliveryOutput}
    (kept : Kept instances recorded before.runtime.events)
    (known : ∀ step stored instanceId, action = .runtime step stored →
      step.accepted = some instanceId → instanceId ∈ instances)
    (stepped : next types before action = some (output, after)) :
    Kept instances (recorded ++ output.recorded) after.runtime.events := by
  rcases runtime_next stepped with ⟨same, nothing⟩ | ⟨step, stored, observed, rfl, stepped, same⟩
  · rw [same, nothing, List.append_nil]
    exact kept
  · rw [same]
    exact kept.next (fun instanceId => known step stored instanceId rfl) stepped

end Delivery

/-! ## The first event -/

/-- An event that a call with this barrier waits for. -/
def Awaited (types : List EventKind) (barrier : Barrier) (event : EventRecord) : Prop :=
  event.sessionId = barrier.sessionId ∧ wanted types event.kind = true ∧
    barrier.latestSequence < event.sequence

/-- The event that a call returned is awaited, and no awaited one came before it. -/
def ReturnsFirst (types : List EventKind) (recorded : List EventRecord) (barrier : Barrier)
    (event : EventRecord) : Prop :=
  Awaited types barrier event ∧
    ∀ other ∈ recorded, Awaited types barrier other → event.sequence ≤ other.sequence

theorem not_awaited_of_skipped {types : List EventKind} {barrier : Barrier} {frame : Frame}
    (skips : examine types barrier frame = none) {event : EventRecord}
    (carried : event ∈ frame.events) : ¬Awaited types barrier event := by
  rintro ⟨session, matched, beyond⟩
  cases frame with
  | gap dropped => cases carried
  | event record =>
      cases List.mem_singleton.mp carried
      simp [examine, session, matched, Nat.not_le.mpr beyond] at skips

theorem awaited_of_answered {types : List EventKind} {barrier : Barrier} {frame : Frame}
    {event : EventRecord} (answers : examine types barrier frame = some (.ok event)) :
    frame = .event event ∧ Awaited types barrier event := by
  cases frame with
  | gap dropped => cases answers
  | event record =>
      simp only [examine] at answers
      split at answers
      · split at answers <;> cases answers
      · rename_i session
        split at answers
        · cases answers
        · rename_i beyond
          split at answers
          · rename_i matched
            cases answers
            exact ⟨rfl, Decidable.not_not.mp session, matched, Nat.lt_of_not_le beyond⟩
          · cases answers

/-- What the call can rely on in each phase: an event that is not on its way any
more was lost, or the call has looked at it. -/
def Accounts (types : List EventKind) (recorded lost line : List EventRecord) : Phase → Prop
  | .before => ∃ gone, Passes [] recorded gone line ∧ ∀ event ∈ gone, event ∈ lost
  | .waiting barrier =>
      ∃ gone, Passes [] recorded gone line ∧
        ∀ event ∈ gone, event ∈ lost ∨ ¬Awaited types barrier event
  | .answered barrier event =>
      event ∈ recorded ∧ Awaited types barrier event ∧
        ∀ other ∈ recorded,
          other ∈ lost ∨ ¬Awaited types barrier other ∨ event.sequence ≤ other.sequence
  | .failed => True

/-- The chain against everything recorded and lost so far. -/
structure Tracked (types : List EventKind) (recorded lost : List EventRecord)
    (delivery : Delivery) : Prop where
  order : delivery.line.Sublist recorded
  known : ∀ event ∈ lost, event ∈ recorded
  accounts : Accounts types recorded lost delivery.line delivery.call.phase

variable {types : List EventKind} {recorded lost : List EventRecord} {before target : Delivery}
  {action : DeliveryAction} {output : DeliveryOutput}

/-- Events that pass along the chain. -/
theorem Tracked.passed (tracked : Tracked types recorded lost before)
    (ascending : ((recorded ++ output.recorded).map EventRecord.sequence).Pairwise (· < ·))
    (passes : Passes before.line output.recorded output.lost target.line)
    (phase : target.call.phase = before.call.phase) :
    Tracked types (recorded ++ output.recorded) (lost ++ output.lost) target := by
  rcases tracked with ⟨order, known, accounts⟩
  constructor
  · exact passes.order.trans (order.append (List.Sublist.refl _))
  · intro event member
    rcases List.mem_append.mp member with old | new
    · exact List.mem_append_left _ (known event old)
    · rcases List.mem_append.mp (passes.known event new) with held | added
      · exact List.mem_append_left _ (order.mem held)
      · exact List.mem_append_right _ added
  · rw [phase]
    cases current : before.call.phase with
    | before =>
        rw [current] at accounts
        rcases accounts with ⟨gone, earlier, accounted⟩
        refine ⟨gone ++ output.lost, earlier.trans passes, ?_⟩
        intro event member
        rcases List.mem_append.mp member with old | new
        · exact List.mem_append_left _ (accounted event old)
        · exact List.mem_append_right _ new
    | waiting barrier =>
        rw [current] at accounts
        rcases accounts with ⟨gone, earlier, accounted⟩
        refine ⟨gone ++ output.lost, earlier.trans passes, ?_⟩
        intro event member
        rcases List.mem_append.mp member with old | new
        · exact (accounted event old).imp_left (List.mem_append_left _)
        · exact .inl (List.mem_append_right _ new)
    | answered barrier event =>
        rw [current] at accounts
        rcases accounts with ⟨member, awaited, accounted⟩
        refine ⟨List.mem_append_left _ member, awaited, ?_⟩
        intro other otherMember
        rcases List.mem_append.mp otherMember with old | new
        · exact (accounted other old).imp_left (List.mem_append_left _)
        · rw [List.map_append, List.pairwise_append] at ascending
          have later := ascending.2.2 _ (List.mem_map_of_mem member) _ (List.mem_map_of_mem new)
          exact .inr (.inr (Nat.le_of_lt later))
    | failed => trivial

/-- Step lemma. -/
theorem Tracked.next (tracked : Tracked types recorded lost before)
    (ascending : ((recorded ++ output.recorded).map EventRecord.sequence).Pairwise (· < ·))
    (moves : Delivery.Moves types before action output target) :
    Tracked types (recorded ++ output.recorded) (lost ++ output.lost) target := by
  cases moves with
  | passed passes phase => exact tracked.passed ascending passes phase
  | asked barrier quiet line phase asks =>
      subst quiet
      rcases tracked with ⟨order, known, accounts⟩
      rw [phase] at accounts
      rcases accounts with ⟨gone, passes, accounted⟩
      simp only [List.append_nil]
      refine ⟨?_, known, ?_⟩
      · rw [line]
        exact order
      · rw [asks, line]
        exact ⟨gone, passes, fun event member => .inl (accounted event member)⟩
  | skipped barrier frame rest quiet call skips next =>
      subst quiet next
      rcases tracked with ⟨order, known, accounts⟩
      simp only [List.append_nil]
      rw [call] at accounts
      rw [Delivery.line_of_waiting call] at order accounts
      rcases accounts with ⟨gone, passes, accounted⟩
      refine ⟨(List.sublist_append_right _ _).trans order, known, gone ++ frame.events, ?_, ?_⟩
      · have shorter := passes.trans (.front frame.events _)
        rwa [List.append_nil] at shorter
      · intro event member
        rcases List.mem_append.mp member with old | new
        · exact accounted event old
        · exact .inr (not_awaited_of_skipped skips new)
  | answered barrier frame rest event quiet call answers next =>
      subst quiet next
      rcases tracked with ⟨order, known, accounts⟩
      simp only [List.append_nil] at ascending ⊢
      rcases awaited_of_answered answers with ⟨rfl, awaited⟩
      have shorter := (Delivery.line_sublist before (.answered barrier event) rfl).trans order
      rw [call] at accounts
      rw [Delivery.line_of_waiting call] at order accounts
      rcases accounts with ⟨gone, passes, accounted⟩
      refine ⟨shorter, known, order.mem List.mem_cons_self, awaited, ?_⟩
      intro other member
      rcases passes.covered other member with old | waits
      · exact (accounted other old).imp_right .inl
      · right
        right
        rcases List.mem_cons.mp waits with rfl | behind
        · exact Nat.le_refl _
        · have numbers := ascending.sublist (order.map EventRecord.sequence)
          have ahead := (List.pairwise_cons.mp numbers).1
          exact Nat.le_of_lt (ahead _ (List.mem_map_of_mem behind))
  | failed error quiet next =>
      subst quiet next
      rcases tracked with ⟨order, known, accounts⟩
      simp only [List.append_nil]
      exact ⟨(Delivery.line_sublist before (.failed error) rfl).trans order, known, trivial⟩

/-! ## Whole runs -/

/-- The instance that a step accepts. -/
def DeliveryAction.accepted : DeliveryAction → Option String
  | .runtime action _ => action.accepted
  | _ => none

/-- The events that the runtime recorded, in order. -/
def recordedEvents (outputs : List DeliveryOutput) : List EventRecord :=
  outputs.flatMap DeliveryOutput.recorded

/-- The events that were lost on the way, in order. -/
def lostEvents (outputs : List DeliveryOutput) : List EventRecord :=
  outputs.flatMap DeliveryOutput.lost

/-- The runtime before its first step, with no stream and no call. -/
def Delivery.initial (start : State) : Delivery :=
  ⟨start, {}, [], .idle⟩

theorem tracked_of_execute {start : State} {instanceId : String} {actions : List DeliveryAction}
    {outputs : List DeliveryOutput} {delivery : Delivery}
    (fresh : start.events = { instanceId := instanceId })
    (run : execute (Delivery.next types) (.initial start) actions = some (outputs, delivery)) :
    Kept (instanceId :: actions.filterMap DeliveryAction.accepted) (recordedEvents outputs)
        delivery.runtime.events ∧
      Tracked types (recordedEvents outputs) (lostEvents outputs) delivery := by
  have known : ∀ action ∈ actions, ∀ step stored other, action = .runtime step stored →
      step.accepted = some other →
        other ∈ instanceId :: actions.filterMap DeliveryAction.accepted := by
    rintro action member step stored other rfl accepts
    exact List.mem_cons_of_mem _ (List.mem_filterMap.mpr ⟨_, member, accepts⟩)
  have along := along_of_forall_mem (Delivery.next types) (.initial start) known
  apply execute_history (fun (outputs : List DeliveryOutput) (delivery : Delivery) =>
    Kept (instanceId :: actions.filterMap DeliveryAction.accepted) (recordedEvents outputs)
        delivery.runtime.events ∧
      Tracked types (recordedEvents outputs) (lostEvents outputs) delivery) ?_ [] ?_ along run
  · rintro past delivery action output after ⟨kept, tracked⟩ accepts stepped
    have later := Delivery.kept_next kept accepts stepped
    have grown := tracked.next later.consistent.ascending (Delivery.moves_next stepped)
    simp only [recordedEvents, lostEvents, List.flatMap_append, List.flatMap_singleton]
    exact ⟨later, grown⟩
  · constructor
    · exact kept_initial fresh
    · exact ⟨List.Sublist.refl _, List.forall_mem_nil _, [], .refl [], List.forall_mem_nil _⟩

/-- The event that a call returns is of the barrier's session, matches and lies
beyond the barrier.  It is the first such event exactly when no step of the run
discarded one before it: evicted from the full queue, refused for lack of room,
lost with the connection or the worker, or published before the subscription. -/
theorem wait_returns_first_iff {start : State} {instanceId : String}
    {actions : List DeliveryAction} {outputs : List DeliveryOutput} {delivery : Delivery}
    {barrier : Barrier} {event : EventRecord}
    (fresh : start.events = { instanceId := instanceId })
    (run : execute (Delivery.next types) (.initial start) actions = some (outputs, delivery))
    (answered : delivery.call = .answered barrier event) :
    Awaited types barrier event ∧
      (ReturnsFirst types (recordedEvents outputs) barrier event ↔
        ∀ other ∈ lostEvents outputs, Awaited types barrier other →
          event.sequence ≤ other.sequence) := by
  have tracked := (tracked_of_execute fresh run).2
  have accounts := tracked.accounts
  rw [answered] at accounts
  rcases accounts with ⟨member, awaited, accounted⟩
  refine ⟨awaited, ?_, ?_⟩
  · rintro ⟨-, first⟩ other lost
    exact first other (tracked.known other lost)
  · intro spared
    refine ⟨awaited, ?_⟩
    intro other recorded otherAwaited
    rcases accounted other recorded with lost | notAwaited | later
    · exact spared other lost otherAwaited
    · exact absurd otherAwaited notAwaited
    · exact later

/-- The stream starts, the sidecar connects and a process is created; then a
call subscribes and gets its barrier. -/
def subscribedSchedule : List DeliveryAction :=
  let input : CallbackInput := ⟨⟨0, true⟩, 0, false⟩
  let hello : Json := .object
    [("type", .string "HELLO"), ("nonce", .string "n"), ("instance_id", .string "i")]
  [.stream (.stop (some "n")), .stream .join, .stream .clear, .stream (.createPipe true),
    .stream (.spawn true), .runtime (.sidecarReady "i") true, .stream (.readHello (some hello)),
    .stream .identify, .stream (.greet true), .runtime (.callback .initDebug input) true,
    .runtime (.callback (.createProcess (some (42, 7))) input) true,
    .stream .take, .stream (.write true), .receive, .stream .take, .stream (.write true), .receive,
    .arm, .barrier "" 0 ⟨fun _ => false, 0⟩]

/-- The barrier and the number of the event that a call returned. -/
def WaitCall.answer : WaitCall → Option (Barrier × Nat)
  | .answered barrier event => some (barrier, event.sequence)
  | _ => none

theorem answered_of_answer {call : WaitCall} {barrier : Barrier} {sequence : Nat}
    (answer : call.answer = some (barrier, sequence)) :
    ∃ event, call = .answered barrier event ∧ event.sequence = sequence := by
  cases call with
  | answered own event =>
      cases answer
      exact ⟨event, rfl, rfl⟩
  | _ => cases answer

/-- With nothing lost the first event after the barrier is returned. -/
theorem wait_returns_first_iff_delivered :
    ∃ actions outputs delivery barrier event,
      execute (Delivery.next []) (.initial {}) actions = some (outputs, delivery) ∧
        delivery.call = .answered barrier event ∧
        ReturnsFirst [] (recordedEvents outputs) barrier event := by
  let input : CallbackInput := ⟨⟨0, true⟩, 0, false⟩
  let actions := subscribedSchedule ++
    [.runtime (.callback .systemBreakpoint input) true, .stream .take, .stream (.write true),
      .receive, .recv]
  have enabled : ((execute (Delivery.next []) (.initial {}) actions).map fun result =>
      (result.2.call.answer, (lostEvents result.1).map EventRecord.sequence)) =
        some (some (⟨"i:1", 2⟩, 3), [1, 2]) := by
    decide +kernel
  rcases Option.map_eq_some_iff.mp enabled with ⟨⟨outputs, delivery⟩, run, seen⟩
  rw [Prod.mk.injEq] at seen
  rcases answered_of_answer seen.1 with ⟨event, answered, -⟩
  refine ⟨actions, outputs, delivery, _, event, run, answered, ?_⟩
  apply (wait_returns_first_iff rfl run answered).2.mpr
  rintro other lost ⟨-, -, beyond⟩
  have early : other.sequence ∈ [1, 2] := seen.2 ▸ List.mem_map_of_mem lost
  simp only [List.mem_cons, List.not_mem_nil, or_false] at early
  have passed : 2 < other.sequence := beyond
  omega

/-! ### A run in which the queue overflows -/

/-- The debuggee prints, and the event is stored. -/
def printed : DeliveryAction :=
  .runtime (.callback (.debugEvent (some ⟨42, 7, .outputDebugString 0 0 0⟩)) ⟨⟨0, true⟩, 0, false⟩)
    true

/-- The session and the number of the next record. -/
structure Numbering (session : String) (number : Nat) (log : EventLog) : Prop where
  session : EventLog.sessionIdOf log.instanceId
    (log.candidateEventSession.getD log.eventSessionEpoch) = session
  number : log.nextEventSequence = number

theorem recorded_of_numbering {session : String} {number : Nat} {log : EventLog}
    (numbering : Numbering session number log) (safe : number ≤ EventLog.kMaxJsonSafeInteger)
    (input : RecordInput) (event : EventRecord) :
    ∃ numbered, (log.recordEventLocked input event).1 = some numbered ∧
      numbered.sessionId = session ∧ numbered.sequence = number ∧
      Numbering session (number + 1) (log.recordEventLocked input event).2 := by
  have recordable : ¬ EventLog.kMaxJsonSafeInteger < log.nextEventSequence := by
    rw [numbering.number]
    omega
  rw [EventLog.recordEventLocked, if_neg recordable]
  refine ⟨_, rfl, numbering.session, numbering.number, ?_, ?_⟩
  · rw [← numbering.session]
    simp only [EventLog.setTarget]
    split <;> rfl
  · rw [← numbering.number]

/-- Printing hands one numbered event to the stream. -/
theorem next_printed {types : List EventKind} {delivery : Delivery} {session : String}
    {number : Nat} (numbering : Numbering session number delivery.runtime.events)
    (safe : number ≤ EventLog.kMaxJsonSafeInteger) :
    ∃ event runtime, event.sessionId = session ∧ event.sequence = number ∧
      Numbering session (number + 1) runtime.events ∧
      Delivery.next types delivery printed =
        some (⟨[event], delivery.stream.evicts event true⟩,
          ⟨runtime, (delivery.stream.enqueue event true).2, delivery.pipe, delivery.call⟩) := by
  rcases delivery with ⟨runtime, stream, pipe, call⟩
  let event : DebugEvent := ⟨42, 7, .outputDebugString 0 0 0⟩
  rcases recorded_of_numbering numbering safe ⟨0, true⟩
      { generation := runtime.generation + 1, processId := 42, threadId := 7, hasProcessId := true,
        hasThreadId := true, kind := .debugString } with
    ⟨record, recorded, sessionEq, numberEq, numbered⟩
  have told : (runtime.onDebugEvent ⟨0, true⟩ event).1 = [record] :=
    congrArg Option.toList recorded
  refine ⟨record, (runtime.onDebugEvent ⟨0, true⟩ event).2, sessionEq, numberEq, numbered, ?_⟩
  change some (DeliveryOutput.mk (runtime.onDebugEvent ⟨0, true⟩ event).1
      (stream.enqueueAll true (runtime.onDebugEvent ⟨0, true⟩ event).1).1,
    Delivery.mk (runtime.onDebugEvent ⟨0, true⟩ event).2
      (stream.enqueueAll true (runtime.onDebugEvent ⟨0, true⟩ event).1).2 pipe call) = _
  rw [told]
  simp [EventStream.enqueueAll]

/-- Printing fills the queue while it has room. -/
theorem execute_printed {types : List EventKind} {delivery : Delivery} {session : String}
    {number count : Nat} (numbering : Numbering session number delivery.runtime.events)
    (running : delivery.stream.stopping = false)
    (safe : number + count ≤ EventLog.kMaxJsonSafeInteger)
    (room : delivery.stream.queue.length + count ≤ kMaxQueuedEvents) :
    ∃ outputs runtime events, Numbering session (number + count) runtime.events ∧
      execute (Delivery.next types) delivery (List.replicate count printed) =
        some (outputs,
          { delivery with
            runtime := runtime
            stream := { delivery.stream with queue := delivery.stream.queue ++ events } }) ∧
      recordedEvents outputs = events ∧
      events.map (fun event => (event.sessionId, event.sequence)) =
        (List.range' number count).map fun number => (session, number) := by
  induction count generalizing delivery number with
  | zero =>
      refine ⟨[], delivery.runtime, [], numbering, ?_, rfl, rfl⟩
      simp
  | succ count ih =>
      rcases @next_printed types delivery session number numbering (by omega) with
        ⟨event, runtime, sessionEq, numberEq, numbering, stepped⟩
      have notFull : (delivery.stream.queue.length == kMaxQueuedEvents) = false :=
        beq_false_of_ne (by omega)
      have enqueued : (delivery.stream.enqueue event true).2 =
          { delivery.stream with queue := delivery.stream.queue ++ [event] } := by
        simp [EventStream.enqueue, running, notFull]
      rw [enqueued] at stepped
      rcases @ih { delivery with
          runtime := runtime
          stream := { delivery.stream with queue := delivery.stream.queue ++ [event] } }
          (number + 1) numbering running (by omega) (by simp; omega) with
        ⟨outputs, last, events, numbering, filled, recorded, numbered⟩
      refine ⟨⟨[event], delivery.stream.evicts event true⟩ :: outputs, last, event :: events,
        ?_, ?_, congrArg (event :: ·) recorded, ?_⟩
      · rw [Nat.add_comm count, ← Nat.add_assoc]
        exact numbering
      · rw [List.replicate_succ, execute_cons_eq_some_iff]
        rw [List.append_assoc] at filled
        exact ⟨_, _, outputs, stepped, filled, rfl⟩
      · rw [List.map_cons, numbered, List.range'_succ, List.map_cons, sessionEq, numberEq]

theorem recordedEvents_append (first second : List DeliveryOutput) :
    recordedEvents (first ++ second) = recordedEvents first ++ recordedEvents second :=
  List.flatMap_append

/-- Behind an empty queue, one event more than it holds costs the first one. -/
theorem execute_overflow {types : List EventKind} {runtime : State} {nonce instanceId : String}
    {control : Control} {pipe : List Frame} {call : WaitCall} {session : String} {number : Nat}
    (numbering : Numbering session number runtime.events)
    (safe : number + kMaxQueuedEvents ≤ EventLog.kMaxJsonSafeInteger) :
    ∃ outputs later first second rest, first ∈ recordedEvents outputs ∧
      (first.sessionId = session ∧ first.sequence = number) ∧
      (second.sessionId = session ∧ second.sequence = number + 1) ∧
      execute (Delivery.next types)
          ⟨runtime, ⟨[], nonce, instanceId, 0, false, .sending, control⟩, pipe, call⟩
          (List.replicate kMaxQueuedEvents printed ++ [printed]) =
        some (outputs, ⟨later,
          ⟨second :: rest, nonce, instanceId, 1, false, .sending, control⟩, pipe, call⟩) := by
  rcases @execute_printed types ⟨runtime, ⟨[], nonce, instanceId, 0, false, .sending, control⟩,
      pipe, call⟩ session number kMaxQueuedEvents numbering rfl safe (Nat.zero_add _).le with
    ⟨filling, full, events, numbering, filled, recorded, numbered⟩
  have length : events.length = kMaxQueuedEvents := by
    have lengths := congrArg List.length numbered
    rwa [List.length_map, List.length_map, List.length_range'] at lengths
  rw [show kMaxQueuedEvents = 4094 + 1 + 1 from rfl, List.range'_succ, List.range'_succ] at numbered
  rcases events with _ | ⟨first, _ | ⟨second, rest⟩⟩
  · cases length
  · cases length
  simp only [List.map_cons, List.cons.injEq, Prod.mk.injEq] at numbered
  rcases numbered with ⟨firstNumbered, secondNumbered, -⟩
  rcases @next_printed types ⟨full, ⟨first :: second :: rest, nonce, instanceId, 0, false,
      .sending, control⟩, pipe, call⟩ session _ numbering safe with
    ⟨last, overflowed, -, -, -, stepped⟩
  have evicted : (EventStream.enqueue ⟨first :: second :: rest, nonce, instanceId, 0, false,
      .sending, control⟩ last true).2 =
      ⟨second :: (rest ++ [last]), nonce, instanceId, 1, false, .sending, control⟩ := by
    simp [EventStream.enqueue, length]
  rw [evicted] at stepped
  refine ⟨_, overflowed, first, second, rest ++ [last], ?_, firstNumbered, secondNumbered,
    execute_append filled (execute_cons_eq_some_iff.mpr ⟨_, _, _, stepped, rfl, rfl⟩)⟩
  simp [recordedEvents_append, recorded]

/-- The worker writes the gap and the next event, and the call receives both. -/
def behindGap : List DeliveryAction :=
  [.stream .take, .stream (.write true), .receive, .recv, .stream .take, .stream (.write true),
    .receive, .recv]

/-- The gap is skipped. -/
theorem execute_behindGap {runtime : State} {nonce instanceId : String} {control : Control}
    {rest : List EventRecord} {barrier : Barrier} {event : EventRecord}
    (returns : examine [] barrier (.event event) = some (.ok event)) :
    execute (Delivery.next []) ⟨runtime, ⟨event :: rest, nonce, instanceId, 1, false, .sending,
        control⟩, [], .waiting barrier []⟩ behindGap =
      some (List.replicate 8 {}, ⟨runtime, ⟨rest, nonce, instanceId, 0, false, .sending, control⟩,
        [], .answered barrier event⟩) := by
  have skipped : examine [] barrier (.gap 1) = none := rfl
  simp [execute, behindGap, Delivery.next, EventStream.next, EventStream.take, EventStream.write,
    EventStream.discards, WaitCall.publish, skipped, returns]

/-- The queue is full of events when another one comes: the oldest is dropped. -/
def overflowSchedule : List DeliveryAction :=
  subscribedSchedule ++ List.replicate kMaxQueuedEvents printed ++ printed :: behindGap

/-- The gap is skipped, and the call returns the event behind it. -/
theorem wait_skips_gap :
    ∃ outputs delivery barrier event,
      execute (Delivery.next []) (.initial {}) overflowSchedule = some (outputs, delivery) ∧
        delivery.call = .answered barrier event ∧
        ¬ReturnsFirst [] (recordedEvents outputs) barrier event := by
  have subscribed : ∃ outputs delivery,
      execute (Delivery.next []) (.initial {}) subscribedSchedule = some (outputs, delivery) ∧
        Numbering "i:1" 3 delivery.runtime.events ∧ delivery.pipe = [] ∧
        delivery.call = .waiting ⟨"i:1", 2⟩ [] ∧ delivery.stream.queue = [] ∧
        delivery.stream.dropped = 0 ∧ delivery.stream.stopping = false ∧
        delivery.stream.worker = .sending :=
    ⟨_, _, rfl, ⟨rfl, rfl⟩, rfl, rfl, rfl, rfl, rfl, rfl⟩
  rcases subscribed with ⟨earlier, ⟨runtime, ⟨_, nonce, instanceId, _, _, _, control⟩, _, _⟩, reaches,
    numbering, rfl, rfl, rfl, rfl, rfl, rfl⟩
  rcases @execute_overflow [] runtime nonce instanceId control [] (.waiting ⟨"i:1", 2⟩ []) "i:1" 3
      numbering (by decide) with
    ⟨printing, later, first, second, rest, dropped, ⟨firstSession, firstNumber⟩,
      ⟨secondSession, secondNumber⟩, overflows⟩
  have answers := @execute_behindGap later nonce instanceId control rest ⟨"i:1", 2⟩ second
    (by simp [examine, secondSession, secondNumber, wanted])
  have run := execute_append (execute_append reaches overflows) answers
  rw [← List.append_assoc, List.append_assoc, List.singleton_append] at run
  refine ⟨_, _, _, second, run, rfl, ?_⟩
  rintro ⟨-, least⟩
  have awaited : Awaited [] ⟨"i:1", 2⟩ first := ⟨firstSession, rfl, by rw [firstNumber]; decide⟩
  have beyond := least first (by simp [recordedEvents_append, dropped]) awaited
  rw [firstNumber, secondNumber] at beyond
  omega

end X64dbgMcp.Events
