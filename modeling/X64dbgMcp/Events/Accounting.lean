import X64dbgMcp.Events.EventStream
import Mathlib.Algebra.GroupWithZero.Nat

/-!
# Order and loss accounting of the event stream

Between a `Start` and the next `Stop` every accepted event is written, stands in
the queue, is in the hands of the worker, or is counted as dropped.  What is
written keeps the order of acceptance: an event leaves the queue at its head and
a failed write puts it back there.
-/

namespace X64dbgMcp.Events

open X64dbgMcp.Runtime Text

/-- How many events a frame stands for. -/
def Frame.count (frame : Frame) : Nat :=
  frame.events.length + frame.dropped

/-- The events that the queue took, in order. -/
def acceptedEvents (outputs : List StreamOutput) : List EventRecord :=
  outputs.flatMap StreamOutput.accepted

/-- The frames that were written whole, in order. -/
def deliveredFrames (outputs : List StreamOutput) : List Frame :=
  outputs.flatMap StreamOutput.delivered

theorem sum_count (frames : List Frame) :
    (frames.map Frame.count).sum =
      (frames.flatMap Frame.events).length + (frames.map Frame.dropped).sum := by
  induction frames with
  | nil => rfl
  | cons frame rest ih =>
      simp only [List.map_cons, List.sum_cons, List.flatMap_cons, List.length_append, ih,
        Frame.count]
      omega

/-- `Start` or `Stop` has joined the worker. -/
def Control.settled : Control → Bool
  | .joined _ | .opening _ | .prepared => true
  | .idle | .stopping _ => false

/-- The call neither stops the stream nor runs out of memory. -/
def StreamAction.undisturbed : StreamAction → Bool
  | .stop _ | .throw => false
  | .setInstanceId _ stored | .enqueue _ stored | .restore stored => stored
  | _ => true

namespace EventStream

/-- The frames in the hands of the worker. -/
def inHand (stream : EventStream) : List Frame :=
  stream.worker.frame.toList

theorem inHand_of_free {stream : EventStream} (free : stream.worker.frame = none) :
    stream.inHand = [] := by
  rw [inHand, free]
  rfl

theorem inHand_of_holding {stream : EventStream} {frame : Frame}
    (held : stream.worker = .holding frame) : stream.inHand = [frame] := by
  rw [inHand, held]
  rfl

theorem inHand_of_refused {stream : EventStream} {frame : Frame}
    (held : stream.worker = .refused frame) : stream.inHand = [frame] := by
  rw [inHand, held]
  rfl

/-- What has been accepted and written, against what the stream holds. -/
structure Accounted (accepted : List EventRecord) (written : List Frame)
    (stream : EventStream) : Prop where
  order : ((written ++ stream.inHand).flatMap Frame.events ++ stream.queue).Sublist accepted
  total : accepted.length =
    ((written ++ stream.inHand).map Frame.count).sum + stream.queue.length + stream.dropped

variable {accepted : List EventRecord} {written : List Frame} {before after : EventStream}
  {action : StreamAction} {output : StreamOutput}

theorem Accounted.of_same (accounted : Accounted accepted written before)
    (queue : after.queue = before.queue) (dropped : after.dropped = before.dropped)
    (frame : after.worker.frame = before.worker.frame) : Accounted accepted written after := by
  rcases accounted with ⟨order, total⟩
  constructor
  · simpa only [inHand, queue, frame] using order
  · simpa only [inHand, queue, dropped, frame] using total

theorem Accounted.enqueue (accounted : Accounted accepted written before)
    (running : before.stopping = false) (event : EventRecord) :
    Accounted (accepted ++ [event]) written (before.enqueue event true).2 := by
  rcases accounted with ⟨order, total⟩
  by_cases full : before.queue.length = kMaxQueuedEvents
  · -- The oldest event moves from the queue into the counter.
    have evicted : (before.enqueue event true).2 =
        { before with queue := before.queue.tail ++ [event], dropped := before.dropped + 1 } := by
      simp [EventStream.enqueue, running, full]
    rw [evicted]
    constructor
    · have shorter := ((List.tail_sublist before.queue).append_left
        ((written ++ before.inHand).flatMap Frame.events)).trans order
      simpa [inHand] using shorter.append (List.Sublist.refl [event])
    · have positive : 0 < before.queue.length := by
        rw [full]
        exact Nat.zero_lt_succ 4095
      simp only [List.length_append, List.length_tail, List.length_singleton, inHand] at total ⊢
      omega
  · have appended : (before.enqueue event true).2 =
        { before with queue := before.queue ++ [event] } := by
      simp [EventStream.enqueue, running, full]
    rw [appended]
    constructor
    · simpa [inHand] using order.append (List.Sublist.refl [event])
    · simp only [List.length_append, List.length_singleton, inHand] at total ⊢
      omega

theorem Accounted.tookGap (accounted : Accounted accepted written before)
    (free : before.worker.frame = none) :
    Accounted accepted written
      { before with dropped := 0, worker := .holding (.gap before.dropped) } := by
  rcases accounted with ⟨order, total⟩
  rw [inHand_of_free free] at order total
  constructor
  · simpa [inHand, WorkerPoint.frame, Frame.events] using order
  · simp [inHand, WorkerPoint.frame, Frame.count, Frame.events, Frame.dropped] at total ⊢
    omega

theorem Accounted.tookEvent (accounted : Accounted accepted written before)
    (free : before.worker.frame = none) {event : EventRecord} {rest : List EventRecord}
    (queue : before.queue = event :: rest) :
    Accounted accepted written
      { before with queue := rest, worker := .holding (.event event) } := by
  rcases accounted with ⟨order, total⟩
  rw [inHand_of_free free, queue] at order total
  constructor
  · simpa [inHand, WorkerPoint.frame, Frame.events] using order
  · simp [inHand, WorkerPoint.frame, Frame.count, Frame.events, Frame.dropped] at total ⊢
    omega

theorem Accounted.delivered (accounted : Accounted accepted written before) {frame : Frame}
    (held : before.worker = .holding frame) :
    Accounted accepted (written ++ [frame]) { before with worker := .sending } := by
  rcases accounted with ⟨order, total⟩
  rw [inHand_of_holding held] at order total
  constructor
  · simpa [inHand, WorkerPoint.frame] using order
  · simpa [inHand, WorkerPoint.frame] using total

theorem Accounted.restored (accounted : Accounted accepted written before) {frame : Frame}
    (held : before.worker = .refused frame) :
    Accounted accepted written (before.restore frame true) := by
  rcases accounted with ⟨order, total⟩
  rw [inHand_of_refused held] at order total
  cases frame with
  | event event =>
      constructor
      · simpa [inHand, restore, WorkerPoint.frame, Frame.events] using order
      · simp [inHand, restore, WorkerPoint.frame, Frame.count, Frame.events, Frame.dropped]
          at total ⊢
        omega
  | gap dropped =>
      constructor
      · simpa [inHand, restore, WorkerPoint.frame, Frame.events] using order
      · simp [inHand, restore, WorkerPoint.frame, Frame.count, Frame.events, Frame.dropped]
          at total ⊢
        omega

theorem enqueue_running {stream : EventStream} (running : stream.stopping = false)
    (event : EventRecord) (stored : Bool) :
    (stream.enqueue event stored).1 = { accepted := [event] } ∧
      (stream.enqueue event stored).2.control = stream.control := by
  simp [EventStream.enqueue, running]

theorem control_restore (stream : EventStream) (frame : Frame) (stored : Bool) :
    (stream.restore frame stored).control = stream.control := by
  cases frame <;> rfl

/-- Step lemma. -/
theorem Accounted.next (accounted : Accounted accepted written before) (isOpen : before.Open)
    (undisturbed : action.undisturbed = true)
    (stepped : EventStream.next before action = some (output, after)) :
    Accounted (accepted ++ output.accepted) (written ++ output.delivered) after ∧
      after.Open := by
  cases effect_next stepped with
  | quiet other queue dropped frame keepsOpen =>
      simp only [List.append_nil]
      constructor
      · exact accounted.of_same queue dropped frame
      · apply keepsOpen isOpen
        rintro start rfl
        cases undisturbed
  | reset resets closed => exact absurd isOpen closed
  | enqueued event stored running =>
      rcases enqueue_running running event stored with ⟨shown, control⟩
      rw [show stored = true from undisturbed] at shown control ⊢
      rw [shown, Open, control]
      simp only [List.append_nil]
      exact ⟨accounted.enqueue running event, isOpen⟩
  | tookGap free =>
      simp only [List.append_nil]
      exact ⟨accounted.tookGap free, isOpen⟩
  | tookEvent event rest free queue =>
      simp only [List.append_nil]
      exact ⟨accounted.tookEvent free queue, isOpen⟩
  | delivered frame held =>
      simp only [List.append_nil]
      exact ⟨accounted.delivered held, isOpen⟩
  | restored frame stored held =>
      rw [show stored = true from undisturbed]
      rw [Open, control_restore]
      simp only [List.append_nil]
      exact ⟨accounted.restored held, isOpen⟩
  | thrown => cases undisturbed

/-- After the worker is joined there is no worker until `Start` creates one. -/
def Settled (stream : EventStream) : Prop :=
  stream.control.settled = true → stream.worker = .absent

theorem settled_next (settled : before.Settled)
    (stepped : next before action = some (output, after)) : after.Settled := by
  unfold Settled at settled ⊢
  -- The steps of the worker need a worker; `join`, `clear`, `createPipe` and `spawn` remain.
  cases action <;>
    simp only [next, EventStream.enqueue, EventStream.take, EventStream.write,
      EventStream.restore, EventStream.throw] at stepped <;>
    (repeat' split at stepped) <;> (try cases stepped) <;> simp_all [Control.settled]

theorem settled_of_execute {reached : EventStream} {actions : List StreamAction}
    {outputs : List StreamOutput}
    (run : Transition.execute next {} actions = some (outputs, reached)) : reached.Settled := by
  have preserves : Transition.Preserves next Transition.anything Settled :=
    fun _ _ _ _ settled _ stepped => settled_next settled stepped
  have initial : Settled {} := by
    intro joined
    cases joined
  exact preserves.execute_anything initial run

/-- Run lemma. -/
theorem accounted_of_execute {start reached : EventStream} {actions : List StreamAction}
    {outputs : List StreamOutput} (accounted : Accounted [] [] start) (isOpen : start.Open)
    (undisturbed : ∀ action ∈ actions, action.undisturbed = true)
    (run : Transition.execute next start actions = some (outputs, reached)) :
    Accounted (acceptedEvents outputs) (deliveredFrames outputs) reached := by
  have preserves : ∀ ⦃past state action observation target⦄,
      Accounted (acceptedEvents past) (deliveredFrames past) state ∧ state.Open →
      action.undisturbed = true →
      EventStream.next state action = some (observation, target) →
      Accounted (acceptedEvents (past ++ [observation])) (deliveredFrames (past ++ [observation]))
        target ∧ target.Open := by
    rintro past state action observation target ⟨accounted, isOpen⟩ undisturbed stepped
    have continued := accounted.next isOpen undisturbed stepped
    simpa [acceptedEvents, deliveredFrames] using continued
  exact (Transition.execute_history
    (fun past stream => Accounted (acceptedEvents past) (deliveredFrames past) stream ∧
      stream.Open)
    preserves [] ⟨accounted, isOpen⟩
    (Transition.along_of_forall_mem EventStream.next start undisturbed) run).1

end EventStream

open EventStream

/-- Order and loss accounting.  From the moment `Start` has reset the fields,
whatever the producers and the worker do until the next call of `Stop`: the
written events are a subsequence of the accepted ones, and every accepted event
is written, reported in a written gap, queued, counted, or in hand. -/
theorem delivery_accounted {earlier actions : List StreamAction}
    {earlierOutputs outputs : List StreamOutput} {before started reached : EventStream}
    {output : StreamOutput}
    (reaches : Transition.execute next {} earlier = some (earlierOutputs, before))
    (starts : next before (.createPipe true) = some (output, started))
    (undisturbed : ∀ action ∈ actions, action.undisturbed = true)
    (run : Transition.execute next started actions = some (outputs, reached)) :
    ((deliveredFrames outputs).flatMap Frame.events).Sublist (acceptedEvents outputs) ∧
      (acceptedEvents outputs).length =
        ((deliveredFrames outputs).flatMap Frame.events).length +
          ((deliveredFrames outputs).map Frame.dropped).sum +
          reached.queue.length + reached.dropped + (reached.inHand.map Frame.count).sum := by
  have fresh : Accounted [] [] started ∧ started.Open := by
    have settled := settled_of_execute reaches
    simp only [next] at starts
    split at starts
    · rename_i opening
      have absent : before.worker = .absent := settled (by rw [opening]; rfl)
      cases starts
      refine ⟨⟨?_, ?_⟩, .inr rfl⟩
      · simp [inHand, absent, WorkerPoint.frame]
      · simp [inHand, absent, WorkerPoint.frame]
    · cases starts
  rcases accounted_of_execute fresh.1 fresh.2 undisturbed run with ⟨order, total⟩
  rw [List.flatMap_append, List.append_assoc] at order
  constructor
  · exact (List.sublist_append_left _ _).trans order
  · rw [List.map_append, List.sum_append, sum_count] at total
    omega

/-- A client takes two events, of which the first needs a second attempt. -/
def retriedDelivery : List StreamAction :=
  let hello := Json.object [("type", .string "HELLO"), ("nonce", .string "nonce"),
    ("instance_id", .string "instance")]
  let connect : List StreamAction := [.readHello (some hello), .identify, .greet true]
  [.spawn true, .setInstanceId "instance" true] ++ connect ++
    [.enqueue { sequence := 1 } true, .take, .enqueue { sequence := 2 } true, .write false,
      .restore true, .disconnect] ++
    connect ++ [.take, .write true, .take, .write true]

/-- Both events arrive in order although the first write failed. -/
theorem delivery_accounted_retried :
    ∃ outputs reached,
      Transition.execute next { control := .prepared, nonce := "nonce" } retriedDelivery =
        some (outputs, reached) ∧
      ((deliveredFrames outputs).flatMap Frame.events).map EventRecord.sequence = [1, 2] ∧
      ((deliveredFrames outputs).flatMap Frame.events).Sublist (acceptedEvents outputs) := by
  refine ⟨_, _, rfl, by decide, ?_⟩
  exact (@delivery_accounted [.stop (some "nonce"), .join, .clear] retriedDelivery _ _ _ _ _ _
    rfl rfl (by decide) rfl).1

end X64dbgMcp.Events
