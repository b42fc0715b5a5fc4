import X64dbgMcp.Events.EventStream

/-!
# The bound of the event queue

A producer that finds the queue full drops its oldest event, so producers keep
the bound.  The worker does not look: after a failed write it puts its event back
into a queue that producers may have filled in the meantime.  The queue stays
bounded exactly as long as every event that is put back finds room; above the
bound the test of the producers, an equality, never holds again.
-/

namespace X64dbgMcp.Events

open X64dbgMcp.Runtime Text

namespace EventStream

/-- The queue holds no more than its capacity. -/
def Bounded (stream : EventStream) : Prop :=
  stream.queue.length ≤ kMaxQueuedEvents

/-- An event whose write failed is put back only into a queue with room. -/
def roomToRestore (stream : EventStream) (action : StreamAction) : Bool :=
  match stream.worker, action with
  | .refused (.event _), .restore true => stream.queue.length < kMaxQueuedEvents
  | _, _ => true

theorem roomToRestore_of_ne {stream : EventStream} {action : StreamAction}
    (other : action ≠ .restore true) : stream.roomToRestore action = true := by
  unfold roomToRestore
  split
  · exact absurd rfl other
  · rfl

theorem bounded_enqueue {stream : EventStream} (bounded : stream.Bounded) (event : EventRecord)
    (stored : Bool) : (stream.enqueue event stored).2.Bounded := by
  simp only [Bounded, enqueue] at bounded ⊢
  by_cases stopping : stream.stopping = true
  · simpa [stopping] using bounded
  · by_cases full : stream.queue.length = kMaxQueuedEvents
    · have room : stream.queue.tail.length + 1 = kMaxQueuedEvents := by
        rw [List.length_tail, full]
        rfl
      cases stored <;> simp only [stopping, full, beq_self_eq_true] <;> simp <;>
        rw [List.length_tail] at room <;> omega
    · have notFull : (stream.queue.length == kMaxQueuedEvents) = false := beq_false_of_ne full
      cases stored <;> simp only [stopping, notFull] <;> simp <;> omega

theorem bounded_restore_iff (stream : EventStream) (event : EventRecord) :
    (stream.restore (.event event) true).Bounded ↔ stream.queue.length < kMaxQueuedEvents := by
  simp [Bounded, restore, Nat.succ_le_iff]

/-- Step lemma: from a bounded queue exactly the guarded steps keep the bound. -/
theorem bounded_next_iff {stream target : EventStream} {action : StreamAction}
    {output : StreamOutput} (bounded : stream.Bounded)
    (stepped : next stream action = some (output, target)) :
    target.Bounded ↔ stream.roomToRestore action = true := by
  have kept : (action ≠ .restore true) → target.queue.length ≤ stream.queue.length →
      (target.Bounded ↔ stream.roomToRestore action = true) :=
    fun other shorter => iff_of_true (Nat.le_trans shorter bounded) (roomToRestore_of_ne other)
  cases effect_next stepped with
  | quiet other queue => exact kept (other true) (Nat.le_of_eq (by rw [queue]))
  | reset resets closed queue =>
      rcases resets with rfl | rfl
      · exact kept nofun (by simp [queue])
      · exact kept nofun (by simp [queue])
  | enqueued event stored running =>
      exact iff_of_true (bounded_enqueue bounded event stored) (roomToRestore_of_ne nofun)
  | tookGap free => exact kept nofun (Nat.le_refl _)
  | tookEvent event rest free queue => exact kept nofun (by simp [queue])
  | delivered frame held => exact kept nofun (Nat.le_refl _)
  | restored frame stored held =>
      cases stored with
      | false =>
          apply kept nofun
          cases frame <;> simp [restore]
      | true =>
          cases frame with
          | event event => simp [bounded_restore_iff, roomToRestore, held]
          | gap dropped => exact iff_of_true bounded (by simp [roomToRestore, held])
  | thrown => exact kept nofun (Nat.zero_le _)

theorem bounded_initial : Bounded {} :=
  Nat.zero_le kMaxQueuedEvents

/-- Producers fill the queue while it has room. -/
theorem execute_enqueues {stream : EventStream} (running : stream.stopping = false)
    (event : EventRecord) {count : Nat} (room : stream.queue.length + count ≤ kMaxQueuedEvents) :
    Transition.execute next stream (List.replicate count (.enqueue event true)) =
      some (List.replicate count { accepted := [event] },
        { stream with queue := stream.queue ++ List.replicate count event }) := by
  induction count generalizing stream with
  | zero => simp
  | succ count ih =>
      have notFull : (stream.queue.length == kMaxQueuedEvents) = false :=
        beq_false_of_ne (by omega)
      have stepped : next stream (.enqueue event true) =
          some ({ accepted := [event] }, { stream with queue := stream.queue ++ [event] }) := by
        simp [next, enqueue, running, notFull]
      have rest := @ih { stream with queue := stream.queue ++ [event] } running
        (by simp; omega)
      rw [List.append_assoc] at rest
      simp only [List.replicate_succ]
      exact Transition.execute_cons_eq_some_iff.mpr ⟨_, _, _, stepped, rest, rfl⟩

end EventStream

open EventStream

/-- The memory bound of the event stream: in every execution the queue stays
within its capacity throughout exactly when every event that is put back after a
failed write finds room. -/
theorem queue_bounded_iff {actions : List StreamAction} {outputs : List StreamOutput}
    {reached : EventStream}
    (run : Transition.execute next {} actions = some (outputs, reached)) :
    (∀ first, first <+: actions → ∀ earlier middle,
        Transition.execute next {} first = some (earlier, middle) →
        middle.queue.length ≤ kMaxQueuedEvents) ↔
      Transition.Along next (fun stream action => stream.roomToRestore action = true) {} actions :=
  (Transition.along_iff_forall_prefix (fun _ _ _ _ => bounded_next_iff) bounded_initial run).symm

/-- A client is greeted, one event is taken and its write fails. -/
def failedWrite : List StreamAction :=
  [.stop (some "nonce"), .join, .clear, .createPipe true, .spawn true,
    .setInstanceId "instance" true,
    .readHello (some (.object [("type", .string "HELLO"), ("nonce", .string "nonce"),
      ("instance_id", .string "instance")])),
    .identify, .greet true, .enqueue {} true, .take, .write false]

/-- Put back into an empty queue, the event leaves the bound alone. -/
theorem queue_bounded_iff_restored :
    Transition.Along next (fun stream action => stream.roomToRestore action = true) {}
        (failedWrite ++ [.restore true]) ∧
      ∀ first, first <+: failedWrite ++ [.restore true] → ∀ earlier middle,
        Transition.execute next {} first = some (earlier, middle) →
        middle.queue.length ≤ kMaxQueuedEvents := by
  have room : Transition.Along next (fun stream action => stream.roomToRestore action = true) {}
      (failedWrite ++ [.restore true]) := by
    decide
  exact ⟨room, (@queue_bounded_iff (failedWrite ++ [.restore true]) _ _ rfl).mpr room⟩

/-- The producers fill the queue before the event is put back. -/
def refilledQueue : List StreamAction :=
  failedWrite ++ List.replicate kMaxQueuedEvents (.enqueue {} true) ++ [.restore true]

/-- One event above the bound. -/
theorem queue_overflow :
    ∃ outputs reached, Transition.execute next {} refilledQueue = some (outputs, reached) ∧
      reached.queue.length = kMaxQueuedEvents + 1 := by
  have failed : ∃ outputs middle, Transition.execute next {} failedWrite = some (outputs, middle) ∧
      middle.stopping = false ∧ middle.queue = [] ∧ middle.worker = .refused (.event {}) :=
    ⟨_, _, rfl, rfl, rfl, rfl⟩
  rcases failed with ⟨earlier, middle, reaches, running, empty, refused⟩
  have filled := @execute_enqueues middle running {} kMaxQueuedEvents (by simp [empty])
  have restored : next { middle with
        queue := middle.queue ++ List.replicate kMaxQueuedEvents {} } (.restore true) =
      some ({}, { middle with
        queue := {} :: (middle.queue ++ List.replicate kMaxQueuedEvents {})
        worker := .disconnecting }) := by
    simp [next, refused, restore]
  have last := Transition.execute_cons_eq_some_iff.mpr
    ⟨_, _, _, restored, Transition.execute_nil next _, rfl⟩
  refine ⟨_, _, Transition.execute_append (Transition.execute_append reaches filled) last, ?_⟩
  simp [empty]

end X64dbgMcp.Events
