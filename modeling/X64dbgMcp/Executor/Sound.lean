import X64dbgMcp.Executor.Core

/-!
# What holds of the executor in every interleaving

`Sound` is the invariant of the executor: the queue is bounded, operations start
in queue order, none runs twice, and the promise of a work item agrees with what
happened to its operation.
-/

namespace X64dbgMcp.Executor

namespace Call

/-- Nothing has happened to the operation. -/
structure Untouched (call : Call) : Prop where
  started : call.started = false
  runs : call.runs = 0
  outcomes : call.outcomes = []
  completion : call.completion = none

/-- The operation is invoked at most once and has not been answered. -/
structure InProgress (call : Call) (runs : Nat) (outcomes : List (Option String)) : Prop where
  started : call.started = true
  runs : call.runs = runs
  outcomes : call.outcomes = outcomes
  completion : call.completion = none

/-- The promise was set without a run, which needs the cancelled flag. -/
structure Skipped (call : Call) : Prop where
  cancelled : call.cancelled = true
  started : call.started = false
  runs : call.runs = 0
  outcomes : call.outcomes = []

/-- The promise holds what the one run returned. -/
structure Ran (call : Call) (value : String) : Prop where
  started : call.started = true
  runs : call.runs = 1
  outcome : ∃ outcome, call.outcomes = [outcome] ∧ value = outcome.getD ""

/-- The work item is the same up to its caller's position and its cancelled flag,
which only ever rises. -/
structure SameWork (before after : Call) : Prop where
  started : after.started = before.started
  runs : after.runs = before.runs
  outcomes : after.outcomes = before.outcomes
  completion : after.completion = before.completion
  cancelled : before.cancelled = true → after.cancelled = true

/-- A work item that is neither queued nor held. -/
def Settled (call : Call) : Prop :=
  match call.completion with
  | none => call.Untouched
  | some value => call.Skipped ∨ call.Ran value

namespace SameWork

variable {before after : Call} (same : SameWork before after)
include same

theorem untouched (untouched : before.Untouched) : after.Untouched :=
  ⟨same.started.trans untouched.started, same.runs.trans untouched.runs,
    same.outcomes.trans untouched.outcomes, same.completion.trans untouched.completion⟩

theorem inProgress {runs : Nat} {outcomes : List (Option String)}
    (progress : before.InProgress runs outcomes) : after.InProgress runs outcomes :=
  ⟨same.started.trans progress.started, same.runs.trans progress.runs,
    same.outcomes.trans progress.outcomes, same.completion.trans progress.completion⟩

theorem settled (settled : before.Settled) : after.Settled := by
  simp only [Settled, same.completion] at settled ⊢
  split at settled
  · exact same.untouched settled
  · rcases settled with skipped | ran
    · exact .inl ⟨same.cancelled skipped.cancelled, same.started.trans skipped.started,
        same.runs.trans skipped.runs, same.outcomes.trans skipped.outcomes⟩
    · exact .inr ⟨same.started.trans ran.started, same.runs.trans ran.runs,
        same.outcomes ▸ ran.outcome⟩

end SameWork

end Call

/-- The worker's position tells how far its work item is. -/
def WorkerPoint.Agrees (calls : Nat → Call) : WorkerPoint → Prop
  | .popped id | .starting id => (calls id).Untouched
  | .skipping id => (calls id).Untouched ∧ (calls id).cancelled = true
  | .started id => (calls id).InProgress 0 []
  | .running id => (calls id).InProgress 1 []
  | .finishing id outcome => (calls id).InProgress 1 [outcome]
  | .absent | .idle | .exited => True

theorem WorkerPoint.Agrees.of_sameWork {before after : Nat → Call} {worker : WorkerPoint}
    (agrees : worker.Agrees before) (same : ∀ id, (before id).SameWork (after id)) :
    worker.Agrees after := by
  cases worker with
  | popped id => exact (same id).untouched agrees
  | starting id => exact (same id).untouched agrees
  | skipping id => exact ⟨(same id).untouched agrees.1, (same id).cancelled agrees.2⟩
  | started id => exact (same id).inProgress agrees
  | running id => exact (same id).inProgress agrees
  | finishing id outcome => exact (same id).inProgress agrees
  | absent => trivial
  | idle => trivial
  | exited => trivial

/-- A held work item is unanswered, and invoked at most once after its started
flag is stored. -/
theorem WorkerPoint.Agrees.unanswered {calls : Nat → Call} {worker : WorkerPoint} {id : Nat}
    (agrees : worker.Agrees calls) (heldEq : worker.held = some id) :
    (calls id).Untouched ∨ ∃ runs ≤ 1, ∃ outcomes, (calls id).InProgress runs outcomes := by
  cases worker with
  | popped => cases heldEq; exact .inl agrees
  | skipping => cases heldEq; exact .inl agrees.1
  | starting => cases heldEq; exact .inl agrees
  | started => cases heldEq; exact .inr ⟨0, by simp, [], agrees⟩
  | running => cases heldEq; exact .inr ⟨1, by simp, [], agrees⟩
  | finishing _ outcome => cases heldEq; exact .inr ⟨1, by simp, [outcome], agrees⟩
  | absent => cases heldEq
  | idle => cases heldEq
  | exited => cases heldEq

/-- The call was never queued. -/
def CallPoint.outside : CallPoint → Bool
  | .idle | .returned ⟨.busy, _⟩ | .returned ⟨.stopped, _⟩ => true
  | _ => false

namespace State

/-- What holds in every interleaving. -/
structure Sound (state : State) : Prop where
  capacity : state.queue.length ≤ kCapacity
  distinct : (state.worker.held.toList ++ state.queue).Nodup
  logDistinct : state.queuedLog.Nodup
  order : (state.startLog ++ state.worker.pending.toList ++ state.queue).Sublist state.queuedLog
  logged : ∀ id, state.worker.held = some id → id ∈ state.queuedLog
  queued : ∀ id ∈ state.queue, (state.calls id).Untouched
  held : state.worker.Agrees state.calls
  settled : ∀ id, id ∉ state.queue → state.worker.held ≠ some id → (state.calls id).Settled
  outside : ∀ id, (state.calls id).point.outside = true →
    (state.calls id).Untouched ∧ id ∉ state.queuedLog
  cancelling : ∀ id, (state.calls id).point = .cancelling → (state.calls id).cancelled = true
  timedOutStarted : ∀ id value, (state.calls id).point = .returned ⟨.timedOutStarted, value⟩ →
    (state.calls id).started = true

theorem sound_initial : Sound {} := by
  constructor <;> simp [WorkerPoint.held, WorkerPoint.pending, WorkerPoint.Agrees, Call.Settled,
    CallPoint.outside] <;> constructor <;> rfl

namespace Sound

variable {state : State}

theorem mem_log_of_queued (sound : state.Sound) {id : Nat} (member : id ∈ state.queue) :
    id ∈ state.queuedLog :=
  sound.order.subset (List.mem_append_right _ member)

theorem not_held_of_queued (sound : state.Sound) {id : Nat} (member : id ∈ state.queue) :
    state.worker.held ≠ some id := by
  intro heldEq
  have distinct := sound.distinct
  rw [heldEq] at distinct
  exact (List.nodup_cons.mp distinct).1 member

/-! ## Steps of the callers -/

/-- Steps that leave every work item alone need only account for the positions
of the callers. -/
theorem of_sameWork (sound : state.Sound) {calls : Nat → Call} {accepting stopping : Bool}
    {stop : StopPoint} (same : ∀ id, (state.calls id).SameWork (calls id))
    (outside : ∀ id, (calls id).point.outside = true →
      (calls id).Untouched ∧ id ∉ state.queuedLog)
    (cancelling : ∀ id, (calls id).point = .cancelling → (calls id).cancelled = true)
    (timedOutStarted : ∀ id value, (calls id).point = .returned ⟨.timedOutStarted, value⟩ →
      (calls id).started = true) :
    Sound { state with
      calls := calls, accepting := accepting, stopping := stopping, stop := stop } where
  capacity := sound.capacity
  distinct := sound.distinct
  logDistinct := sound.logDistinct
  order := sound.order
  logged := sound.logged
  queued := fun id member => (same id).untouched (sound.queued id member)
  held := sound.held.of_sameWork same
  settled := fun id notQueued notHeld => (same id).settled (sound.settled id notQueued notHeld)
  outside := outside
  cancelling := cancelling
  timedOutStarted := timedOutStarted

/-- One caller moves on. -/
theorem setCaller (sound : state.Sound) {id : Nat} {point : CallPoint} {cancelled : Bool}
    (rises : (state.calls id).cancelled = true → cancelled = true)
    (outside : point.outside = true → (state.calls id).Untouched ∧ id ∉ state.queuedLog)
    (cancelling : point = .cancelling → cancelled = true)
    (timedOutStarted : ∀ value, point = .returned ⟨.timedOutStarted, value⟩ →
      (state.calls id).started = true) :
    (state.setCall id { state.calls id with point := point, cancelled := cancelled }).Sound := by
  refine sound.of_sameWork ?_ ?_ ?_ ?_
  · exact forall_setCall (motive := fun other call => (state.calls other).SameWork call)
      ⟨rfl, rfl, rfl, rfl, rises⟩ fun other _ => ⟨rfl, rfl, rfl, rfl, fun known => known⟩
  · refine forall_setCall (motive := fun other call => call.point.outside = true →
      call.Untouched ∧ other ∉ state.queuedLog) ?_ fun other _ => sound.outside other
    intro isOutside
    obtain ⟨untouched, absent⟩ := outside isOutside
    exact ⟨⟨untouched.started, untouched.runs, untouched.outcomes, untouched.completion⟩, absent⟩
  · exact forall_setCall (motive := fun _ call => call.point = .cancelling →
      call.cancelled = true) cancelling fun other _ => sound.cancelling other
  · exact forall_setCall (motive := fun _ call => ∀ value,
      call.point = .returned ⟨.timedOutStarted, value⟩ → call.started = true)
      timedOutStarted fun other _ => sound.timedOutStarted other

theorem stopCancel (sound : state.Sound) : state.stopCancel.Sound := by
  refine sound.of_sameWork ?_ ?_ ?_ ?_
  · intro id
    dsimp only
    split
    · exact ⟨rfl, rfl, rfl, rfl, fun _ => rfl⟩
    · exact ⟨rfl, rfl, rfl, rfl, fun known => known⟩
  · intro id isOutside
    dsimp only at isOutside ⊢
    split at isOutside
    · rename_i member
      exact absurd (sound.mem_log_of_queued member) (sound.outside id isOutside).2
    · rename_i absent
      rw [if_neg absent]
      exact sound.outside id isOutside
  · intro id isCancelling
    dsimp only at isCancelling ⊢
    split
    · rfl
    · rename_i absent
      rw [if_neg absent] at isCancelling
      exact sound.cancelling id isCancelling
  · intro id value returned
    dsimp only at returned ⊢
    split at returned
    · rename_i member
      rw [if_pos member]
      exact sound.timedOutStarted id value returned
    · rename_i absent
      rw [if_neg absent]
      exact sound.timedOutStarted id value returned

theorem enqueue (sound : state.Sound) {id : Nat} (idle : (state.calls id).point = .idle) :
    (state.enqueue id).Sound := by
  have unqueued := sound.outside id (by simp [idle, CallPoint.outside])
  simp only [State.enqueue]
  split
  · exact sound.setCaller (fun known => known) (fun _ => unqueued) nofun nofun
  · split
    · exact sound.setCaller (fun known => known) (fun _ => unqueued) nofun nofun
    · rename_i room
      have moved : (state.setPoint id .waiting).Sound :=
        sound.setCaller (fun known => known) nofun nofun nofun
      have notHeld : state.worker.held ≠ some id :=
        fun heldEq => unqueued.2 (sound.logged id heldEq)
      have notQueued : id ∉ state.queue :=
        fun member => unqueued.2 (sound.mem_log_of_queued member)
      constructor
      · simp only [List.length_append, List.length_singleton]
        omega
      · rw [← List.append_assoc]
        refine List.nodup_append.mpr ⟨sound.distinct, by simp, ?_⟩
        intro other member _ equal
        rw [List.mem_singleton.mp equal]
        rintro rfl
        rcases List.mem_append.mp member with isHeld | isQueued
        · exact notHeld (Option.mem_toList.mp isHeld)
        · exact notQueued isQueued
      · refine List.nodup_append.mpr ⟨sound.logDistinct, by simp, ?_⟩
        intro other member _ equal
        rw [List.mem_singleton.mp equal]
        rintro rfl
        exact unqueued.2 member
      · simpa [State.setPoint, State.setCall] using sound.order.append_right [id]
      · intro other heldEq
        exact List.mem_append_left _ (sound.logged other heldEq)
      · intro other member
        rcases List.mem_append.mp member with isQueued | isNew
        · exact moved.queued other isQueued
        · rw [List.mem_singleton.mp isNew]
          simp only [State.setPoint, calls_setCall, if_true]
          exact ⟨unqueued.1.started, unqueued.1.runs, unqueued.1.outcomes,
            unqueued.1.completion⟩
      · exact moved.held
      · intro other absent
        exact moved.settled other fun member => absent (List.mem_append_left _ member)
      · intro other isOutside
        obtain ⟨untouched, absent⟩ := moved.outside other isOutside
        refine ⟨untouched, ?_⟩
        intro member
        rcases List.mem_append.mp member with isLogged | isNew
        · exact absent isLogged
        · rw [List.mem_singleton.mp isNew] at isOutside
          simp [State.setPoint, CallPoint.outside] at isOutside
      · exact moved.cancelling
      · exact moved.timedOutStarted

/-! ## Steps of the worker -/

theorem pop (sound : state.Sound) {id : Nat} {rest : List Nat} (idle : state.worker = .idle)
    (queueEq : state.queue = id :: rest) :
    Sound { state with worker := .popped id, queue := rest } := by
  obtain ⟨capacity, distinct, logDistinct, order, logged, queued, held, settled, outside,
    cancelling, timedOutStarted⟩ := sound
  simp only [idle, queueEq, WorkerPoint.held, WorkerPoint.pending, Option.toList_none,
    List.nil_append, List.append_nil] at capacity distinct order queued settled
  constructor
  · exact Nat.le_of_succ_le capacity
  · simpa [WorkerPoint.held] using distinct
  · exact logDistinct
  · simpa [WorkerPoint.pending] using order
  · intro other heldEq
    cases heldEq
    exact order.subset (by simp)
  · exact fun other member => queued other (List.mem_cons_of_mem id member)
  · exact queued id List.mem_cons_self
  · intro other absent notHeld
    refine settled other ?_ nofun
    simp only [List.mem_cons, not_or]
    exact ⟨fun equal => notHeld (by rw [equal]; rfl), absent⟩
  · exact outside
  · exact cancelling
  · exact timedOutStarted

/-- What the worker's position tells. -/
theorem agrees (sound : state.Sound) {worker : WorkerPoint} (workerEq : state.worker = worker) :
    worker.Agrees state.calls :=
  workerEq ▸ sound.held

/-- The worker goes on with the work item it holds. -/
theorem advance (sound : state.Sound) {id : Nat} {call : Call} (worker : WorkerPoint)
    (startLog : List Nat) (heldEq : state.worker.held = some id)
    (stillHeld : worker.held = some id)
    (point : call.point = (state.calls id).point)
    (cancelled : call.cancelled = (state.calls id).cancelled)
    (started : (state.calls id).started = true → call.started = true)
    (agrees : worker.Agrees (state.setCall id call).calls)
    (order : (startLog ++ worker.pending.toList).Sublist
      (state.startLog ++ state.worker.pending.toList)) :
    Sound { state.setCall id call with worker := worker, startLog := startLog } := by
  constructor
  · exact sound.capacity
  · simpa [State.setCall, stillHeld, heldEq] using sound.distinct
  · exact sound.logDistinct
  · exact (order.append_right state.queue).trans sound.order
  · intro other otherHeld
    exact sound.logged other (by rw [heldEq, ← stillHeld]; exact otherHeld)
  · intro other member
    have other_ne : other ≠ id := by
      rintro rfl
      exact sound.not_held_of_queued member heldEq
    simpa [other_ne] using sound.queued other member
  · exact agrees
  · intro other absent notHeld
    have other_ne : other ≠ id := by
      rintro rfl
      exact notHeld stillHeld
    simpa [other_ne] using
      sound.settled other absent (by rw [heldEq]; simpa using fun equal => other_ne equal.symm)
  · refine forall_setCall (motive := fun other call => call.point.outside = true →
      call.Untouched ∧ other ∉ state.queuedLog) ?_ fun other _ => sound.outside other
    intro isOutside
    exact absurd (sound.logged id heldEq) (sound.outside id (point ▸ isOutside)).2
  · refine forall_setCall (motive := fun _ call => call.point = .cancelling →
      call.cancelled = true) ?_ fun other _ => sound.cancelling other
    intro isCancelling
    exact cancelled.trans (sound.cancelling id (point ▸ isCancelling))
  · refine forall_setCall (motive := fun _ call => ∀ value,
      call.point = .returned ⟨.timedOutStarted, value⟩ → call.started = true) ?_
      fun other _ => sound.timedOutStarted other
    intro value returned
    exact started (sound.timedOutStarted id value (point ▸ returned))

/-- The worker lets go of a work item that is settled. -/
theorem complete (sound : state.Sound) {id : Nat} {value : String}
    (heldEq : state.worker.held = some id)
    (settled : Call.Settled { state.calls id with completion := some value }) :
    (state.complete id value).Sound := by
  constructor
  · exact sound.capacity
  · exact (List.nodup_append.mp sound.distinct).2.1
  · exact sound.logDistinct
  · refine List.Sublist.trans ?_ sound.order
    simp only [State.complete, State.setCall, WorkerPoint.pending, Option.toList_none,
      List.append_nil]
    exact (List.sublist_append_left state.startLog _).append_right state.queue
  · intro _ idle; cases idle
  · intro other member
    have other_ne : other ≠ id := by
      rintro rfl
      exact sound.not_held_of_queued member heldEq
    simpa [State.complete, other_ne] using sound.queued other member
  · trivial
  · refine forall_setCall (motive := fun other call => other ∉ state.queue →
      WorkerPoint.idle.held ≠ some other → call.Settled) (fun _ _ => settled) ?_
    intro other other_ne absent _
    exact sound.settled other absent
      (by rw [heldEq]; simpa using fun same => other_ne same.symm)
  · refine forall_setCall (motive := fun other call => call.point.outside = true →
      call.Untouched ∧ other ∉ state.queuedLog) ?_ fun other _ => sound.outside other
    intro isOutside
    exact absurd (sound.logged id heldEq) (sound.outside id isOutside).2
  · exact forall_setCall (motive := fun _ call => call.point = .cancelling →
      call.cancelled = true) (sound.cancelling id) fun other _ => sound.cancelling other
  · exact forall_setCall (motive := fun _ call => ∀ value,
      call.point = .returned ⟨.timedOutStarted, value⟩ → call.started = true)
      (sound.timedOutStarted id) fun other _ => sound.timedOutStarted other

/-- The worker thread appears or disappears with nothing in its hands. -/
theorem setWorker (sound : state.Sound) {worker : WorkerPoint} {accepting stopping : Bool}
    {stop : StopPoint} (before : state.worker.held = none) (after : worker.held = none) :
    Sound { state with
      worker := worker, accepting := accepting, stopping := stopping, stop := stop } := by
  constructor
  · exact sound.capacity
  · simpa [before, after] using sound.distinct
  · exact sound.logDistinct
  · have noPending : worker.pending = none := by
      cases worker <;> simp_all [WorkerPoint.held, WorkerPoint.pending]
    refine List.Sublist.trans ?_ sound.order
    simp only [noPending, Option.toList_none, List.append_nil]
    exact (List.sublist_append_left state.startLog _).append_right state.queue
  · intro id heldEq
    rw [after] at heldEq
    contradiction
  · exact sound.queued
  · cases worker <;> simp_all [WorkerPoint.held, WorkerPoint.Agrees]
  · intro id absent _
    exact sound.settled id absent (by simp [before])
  · exact sound.outside
  · exact sound.cancelling
  · exact sound.timedOutStarted

/-- Dropping the queue leaves untouched work behind. -/
theorem stopClear (sound : state.Sound) :
    Sound { state with queue := [], stopping := false, stop := .idle } := by
  constructor
  · exact Nat.zero_le _
  · simpa using (List.nodup_append.mp sound.distinct).1
  · exact sound.logDistinct
  · exact ((List.nil_sublist state.queue).append_left _).trans sound.order
  · exact sound.logged
  · exact nofun
  · exact sound.held
  · intro id _ notHeld
    by_cases member : id ∈ state.queue
    · have untouched := sound.queued id member
      simpa [Call.Settled, untouched.completion] using untouched
    · exact sound.settled id member notHeld
  · exact sound.outside
  · exact sound.cancelling
  · exact sound.timedOutStarted

/-- Step lemma of the invariant. -/
theorem next (sound : state.Sound) {target : State} {action : Action} {output : Unit}
    (stepped : State.next state action = some (output, target)) : target.Sound := by
  cases action with
  | start created =>
      cases stepped
      simp only [State.start]
      split
      · exact sound
      · rename_i refused
        have absent : state.worker.held = none := by
          simp only [WorkerPoint.joinable, Bool.or_eq_true, bne_iff_ne, ne_eq, not_or,
            Decidable.not_not] at refused
          simp [refused.2, WorkerPoint.held]
        split
        · exact sound.setWorker absent rfl
        · exact sound.setWorker absent absent
  | enqueue id =>
      simp only [State.next] at stepped
      split at stepped
      · rename_i idle
        cases stepped
        exact sound.enqueue idle
      · contradiction
  | observeReady id =>
      simp only [State.next] at stepped
      split at stepped
      · cases stepped
        exact sound.setCaller (fun known => known) nofun nofun nofun
      · contradiction
  | observeTimeout id =>
      simp only [State.next] at stepped
      split at stepped
      · cases stepped
        exact sound.setCaller (fun known => known) nofun nofun nofun
      · contradiction
  | storeCancelled id =>
      simp only [State.next] at stepped
      split at stepped
      · cases stepped
        exact sound.setCaller (fun _ => rfl) nofun (fun _ => rfl) nofun
      · contradiction
  | loadStarted id =>
      simp only [State.next] at stepped
      split at stepped
      · cases stepped
        cases started : (state.calls id).started with
        | false => exact sound.setCaller (fun known => known) nofun nofun nofun
        | true => exact sound.setCaller (fun known => known) nofun nofun fun _ _ => started
      · contradiction
  | pop =>
      simp only [State.next] at stepped
      split at stepped
      · rename_i id rest idle queueEq
        cases stepped
        exact sound.pop idle queueEq
      · contradiction
  | exitWorker =>
      simp only [State.next] at stepped
      split at stepped
      · rename_i idle
        cases stepped
        exact sound.setWorker (by simp [idle.1, WorkerPoint.held]) rfl
      · contradiction
  | loadCancelled =>
      simp only [State.next] at stepped
      split at stepped
      · rename_i id popped
        have untouched : (state.calls id).Untouched := sound.agrees popped
        have heldEq : state.worker.held = some id := by rw [popped]; rfl
        split at stepped <;> cases stepped
        · rename_i cancelled
          have moved := sound.advance (.skipping id) state.startLog heldEq rfl rfl rfl
            (fun known => known) (by simpa [WorkerPoint.Agrees] using ⟨untouched, cancelled⟩)
            (by simp [popped, WorkerPoint.pending])
          rwa [setCall_self] at moved
        · have moved := sound.advance (.starting id) state.startLog heldEq rfl rfl rfl
            (fun known => known) (by simpa [WorkerPoint.Agrees] using untouched)
            (by simp [popped, WorkerPoint.pending])
          rwa [setCall_self] at moved
      · contradiction
  | completeSkipped =>
      simp only [State.next] at stepped
      split at stepped
      · rename_i id skipping
        cases stepped
        obtain ⟨untouched, cancelled⟩ := sound.agrees skipping
        exact sound.complete (by rw [skipping]; rfl)
          (.inl ⟨cancelled, untouched.started, untouched.runs, untouched.outcomes⟩)
      · contradiction
  | storeStarted =>
      simp only [State.next] at stepped
      split at stepped
      · rename_i id starting
        cases stepped
        have untouched : (state.calls id).Untouched := sound.agrees starting
        refine sound.advance (.started id) state.startLog (by rw [starting]; rfl) rfl rfl rfl (fun _ => rfl) ?_
          (by simp [starting, WorkerPoint.pending])
        simp only [WorkerPoint.Agrees, calls_setCall, if_true]
        exact ⟨rfl, untouched.runs, untouched.outcomes, untouched.completion⟩
      · contradiction
  | invoke =>
      simp only [State.next] at stepped
      split at stepped
      · rename_i id started
        cases stepped
        have progress : (state.calls id).InProgress 0 [] := sound.agrees started
        refine sound.advance (.running id) (state.startLog ++ [id]) (by rw [started]; rfl) rfl rfl
          rfl (fun known => known) ?_
          (by simp [started, WorkerPoint.pending])
        simp only [WorkerPoint.Agrees, calls_setCall, if_true]
        exact ⟨progress.started, by simp [progress.runs], progress.outcomes, progress.completion⟩
      · contradiction
  | endOperation outcome =>
      simp only [State.next] at stepped
      split at stepped
      · rename_i id running
        cases stepped
        have progress : (state.calls id).InProgress 1 [] := sound.agrees running
        refine sound.advance (.finishing id outcome) state.startLog (by rw [running]; rfl) rfl rfl
          rfl (fun known => known) ?_
          (by simp [running, WorkerPoint.pending])
        simp only [WorkerPoint.Agrees, calls_setCall, if_true]
        exact ⟨progress.started, progress.runs, by simp [progress.outcomes], progress.completion⟩
      · contradiction
  | completeRun =>
      simp only [State.next] at stepped
      split at stepped
      · rename_i id outcome finishing
        cases stepped
        have progress : (state.calls id).InProgress 1 [outcome] := sound.agrees finishing
        exact sound.complete (by rw [finishing]; rfl)
          (.inr ⟨progress.started, progress.runs, outcome, progress.outcomes, rfl⟩)
      · contradiction
  | stopCancel =>
      simp only [State.next] at stepped
      split at stepped
      · cases stepped
        exact sound.stopCancel
      · contradiction
  | stopJoin =>
      simp only [State.next] at stepped
      split at stepped
      · rename_i joinable
        cases stepped
        have notHeld : state.worker.held = none := by
          rcases joinable.2 with absent | exited
          · rw [absent]; rfl
          · rw [exited]; rfl
        exact sound.setWorker notHeld rfl
      · contradiction
  | stopClear =>
      simp only [State.next] at stepped
      split at stepped
      · cases stepped
        exact sound.stopClear
      · contradiction

/-- How far any work item can be. -/
theorem progress (sound : state.Sound) (id : Nat) :
    (state.calls id).Untouched ∨
      (∃ runs ≤ 1, ∃ outcomes, (state.calls id).InProgress runs outcomes) ∨
      (state.calls id).Skipped ∨ ∃ value, (state.calls id).Ran value := by
  by_cases member : id ∈ state.queue
  · exact .inl (sound.queued id member)
  · by_cases heldEq : state.worker.held = some id
    · rcases sound.held.unanswered heldEq with untouched | inProgress
      · exact .inl untouched
      · exact .inr (.inl inProgress)
    · have settled := sound.settled id member heldEq
      simp only [Call.Settled] at settled
      split at settled
      · exact .inl settled
      · rcases settled with skipped | ran
        · exact .inr (.inr (.inl skipped))
        · exact .inr (.inr (.inr ⟨_, ran⟩))

/-- No operation runs twice. -/
theorem runs_le_one (sound : state.Sound) (id : Nat) : (state.calls id).runs ≤ 1 := by
  rcases sound.progress id with untouched | ⟨runs, bound, outcomes, inProgress⟩ | skipped |
    ⟨value, ran⟩
  · simp [untouched.runs]
  · simp [inProgress.runs, bound]
  · simp [skipped.runs]
  · simp [ran.runs]

/-- An operation runs only after its started flag is stored. -/
theorem runs_of_unstarted (sound : state.Sound) {id : Nat}
    (unstarted : (state.calls id).started = false) : (state.calls id).runs = 0 := by
  rcases sound.progress id with untouched | ⟨runs, bound, outcomes, inProgress⟩ | skipped |
    ⟨value, ran⟩
  · exact untouched.runs
  · simp [inProgress.started] at unstarted
  · exact skipped.runs
  · simp [ran.started] at unstarted

end Sound

end State

end X64dbgMcp.Executor
