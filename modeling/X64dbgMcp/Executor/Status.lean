import X64dbgMcp.Executor.Sound

/-!
# What an execution status tells

A status is honest when it agrees with what happened to the operation, now and
later.  Two gaps of the executor keep this from holding in every interleaving.
The timeout path loads `started` while the worker may stand between its load of
`cancelled` and its store of `started`; and a promise that was set for work
cancelled by `Stop`, or for an operation that threw, is reported as completed.
`Guarded` excludes exactly these steps.
-/

namespace X64dbgMcp.Executor

namespace State

/-- The statuses that depend on the gaps agree with what happened. -/
structure Honest (state : State) : Prop where
  completed : ∀ id value, (state.calls id).point = .returned ⟨.completed, value⟩ →
    (state.calls id).runs = 1 ∧ (state.calls id).outcomes = [some value]
  timedOutQueued : ∀ id value, (state.calls id).point = .returned ⟨.timedOutQueued, value⟩ →
    (state.calls id).cancelled = true ∧ (state.calls id).started = false ∧
      (state.calls id).runs = 0 ∧ state.worker ≠ .starting id

/-- The step does not fall into one of the two gaps. -/
def Guarded (state : State) : Action → Prop
  | .loadStarted id => state.worker ≠ .starting id
  | .observeReady id =>
      (state.calls id).cancelled = false ∧ none ∉ (state.calls id).outcomes
  | _ => True

instance (state : State) : DecidablePred state.Guarded := fun action =>
  match action with
  | .loadStarted id => inferInstanceAs (Decidable (state.worker ≠ .starting id))
  | .observeReady id =>
      inferInstanceAs (Decidable
        ((state.calls id).cancelled = false ∧ none ∉ (state.calls id).outcomes))
  | .start _ | .enqueue _ | .observeTimeout _ | .storeCancelled _ | .pop | .exitWorker
  | .loadCancelled | .completeSkipped | .storeStarted | .invoke | .endOperation _
  | .completeRun | .stopCancel | .stopJoin | .stopClear => isTrue trivial

namespace Honest

variable {state target : State}

theorem initial : Honest {} :=
  ⟨nofun, nofun⟩

/-- Steps that change no call, and do not set the worker on to start a cancelled
one. -/
theorem of_calls (honest : state.Honest) (calls : target.calls = state.calls)
    (worker : ∀ id, target.worker = .starting id →
      state.worker = .starting id ∨ (state.calls id).cancelled = false) :
    target.Honest := by
  refine ⟨?_, ?_⟩
  · rw [calls]
    exact honest.completed
  · rw [calls]
    intro id value returned
    obtain ⟨cancelled, started, runs, notStarting⟩ := honest.timedOutQueued id value returned
    refine ⟨cancelled, started, runs, ?_⟩
    intro starting
    rcases worker id starting with before | uncancelled
    · exact notStarting before
    · rw [cancelled] at uncancelled
      contradiction

/-- A step of one caller. -/
theorem setCaller (honest : state.Honest) {id : Nat} {point : CallPoint} {cancelled : Bool}
    (completed : ∀ value, point = .returned ⟨.completed, value⟩ →
      (state.calls id).runs = 1 ∧ (state.calls id).outcomes = [some value])
    (timedOutQueued : ∀ value, point = .returned ⟨.timedOutQueued, value⟩ →
      cancelled = true ∧ (state.calls id).started = false ∧ (state.calls id).runs = 0 ∧
        state.worker ≠ .starting id) :
    (state.setCall id
      { state.calls id with point := point, cancelled := cancelled }).Honest where
  completed := forall_setCall (motive := fun _ call => ∀ value,
    call.point = .returned ⟨.completed, value⟩ → call.runs = 1 ∧ call.outcomes = [some value])
    completed fun other _ => honest.completed other
  timedOutQueued := forall_setCall (motive := fun other call => ∀ value,
    call.point = .returned ⟨.timedOutQueued, value⟩ → call.cancelled = true ∧
      call.started = false ∧ call.runs = 0 ∧ state.worker ≠ .starting other)
    timedOutQueued fun other _ => honest.timedOutQueued other

/-- A step of the worker on the work item it holds; the caller has not been told
anything that the step could contradict. -/
theorem setWork (honest : state.Honest) {id : Nat} {call : Call} {worker : WorkerPoint}
    {startLog : List Nat} (point : call.point = (state.calls id).point)
    (cancelled : call.cancelled = (state.calls id).cancelled)
    (uncompleted : (state.calls id).runs = 1 → (state.calls id).outcomes ≠ [] →
      call.runs = (state.calls id).runs ∧ call.outcomes = (state.calls id).outcomes)
    (unexpired : (state.calls id).started = false → state.worker ≠ .starting id →
      call.started = false ∧ call.runs = (state.calls id).runs)
    (notStarting : ∀ other, worker ≠ .starting other) :
    Honest { state.setCall id call with worker := worker, startLog := startLog } where
  completed := by
    refine forall_setCall (motive := fun _ call => ∀ value,
      call.point = .returned ⟨.completed, value⟩ →
        call.runs = 1 ∧ call.outcomes = [some value]) ?_ fun other _ => honest.completed other
    intro value returned
    obtain ⟨runs, outcomes⟩ := honest.completed id value (point ▸ returned)
    obtain ⟨sameRuns, sameOutcomes⟩ := uncompleted runs (by simp [outcomes])
    exact ⟨sameRuns.trans runs, sameOutcomes.trans outcomes⟩
  timedOutQueued := by
    refine forall_setCall (motive := fun other call => ∀ value,
      call.point = .returned ⟨.timedOutQueued, value⟩ → call.cancelled = true ∧
        call.started = false ∧ call.runs = 0 ∧ worker ≠ .starting other) ?_ ?_
    · intro value returned
      obtain ⟨isCancelled, started, runs, starting⟩ :=
        honest.timedOutQueued id value (point ▸ returned)
      obtain ⟨stillUnstarted, sameRuns⟩ := unexpired started starting
      exact ⟨cancelled.trans isCancelled, stillUnstarted, sameRuns.trans runs, notStarting id⟩
    · intro other _ value returned
      obtain ⟨isCancelled, started, runs, -⟩ := honest.timedOutQueued other value returned
      exact ⟨isCancelled, started, runs, notStarting other⟩

theorem stopCancel (honest : state.Honest) : state.stopCancel.Honest := by
  refine ⟨?_, ?_⟩
  · intro id value returned
    simp only [State.stopCancel] at returned ⊢
    split at returned <;> split <;> first | contradiction | exact honest.completed id value returned
  · intro id value returned
    simp only [State.stopCancel] at returned ⊢
    split at returned
    · rename_i member
      rw [if_pos member]
      obtain ⟨-, started, runs, starting⟩ := honest.timedOutQueued id value returned
      exact ⟨rfl, started, runs, starting⟩
    · rename_i absent
      rw [if_neg absent]
      exact honest.timedOutQueued id value returned

/-- Waking up on a promise outside the gaps: the operation ran once and returned
the value. -/
theorem completed_of_ready (sound : state.Sound) {id : Nat} {value : String}
    (completion : (state.calls id).completion = some value)
    (uncancelled : (state.calls id).cancelled = false)
    (returned : none ∉ (state.calls id).outcomes) :
    (state.calls id).runs = 1 ∧ (state.calls id).outcomes = [some value] := by
  have notQueued : id ∉ state.queue := by
    intro member
    rw [(sound.queued id member).completion] at completion
    contradiction
  have notHeld : state.worker.held ≠ some id := by
    intro heldEq
    rcases sound.held.unanswered heldEq with untouched | ⟨_, _, _, inProgress⟩
    · simp [untouched.completion] at completion
    · simp [inProgress.completion] at completion
  have settled := sound.settled id notQueued notHeld
  simp only [Call.Settled, completion] at settled
  rcases settled with skipped | ran
  · rw [skipped.cancelled] at uncancelled
    contradiction
  · obtain ⟨outcome, outcomes, valueEq⟩ := ran.outcome
    refine ⟨ran.runs, ?_⟩
    cases outcome with
    | none => simp [outcomes] at returned
    | some result => simp [outcomes, valueEq]

/-- Step lemma: a guarded step keeps the statuses honest. -/
theorem next (honest : state.Honest) (sound : state.Sound) {action : Action} {output : Unit}
    (guarded : state.Guarded action)
    (stepped : State.next state action = some (output, target)) : target.Honest := by
  cases action with
  | start created =>
      cases stepped
      simp only [State.start]
      split
      · exact honest
      · split
        · exact honest.of_calls rfl (by simp)
        · exact honest.of_calls rfl fun _ starting => .inl starting
  | enqueue id =>
      simp only [State.next] at stepped
      split at stepped
      · cases stepped
        simp only [State.enqueue]
        split
        · exact honest.setCaller (by simp) (by simp)
        · split
          · exact honest.setCaller (by simp) (by simp)
          · exact (honest.setCaller (by simp) (by simp) : (state.setPoint id .waiting).Honest).of_calls
              rfl fun _ starting => .inl starting
      · contradiction
  | observeReady id =>
      simp only [State.next] at stepped
      split at stepped
      · rename_i value waiting completion
        cases stepped
        refine honest.setCaller ?_ (by simp)
        intro observed returned
        cases returned
        exact completed_of_ready sound completion guarded.1 guarded.2
      · contradiction
  | observeTimeout id =>
      simp only [State.next] at stepped
      split at stepped
      · cases stepped
        exact honest.setCaller (by simp) (by simp)
      · contradiction
  | storeCancelled id =>
      simp only [State.next] at stepped
      split at stepped
      · cases stepped
        exact honest.setCaller (by simp) (by simp)
      · contradiction
  | loadStarted id =>
      simp only [State.next] at stepped
      split at stepped
      · rename_i cancelling
        cases stepped
        cases started : (state.calls id).started with
        | true => exact honest.setCaller (by simp) (by simp)
        | false =>
            refine honest.setCaller (by simp) ?_
            intro _ _
            exact ⟨sound.cancelling id cancelling, started, sound.runs_of_unstarted started,
              guarded⟩
      · contradiction
  | pop =>
      simp only [State.next] at stepped
      split at stepped
      · cases stepped
        exact honest.of_calls rfl (by simp)
      · contradiction
  | exitWorker =>
      simp only [State.next] at stepped
      split at stepped
      · cases stepped
        exact honest.of_calls rfl (by simp)
      · contradiction
  | loadCancelled =>
      simp only [State.next] at stepped
      split at stepped
      · split at stepped <;> cases stepped
        · exact honest.of_calls rfl (by simp)
        · rename_i uncancelled
          refine honest.of_calls rfl ?_
          intro other starting
          cases starting
          exact .inr (by simpa using uncancelled)
      · contradiction
  | completeSkipped =>
      simp only [State.next] at stepped
      split at stepped
      · cases stepped
        exact honest.setWork rfl rfl (fun _ _ => ⟨rfl, rfl⟩) (fun unstarted _ => ⟨unstarted, rfl⟩)
          (by simp)
      · contradiction
  | storeStarted =>
      simp only [State.next] at stepped
      split at stepped
      · rename_i id starting
        cases stepped
        exact honest.setWork rfl rfl (fun _ _ => ⟨rfl, rfl⟩)
          (fun _ notStarting => absurd starting notStarting) (by simp)
      · contradiction
  | invoke =>
      simp only [State.next] at stepped
      split at stepped
      · rename_i id started
        cases stepped
        have progress : (state.calls id).InProgress 0 [] := sound.agrees started
        refine honest.setWork rfl rfl ?_ ?_ (by simp)
        · intro ran
          rw [progress.runs] at ran
          contradiction
        · intro unstarted
          rw [progress.started] at unstarted
          contradiction
      · contradiction
  | endOperation outcome =>
      simp only [State.next] at stepped
      split at stepped
      · rename_i id running
        cases stepped
        have progress : (state.calls id).InProgress 1 [] := sound.agrees running
        refine honest.setWork rfl rfl ?_ (fun unstarted _ => ⟨unstarted, rfl⟩) (by simp)
        intro _ ended
        exact absurd progress.outcomes ended
      · contradiction
  | completeRun =>
      simp only [State.next] at stepped
      split at stepped
      · cases stepped
        exact honest.setWork rfl rfl (fun _ _ => ⟨rfl, rfl⟩) (fun unstarted _ => ⟨unstarted, rfl⟩)
          (by simp)
      · contradiction
  | stopCancel =>
      simp only [State.next] at stepped
      split at stepped
      · cases stepped
        exact honest.stopCancel
      · contradiction
  | stopJoin =>
      simp only [State.next] at stepped
      split at stepped
      · cases stepped
        exact honest.of_calls rfl (by simp)
      · contradiction
  | stopClear =>
      simp only [State.next] at stepped
      split at stepped
      · cases stepped
        exact honest.of_calls rfl fun _ starting => .inl starting
      · contradiction

end Honest

/-- Run lemma of the invariant. -/
theorem sound_of_execute {actions : List Action} {outputs : List Unit} {reached : State}
    (run : Transition.execute next {} actions = some (outputs, reached)) : reached.Sound := by
  have preserved : Transition.Preserves next Transition.anything Sound :=
    fun _ _ _ _ sound _ stepped => sound.next stepped
  exact preserved.execute_anything sound_initial run

theorem preserves_honest : Transition.Preserves next Guarded
    (fun state => state.Sound ∧ state.Honest) := by
  rintro state action output target ⟨sound, honest⟩ guarded stepped
  exact ⟨sound.next stepped, honest.next sound guarded stepped⟩

/-- Run lemma of honesty. -/
theorem honest_of_execute {actions : List Action} {outputs : List Unit} {reached : State}
    (guarded : Transition.Along next Guarded {} actions)
    (run : Transition.execute next {} actions = some (outputs, reached)) : reached.Honest :=
  (preserves_honest.execute ⟨sound_initial, Honest.initial⟩ guarded run).2

/-! ## An answer is final -/

/-- The position of a call that has returned does not change. -/
theorem returned_next {state target : State} {action : Action} {output : Unit} {id : Nat}
    {result : ExecutionResult} (returned : (state.calls id).point = .returned result)
    (stepped : next state action = some (output, target)) :
    (target.calls id).point = .returned result := by
  -- A caller's step belongs to another call; the worker never moves a caller.
  have moved : ∀ {other : Nat} {call : Call},
      ((state.calls other).point = .returned result → call.point = .returned result) →
      ((state.setCall other call).calls id).point = .returned result := by
    intro other call kept
    rw [calls_setCall]
    split
    · rename_i equal
      exact kept (equal ▸ returned)
    · exact returned
  cases action with
  | start created =>
      cases stepped
      simp only [start]
      split
      · exact returned
      · split <;> exact returned
  | enqueue other =>
      simp only [next] at stepped
      split at stepped
      · rename_i idle
        cases stepped
        simp only [enqueue]
        split
        · exact moved fun known => by simp [idle] at known
        · split <;> exact moved fun known => by simp [idle] at known
      · contradiction
  | observeReady other =>
      simp only [next] at stepped
      split at stepped
      · rename_i value waiting completion
        cases stepped
        exact moved fun known => by simp [waiting] at known
      · contradiction
  | observeTimeout other =>
      simp only [next] at stepped
      split at stepped
      · rename_i waiting completion
        cases stepped
        exact moved fun known => by simp [waiting] at known
      · contradiction
  | storeCancelled other =>
      simp only [next] at stepped
      split at stepped
      · rename_i expired
        cases stepped
        exact moved fun known => by simp [expired] at known
      · contradiction
  | loadStarted other =>
      simp only [next] at stepped
      split at stepped
      · rename_i cancelling
        cases stepped
        exact moved fun known => by simp [cancelling] at known
      · contradiction
  | stopCancel =>
      simp only [next] at stepped
      split at stepped
      · cases stepped
        simp only [stopCancel]
        split <;> exact returned
      · contradiction
  | loadCancelled =>
      simp only [next] at stepped
      split at stepped
      · split at stepped <;> cases stepped <;> exact returned
      · contradiction
  | completeSkipped | storeStarted | invoke | endOperation | completeRun =>
      simp only [next] at stepped
      split at stepped
      · cases stepped
        exact moved fun known => known
      · contradiction
  | pop | exitWorker | stopJoin | stopClear =>
      simp only [next] at stepped
      split at stepped
      · cases stepped
        exact returned
      · contradiction

end State

open State

/-- The statuses of calls whose operation must not run. -/
def ExecutionStatus.refused : ExecutionStatus → Bool
  | .timedOutQueued | .busy | .stopped => true
  | .completed | .timedOutStarted => false

/-- An honest answer of a refused call: the operation has not run. -/
theorem State.Honest.runs_of_refused {state : State} (honest : state.Honest)
    (sound : state.Sound) {id : Nat} {result : ExecutionResult}
    (returned : (state.calls id).point = .returned result)
    (refused : result.status.refused = true) : (state.calls id).runs = 0 := by
  obtain ⟨status, value⟩ := result
  cases status with
  | timedOutQueued => exact (honest.timedOutQueued id value returned).2.2.1
  | busy => exact (sound.outside id (by simp [returned, CallPoint.outside])).1.runs
  | stopped => exact (sound.outside id (by simp [returned, CallPoint.outside])).1.runs
  | completed => cases refused
  | timedOutStarted => cases refused

/-- Truthful execution status.  In every interleaving the queue is bounded,
operations start in queue order and none runs twice.  In every interleaving that
avoids the two gaps, a completed call ran exactly once and carries what its
operation returned, a refused one has not run and will not run, and a timeout
after the start belongs to started work. -/
theorem execution_status_truthful {actions : List Action} {outputs : List Unit}
    {reached : State} (run : Transition.execute next {} actions = some (outputs, reached)) :
    (reached.queue.length ≤ kCapacity ∧ reached.queuedLog.Nodup ∧
      reached.startLog.Sublist reached.queuedLog ∧ ∀ id, (reached.calls id).runs ≤ 1) ∧
    (Transition.Along next Guarded {} actions → ∀ id,
      (∀ value, (reached.calls id).point = .returned ⟨.completed, value⟩ →
        (reached.calls id).runs = 1 ∧ (reached.calls id).outcomes = [some value]) ∧
      (∀ result, (reached.calls id).point = .returned result → result.status.refused = true →
        (reached.calls id).runs = 0 ∧
          ∀ later laterOutputs final, Transition.Along next Guarded reached later →
            Transition.execute next reached later = some (laterOutputs, final) →
            (final.calls id).runs = 0) ∧
      (∀ value, (reached.calls id).point = .returned ⟨.timedOutStarted, value⟩ →
        (reached.calls id).started = true)) := by
  have sound := sound_of_execute run
  refine ⟨⟨sound.capacity, sound.logDistinct, ?_, sound.runs_le_one⟩, ?_⟩
  · refine List.Sublist.trans ?_ sound.order
    rw [List.append_assoc]
    exact List.sublist_append_left _ _
  · intro guarded id
    have honest := honest_of_execute guarded run
    refine ⟨honest.completed id, ?_, sound.timedOutStarted id⟩
    intro result returned refused
    refine ⟨honest.runs_of_refused sound returned refused, ?_⟩
    intro later laterOutputs final guardedLater runLater
    have stays : Transition.Preserves next Transition.anything
        (fun state => (state.calls id).point = .returned result) :=
      fun _ _ _ _ known _ stepped => returned_next known stepped
    obtain ⟨finalSound, finalHonest⟩ :=
      preserves_honest.execute ⟨sound, honest⟩ guardedLater runLater
    exact finalHonest.runs_of_refused finalSound (stays.execute_anything returned runLater) refused

/-- One operation that runs to its end while its caller waits. -/
def completedSchedule : List Action :=
  [.start true, .enqueue 0, .pop, .loadCancelled, .storeStarted, .invoke,
    .endOperation (some "ok"), .completeRun, .observeReady 0]

theorem execution_status_truthful_completed :
    ∃ outputs reached,
      Transition.execute next {} completedSchedule = some (outputs, reached) ∧
      (reached.calls 0).point = .returned ⟨.completed, "ok"⟩ ∧ (reached.calls 0).runs = 1 := by
  refine ⟨_, _, rfl, by decide, ?_⟩
  exact (((@execution_status_truthful completedSchedule _ _ rfl).2 (by decide) 0).1 "ok"
    (by decide)).1

/-- The caller gives up between the worker's load of `cancelled` and its store of
`started`. -/
def racedSchedule : List Action :=
  [.start true, .enqueue 0, .pop, .loadCancelled, .observeTimeout 0, .storeCancelled 0,
    .loadStarted 0, .storeStarted, .invoke]

/-- `Stop` cancels work whose caller still waits. -/
def stoppedSchedule : List Action :=
  [.start true, .enqueue 0, .stopCancel, .pop, .loadCancelled, .completeSkipped,
    .observeReady 0]

/-- In the raced schedule an operation reported as expired in the queue runs; in
the stopped schedule one reported as completed never ran. -/
theorem execution_status_untruthful :
    (∃ outputs reached,
      Transition.execute next {} racedSchedule = some (outputs, reached) ∧
      (reached.calls 0).point = .returned ⟨.timedOutQueued, ""⟩ ∧
      (reached.calls 0).runs = 1) ∧
    (∃ outputs reached,
      Transition.execute next {} stoppedSchedule = some (outputs, reached) ∧
      (reached.calls 0).point = .returned ⟨.completed, ""⟩ ∧ (reached.calls 0).runs = 0) :=
  ⟨⟨_, _, rfl, by decide, by decide⟩, ⟨_, _, rfl, by decide, by decide⟩⟩

end X64dbgMcp.Executor
