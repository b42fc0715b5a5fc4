import X64dbgMcp.Trace.Running

/-!
# When a trace becomes terminal

A terminal trace releases the coordinator for the next one, so it must not be
published while native work of the old trace can still act.  This file shows
that publication happens exactly in the settled states: by the history of the
trace the submission has returned, no reserved interrupt is in flight, the
debuggee is stopped, and the interrupt helper is accounted for.
-/

namespace X64dbgMcp.Trace

open TraceStopCoordinator

/-- Everything native that the current trace started has come to rest. -/
structure Settled (journal : Journal) : Prop where
  submitted : journal.submitted = true
  notInFlight : journal.inFlight = false
  stopped : journal.paused = true ∨ journal.exited = true
  helper : journal.helper ≠ .outstanding

/-- The flag test `Unresolved` is about the helper of the history. -/
theorem Coherent.unresolved_iff {journal : Journal} {control : TraceControl}
    (coherent : Coherent journal control) :
    control.stop.unresolved = true ↔ journal.helper = .outstanding := by
  cases exited : control.stop.exited with
  | true =>
      have died := coherent.died.mp exited
      simp [unresolved, exited, died]
  | false =>
      cases issued : control.stop.issued with
      | false => simp [unresolved, issued, coherent.unissued exited issued]
      | true =>
          rw [coherent.issued exited issued]
          cases consumed : control.stop.consumed <;> simp [unresolved, exited, issued, consumed]

theorem Agreed.mayFinalize_iff_settled {journal : Journal} {control : TraceControl}
    (agreed : Agreed journal control) :
    control.stop.mayFinalize = true ↔ Settled journal := by
  have coherent := agreed.coherent
  have mirrored := agreed.mirrored
  have resolved : control.stop.unresolved = false ↔ journal.helper ≠ .outstanding := by
    rw [← Bool.not_eq_true, not_iff_not]
    exact coherent.unresolved_iff
  simp only [mayFinalize, ← mirrored.submitted, ← coherent.inFlight, ← mirrored.paused,
    ← coherent.exited, Bool.and_eq_true, Bool.or_eq_true, Bool.not_eq_true', resolved]
  constructor
  · rintro ⟨⟨⟨submitted, notInFlight⟩, stopped⟩, helper⟩
    exact ⟨submitted, notInFlight, stopped, helper⟩
  · rintro ⟨submitted, notInFlight, stopped, helper⟩
    exact ⟨⟨⟨submitted, notInFlight⟩, stopped⟩, helper⟩

namespace TraceControl

theorem trace_finalize_of_inactive {control : TraceControl}
    (inactive : control.trace.active = false) :
    control.finalize.trace = control.trace := by
  simp only [finalize]
  split
  · simp [TracePolicy.finalize, inactive]
  · rfl

/-- An inactive trace is only replaced by a new one, never changed. -/
theorem trace_apply_of_inactive {control : TraceControl} (call : TraceCall)
    (inactive : control.trace.active = false) :
    (control.apply call).2.trace = control.trace ∨
      (control.apply call).2.trace.active = true := by
  cases call with
  | begin arguments processEpoch processId =>
      simp only [apply, beginTrace]
      split
      · exact .inl rfl
      · rename_i started accepted
        exact .inr (TracePolicy.active_of_start accepted)
  | submitted ticket accepted =>
      have unchanged : control.trace.submitted = control.trace := by
        rw [TracePolicy.submitted, if_neg]
        intro starting
        simp [TracePolicy.active, starting] at inactive
      refine .inl ?_
      simp only [apply, onSubmitted]
      split
      · rfl
      · split <;> rw [trace_finalize_of_inactive] <;> simp [unchanged, inactive]
  | request reason now =>
      refine .inl ?_
      simp [apply, request, TracePolicy.requestStop_of_inactive reason inactive]
  | step address nativeStop now =>
      refine .inl ?_
      simp only [apply, step, TracePolicy.onStep, inactive, Bool.not_false, if_true]
      split <;> rfl
  | reserve now =>
      refine .inl ?_
      simp [apply, reserve, inactive]
  | issue ticket threadId address => exact .inl rfl
  | abandonIssue ticket => exact .inl rfl
  | finishInterrupt ticket safelyRetired =>
      refine .inl ?_
      simp only [apply, finishInterrupt]
      split
      · rfl
      · exact trace_finalize_of_inactive inactive
  | threadCreated processEpoch processId threadId rawCreateThread address => exact .inl rfl
  | resumed => exact .inl rfl
  | pauseCommitted fallback =>
      refine .inl ?_
      simp only [apply, pauseCommitted]
      split
      · rfl
      · exact trace_finalize_of_inactive inactive
  | processExited => exact .inl (trace_finalize_of_inactive inactive)

/-- What one call can do to an active trace: keep it active, or end it in a
state whose flags allow publication. -/
theorem active_apply {control : TraceControl} (call : TraceCall)
    (isActive : control.trace.active = true) :
    (control.apply call).2.trace.active = true ∨
      (control.apply call).2.stop.mayFinalize = true := by
  have through : ∀ other : TraceControl, other.trace.active = true →
      other.finalize.trace.active = true ∨ other.finalize.stop.mayFinalize = true := by
    intro other otherActive
    rw [active_finalize, stop_finalize, otherActive]
    cases other.stop.mayFinalize <;> simp
  cases call with
  | begin arguments processEpoch processId =>
      simp only [apply, beginTrace]
      split
      · exact .inl isActive
      · rename_i started accepted
        exact .inl (TracePolicy.active_of_start accepted)
  | submitted ticket accepted =>
      simp only [apply, onSubmitted]
      split
      · exact .inl isActive
      · split
        · exact through _ (by simpa using isActive)
        · exact through _ isActive
  | request reason now => exact .inl (by simpa [apply] using isActive)
  | step address nativeStop now => exact .inl (by simpa [apply] using isActive)
  | reserve now =>
      left
      simp only [apply, reserve]
      split
      · exact isActive
      · split <;> split <;> simpa using isActive
  | issue ticket threadId address => exact .inl isActive
  | abandonIssue ticket => exact .inl isActive
  | finishInterrupt ticket safelyRetired =>
      simp only [apply, finishInterrupt]
      split
      · exact .inl isActive
      · exact through _ isActive
  | threadCreated processEpoch processId threadId rawCreateThread address => exact .inl isActive
  | resumed => exact .inl isActive
  | pauseCommitted fallback =>
      simp only [apply, pauseCommitted]
      split
      · exact .inl isActive
      · exact through _ isActive
  | processExited => exact through _ isActive

/-- A call that makes the trace terminal ends an active trace. -/
theorem mayFinalize_of_terminal {control : TraceControl} {call : TraceCall}
    (before : control.trace.terminal = false)
    (ended : (control.apply call).2.trace.terminal = true) :
    (control.apply call).2.stop.mayFinalize = true := by
  have inactive : (control.apply call).2.trace.active = false := by
    simp only [TracePolicy.terminal, Bool.and_eq_true, Bool.not_eq_true'] at ended
    exact ended.2
  cases wasActive : control.trace.active with
  | true =>
      rcases active_apply call wasActive with stillActive | allowed
      · rw [inactive] at stillActive
        contradiction
      · exact allowed
  | false =>
      rcases trace_apply_of_inactive call wasActive with unchanged | started
      · rw [unchanged, before] at ended
        contradiction
      · rw [inactive] at started
        contradiction

/-- A create-thread event that is the helper's comes only while nothing is paused. -/
def CreatedUnpaused (control : TraceControl) : TraceCall → Prop
  | .threadCreated processEpoch processId threadId rawCreateThread address =>
      (control.stop.threadCreated processEpoch processId threadId rawCreateThread
        address).1 = true → control.stop.paused = false
  | _ => True

/-- An active trace is never in a state whose flags would allow its end. -/
def Unfinished (control : TraceControl) : Prop :=
  control.trace.active = true → control.stop.mayFinalize = false

theorem unfinished_finalize (control : TraceControl) : Unfinished control.finalize := by
  intro isActive
  rw [active_finalize, Bool.and_eq_true, Bool.not_eq_true'] at isActive
  rw [stop_finalize]
  exact isActive.2

/-- Step lemma of the converse direction.  Every call that can complete the
conditions ends in `finalize`; a create-thread event, which does not, resolves
the helper only while nothing is stopped. -/
theorem unfinished_apply {control : TraceControl} {call : TraceCall}
    (unfinished : Unfinished control) (delivered : control.CreatedUnpaused call) :
    Unfinished (control.apply call).2 := by
  cases call with
  | begin arguments processEpoch processId =>
      simp only [apply, beginTrace]
      split
      · exact unfinished
      · intro _
        simp [TraceStopCoordinator.begin, mayFinalize]
  | submitted ticket accepted =>
      simp only [apply, onSubmitted]
      split
      · exact unfinished
      · split <;> exact unfinished_finalize _
  | request reason now =>
      intro isActive
      have wasActive : control.trace.active = true := by simpa [apply] using isActive
      have before := unfinished wasActive
      simp only [apply, request_stop]
      split
      · exact before
      · exact before
  | step address nativeStop now =>
      intro isActive
      have before := unfinished (by simpa [apply] using isActive)
      simp only [apply, step]
      split <;> exact before
  | reserve now =>
      intro isActive
      simp only [apply, reserve] at isActive ⊢
      split
      · rename_i refused
        simp only [refused, if_true] at isActive
        exact unfinished isActive
      · rename_i admitted
        have before : control.stop.mayFinalize = false := by
          apply unfinished
          simp_all
        split
        · split
          · rw [request_stop]
            split <;> exact before
          · simp [mayFinalize]
        · split
          · exact before
          · simp [mayFinalize]
  | issue ticket threadId address =>
      intro isActive
      have before := unfinished isActive
      simp only [apply, issue]
      split
      · exact before
      · rename_i admitted
        simp only [Bool.or_eq_true, Bool.not_eq_true', not_or, Bool.not_eq_false] at admitted
        simp [mayFinalize, admitted.1.1.1.1.1.1.2]
  | abandonIssue ticket =>
      intro isActive
      have before := unfinished isActive
      simp only [apply, abandonIssue]
      split <;> exact before
  | finishInterrupt ticket safelyRetired =>
      simp only [apply, finishInterrupt]
      split
      · exact unfinished
      · exact unfinished_finalize _
  | threadCreated processEpoch processId threadId rawCreateThread address =>
      intro isActive
      have before := unfinished isActive
      simp only [CreatedUnpaused, threadCreated] at delivered
      simp only [apply, threadCreated]
      split
      · exact before
      · rename_i matched
        have running := delivered (by rw [if_neg matched])
        simp only [Bool.or_eq_true, not_or, Bool.not_eq_true] at matched
        simp [mayFinalize, running, matched.1.1.1.1.1.2]
  | resumed =>
      intro isActive
      have before := unfinished isActive
      simp only [apply, onResumed]
      split
      · exact before
      · cases exited : control.stop.exited with
        | false => simp [mayFinalize]
        | true => simpa [mayFinalize, unresolved, exited] using before
  | pauseCommitted fallback =>
      simp only [apply, pauseCommitted]
      split
      · exact unfinished
      · exact unfinished_finalize _
  | processExited => exact unfinished_finalize _

end TraceControl

/-- By the history, every create-thread event is delivered while the debuggee is not
paused. -/
def CreatedWhileRunning (calls : List TraceCall) : Prop :=
  ∀ past processEpoch processId threadId rawCreateThread address later history reached,
    calls = past ++
      .threadCreated processEpoch processId threadId rawCreateThread address :: later →
    Transition.execute TraceControl.next {} past = some (history, reached) →
    (Journal.ofHistory history).paused = false

theorem CreatedWhileRunning.before {past : List TraceCall} {call : TraceCall}
    (delivered : CreatedWhileRunning (past ++ [call])) : CreatedWhileRunning past := by
  intro earlier processEpoch processId threadId rawCreateThread address later history reached
    split run
  exact delivered earlier processEpoch processId threadId rawCreateThread address
    (later ++ [call]) history reached (by simp [split]) run

/-- Run lemma of the converse direction. -/
theorem unfinished_of_execute {calls : List TraceCall} {history : List (List TraceEvent)}
    {reached : TraceControl} (below : ∀ call ∈ calls, call.ClockBelowMax)
    (delivered : CreatedWhileRunning calls)
    (run : Transition.execute TraceControl.next {} calls = some (history, reached)) :
    reached.Unfinished := by
  refine Transition.execute_past (fun past state => (∀ call ∈ past, call.ClockBelowMax) →
    CreatedWhileRunning past → state.Unfinished) ?_ (fun _ _ _ => rfl) run below delivered
  intro past earlier state call events target executed unfinished stepped below delivered
  have belowPast : ∀ other ∈ past, other.ClockBelowMax :=
    fun other member => below other (List.mem_append_left [call] member)
  have mirrored := (Agreed.of_execute belowPast executed).mirrored
  have unpaused : state.CreatedUnpaused call := by
    cases call with
    | threadCreated processEpoch processId threadId rawCreateThread address =>
        intro _
        rw [← mirrored.paused]
        exact delivered past processEpoch processId threadId rawCreateThread address [] earlier
          state rfl executed
    | _ => trivial
  have applied := TraceControl.unfinished_apply (unfinished belowPast delivered.before) unpaused
  rw [TraceControl.next_eq_some_iff] at stepped
  rwa [stepped] at applied

/-- Over every sequence of calls with clock values below `time_point::max()`: a
call makes the trace terminal only in a settled state, a new trace begins only
when no interrupt of an earlier one is in flight or unresolved, and when
create-thread events come only while the debuggee is not paused, no settled state
has an active trace. -/
theorem trace_terminal_iff_settled {calls : List TraceCall}
    {history : List (List TraceEvent)} {reached : TraceControl}
    (below : ∀ call ∈ calls, call.ClockBelowMax)
    (run : Transition.execute TraceControl.next {} calls = some (history, reached)) :
    (∀ call : TraceCall, call.ClockBelowMax →
      reached.trace.terminal = false → (reached.apply call).2.trace.terminal = true →
      Settled ((Journal.ofHistory history).after (reached.apply call).1)) ∧
    (∀ arguments processEpoch processId ticket process,
      TraceEvent.began ticket process ∈
        (reached.apply (.begin arguments processEpoch processId)).1 →
      (Journal.ofHistory history).inFlight = false ∧
        (Journal.ofHistory history).helper ≠ .outstanding) ∧
    (CreatedWhileRunning calls → Settled (Journal.ofHistory history) →
      reached.trace.active = false) := by
  have agreed := Agreed.of_execute below run
  refine ⟨?_, ?_, ?_⟩
  · intro call belowCall before ended
    exact (agreed.apply belowCall).mayFinalize_iff_settled.mp
      (TraceControl.mayFinalize_of_terminal before ended)
  · intro arguments processEpoch processId ticket process began
    have inactive : reached.trace.active = false := by
      simp only [TraceControl.apply, TraceControl.beginTrace] at began
      split at began
      · contradiction
      · exact TracePolicy.inactive_of_start (by assumption)
    obtain ⟨notInFlight, resolved⟩ := agreed.coherent.quiet inactive
    refine ⟨agreed.coherent.inFlight.trans notInFlight, ?_⟩
    intro outstanding
    rw [agreed.coherent.unresolved_iff.mpr outstanding] at resolved
    contradiction
  · intro delivered settled
    have unfinished := unfinished_of_execute below delivered run
    cases isActive : reached.trace.active with
    | false => rfl
    | true =>
        have refused := unfinished isActive
        rw [agreed.mayFinalize_iff_settled.mpr settled] at refused
        contradiction

/-- A trace that is cancelled cooperatively: the request is answered by the next
step; the pause is still to be committed. -/
def cooperativeSchedule : List TraceCall :=
  [.begin ⟨"trace", .over, 10, 1000000000, 0x401000, [], true⟩ 7 42, .resumed,
    .submitted ⟨1, 7⟩ true, .request .cancelled 0, .step 0x401001 false 1000]

/-- Committing the pause of the cooperative schedule ends its trace, settled. -/
theorem trace_terminal_iff_settled_cancelled :
    ∃ history reached,
      Transition.execute TraceControl.next {} cooperativeSchedule = some (history, reached) ∧
      Settled ((Journal.ofHistory history).after
        (reached.apply (.pauseCommitted .userPause)).1) := by
  refine ⟨_, _, rfl, ?_⟩
  exact (@trace_terminal_iff_settled cooperativeSchedule _ _ (by decide) rfl).1
      (.pauseCommitted .userPause) trivial (by decide) (by decide)

/-- A schedule whose second reservation happens at the sentinel time, after the
first helper was issued and consumed. -/
def sentinelSchedule : List TraceCall :=
  [.begin ⟨"trace", .over, 10, 1000000000, 0x401000, [], true⟩ 7 42, .resumed,
    .submitted ⟨1, 7⟩ true, .request .cancelled 0, .reserve 50000000,
    .issue ⟨1, 7⟩ 99 0x77000000, .threadCreated 7 42 99 true 0x77000000,
    .finishInterrupt ⟨1, 7⟩ true, .reserve TimePoint.max,
    .issue ⟨1, 7⟩ 100 0x77000000, .finishInterrupt ⟨1, 7⟩ false]

/-- At the sentinel time the latch of `reserve` does not hold: the trace becomes
terminal although nothing became of the second helper. -/
theorem trace_terminal_with_outstanding_helper :
    ∃ history reached,
      Transition.execute TraceControl.next {} sentinelSchedule = some (history, reached) ∧
      reached.trace.terminal = false ∧
      (reached.apply (.pauseCommitted .userPause)).2.trace.terminal = true ∧
      ¬ Settled ((Journal.ofHistory history).after
        (reached.apply (.pauseCommitted .userPause)).1) :=
  ⟨_, _, rfl, by decide, by decide, fun settled => settled.helper (by decide)⟩

end X64dbgMcp.Trace
