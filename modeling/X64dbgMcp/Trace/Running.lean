import X64dbgMcp.Trace.Journal

/-!
# Whether the debuggee runs

What the journal knows of the submission, of resumes and pauses and of the answers to
the traced instructions agrees with the flags, too.
-/

namespace X64dbgMcp.Trace

/-- The event tells something of the submission or of the running debuggee. -/
def TraceEvent.isRunning : TraceEvent → Bool
  | .began .. | .submitted .. | .stepped _ | .resumed | .pauseCommitted => true
  | _ => false

/-- The journals differ at most in what they know of the interrupt. -/
structure Journal.SameRunning (journal other : Journal) : Prop where
  submitted : other.submitted = journal.submitted
  resumed : other.resumed = journal.resumed
  paused : other.paused = journal.paused
  answered : other.answered = journal.answered

theorem Journal.sameRunning_record (journal : Journal) {event : TraceEvent}
    (other : event.isRunning = false) : journal.SameRunning (journal.record event) := by
  cases event with
  | interruptFinished ticket safelyRetired =>
      simp only [record]
      split <;> exact ⟨rfl, rfl, rfl, rfl⟩
  | requested now => exact ⟨rfl, rfl, rfl, rfl⟩
  | reserved ticket => exact ⟨rfl, rfl, rfl, rfl⟩
  | issued ticket threadId address => exact ⟨rfl, rfl, rfl, rfl⟩
  | threadCreated => exact ⟨rfl, rfl, rfl, rfl⟩
  | processExited => exact ⟨rfl, rfl, rfl, rfl⟩
  | _ => contradiction

theorem Journal.sameRunning_after (journal : Journal) {events : List TraceEvent}
    (others : events.all (fun event => !event.isRunning) = true) :
    journal.SameRunning (journal.after events) := by
  induction events generalizing journal with
  | nil => exact ⟨rfl, rfl, rfl, rfl⟩
  | cons event rest ih =>
      simp only [List.all_cons, Bool.and_eq_true, Bool.not_eq_true'] at others
      have first := journal.sameRunning_record others.1
      have onward := ih (journal.record event) others.2
      exact ⟨onward.submitted.trans first.submitted, onward.resumed.trans first.resumed,
        onward.paused.trans first.paused, onward.answered.trans first.answered⟩

theorem TraceControl.interrupts_reserve (control : TraceControl) (now : TimePoint) :
    (control.apply (.reserve now)).1.all (fun event => !event.isRunning) = true := by
  simp only [apply]
  cases (control.reserve now).1 <;> cases (control.reserve now).2.1 <;> rfl

/-- The other flags agree with the journal; the answer only until the interrupt is used,
after which it no longer counts. -/
structure Mirrored (journal : Journal) (stop : TraceStopCoordinator) : Prop where
  submitted : journal.submitted = stop.submitted
  resumed : journal.resumed = stop.resumed
  paused : journal.paused = stop.paused
  answered : stop.attempted = false → journal.answered = stop.cooperative

namespace Mirrored

open TraceStopCoordinator

variable {journal other : Journal} {stop after : TraceStopCoordinator} {control : TraceControl}

/-- A call about the interrupt, or the exit. -/
theorem of_flags (mirrored : Mirrored journal stop) (same : journal.SameRunning other)
    (submitted : after.submitted = stop.submitted) (resumed : after.resumed = stop.resumed)
    (paused : after.paused = stop.paused) (cooperative : after.cooperative = stop.cooperative)
    (attempted : after.attempted = false → stop.attempted = false) : Mirrored other after where
  submitted := by rw [same.submitted, mirrored.submitted, submitted]
  resumed := by rw [same.resumed, mirrored.resumed, resumed]
  paused := by rw [same.paused, mirrored.paused, paused]
  answered := fun unattempted => by
    rw [same.answered, mirrored.answered (attempted unattempted), cooperative]

theorem onSubmitted (mirrored : Mirrored journal control.stop)
    (current : control.stop.ticket = journal.ticket) (ticket : Ticket) (accepted : Bool) :
    Mirrored (journal.after [.submitted ticket accepted])
      (control.onSubmitted ticket accepted).stop := by
  simp only [Journal.after_cons, Journal.after_nil, Journal.record, TraceControl.onSubmitted,
    ← current]
  by_cases mine : ticket = control.stop.ticket
  · rw [if_pos mine, if_neg (not_not_intro mine)]
    cases accepted with
    | true =>
        simp only [if_true, TraceControl.stop_finalize]
        exact ⟨rfl, mirrored.resumed, by simpa using mirrored.paused, mirrored.answered⟩
    | false =>
        simp only [Bool.false_eq_true, if_false, TraceControl.stop_finalize]
        refine ⟨rfl, mirrored.resumed, ?_, mirrored.answered⟩
        rw [mirrored.paused, mirrored.resumed]
        cases control.stop.resumed <;> simp
  · rw [if_neg mine, if_pos mine]
    exact mirrored

theorem step (mirrored : Mirrored journal control.stop)
    (unissued : control.stop.attempted = false → control.stop.issued = false)
    (address : UInt64) (nativeStop : Bool) (now : TimePoint) :
    Mirrored (journal.after [.stepped (control.step address nativeStop now).1])
      (control.step address nativeStop now).2.stop := by
  simp only [TraceControl.step]
  split
  · rename_i issued
    refine ⟨mirrored.submitted, rfl, mirrored.paused, ?_⟩
    intro unattempted
    rw [unissued unattempted] at issued
    contradiction
  · refine ⟨mirrored.submitted, rfl, mirrored.paused, ?_⟩
    intro unattempted
    simp only [Journal.after_cons, Journal.after_nil, Journal.record,
      mirrored.answered unattempted]
    cases (control.trace.onStep address nativeStop now).1 <;> simp

theorem reserve (mirrored : Mirrored journal control.stop) (now : TimePoint) :
    Mirrored (journal.after (control.apply (.reserve now)).1) (control.reserve now).2.2.stop := by
  have same := journal.sameRunning_after (control.interrupts_reserve now)
  have asked := control.request_stop .timeout now
  simp only [TraceControl.reserve]
  split
  · exact mirrored.of_flags same rfl rfl rfl rfl id
  · split
    · split
      · simp only [asked]
        split <;> exact mirrored.of_flags same rfl rfl rfl rfl id
      · simp only [asked]
        split <;> exact mirrored.of_flags same rfl rfl rfl rfl (by simp)
    · split
      · exact mirrored.of_flags same rfl rfl rfl rfl id
      · exact mirrored.of_flags same rfl rfl rfl rfl (by simp)

theorem onResumed (mirrored : Mirrored journal stop) :
    Mirrored (journal.after [.resumed]) stop.onResumed := by
  have lateEq : (journal.paused && !journal.submitted) = stop.lateResume := by
    rw [lateResume, mirrored.submitted, mirrored.paused]
  simp only [Journal.after_cons, Journal.after_nil, Journal.record,
    TraceStopCoordinator.onResumed, lateEq]
  split
  · exact mirrored
  · exact ⟨mirrored.submitted, rfl, rfl, mirrored.answered⟩

theorem pauseCommitted (mirrored : Mirrored journal control.stop)
    (exited : journal.exited = control.stop.exited) (fallback : TraceReason) :
    Mirrored (journal.after [.pauseCommitted]) (control.pauseCommitted fallback).stop := by
  simp only [Journal.after_cons, Journal.after_nil, Journal.record, TraceControl.pauseCommitted,
    exited]
  split
  · exact mirrored
  · rw [TraceControl.stop_finalize]
    exact ⟨mirrored.submitted, mirrored.resumed, rfl, mirrored.answered⟩

end Mirrored

/-- The journal and the flags agree. -/
structure Agreed (journal : Journal) (control : TraceControl) : Prop where
  coherent : Coherent journal control
  mirrored : Mirrored journal control.stop

namespace Agreed

open TraceStopCoordinator

variable {journal : Journal} {control : TraceControl}

theorem initial : Agreed {} {} :=
  ⟨Coherent.initial, rfl, rfl, rfl, fun _ => rfl⟩

/-- Step lemma: every call whose clock is below the sentinel keeps the journal and the
flags in agreement. -/
theorem apply (agreed : Agreed journal control) {call : TraceCall} (below : call.ClockBelowMax) :
    Agreed (journal.after (control.apply call).1) (control.apply call).2 := by
  refine ⟨agreed.coherent.apply below, ?_⟩
  have mirrored := agreed.mirrored
  cases call with
  | begin arguments processEpoch processId =>
      simp only [TraceControl.apply, TraceControl.beginTrace]
      split
      · exact mirrored
      · exact ⟨rfl, rfl, rfl, fun _ => rfl⟩
  | submitted ticket accepted => exact mirrored.onSubmitted agreed.coherent.ticket ticket accepted
  | request reason now =>
      simp only [TraceControl.apply, TraceControl.request_stop]
      refine mirrored.of_flags (journal.sameRunning_after ?_) ?_ ?_ ?_ ?_ ?_ <;> split <;>
        first | rfl | exact id
  | step address nativeStop now =>
      exact mirrored.step (fun unattempted => (agreed.coherent.unattempted unattempted).1)
        address nativeStop now
  | reserve now => exact mirrored.reserve now
  | issue ticket threadId address =>
      simp only [TraceControl.apply, TraceStopCoordinator.issue]
      split <;> exact mirrored.of_flags (journal.sameRunning_after rfl) rfl rfl rfl rfl id
  | abandonIssue ticket =>
      simp only [TraceControl.apply, TraceStopCoordinator.abandonIssue]
      split <;> exact mirrored.of_flags (journal.sameRunning_after rfl) rfl rfl rfl rfl id
  | finishInterrupt ticket safelyRetired =>
      have same : journal.SameRunning (journal.after [.interruptFinished ticket safelyRetired]) :=
        journal.sameRunning_after rfl
      simp only [TraceControl.apply, TraceControl.finishInterrupt]
      split
      · exact mirrored.of_flags same rfl rfl rfl rfl id
      · rw [TraceControl.stop_finalize]
        exact mirrored.of_flags same rfl rfl rfl rfl id
  | threadCreated processEpoch processId threadId rawCreateThread address =>
      simp only [TraceControl.apply, TraceStopCoordinator.threadCreated]
      split <;> exact mirrored.of_flags (journal.sameRunning_after rfl) rfl rfl rfl rfl id
  | resumed => exact mirrored.onResumed
  | pauseCommitted fallback => exact mirrored.pauseCommitted agreed.coherent.exited fallback
  | processExited =>
      simp only [TraceControl.apply, TraceControl.processExited, TraceControl.stop_finalize]
      exact mirrored.of_flags (journal.sameRunning_after rfl) rfl rfl rfl rfl id

/-- Run lemma: after any sequence of calls the journal of the history and the flags
agree. -/
theorem of_execute {calls : List TraceCall} {history : List (List TraceEvent)}
    {reached : TraceControl} (below : ∀ call ∈ calls, call.ClockBelowMax)
    (run : Transition.execute TraceControl.next {} calls = some (history, reached)) :
    Agreed (Journal.ofHistory history) reached := by
  refine Transition.execute_history (fun past state => Agreed (Journal.ofHistory past) state) ?_ []
    initial (Transition.along_of_forall_mem TraceControl.next {} below) run
  intro past state call events target agreed belowCall stepped
  rw [Journal.ofHistory_append_singleton]
  rw [TraceControl.next_eq_some_iff] at stepped
  have applied := agreed.apply belowCall
  rwa [stepped] at applied

end Agreed

end X64dbgMcp.Trace
