import X64dbgMcp.Trace.Running

/-!
# The one interrupt of a trace

A trace may be interrupted from outside at most once.  The guarantee is spread
over the flags `attempted`, `issued`, `consumed` and `interruptInFlight`, so the
file first says what any single call can do to these four, and then closes one
latch for each of `Reserve`, `Issue` and `ThreadCreated`.
-/

namespace X64dbgMcp.Trace

open TraceStopCoordinator

/-- A trace was begun. -/
def TraceEvent.isBegan : TraceEvent → Bool
  | .began .. => true
  | _ => false

/-- An interrupt was reserved. -/
def TraceEvent.isReserved : TraceEvent → Bool
  | .reserved _ => true
  | _ => false

/-- A helper thread was issued. -/
def TraceEvent.isIssued : TraceEvent → Bool
  | .issued .. => true
  | _ => false

/-- The helper thread was seen. -/
def TraceEvent.isThreadCreated : TraceEvent → Bool
  | .threadCreated => true
  | _ => false

/-- The calls of a real session: clock values that the steady clock can return
and thread identifiers that Windows can assign. -/
def TraceCall.Admissible : TraceCall → Prop
  | .threadCreated _ _ threadId _ _ => threadId ≠ 0
  | call => call.ClockBelowMax

instance : DecidablePred TraceCall.Admissible
  | .request _ now => inferInstanceAs (Decidable (now < TimePoint.max))
  | .step _ _ now => inferInstanceAs (Decidable (now < TimePoint.max))
  | .reserve now => inferInstanceAs (Decidable (now < TimePoint.max))
  | .threadCreated _ _ threadId _ _ => inferInstanceAs (Decidable (threadId ≠ 0))
  | .begin .. | .submitted .. | .issue .. | .abandonIssue .. | .finishInterrupt ..
  | .resumed | .pauseCommitted .. | .processExited => isTrue trivial

theorem TraceCall.Admissible.clockBelowMax {call : TraceCall} (admissible : call.Admissible) :
    call.ClockBelowMax := by
  cases call <;> first | exact admissible | trivial

/-- The ticket that fences a call, when it carries one. -/
def TraceCall.ticket : TraceCall → Option Ticket
  | .submitted ticket _ => some ticket
  | .issue ticket _ _ => some ticket
  | .abandonIssue ticket => some ticket
  | .finishInterrupt ticket _ => some ticket
  | _ => none

/-- No new trace begins with this call. -/
def TraceControl.NoBegin (control : TraceControl) (call : TraceCall) : Prop :=
  (control.apply call).1.any TraceEvent.isBegan = false

/-- The effect of one call on the four flags of the interrupt, together with the
one-shot events it reports. -/
inductive InterruptEffect (before after : TraceStopCoordinator) (events : List TraceEvent) :
    Prop where
  | unchanged
      (attempted : after.attempted = before.attempted)
      (inFlight : after.interruptInFlight = before.interruptInFlight)
      (issued : after.issued = before.issued)
      (consumed : after.consumed = before.consumed)
      (reserves : events.any TraceEvent.isReserved = false)
      (issues : events.any TraceEvent.isIssued = false)
      (creates : events.any TraceEvent.isThreadCreated = false)
  | reserved
      (opened : before.attempted = false)
      (attempted : after.attempted = true)
      (consumed : after.consumed = before.consumed)
      (issues : events.any TraceEvent.isIssued = false)
      (creates : events.any TraceEvent.isThreadCreated = false)
  | issued
      (inFlightBefore : before.interruptInFlight = true)
      (unissued : before.issued = false)
      (attempted : after.attempted = before.attempted)
      (issued : after.issued = true)
      (consumed : after.consumed = before.consumed)
      (reserves : events.any TraceEvent.isReserved = false)
      (creates : events.any TraceEvent.isThreadCreated = false)
  | finished
      (attempted : after.attempted = before.attempted)
      (inFlight : after.interruptInFlight = false)
      (consumed : after.consumed = before.consumed)
      (reserves : events.any TraceEvent.isReserved = false)
      (issues : events.any TraceEvent.isIssued = false)
      (creates : events.any TraceEvent.isThreadCreated = false)
  | created
      (fresh : before.consumed = false)
      (attempted : after.attempted = before.attempted)
      (inFlight : after.interruptInFlight = before.interruptInFlight)
      (issued : after.issued = before.issued)
      (consumed : after.consumed = true)
      (reserves : events.any TraceEvent.isReserved = false)
      (issues : events.any TraceEvent.isIssued = false)

namespace TraceControl

/-- A successful reservation, read off the code: the trace is active, nothing has
stopped or answered, and the time for which the request lets it wait is over. -/
theorem reserve_eq_some {control : TraceControl} {now : TimePoint} {ticket : Ticket}
    (below : now < TimePoint.max) (reserved : (control.reserve now).2.1 = some ticket) :
    ticket = control.stop.ticket ∧ control.trace.active = true ∧
      control.stop.resumed = true ∧ control.stop.paused = false ∧
      control.stop.cooperative = false ∧ control.stop.exited = false ∧
      control.stop.attempted = false ∧ (control.reserve now).2.2.stop.requested = true ∧
      ¬ now < (control.reserve now).2.2.stop.requestedAt + kCooperativeGrace := by
  -- The reservation test, on the state after a possible deadline request.
  have test : ∀ (asked : TraceControl),
      ¬ (!asked.stop.requested || decide (now < asked.stop.wakeAt asked.trace) ||
        !asked.stop.resumed) = true →
      asked.stop.resumed = true ∧ asked.stop.paused = false ∧ asked.stop.cooperative = false ∧
        asked.stop.exited = false ∧ asked.stop.attempted = false ∧
        asked.stop.requested = true ∧ ¬ now < asked.stop.requestedAt + kCooperativeGrace := by
    intro asked passed
    simp only [Bool.or_eq_true, Bool.not_eq_true', decide_eq_true_eq, not_or,
      Bool.not_eq_false] at passed
    obtain ⟨⟨requested, awake⟩, resumed⟩ := passed
    by_cases closed : (!asked.stop.resumed || asked.stop.attempted || asked.stop.cooperative ||
        asked.stop.paused || asked.stop.exited) = true
    · rw [wakeAt, if_pos closed] at awake
      exact absurd below awake
    · rw [wakeAt, if_neg closed, if_pos requested] at awake
      simp only [Bool.or_eq_true, Bool.not_eq_true', not_or, Bool.not_eq_true] at closed
      exact ⟨resumed, closed.1.2, closed.1.1.2, closed.2, closed.1.1.1.2, requested, awake⟩
  -- A request of the deadline changes nothing else that the test looks at.
  have asked : (control.request .timeout now).2.stop =
      { control.stop with
        requested := (control.request .timeout now).2.stop.requested
        requestedAt := (control.request .timeout now).2.stop.requestedAt } := by
    rw [control.request_stop .timeout now]
    split <;> rfl
  simp only [reserve] at reserved ⊢
  split at reserved
  · contradiction
  · rename_i admitted
    rw [if_neg admitted]
    have isActive : control.trace.active = true := by simp_all
    by_cases late : control.trace.deadline ≤ now
    · simp only [if_pos late] at reserved ⊢
      split at reserved
      · contradiction
      · rename_i passed
        rw [if_neg passed]
        cases reserved
        obtain ⟨resumed, paused, cooperative, exited, attempted, requested, aged⟩ :=
          test _ passed
        rw [asked] at resumed paused cooperative exited attempted ⊢
        exact ⟨rfl, isActive, resumed, paused, cooperative, exited, attempted, requested, aged⟩
    · simp only [if_neg late] at reserved ⊢
      split at reserved
      · contradiction
      · rename_i passed
        rw [if_neg passed]
        cases reserved
        obtain ⟨resumed, paused, cooperative, exited, attempted, requested, aged⟩ :=
          test _ passed
        exact ⟨rfl, isActive, resumed, paused, cooperative, exited, attempted, requested, aged⟩

/-- Unless the sum overflows, the wait is a grace period. -/
theorem grace_passed {first now : TimePoint} (aged : ¬ now < first + kCooperativeGrace)
    (fits : first.toInt + kCooperativeGrace.toInt ≤ TimePoint.max.toInt) :
    first.toInt + kCooperativeGrace.toInt ≤ now.toInt := by
  have grace : kCooperativeGrace.toInt = 50000000 := by decide
  have max : TimePoint.max.toInt = 2 ^ 63 - 1 := Int64.toInt_maxValue
  rw [Int64.lt_iff_toInt_lt, Int64.toInt_add] at aged
  rw [grace] at aged fits ⊢
  rw [max] at fits
  have bound := first.le_toInt
  rw [Int.bmod_eq_of_le (by omega) (by omega)] at aged
  omega

/-- After `reserve`, the four flags are either those from before or those of a
fresh reservation. -/
theorem reserve_stop (control : TraceControl) (now : TimePoint) :
    let after := (control.reserve now).2.2.stop
    after.issued = control.stop.issued ∧ after.consumed = control.stop.consumed ∧
      ((control.reserve now).2.1 = none → after.attempted = control.stop.attempted ∧
        after.interruptInFlight = control.stop.interruptInFlight) ∧
      ((control.reserve now).2.1 ≠ none → after.attempted = true) := by
  have asked := control.request_stop .timeout now
  simp only [reserve]
  split
  · simp
  · split
    · split <;> simp only [asked] <;> split <;> simp
    · split <;> simp

theorem interruptEffect_apply {control : TraceControl} {call : TraceCall}
    (below : call.ClockBelowMax) (noBegin : control.NoBegin call) :
    InterruptEffect control.stop (control.apply call).2.stop (control.apply call).1 := by
  cases call with
  | begin arguments processEpoch processId =>
      simp only [NoBegin, apply, beginTrace] at noBegin ⊢
      split at noBegin
      · exact .unchanged rfl rfl rfl rfl rfl rfl rfl
      · simp [TraceEvent.isBegan] at noBegin
  | submitted ticket accepted =>
      simp only [apply, onSubmitted]
      split
      · exact .unchanged rfl rfl rfl rfl rfl rfl rfl
      · split <;> exact .unchanged (by simp) (by simp) (by simp) (by simp) rfl rfl rfl
  | request reason now =>
      have stopEq := control.request_stop reason now
      simp only [apply, stopEq]
      split <;> split <;> exact .unchanged rfl rfl rfl rfl rfl rfl rfl
  | step address nativeStop now =>
      simp only [apply, step]
      split <;> exact .unchanged rfl rfl rfl rfl rfl rfl rfl
  | reserve now =>
      obtain ⟨issued, consumed, kept, closed⟩ := control.reserve_stop now
      simp only [apply]
      cases result : (control.reserve now).2.1 with
      | none =>
          obtain ⟨attempted, inFlight⟩ := kept result
          refine .unchanged attempted inFlight issued consumed ?_ ?_ ?_ <;> split <;> rfl
      | some ticket =>
          obtain ⟨-, -, -, -, -, -, opened, -⟩ := reserve_eq_some below result
          refine .reserved opened (closed (by simp [result])) consumed ?_ ?_ <;>
            split <;> rfl
  | issue ticket threadId address =>
      simp only [apply, issue]
      split
      · exact .unchanged rfl rfl rfl rfl rfl rfl rfl
      · rename_i admitted
        simp only [Bool.or_eq_true, Bool.not_eq_true', not_or, Bool.not_eq_false,
          Bool.not_eq_true] at admitted
        exact .issued admitted.1.1.1.1.1.1.2 admitted.1.1.1.1.1.2 rfl rfl rfl rfl rfl
  | abandonIssue ticket =>
      simp only [apply, abandonIssue]
      split <;> exact .unchanged rfl rfl rfl rfl rfl rfl rfl
  | finishInterrupt ticket safelyRetired =>
      simp only [apply, finishInterrupt]
      split
      · exact .unchanged rfl rfl rfl rfl rfl rfl rfl
      · exact .finished (by simp) (by simp) (by simp) rfl rfl rfl
  | threadCreated processEpoch processId threadId rawCreateThread address =>
      simp only [apply, threadCreated]
      split
      · exact .unchanged rfl rfl rfl rfl rfl rfl rfl
      · rename_i matched
        simp only [Bool.or_eq_true, not_or, Bool.not_eq_true] at matched
        exact .created matched.1.1.1.1.1.1.2 rfl rfl rfl rfl rfl rfl
  | resumed =>
      simp only [apply, onResumed]
      split <;> exact .unchanged rfl rfl rfl rfl rfl rfl rfl
  | pauseCommitted fallback =>
      simp only [apply, pauseCommitted]
      split
      · exact .unchanged rfl rfl rfl rfl rfl rfl rfl
      · exact .unchanged (by simp) (by simp) (by simp) (by simp) rfl rfl rfl
  | processExited =>
      exact .unchanged (by simp [apply, processExited]) (by simp [apply, processExited])
        (by simp [apply, processExited]) (by simp [apply, processExited]) rfl rfl rfl

/-- The calls of one trace: admissible and without a new `Begin`. -/
def WithinTrace (control : TraceControl) (call : TraceCall) : Prop :=
  call.Admissible ∧ control.NoBegin call

/-- Some journal explains the flags. -/
def Explained (control : TraceControl) : Prop :=
  ∃ journal, Coherent journal control

theorem preserves_explained : Transition.Preserves next WithinTrace Explained := by
  rintro control call events target ⟨journal, coherent⟩ ⟨admissible, -⟩ stepped
  rw [next_eq_some_iff] at stepped
  have applied := coherent.apply admissible.clockBelowMax
  rw [stepped] at applied
  exact ⟨_, applied⟩

theorem interruptEffect_of_next {control target : TraceControl} {call : TraceCall}
    {events : List TraceEvent} (within : control.WithinTrace call)
    (stepped : next control call = some (events, target)) :
    InterruptEffect control.stop target.stop events := by
  rw [next_eq_some_iff] at stepped
  have effect := interruptEffect_apply within.1.clockBelowMax within.2
  rwa [stepped] at effect

section OneTrace

variable {calls : List TraceCall} {history : List (List TraceEvent)}
  {control reached : TraceControl}

theorem reserved_at_most_once (explained : control.Explained)
    (within : Transition.Along next WithinTrace control calls)
    (run : Transition.execute next control calls = some (history, reached)) :
    history.countP (fun events => events.any TraceEvent.isReserved) ≤ 1 := by
  refine (Transition.countP_le_one_of_latch (fun control => control.stop.attempted = true)
    preserves_explained ?_ ?_ explained within run).1
  · intro state call events target _ withinCall stepped reserves
    cases interruptEffect_of_next withinCall stepped with
    | reserved opened attempted consumed issues creates =>
        exact ⟨by simp [opened], attempted⟩
    | unchanged => simp_all
    | issued => simp_all
    | finished => simp_all
    | created => simp_all
  · intro state call events target _ withinCall stepped closed
    cases interruptEffect_of_next withinCall stepped <;> simp_all

/-- `Issue` has two ways to be over: the helper is recorded, or its interrupt
operation has returned. -/
theorem issued_at_most_once (explained : control.Explained)
    (within : Transition.Along next WithinTrace control calls)
    (run : Transition.execute next control calls = some (history, reached)) :
    history.countP (fun events => events.any TraceEvent.isIssued) ≤ 1 := by
  refine (Transition.countP_le_one_of_latch (fun control => control.stop.attempted = true ∧
      (control.stop.issued = true ∨ control.stop.interruptInFlight = false))
    preserves_explained ?_ ?_ explained within run).1
  · rintro state call events target ⟨journal, coherent⟩ withinCall stepped issues
    cases interruptEffect_of_next withinCall stepped with
    | issued inFlightBefore unissued attempted issued consumed reserves creates =>
        have reservedBefore : state.stop.attempted = true := by
          cases opened : state.stop.attempted with
          | true => rfl
          | false =>
              rw [(coherent.unattempted opened).2.2] at inFlightBefore
              contradiction
        refine ⟨?_, attempted.trans reservedBefore, .inl issued⟩
        simp [unissued, inFlightBefore]
    | unchanged => simp_all
    | reserved => simp_all
    | finished => simp_all
    | created => simp_all
  · rintro state call events target _ withinCall stepped ⟨attemptedBefore, overBefore⟩
    cases interruptEffect_of_next withinCall stepped <;> simp_all

theorem threadCreated_at_most_once (explained : control.Explained)
    (within : Transition.Along next WithinTrace control calls)
    (run : Transition.execute next control calls = some (history, reached)) :
    history.countP (fun events => events.any TraceEvent.isThreadCreated) ≤ 1 := by
  refine (Transition.countP_le_one_of_latch (fun control => control.stop.consumed = true)
    preserves_explained ?_ ?_ explained within run).1
  · intro state call events target _ withinCall stepped creates
    cases interruptEffect_of_next withinCall stepped with
    | created fresh attempted inFlight issued consumed reserves issues =>
        exact ⟨by simp [fresh], consumed⟩
    | unchanged => simp_all
    | reserved => simp_all
    | issued => simp_all
    | finished => simp_all
  · intro state call events target _ withinCall stepped closed
    cases interruptEffect_of_next withinCall stepped <;> simp_all

end OneTrace

/-- An accepted create-thread event carries exactly the recorded identity. -/
theorem threadCreated_eq_true {stop : TraceStopCoordinator} {processEpoch address : UInt64}
    {processId threadId : UInt32} {rawCreateThread : Bool}
    (accepted : (stop.threadCreated processEpoch processId threadId rawCreateThread
      address).1 = true) :
    rawCreateThread = true ∧ stop.issued = true ∧ stop.ticket.process = processEpoch ∧
      stop.processId = processId ∧ stop.threadId = threadId ∧ stop.address = address := by
  simp only [TraceStopCoordinator.threadCreated] at accepted
  split at accepted
  · contradiction
  · rename_i matched
    simp only [Bool.or_eq_true, Bool.not_eq_true', bne_iff_ne, ne_eq, not_or,
      Decidable.not_not, Bool.not_eq_false] at matched
    obtain ⟨⟨⟨⟨⟨⟨⟨issued, -⟩, -⟩, epoch⟩, process⟩, thread⟩, raw⟩, start⟩ := matched
    exact ⟨raw, issued, epoch, process, thread, start⟩

/-- A call fenced by another trace's ticket does nothing. -/
theorem apply_of_stale_ticket {control : TraceControl} {call : TraceCall} {ticket : Ticket}
    (fenced : call.ticket = some ticket) (stale : ticket ≠ control.stop.ticket) :
    (control.apply call).2 = control := by
  have notCurrent : control.stop.current ticket = false := by simp [current, stale]
  cases call with
  | submitted other accepted =>
      cases fenced
      simp [apply, onSubmitted, stale]
  | issue other threadId address =>
      cases fenced
      simp [apply, issue, notCurrent]
  | abandonIssue other =>
      cases fenced
      simp [apply, abandonIssue, notCurrent]
  | finishInterrupt other safelyRetired =>
      cases fenced
      simp [apply, finishInterrupt, stale]
  | _ => cases fenced

end TraceControl

/-- One interrupt per trace with exact correlation.  From any state reached by
admissible calls: until the next `Begin` at most one `Reserve`, one `Issue` and
one `ThreadCreated` succeed; a `Reserve` succeeds only for an active trace that by
its history has been resumed and neither paused nor told to stop nor exited, and,
unless the sum overflows, one grace period after the first accepted request; an
accepted create-thread event is the one recorded by an `Issue` of the current
ticket; and calls with another ticket change nothing. -/
theorem interrupt_one_shot {calls : List TraceCall} {history : List (List TraceEvent)}
    {reached : TraceControl} (admissible : ∀ call ∈ calls, call.Admissible)
    (run : Transition.execute TraceControl.next {} calls = some (history, reached)) :
    (∀ segment later target,
      Transition.Along TraceControl.next TraceControl.WithinTrace reached segment →
      Transition.execute TraceControl.next reached segment = some (later, target) →
      later.countP (fun events => events.any TraceEvent.isReserved) ≤ 1 ∧
        later.countP (fun events => events.any TraceEvent.isIssued) ≤ 1 ∧
        later.countP (fun events => events.any TraceEvent.isThreadCreated) ≤ 1) ∧
    (∀ now ticket, now < TimePoint.max → (reached.reserve now).2.1 = some ticket →
      ticket = reached.stop.ticket ∧ reached.trace.active = true ∧
        (∃ process, (Journal.ofHistory history).began = some (ticket, process)) ∧
        (Journal.ofHistory history).resumed = true ∧
        (Journal.ofHistory history).paused = false ∧
        (Journal.ofHistory history).answered = false ∧
        (Journal.ofHistory history).exited = false ∧
        ∃ first, ((Journal.ofHistory history).after
            (reached.apply (.reserve now)).1).firstRequest = some first ∧
          (first.toInt + kCooperativeGrace.toInt ≤ TimePoint.max.toInt →
            first.toInt + kCooperativeGrace.toInt ≤ now.toInt)) ∧
    (∀ processEpoch processId threadId rawCreateThread address, threadId ≠ 0 →
      (reached.stop.threadCreated processEpoch processId threadId rawCreateThread
        address).1 = true →
      rawCreateThread = true ∧
        ∃ ticket, ticket = reached.stop.ticket ∧ ticket.process = processEpoch ∧
          (Journal.ofHistory history).began = some (ticket, processId) ∧
          (ticket, threadId, address) ∈ (Journal.ofHistory history).issued) ∧
    (∀ call ticket, call.ticket = some ticket → ticket ≠ (Journal.ofHistory history).ticket →
      (reached.apply call).2 = reached) := by
  have below : ∀ call ∈ calls, call.ClockBelowMax :=
    fun call member => (admissible call member).clockBelowMax
  have agreed := Agreed.of_execute below run
  have coherent := agreed.coherent
  refine ⟨?_, ?_, ?_, ?_⟩
  · intro segment later target within runLater
    have explained : reached.Explained := ⟨_, coherent⟩
    exact ⟨TraceControl.reserved_at_most_once explained within runLater,
      TraceControl.issued_at_most_once explained within runLater,
      TraceControl.threadCreated_at_most_once explained within runLater⟩
  · intro now ticket belowNow reserved
    obtain ⟨rfl, active, resumed, paused, cooperative, exited, unattempted, requested, aged⟩ :=
      TraceControl.reserve_eq_some belowNow reserved
    have mirrored := agreed.mirrored
    have began : (Journal.ofHistory history).began =
        some (reached.stop.ticket, reached.stop.processId) := by
      apply coherent.began.resolve_right
      rintro ⟨-, inactive, -⟩
      rw [active] at inactive
      cases inactive
    -- The first request is read off the state that the reservation leaves.
    have applied : Coherent ((Journal.ofHistory history).after (reached.apply (.reserve now)).1)
        (reached.apply (.reserve now)).2 := coherent.apply belowNow
    have request := applied.request
    exact ⟨rfl, active, ⟨_, began⟩, mirrored.resumed.trans resumed, mirrored.paused.trans paused,
      (mirrored.answered unattempted).trans cooperative, coherent.exited.trans exited, _,
      request.trans (if_pos requested), TraceControl.grace_passed aged⟩
  · intro processEpoch processId threadId rawCreateThread address nonzero accepted
    obtain ⟨raw, issued, epoch, rfl, rfl, rfl⟩ := TraceControl.threadCreated_eq_true accepted
    have attempted : reached.stop.attempted = true := by
      by_contra unused
      rw [(coherent.unattempted (by simpa using unused)).1] at issued
      contradiction
    exact ⟨raw, reached.stop.ticket, rfl, epoch, coherent.began_of_attempted attempted,
      coherent.identity nonzero⟩
  · intro call ticket fenced stale
    rw [← coherent.ticket] at stale
    exact TraceControl.apply_of_stale_ticket fenced stale

/-- A trace whose cancellation is not answered for one grace period, up to the
reservation of its interrupt. -/
def interruptedSchedule : List TraceCall :=
  [.begin ⟨"trace", .into, 10, 1000000000, 0x401000, [], true⟩ 7 42, .resumed,
    .submitted ⟨1, 7⟩ true, .request .cancelled 0, .reserve 50000000,
    .issue ⟨1, 7⟩ 99 0x77000000]

/-- The helper of the interrupted schedule is the one accepted afterwards, and
the rest of the trace has no second interrupt. -/
theorem interrupt_one_shot_interrupted :
    ∃ history reached,
      Transition.execute TraceControl.next {} interruptedSchedule = some (history, reached) ∧
      (reached.stop.threadCreated 7 42 99 true 0x77000000).1 = true ∧
      (⟨1, 7⟩, 99, 0x77000000) ∈ (Journal.ofHistory history).issued ∧
      (∀ segment later target,
        Transition.Along TraceControl.next TraceControl.WithinTrace reached segment →
        Transition.execute TraceControl.next reached segment = some (later, target) →
        later.countP (fun events => events.any TraceEvent.isIssued) ≤ 1) := by
  refine ⟨_, _, rfl, by decide, ?_, ?_⟩
  · obtain ⟨-, ticket, rfl, -, -, recorded⟩ :=
      (@interrupt_one_shot interruptedSchedule _ _ (by decide) rfl).2.2.1 7 42 99 true 0x77000000
        (by decide) (by decide)
    exact recorded
  · intro segment later target within runLater
    exact ((@interrupt_one_shot interruptedSchedule _ _ (by decide) rfl).1 segment later target
      within runLater).2.1

/-- A cancellation requested one nanosecond before the end of the clock. -/
def lastMomentSchedule : List TraceCall :=
  [.begin ⟨"trace", .into, 10, 1000000000, 0x401000, [], true⟩ 7 42, .resumed,
    .submitted ⟨1, 7⟩ true, .request .cancelled (TimePoint.max - 1)]

/-- The sum of the request time and the grace period overflows, and the interrupt is
reserved at once. -/
theorem interrupt_without_grace :
    ∃ history reached,
      Transition.execute TraceControl.next {} lastMomentSchedule = some (history, reached) ∧
      (∀ call ∈ lastMomentSchedule, call.Admissible) ∧
      TimePoint.max - 1 < TimePoint.max ∧
      (reached.reserve (TimePoint.max - 1)).2.1 = some ⟨1, 7⟩ ∧
      (Journal.ofHistory history).firstRequest = some (TimePoint.max - 1) ∧
      ¬ (TimePoint.max - 1).toInt + kCooperativeGrace.toInt ≤ (TimePoint.max - 1).toInt :=
  ⟨_, _, rfl, by decide, by decide, by decide, by decide, by decide⟩

end X64dbgMcp.Trace
