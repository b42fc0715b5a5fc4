import X64dbgMcp.Trace.StopCoordinator

/-!
# The history of a trace and the coordinator's flags

The coordinator keeps eleven flags and no history.  A `Journal` is the history
that its callers care about: the last `Begin`, whether its submission returned,
the first accepted stop request, whether the debuggee runs, the one interrupt and
what became of its helper.  It is computed from the events alone.

`Coherent` relates the interrupt's part of the journal to the flags.  Every call keeps
it as long as the clock stays below `time_point::max()`, the value by which `WakeAt`
says "never".
-/

namespace X64dbgMcp.Trace

/-- What became of the interrupt helper of the current trace. -/
inductive Helper where
  | idle
  | outstanding
  | consumed
  | retired
  | died
  deriving DecidableEq

/-- The helper after its interrupt operation returned.  A creation that was not
issued and could not be retired leaves a helper behind. -/
def Helper.finish : Helper → Bool → Helper
  | .outstanding, true => .retired
  | .idle, false => .outstanding
  | helper, _ => helper

theorem Helper.finish_eq_died (helper : Helper) (safelyRetired : Bool) :
    helper.finish safelyRetired = .died ↔ helper = .died := by
  cases helper <;> cases safelyRetired <;> decide

theorem Helper.finish_true_ne_outstanding (helper : Helper) :
    helper.finish true ≠ .outstanding := by
  cases helper <;> decide

/-- The history of the current trace. -/
structure Journal where
  began : Option (Ticket × UInt32) := none
  /-- The direct submission has returned. -/
  submitted : Bool := false
  /-- The debuggee has run under this trace. -/
  resumed : Bool := false
  /-- The debuggee is stopped, or has nothing to run for. -/
  paused : Bool := false
  /-- A traced instruction was told to stop. -/
  answered : Bool := false
  exited : Bool := false
  firstRequest : Option TimePoint := none
  /-- An interrupt was reserved and its operation has not returned. -/
  inFlight : Bool := false
  issued : List (Ticket × UInt32 × UInt64) := []
  helper : Helper := .idle
  deriving DecidableEq

namespace Journal

/-- The ticket of the current trace; before the first one, a ticket that no `Begin`
returned. -/
def ticket (journal : Journal) : Ticket :=
  journal.began.elim {} Prod.fst

/-- What the journal keeps of an event. -/
def record (journal : Journal) : TraceEvent → Journal
  | .began ticket processId => { began := some (ticket, processId) }
  | .submitted ticket accepted =>
      -- A rejected submission that nothing has resumed leaves nothing to run for.
      if ticket = journal.ticket then
        { journal with
          submitted := true
          paused := journal.paused || (!accepted && !journal.resumed) }
      else journal
  | .requested now => { journal with firstRequest := journal.firstRequest <|> some now }
  | .stepped stop =>
      { journal with
        resumed := true
        answered := journal.answered || stop }
  | .reserved _ => { journal with inFlight := true }
  | .issued ticket threadId address =>
      { journal with
        issued := (ticket, threadId, address) :: journal.issued
        helper := .outstanding }
  | .interruptFinished ticket safelyRetired =>
      if ticket = journal.ticket ∧ journal.inFlight = true then
        { journal with
          inFlight := false
          helper := journal.helper.finish safelyRetired }
      else journal
  | .threadCreated => { journal with helper := .consumed }
  | .resumed =>
      -- A resume that is reported late does not undo a pause before the submission returned.
      if journal.paused && !journal.submitted then journal
      else
        { journal with
          resumed := true
          paused := false }
  | .pauseCommitted => if journal.exited then journal else { journal with paused := true }
  | .processExited =>
      { journal with
        exited := true
        helper := .died }

/-- The journal after a list of events. -/
def after (journal : Journal) (events : List TraceEvent) : Journal :=
  events.foldl record journal

@[simp]
theorem after_nil (journal : Journal) : journal.after [] = journal :=
  rfl

@[simp]
theorem after_cons (journal : Journal) (event : TraceEvent) (events : List TraceEvent) :
    journal.after (event :: events) = (journal.record event).after events :=
  rfl

@[simp]
theorem after_append (journal : Journal) (first second : List TraceEvent) :
    journal.after (first ++ second) = (journal.after first).after second :=
  List.foldl_append

/-- The journal of a whole history, given as one event list per call. -/
def ofHistory (history : List (List TraceEvent)) : Journal :=
  after {} history.flatten

theorem ofHistory_append_singleton (history : List (List TraceEvent))
    (events : List TraceEvent) :
    ofHistory (history ++ [events]) = (ofHistory history).after events := by
  simp [ofHistory]

end Journal

/-- The clock value of a call, when it has one, is a value that
`steady_clock::now()` can return. -/
def TraceCall.ClockBelowMax : TraceCall → Prop
  | .request _ now => now < TimePoint.max
  | .step _ _ now => now < TimePoint.max
  | .reserve now => now < TimePoint.max
  | _ => True

instance : DecidablePred TraceCall.ClockBelowMax
  | .request _ now => inferInstanceAs (Decidable (now < TimePoint.max))
  | .step _ _ now => inferInstanceAs (Decidable (now < TimePoint.max))
  | .reserve now => inferInstanceAs (Decidable (now < TimePoint.max))
  | .begin .. | .submitted .. | .issue .. | .abandonIssue .. | .finishInterrupt ..
  | .threadCreated .. | .resumed | .pauseCommitted .. | .processExited => isTrue trivial

namespace TraceControl

open TraceStopCoordinator

/-! ## The operations through `finalize` -/

@[simp]
theorem stop_finalize (control : TraceControl) : control.finalize.stop = control.stop := by
  simp only [finalize]
  split <;> rfl

/-- `finalize` ends the trace exactly when the coordinator allows it. -/
theorem active_finalize (control : TraceControl) :
    control.finalize.trace.active = (control.trace.active && !control.stop.mayFinalize) := by
  simp only [finalize]
  split
  · rename_i allowed
    simp [allowed]
  · rename_i refused
    simp [refused]

/-- The successful part of `request`: the coordinator remembers the first time. -/
theorem request_stop (control : TraceControl) (reason : TraceReason) (now : TimePoint) :
    (control.request reason now).2.stop =
      if (control.request reason now).1 = true ∧ control.stop.requested = false then
        { control.stop with requested := true, requestedAt := now }
      else control.stop := by
  simp only [request]
  cases accepted : (control.trace.requestStop reason).1 <;>
    cases known : control.stop.requested <;> simp

@[simp]
theorem active_request (control : TraceControl) (reason : TraceReason) (now : TimePoint) :
    (control.request reason now).2.trace.active = control.trace.active := by
  simp only [request]
  split
  · simp
  · split <;> simp

@[simp]
theorem active_step (control : TraceControl) (address : UInt64) (nativeStop : Bool)
    (now : TimePoint) :
    (control.step address nativeStop now).2.trace.active = control.trace.active := by
  simp only [step]
  split <;> simp

end TraceControl

/-- The flags of the interrupt agree with the journal.  The last field is what makes
the next `Begin` safe: an inactive trace has no interrupt left. -/
structure Coherent (journal : Journal) (control : TraceControl) : Prop where
  began : journal.began = some (control.stop.ticket, control.stop.processId) ∨
    journal.began = none ∧ control.trace.active = false ∧ control.stop.attempted = false
  ticket : control.stop.ticket = journal.ticket
  request : journal.firstRequest =
    if control.stop.requested then some control.stop.requestedAt else none
  inFlight : journal.inFlight = control.stop.interruptInFlight
  exited : journal.exited = control.stop.exited
  identity : control.stop.threadId ≠ 0 →
    (control.stop.ticket, control.stop.threadId, control.stop.address) ∈ journal.issued
  died : control.stop.exited = true ↔ journal.helper = .died
  issued : control.stop.exited = false → control.stop.issued = true →
    journal.helper = if control.stop.consumed then .consumed else .outstanding
  unissued : control.stop.exited = false → control.stop.issued = false →
    journal.helper ≠ .outstanding
  unattempted : control.stop.attempted = false →
    control.stop.issued = false ∧ control.stop.consumed = false ∧
      control.stop.interruptInFlight = false
  idle : control.stop.exited = false → control.stop.issued = false →
    control.stop.attempted = false ∨ control.stop.interruptInFlight = true →
    journal.helper = .idle ∧ control.stop.consumed = false
  quiet : control.trace.active = false →
    control.stop.interruptInFlight = false ∧ control.stop.unresolved = false

namespace Coherent

open TraceStopCoordinator

variable {journal : Journal} {control : TraceControl}

theorem initial : Coherent {} {} := by
  constructor <;> simp [TracePolicy.active, unresolved, Journal.ticket]

/-- Publishing the end of the trace needs the very conditions that `quiet`
promises afterwards. -/
theorem finalize (coherent : Coherent journal control) :
    Coherent journal control.finalize := by
  have isActive := control.active_finalize
  constructor <;> simp only [TraceControl.stop_finalize]
  · rcases coherent.began with began | ⟨unbegun, inactive, unattempted⟩
    · exact .inl began
    · exact .inr ⟨unbegun, by simp [isActive, inactive], unattempted⟩
  · exact coherent.ticket
  · exact coherent.request
  · exact coherent.inFlight
  · exact coherent.exited
  · exact coherent.identity
  · exact coherent.died
  · exact coherent.issued
  · exact coherent.unissued
  · exact coherent.unattempted
  · exact coherent.idle
  · intro inactive
    rw [isActive] at inactive
    by_cases wasActive : control.trace.active = true
    · simp only [wasActive, Bool.true_and, Bool.not_eq_false', mayFinalize,
        Bool.and_eq_true, Bool.not_eq_true'] at inactive
      exact ⟨inactive.1.1.2, inactive.2⟩
    · exact coherent.quiet (by simpa using wasActive)

/-- A call that leaves `active` and all flags of the relation alone keeps it. -/
theorem of_flags {other : TraceControl} (coherent : Coherent journal control)
    (isActive : other.trace.active = control.trace.active)
    (flags : other.stop =
      { control.stop with
        submitted := other.stop.submitted
        resumed := other.stop.resumed
        cooperative := other.stop.cooperative
        paused := other.stop.paused
        fallback := other.stop.fallback
        issueAbandoned := other.stop.issueAbandoned }) :
    Coherent journal other := by
  obtain ⟨began, current, request, inFlight, exited, identity, died, issued, unissued, unattempted, idle, quiet⟩ := coherent
  constructor <;> rw [flags] <;> simp_all [unresolved]

/-- The rest of the journal does not matter to the interrupt. -/
theorem of_journal {other : Journal} (coherent : Coherent journal control)
    (began : other.began = journal.began) (request : other.firstRequest = journal.firstRequest)
    (inFlight : other.inFlight = journal.inFlight) (exited : other.exited = journal.exited)
    (issued : other.issued = journal.issued) (helper : other.helper = journal.helper) :
    Coherent other control where
  began := began ▸ coherent.began
  ticket := by
    rw [coherent.ticket, Journal.ticket, Journal.ticket, began]
  request := request.trans coherent.request
  inFlight := inFlight.trans coherent.inFlight
  exited := exited.trans coherent.exited
  identity := issued ▸ coherent.identity
  died := helper ▸ coherent.died
  issued := helper ▸ coherent.issued
  unissued := helper ▸ coherent.unissued
  unattempted := coherent.unattempted
  idle := helper ▸ coherent.idle
  quiet := coherent.quiet

theorem beginTrace (coherent : Coherent journal control)
    (arguments : TracePolicy.StartArguments) (processEpoch : UInt64) (processId : UInt32) :
    Coherent (journal.after (control.beginTrace arguments processEpoch processId).1)
      (control.beginTrace arguments processEpoch processId).2 := by
  simp only [TraceControl.beginTrace]
  split
  · exact coherent
  · rename_i started accepted
    have isActive := TracePolicy.active_of_start accepted
    constructor <;> simp [Journal.record, Journal.ticket, TraceStopCoordinator.begin, isActive]

theorem submitted (coherent : Coherent journal control) (ticket : Ticket) (accepted : Bool) :
    Coherent (journal.after [.submitted ticket accepted])
      (control.onSubmitted ticket accepted) := by
  have remembered : Coherent (journal.after [.submitted ticket accepted]) control := by
    simp only [Journal.after_cons, Journal.after_nil, Journal.record]
    split
    · exact coherent.of_journal rfl rfl rfl rfl rfl rfl
    · exact coherent
  simp only [TraceControl.onSubmitted]
  split
  · exact remembered
  · split
    · apply finalize
      exact remembered.of_flags (by simp) rfl
    · apply finalize
      exact remembered.of_flags rfl rfl

theorem requested (coherent : Coherent journal control) (reason : TraceReason)
    (now : TimePoint) :
    Coherent
      (journal.after (if (control.request reason now).1 then [.requested now] else []))
      (control.request reason now).2 := by
  have stopEq := control.request_stop reason now
  have isActive := control.active_request reason now
  obtain ⟨began, current, request, inFlight, exited, identity, died, issued, unissued, unattempted, idle, quiet⟩ := coherent
  cases accepted : (control.request reason now).1 <;>
    cases known : control.stop.requested <;>
    simp only [accepted, known, Bool.false_eq_true, true_and, and_true, if_true,
      if_false, reduceCtorEq, and_self, Journal.after_nil, Journal.after_cons] at stopEq ⊢ <;>
    constructor <;> simp_all [Journal.record, Journal.ticket, unresolved]

theorem step (coherent : Coherent journal control) (address : UInt64) (nativeStop : Bool)
    (now : TimePoint) :
    Coherent (journal.after [.stepped (control.step address nativeStop now).1])
      (control.step address nativeStop now).2 := by
  have stepped : Coherent journal (control.step address nativeStop now).2 := by
    refine coherent.of_flags (by simp) ?_
    simp only [TraceControl.step]
    split <;> simp
  exact stepped.of_journal rfl rfl rfl rfl rfl rfl

/-- The second half of `reserve`.  The latch `attempted` is open because the
clock is below the sentinel that `wakeAt` returns for a closed one. -/
theorem reserve_after_request (coherent : Coherent journal control) {now : TimePoint}
    (below : now < TimePoint.max) (isActive : control.trace.active = true)
    (awake : ¬ now < control.stop.wakeAt control.trace) (ticket : Ticket) :
    Coherent (journal.after [.reserved ticket])
      { control with
        stop := { control.stop with attempted := true, interruptInFlight := true } } := by
  have opened : control.stop.attempted = false := by
    cases closed : control.stop.attempted with
    | false => rfl
    | true =>
        have never : control.stop.wakeAt control.trace = TimePoint.max := by
          simp [wakeAt, closed]
        rw [never] at awake
        exact absurd below awake
  constructor
  · apply Or.inl
    apply coherent.began.resolve_right
    rintro ⟨-, inactive, -⟩
    rw [isActive] at inactive
    contradiction
  · exact coherent.ticket
  · exact coherent.request
  · rfl
  · exact coherent.exited
  · exact coherent.identity
  · exact coherent.died
  · exact coherent.issued
  · exact coherent.unissued
  · intro unattempted
    contradiction
  · intro alive unissued _
    exact coherent.idle alive unissued (.inl opened)
  · intro inactive
    rw [isActive] at inactive
    contradiction

theorem reserve (coherent : Coherent journal control) {now : TimePoint}
    (below : now < TimePoint.max) :
    Coherent
      (journal.after ((if (control.reserve now).1 then [.requested now] else []) ++
        ((control.reserve now).2.1.map TraceEvent.reserved).toList))
      (control.reserve now).2.2 := by
  simp only [TraceControl.reserve]
  split
  · simpa using coherent
  · rename_i admitted
    have isActive : control.trace.active = true := by simp_all
    -- The deadline request and the plain case lead to the same reservation step.
    have reserved : ∀ (asked : Bool × TraceControl),
        Coherent (journal.after (if asked.1 then [.requested now] else [])) asked.2 →
        asked.2.trace.active = true →
        let result : Bool × Option Ticket × TraceControl :=
          if !asked.2.stop.requested || decide (now < asked.2.stop.wakeAt asked.2.trace) ||
              !asked.2.stop.resumed then
            (asked.1, none, asked.2)
          else
            (asked.1, some asked.2.stop.ticket,
              { asked.2 with
                stop := { asked.2.stop with attempted := true, interruptInFlight := true } })
        Coherent
          (journal.after ((if result.1 then [.requested now] else []) ++
            (result.2.1.map TraceEvent.reserved).toList))
          result.2.2 := by
      intro asked related stillActive
      dsimp only
      split
      · simpa using related
      · rename_i open_
        simp only [Bool.or_eq_true, Bool.not_eq_true', decide_eq_true_eq, not_or] at open_
        simp only [Option.map_some, Option.toList_some, Journal.after_append]
        exact related.reserve_after_request below stillActive open_.1.2 _
    split
    · exact reserved _ (coherent.requested .timeout now) (by simpa using isActive)
    · exact reserved (false, control) (by simpa using coherent) isActive

/-- An attempted trace has begun. -/
theorem began_of_attempted (coherent : Coherent journal control)
    (attempted : control.stop.attempted = true) :
    journal.began = some (control.stop.ticket, control.stop.processId) := by
  rcases coherent.began with began | ⟨-, -, unattempted⟩
  · exact began
  · rw [attempted] at unattempted
    contradiction

theorem attempted_of_inFlight (coherent : Coherent journal control)
    (inFlight : control.stop.interruptInFlight = true) : control.stop.attempted = true := by
  by_contra unused
  rw [(coherent.unattempted (by simpa using unused)).2.2] at inFlight
  contradiction

theorem issue (coherent : Coherent journal control) (ticket : Ticket) (threadId : UInt32)
    (address : UInt64) :
    Coherent
      (journal.after (if (control.stop.issue ticket threadId address).1 then
        [.issued ticket threadId address] else []))
      { control with stop := (control.stop.issue ticket threadId address).2 } := by
  simp only [TraceStopCoordinator.issue]
  split
  · simpa using coherent
  · rename_i admitted
    simp only [Bool.or_eq_true, Bool.not_eq_true', not_or, Bool.not_eq_false,
      Bool.not_eq_true] at admitted
    obtain ⟨⟨⟨⟨⟨⟨⟨mine, inFlight⟩, unissued⟩, -⟩, -⟩, -⟩, -⟩, -⟩ := admitted
    simp only [current, Bool.and_eq_true, beq_iff_eq, Bool.not_eq_true'] at mine
    obtain ⟨rfl, alive⟩ := mine
    have attempted := coherent.attempted_of_inFlight inFlight
    have fresh := (coherent.idle alive unissued (.inr inFlight)).2
    constructor
    · exact .inl (coherent.began_of_attempted attempted)
    · exact coherent.ticket
    · exact coherent.request
    · exact coherent.inFlight
    · exact coherent.exited
    · exact fun _ => List.mem_cons_self
    · simp [Journal.record, alive]
    · intro _ _
      simp [Journal.record, fresh]
    · intro _ unissuedAfter
      contradiction
    · intro unattempted
      rw [attempted] at unattempted
      contradiction
    · intro _ unissuedAfter
      contradiction
    · intro inactive
      rw [(coherent.quiet inactive).1] at inFlight
      contradiction

theorem abandonIssue (coherent : Coherent journal control) (ticket : Ticket) :
    Coherent journal { control with stop := control.stop.abandonIssue ticket } := by
  refine coherent.of_flags rfl ?_
  simp only [TraceStopCoordinator.abandonIssue]
  split <;> rfl

/-- The interrupt operation of this trace returns. -/
theorem finished (coherent : Coherent journal control)
    (inFlight : control.stop.interruptInFlight = true) (safelyRetired : Bool) :
    Coherent { journal with
        inFlight := false
        helper := journal.helper.finish safelyRetired }
      { control with
        stop := { control.stop with interruptInFlight := false, issued := !safelyRetired } } := by
  have attempted := coherent.attempted_of_inFlight inFlight
  have active : control.trace.active = true := by
    by_contra inactive
    rw [(coherent.quiet (by simpa using inactive)).1] at inFlight
    contradiction
  constructor
  · exact .inl (coherent.began_of_attempted attempted)
  · exact coherent.ticket
  · exact coherent.request
  · rfl
  · exact coherent.exited
  · exact coherent.identity
  · exact coherent.died.trans (journal.helper.finish_eq_died safelyRetired).symm
  · -- The helper is the issued one, or the one that was created and not issued.
    intro alive kept
    have unretired : safelyRetired = false := by simpa using kept
    subst unretired
    cases wasIssued : control.stop.issued with
    | false =>
        obtain ⟨idle, fresh⟩ := coherent.idle alive wasIssued (.inr inFlight)
        simp [idle, fresh, Helper.finish]
    | true =>
        rw [coherent.issued alive wasIssued]
        cases control.stop.consumed <;> rfl
  · intro _ retired
    have safely : safelyRetired = true := by simpa using retired
    subst safely
    exact journal.helper.finish_true_ne_outstanding
  · intro unattempted
    rw [attempted] at unattempted
    contradiction
  · rintro _ _ (unattempted | stillInFlight)
    · rw [attempted] at unattempted
      contradiction
    · contradiction
  · intro inactive
    rw [active] at inactive
    contradiction

theorem finishInterrupt (coherent : Coherent journal control) (ticket : Ticket)
    (safelyRetired : Bool) :
    Coherent (journal.after [.interruptFinished ticket safelyRetired])
      (control.finishInterrupt ticket safelyRetired) := by
  simp only [Journal.after_cons, Journal.after_nil, Journal.record, TraceControl.finishInterrupt,
    coherent.inFlight, ← coherent.ticket]
  by_cases current : ticket = control.stop.ticket ∧ control.stop.interruptInFlight = true
  · rw [if_pos current, if_neg (by simp [current])]
    exact (coherent.finished current.2 safelyRetired).finalize
  · have stale : ticket ≠ control.stop.ticket ∨ control.stop.interruptInFlight = false := by
      by_cases same : ticket = control.stop.ticket
      · exact .inr (by simpa using fun inFlight => current ⟨same, inFlight⟩)
      · exact .inl same
    rw [if_neg current, if_pos stale]
    exact coherent

theorem threadCreated (coherent : Coherent journal control) (processEpoch : UInt64)
    (processId threadId : UInt32) (rawCreateThread : Bool) (address : UInt64) :
    Coherent
      (journal.after (if (control.stop.threadCreated processEpoch processId threadId
        rawCreateThread address).1 then [.threadCreated] else []))
      { control with
        stop := (control.stop.threadCreated processEpoch processId threadId
          rawCreateThread address).2 } := by
  simp only [TraceStopCoordinator.threadCreated]
  split
  · simpa using coherent
  · rename_i matched
    simp only [Bool.or_eq_true, not_or, Bool.not_eq_true, Bool.not_eq_true',
      Bool.not_eq_false] at matched
    obtain ⟨⟨⟨⟨⟨⟨⟨issued, fresh⟩, alive⟩, -⟩, -⟩, -⟩, -⟩, -⟩ := matched
    constructor
    · exact coherent.began
    · exact coherent.ticket
    · exact coherent.request
    · exact coherent.inFlight
    · exact coherent.exited
    · exact coherent.identity
    · simp [Journal.record, alive]
    · intro _ _
      rfl
    · intro _ unissued
      rw [issued] at unissued
      contradiction
    · intro unattempted
      rw [(coherent.unattempted unattempted).1] at issued
      contradiction
    · intro _ unissued
      rw [issued] at unissued
      contradiction
    · intro inactive
      exact ⟨(coherent.quiet inactive).1, by simp [unresolved]⟩

theorem resumed (coherent : Coherent journal control) :
    Coherent (journal.after [.resumed]) { control with stop := control.stop.onResumed } := by
  have kept : Coherent journal { control with stop := control.stop.onResumed } := by
    refine coherent.of_flags rfl ?_
    simp only [onResumed]
    split <;> rfl
  simp only [Journal.after_cons, Journal.after_nil, Journal.record]
  split
  · exact kept
  · exact kept.of_journal rfl rfl rfl rfl rfl rfl

theorem pauseCommitted (coherent : Coherent journal control) (fallback : TraceReason) :
    Coherent (journal.after [.pauseCommitted]) (control.pauseCommitted fallback) := by
  have remembered : Coherent (journal.after [.pauseCommitted]) control := by
    simp only [Journal.after_cons, Journal.after_nil, Journal.record]
    split
    · exact coherent
    · exact coherent.of_journal rfl rfl rfl rfl rfl rfl
  simp only [TraceControl.pauseCommitted]
  split
  · exact remembered
  · apply finalize
    exact remembered.of_flags rfl rfl

theorem processExited (coherent : Coherent journal control) :
    Coherent (journal.after [.processExited]) control.processExited := by
  apply finalize
  constructor
  · exact coherent.began
  · exact coherent.ticket
  · exact coherent.request
  · exact coherent.inFlight
  · rfl
  · exact coherent.identity
  · exact ⟨fun _ => rfl, fun _ => rfl⟩
  · intro alive
    contradiction
  · intro alive
    contradiction
  · exact coherent.unattempted
  · intro alive
    contradiction
  · intro inactive
    exact ⟨(coherent.quiet inactive).1, by simp [unresolved]⟩

/-- Step lemma: every call whose clock is below the sentinel keeps the journal
and the flags in agreement. -/
theorem apply (coherent : Coherent journal control) {call : TraceCall}
    (below : call.ClockBelowMax) :
    Coherent (journal.after (control.apply call).1) (control.apply call).2 := by
  cases call with
  | begin arguments processEpoch processId =>
      exact coherent.beginTrace arguments processEpoch processId
  | submitted ticket accepted => exact coherent.submitted ticket accepted
  | request reason now => exact coherent.requested reason now
  | step address nativeStop now => exact coherent.step address nativeStop now
  | reserve now => exact coherent.reserve below
  | issue ticket threadId address => exact coherent.issue ticket threadId address
  | abandonIssue ticket => exact coherent.abandonIssue ticket
  | finishInterrupt ticket safelyRetired => exact coherent.finishInterrupt ticket safelyRetired
  | threadCreated processEpoch processId threadId rawCreateThread address =>
      exact coherent.threadCreated processEpoch processId threadId rawCreateThread address
  | resumed => exact coherent.resumed
  | pauseCommitted fallback => exact coherent.pauseCommitted fallback
  | processExited => exact coherent.processExited

end Coherent

end X64dbgMcp.Trace
