import X64dbgMcp.Trace.Finalisation

/-!
# What the record of a trace says

A `StopRecord` is what the calls since the last successful `Start` said about stopping:
the causes in the order in which they came, and the fallback of the last pause or exit.
The trace's own record is compared with it.
-/

namespace X64dbgMcp.Trace

open TraceStopCoordinator TracePolicy

/-! ## The calls -/

/-- The causes of one step, in the order in which they are tested. -/
def stepCauses (late exhausted nativeStop : Bool) : List TraceReason :=
  (if late then [.timeout] else []) ++ (if exhausted then [.maxSteps] else []) ++
    (if nativeStop then [.interrupted] else [])

/-- The stop causes that a call brings to an active trace: a request, the causes of a
step, or the deadline that `Reserve` looks at. -/
def TraceControl.causes (control : TraceControl) (call : TraceCall) : List TraceReason :=
  if !control.trace.active then []
  else
    match call with
    | .request reason _ => if reason = .none then [] else [reason]
    | .step _ nativeStop now =>
        stepCauses (control.trace.deadline ≤ now)
          (control.trace.maxSteps ≤ control.trace.stepsExecuted + 1) nativeStop
    | .reserve now =>
        if control.stop.exited = false ∧ control.trace.deadline ≤ now then [.timeout] else []
    | _ => []

/-- The call is a `Start` that succeeds. -/
def TraceControl.starts (control : TraceControl) : TraceCall → Bool
  | .begin arguments _ _ => (control.trace.start arguments).isSome
  | _ => false

/-- The caller itself names the step budget as a reason. -/
def TraceCall.passesMaxSteps : TraceCall → Bool
  | .request reason _ => reason == .maxSteps
  | .pauseCommitted fallback => fallback == .maxSteps
  | _ => false

/-- What has happened to a trace, from its events alone. -/
structure StopRecord where
  causes : List TraceReason := []
  /-- Of the last pause before the exit, or of the exit. -/
  fallback : TraceReason := .interrupted
  exited : Bool := false
  /-- The fallback with which the trace became terminal. -/
  ended : Option TraceReason := none
  /-- Some caller named the step budget as a reason. -/
  asked : Bool := false

namespace StopRecord

/-- The fallback that a call leaves. -/
def hear (record : StopRecord) : TraceCall → StopRecord
  | .pauseCommitted fallback => if record.exited then record else { record with fallback }
  | .processExited => { record with exited := true, fallback := .processExit }
  | _ => record

/-- The record after one more call; a successful `Start` begins a new one. -/
def note (record : StopRecord) (control : TraceControl) (call : TraceCall) : StopRecord :=
  if control.starts call then {}
  else
    let heard := record.hear call
    { heard with
      causes := record.causes ++ control.causes call
      ended :=
        if control.trace.active && !(control.apply call).2.trace.active then some heard.fallback
        else record.ended
      asked := record.asked || call.passesMaxSteps }

/-- The record after some calls. -/
def after (record : StopRecord) (control : TraceControl) : List TraceCall → StopRecord
  | [] => record
  | call :: rest => (record.note control call).after (control.apply call).2 rest

/-- The first cause, unless it is the deadline and the backend was shut down later. -/
def first : List TraceReason → TraceReason
  | [] => .none
  | .timeout :: later => if .backendShutdown ∈ later then .backendShutdown else .timeout
  | cause :: _ => cause

/-- The reason of a trace that became terminal with a fallback. -/
def reason (record : StopRecord) (fallback : TraceReason) : TraceReason :=
  if record.causes ≠ [] then first record.causes
  else if fallback = .none then .interrupted
  else fallback

end StopRecord

/-! ## The pending reason -/

/-- What a cause makes of the pending reason. -/
def keep (pending cause : TraceReason) : TraceReason :=
  if pending = .none ∨ pending = .timeout ∧ cause = .backendShutdown then cause else pending

theorem foldl_keep_of_recorded {pending : TraceReason} (recorded : pending ≠ .none)
    (timely : pending ≠ .timeout) (causes : List TraceReason) :
    causes.foldl keep pending = pending := by
  induction causes with
  | nil => rfl
  | cons cause causes ih =>
      have same : keep pending cause = pending := by
        rw [keep, if_neg]
        rintro (none | ⟨late, -⟩)
        · exact recorded none
        · exact timely late
      rw [List.foldl_cons, same, ih]

theorem foldl_keep_timeout (causes : List TraceReason) :
    causes.foldl keep .timeout =
      if .backendShutdown ∈ causes then .backendShutdown else .timeout := by
  induction causes with
  | nil => rfl
  | cons cause causes ih =>
      by_cases shutdown : cause = .backendShutdown
      · subst shutdown
        rw [if_pos List.mem_cons_self]
        exact foldl_keep_of_recorded (by decide) (by decide) causes
      · have same : keep .timeout cause = .timeout := by
          rw [keep, if_neg]
          rintro (none | ⟨-, isShutdown⟩)
          · cases none
          · exact shutdown isShutdown
        rw [List.foldl_cons, same, ih]
        simp [Ne.symm shutdown]

theorem foldl_keep {causes : List TraceReason} (named : .none ∉ causes) :
    causes.foldl keep .none = StopRecord.first causes := by
  rcases causes with _ | ⟨cause, later⟩
  · rfl
  · rw [List.foldl_cons, show keep .none cause = cause from rfl]
    by_cases late : cause = .timeout
    · subst late
      exact foldl_keep_timeout later
    · have recorded : cause ≠ .none := fun none => named (none ▸ List.mem_cons_self)
      rw [foldl_keep_of_recorded recorded late]
      cases cause <;> first | rfl | contradiction

theorem StopRecord.first_ne_none {causes : List TraceReason} (named : .none ∉ causes)
    (some : causes ≠ []) : StopRecord.first causes ≠ .none := by
  rcases causes with _ | ⟨cause, later⟩
  · exact absurd rfl some
  · have recorded : cause ≠ .none := fun none => named (none ▸ List.mem_cons_self)
    cases cause <;> simp_all [StopRecord.first]
    split_ifs <;> simp

/-- The published reason is that of the record. -/
theorem StopRecord.finalReason_eq {causes : List TraceReason} (named : .none ∉ causes)
    (fallback : TraceReason) :
    finalReason (StopRecord.first causes) fallback =
      if causes ≠ [] then first causes
      else if fallback = .none then .interrupted
      else fallback := by
  unfold finalReason
  by_cases empty : causes = []
  · rw [if_neg (not_not.mpr empty), empty]
    rfl
  · rw [if_pos empty, if_neg (first_ne_none named empty), if_neg (first_ne_none named empty)]

/-! ## One operation on the trace -/

/-- The numbers of a trace fit each other. -/
structure Counted (trace : TracePolicy) : Prop where
  points : trace.points.length = trace.stepsExecuted + 1
  steps : trace.stepsExecuted ≤ trace.maxSteps
  budget : trace.maxSteps ≤ kMaxSteps

/-- An operation that does not end a trace. -/
structure Moves (trace : TracePolicy) (causes : List TraceReason) (after : TracePolicy) :
    Prop where
  id : after.id = trace.id
  maxSteps : after.maxSteps = trace.maxSteps
  active : after.active = trace.active
  inactive : trace.active = false → after = trace
  counted : Counted trace → Counted after
  advances : trace.stepsExecuted ≤ after.stepsExecuted
  pending : trace.active = true → after.pendingReason = causes.foldl keep trace.pendingReason

theorem moves_refl (trace : TracePolicy) : Moves trace [] trace :=
  ⟨rfl, rfl, rfl, fun _ => rfl, fun counted => counted, Nat.le_refl _, fun _ => rfl⟩

theorem moves_submitted (trace : TracePolicy) : Moves trace [] trace.submitted := by
  have active := active_submitted trace
  unfold TracePolicy.submitted at *
  split_ifs at * with starting
  · refine ⟨rfl, rfl, active, ?_, ?_, Nat.le_refl _, fun _ => rfl⟩
    · intro inactive
      simp [TracePolicy.active, starting] at inactive
    · exact fun counted => ⟨counted.points, counted.steps, counted.budget⟩
  · exact moves_refl trace

theorem moves_requestStop (trace : TracePolicy) (reason : TraceReason) :
    Moves trace (if !trace.active || reason == .none then [] else [reason])
      (trace.requestStop reason).2 := by
  have active := active_requestStop trace reason
  unfold requestStop at *
  split_ifs at * with refused kept
  · exact moves_refl trace
  · refine ⟨rfl, rfl, active, ?_, ?_, Nat.le_refl _, ?_⟩
    · intro inactive
      simp [inactive] at refused
    · exact fun counted => ⟨counted.points, counted.steps, counted.budget⟩
    · intro _
      exact (if_pos kept).symm
  · refine ⟨rfl, rfl, active, fun _ => rfl, fun counted => counted, Nat.le_refl _, ?_⟩
    intro _
    exact (if_neg kept).symm

theorem stepReason_eq (pending : TraceReason) (late exhausted nativeStop : Bool) :
    stepReason pending late exhausted nativeStop =
      (stepCauses late exhausted nativeStop).foldl keep pending := by
  cases pending <;> cases late <;> cases exhausted <;> cases nativeStop <;> rfl

/-- The budget is reached when one step is left, also when it was reached before. -/
theorem exhausted_iff (trace : TracePolicy) :
    (trace.maxSteps ≤ if trace.stepsExecuted < trace.maxSteps then trace.stepsExecuted + 1
      else trace.stepsExecuted) ↔ trace.maxSteps ≤ trace.stepsExecuted + 1 := by
  split_ifs <;> omega

theorem onStep_of_active {trace : TracePolicy} (isActive : trace.active = true)
    (address : UInt64) (nativeStop : Bool) (now : TimePoint) :
    (trace.onStep address nativeStop now).2 =
      { trace with
        state := .running
        points :=
          if trace.points.length < kMaxPoints ∧ trace.points.length < trace.maxSteps + 1 then
            trace.points ++ [⟨address⟩]
          else trace.points
        stepsExecuted :=
          if trace.stepsExecuted < trace.maxSteps then trace.stepsExecuted + 1
          else trace.stepsExecuted
        pendingReason :=
          (stepCauses (trace.deadline ≤ now) (trace.maxSteps ≤ trace.stepsExecuted + 1)
            nativeStop).foldl keep trace.pendingReason } := by
  simp only [onStep, isActive, Bool.not_true, Bool.false_eq_true, if_false, stepReason_eq,
    exhausted_iff]

theorem moves_onStep (trace : TracePolicy) (address : UInt64) (nativeStop : Bool)
    (now : TimePoint) :
    Moves trace
      (if !trace.active then []
      else stepCauses (trace.deadline ≤ now) (trace.maxSteps ≤ trace.stepsExecuted + 1) nativeStop)
      (trace.onStep address nativeStop now).2 := by
  cases isActive : trace.active with
  | false =>
      have same : (trace.onStep address nativeStop now).2 = trace := by simp [onStep, isActive]
      rw [same]
      exact moves_refl trace
  | true =>
      have active := active_onStep trace address nativeStop now
      have stepped := onStep_of_active isActive address nativeStop now
      refine ⟨by rw [stepped], by rw [stepped], active, ?_, ?_, ?_, ?_⟩
      · intro inactive
        rw [isActive] at inactive
        cases inactive
      · rintro ⟨points, steps, budget⟩
        rw [stepped]
        unfold kMaxPoints
        constructor <;> dsimp only
        · split_ifs
          · rw [List.length_append, List.length_singleton]
            omega
          all_goals omega
        · split_ifs <;> omega
        · exact budget
      · rw [stepped]
        dsimp only
        split_ifs <;> omega
      · intro _
        rw [stepped]
        rfl

/-- A step whose budget is exhausted leaves no steps. -/
theorem stepsExecuted_onStep {trace : TracePolicy} (isActive : trace.active = true)
    (steps : trace.stepsExecuted ≤ trace.maxSteps)
    (exhausted : trace.maxSteps ≤ trace.stepsExecuted + 1) (address : UInt64) (nativeStop : Bool)
    (now : TimePoint) :
    (trace.onStep address nativeStop now).2.stepsExecuted = trace.maxSteps := by
  rw [onStep_of_active isActive]
  dsimp only
  split_ifs <;> omega

/-! ## One call -/

theorem finalize_trace (control : TraceControl) :
    control.finalize.trace = control.trace ∨
      control.finalize.trace = control.trace.finalize control.finalize.stop.fallback := by
  unfold TraceControl.finalize
  split_ifs
  · exact .inr rfl
  · exact .inl rfl

theorem fallback_request (control : TraceControl) (reason : TraceReason) (now : TimePoint) :
    (control.request reason now).2.trace = (control.trace.requestStop reason).2 ∧
      (control.request reason now).2.stop.fallback = control.stop.fallback ∧
      (control.request reason now).2.stop.exited = control.stop.exited := by
  unfold TraceControl.request
  dsimp only
  split_ifs <;> exact ⟨rfl, rfl, rfl⟩

theorem fallback_step (control : TraceControl) (address : UInt64) (nativeStop : Bool)
    (now : TimePoint) :
    (control.step address nativeStop now).2.trace =
        (control.trace.onStep address nativeStop now).2 ∧
      (control.step address nativeStop now).2.stop.fallback = control.stop.fallback ∧
      (control.step address nativeStop now).2.stop.exited = control.stop.exited := by
  unfold TraceControl.step
  dsimp only
  split_ifs <;> exact ⟨rfl, rfl, rfl⟩

theorem fallback_reserve (control : TraceControl) (now : TimePoint) :
    (control.reserve now).2.2.trace =
        (if control.stop.exited = false ∧ control.trace.deadline ≤ now then
          (control.trace.requestStop .timeout).2
        else control.trace) ∧
      (control.reserve now).2.2.stop.fallback = control.stop.fallback ∧
      (control.reserve now).2.2.stop.exited = control.stop.exited := by
  rcases fallback_request control .timeout now with ⟨trace, fallback, exited⟩
  unfold TraceControl.reserve
  by_cases refused : (!control.trace.active || control.stop.exited) = true
  · rw [if_pos refused]
    refine ⟨?_, rfl, rfl⟩
    split_ifs with late
    · have inactive : control.trace.active = false := by simpa [late.1] using refused
      rw [requestStop_of_inactive .timeout inactive]
    · rfl
  · have alive : control.stop.exited = false := by
      simp only [Bool.or_eq_true, not_or, Bool.not_eq_true] at refused
      exact refused.2
    by_cases late : control.trace.deadline ≤ now
    · simp only [if_neg refused, if_pos late, if_pos (And.intro alive late)]
      split_ifs <;> exact ⟨trace, fallback, exited⟩
    · simp only [if_neg refused, if_neg late, if_neg fun both : _ ∧ _ => late both.2]
      split_ifs <;> exact ⟨rfl, rfl, rfl⟩

theorem apply_refused {control : TraceControl} {arguments : StartArguments}
    {processEpoch : UInt64} {processId : UInt32}
    (noStart : control.starts (.begin arguments processEpoch processId) = false) :
    (control.apply (.begin arguments processEpoch processId)).2 = control := by
  have refused : control.trace.start arguments = none :=
    Option.isNone_iff_eq_none.mp (Option.isSome_eq_false_iff.mp noStart)
  simp [TraceControl.apply, TraceControl.beginTrace, refused]

/-- A call other than a successful `Start` leaves the fallback that the record hears. -/
theorem hear_apply {record : StopRecord} {control : TraceControl}
    (fallback : control.stop.fallback = record.fallback)
    (exited : control.stop.exited = record.exited) (call : TraceCall)
    (noStart : control.starts call = false) :
    (control.apply call).2.stop.fallback = (record.hear call).fallback ∧
      (control.apply call).2.stop.exited = (record.hear call).exited := by
  have same : ∀ {other : TraceControl}, other.stop.fallback = control.stop.fallback ∧
      other.stop.exited = control.stop.exited →
      other.stop.fallback = record.fallback ∧ other.stop.exited = record.exited := by
    rintro other ⟨first, second⟩
    exact ⟨first.trans fallback, second.trans exited⟩
  cases call with
  | begin arguments processEpoch processId =>
      refine same ?_
      rw [apply_refused noStart]
      exact ⟨rfl, rfl⟩
  | request reason now => exact same (fallback_request control reason now).2
  | step address nativeStop now => exact same (fallback_step control address nativeStop now).2
  | reserve now => exact same (fallback_reserve control now).2
  | submitted ticket accepted =>
      refine same ?_
      unfold TraceControl.apply TraceControl.onSubmitted
      dsimp only
      split_ifs <;> simp only [TraceControl.stop_finalize, and_self]
  | issue ticket threadId address =>
      refine same ?_
      unfold TraceControl.apply TraceStopCoordinator.issue
      dsimp only
      split_ifs <;> exact ⟨rfl, rfl⟩
  | abandonIssue ticket =>
      refine same ?_
      unfold TraceControl.apply TraceStopCoordinator.abandonIssue
      dsimp only
      split_ifs <;> exact ⟨rfl, rfl⟩
  | finishInterrupt ticket safelyRetired =>
      refine same ?_
      unfold TraceControl.apply TraceControl.finishInterrupt
      dsimp only
      split_ifs <;> simp only [TraceControl.stop_finalize, and_self]
  | threadCreated processEpoch processId threadId rawCreateThread address =>
      refine same ?_
      unfold TraceControl.apply TraceStopCoordinator.threadCreated
      dsimp only
      split_ifs <;> exact ⟨rfl, rfl⟩
  | resumed =>
      refine same ?_
      unfold TraceControl.apply TraceStopCoordinator.onResumed
      dsimp only
      split_ifs <;> exact ⟨rfl, rfl⟩
  | pauseCommitted reason =>
      simp only [TraceControl.apply, TraceControl.pauseCommitted, StopRecord.hear, ← exited]
      split_ifs with gone
      · exact ⟨fallback, exited⟩
      · simp [TraceControl.stop_finalize, exited]
  | processExited =>
      simp [TraceControl.apply, TraceControl.processExited, StopRecord.hear,
        TraceControl.stop_finalize]

/-- What a call other than a successful `Start` does to the trace: an operation with the
causes of the call, and then perhaps its end with the fallback that the call leaves. -/
structure CallSpec (control : TraceControl) (call : TraceCall) (middle : TracePolicy) : Prop where
  moves : Moves control.trace (control.causes call) middle
  ends : (control.apply call).2.trace = middle ∨
    (control.apply call).2.trace = middle.finalize (control.apply call).2.stop.fallback
  budget : Counted control.trace → control.trace.active = true →
    .maxSteps ∈ control.causes call →
    call.passesMaxSteps = true ∨ middle.stepsExecuted = middle.maxSteps

theorem callSpec_quiet {control : TraceControl} {call : TraceCall}
    (none : control.causes call = [])
    (ends : (control.apply call).2.trace = control.trace ∨
      (control.apply call).2.trace =
        control.trace.finalize (control.apply call).2.stop.fallback) :
    CallSpec control call control.trace := by
  refine ⟨none ▸ moves_refl control.trace, ends, ?_⟩
  rw [none]
  nofun

theorem causes_request (control : TraceControl) (reason : TraceReason) (now : TimePoint) :
    control.causes (.request reason now) =
      if !control.trace.active || reason == .none then [] else [reason] := by
  unfold TraceControl.causes
  cases control.trace.active <;> cases reason <;> rfl

theorem exists_callSpec {control : TraceControl} (call : TraceCall)
    (noStart : control.starts call = false) :
    ∃ middle, CallSpec control call middle := by
  have none : ∀ {call}, (∀ reason now, call ≠ .request reason now) →
      (∀ address nativeStop now, call ≠ .step address nativeStop now) →
      (∀ now, call ≠ .reserve now) → control.causes call = [] := by
    intro call noRequest noStep noReserve
    unfold TraceControl.causes
    split_ifs
    · rfl
    · split
      · exact absurd rfl (noRequest _ _)
      · exact absurd rfl (noStep _ _ _)
      · exact absurd rfl (noReserve _)
      · rfl
  cases call with
  | begin arguments processEpoch processId =>
      refine ⟨_, callSpec_quiet (none (by simp) (by simp) (by simp)) (.inl ?_)⟩
      rw [apply_refused noStart]
  | submitted ticket accepted =>
      have quiet := @none (.submitted ticket accepted) (by simp) (by simp) (by simp)
      by_cases mine : ticket ≠ control.stop.ticket
      · refine ⟨_, callSpec_quiet quiet (.inl ?_)⟩
        simp only [TraceControl.apply, TraceControl.onSubmitted, if_pos mine]
      · cases accepted with
        | true =>
            refine ⟨control.trace.submitted, quiet ▸ moves_submitted _, ?_, by rw [quiet]; simp⟩
            simp only [TraceControl.apply, TraceControl.onSubmitted, if_neg mine, if_true]
            exact finalize_trace _
        | false =>
            refine ⟨_, callSpec_quiet quiet ?_⟩
            simp only [TraceControl.apply, TraceControl.onSubmitted, if_neg mine,
              Bool.false_eq_true, if_false]
            exact finalize_trace _
  | request reason now =>
      rcases fallback_request control reason now with ⟨trace, -, -⟩
      refine ⟨_, ?_, .inl trace, ?_⟩
      · rw [causes_request]
        exact moves_requestStop control.trace reason
      · intro _ _ member
        rw [causes_request] at member
        split_ifs at member
        · cases member
        · cases List.mem_singleton.mp member
          exact .inl rfl
  | step address nativeStop now =>
      rcases fallback_step control address nativeStop now with ⟨trace, -, -⟩
      have moves := moves_onStep control.trace address nativeStop now
      refine ⟨_, moves, .inl trace, ?_⟩
      intro counted isActive member
      have exhausted : control.trace.maxSteps ≤ control.trace.stepsExecuted + 1 := by
        by_contra more
        simp [TraceControl.causes, isActive, stepCauses, more] at member
      rw [moves.maxSteps]
      exact .inr (stepsExecuted_onStep isActive counted.steps exhausted address nativeStop now)
  | reserve now =>
      rcases fallback_reserve control now with ⟨trace, -, -⟩
      have causes : control.causes (.reserve now) = if !control.trace.active then [] else
          if control.stop.exited = false ∧ control.trace.deadline ≤ now then [.timeout] else [] :=
        rfl
      refine ⟨_, ?_, .inl trace, ?_⟩
      · have moves := moves_requestStop control.trace .timeout
        rw [causes]
        by_cases late : control.stop.exited = false ∧ control.trace.deadline ≤ now
        · simpa [late] using moves
        · rw [if_neg late, if_neg late, ite_self]
          exact moves_refl _
      · intro _ _ member
        rw [causes] at member
        split_ifs at member <;> simp at member
  | issue ticket threadId address =>
      exact ⟨_, callSpec_quiet (none (by simp) (by simp) (by simp)) (.inl rfl)⟩
  | abandonIssue ticket => exact ⟨_, callSpec_quiet (none (by simp) (by simp) (by simp)) (.inl rfl)⟩
  | finishInterrupt ticket safelyRetired =>
      refine ⟨_, callSpec_quiet (none (by simp) (by simp) (by simp)) ?_⟩
      unfold TraceControl.apply TraceControl.finishInterrupt
      dsimp only
      split_ifs
      · exact .inl rfl
      · exact finalize_trace _
  | threadCreated processEpoch processId threadId rawCreateThread address =>
      exact ⟨_, callSpec_quiet (none (by simp) (by simp) (by simp)) (.inl rfl)⟩
  | resumed => exact ⟨_, callSpec_quiet (none (by simp) (by simp) (by simp)) (.inl rfl)⟩
  | pauseCommitted fallback =>
      refine ⟨_, callSpec_quiet (none (by simp) (by simp) (by simp)) ?_⟩
      unfold TraceControl.apply TraceControl.pauseCommitted
      dsimp only
      split_ifs
      · exact .inl rfl
      · exact finalize_trace _
  | processExited => exact ⟨_, callSpec_quiet (none (by simp) (by simp) (by simp)) (finalize_trace _)⟩

/-! ## The record and the trace -/

/-- What the trace shows of the calls since its `Start`. -/
structure Recorded (record : StopRecord) (control : TraceControl) : Prop where
  named : .none ∉ record.causes
  counted : control.trace.id ≠ "" → Counted control.trace
  started : control.trace.active = true → control.trace.id ≠ ""
  pending : control.trace.active = true →
    control.trace.pendingReason = record.causes.foldl keep .none
  fallback : control.stop.fallback = record.fallback
  exited : control.stop.exited = record.exited
  final : control.trace.terminal = true → ∃ fallback, record.ended = some fallback ∧
    control.trace.reason = record.reason fallback ∧
      control.trace.state = finalState control.trace.reason
  budget : record.asked = false → record.fallback ≠ .maxSteps ∧
    record.ended ≠ some .maxSteps ∧
      (.maxSteps ∈ record.causes → control.trace.stepsExecuted = control.trace.maxSteps)

theorem recorded_initial : Recorded {} {} where
  named := List.not_mem_nil
  counted := nofun
  started := nofun
  pending := nofun
  fallback := rfl
  exited := rfl
  final := nofun
  budget _ := ⟨nofun, nofun, nofun⟩

theorem recorded_start {control : TraceControl} {call : TraceCall}
    (starts : control.starts call = true) : Recorded {} (control.apply call).2 := by
  cases call with
  | begin arguments processEpoch processId =>
      rcases Option.isSome_iff_exists.mp starts with ⟨trace, accepted⟩
      simp only [TraceControl.apply, TraceControl.beginTrace, accepted]
      have isActive := active_of_start accepted
      simp only [start] at accepted
      split_ifs at accepted with refused full
      cases accepted
      simp only [Bool.or_eq_true, not_or, decide_eq_true_eq, Nat.not_lt] at refused
      rcases refused with ⟨⟨⟨⟨named, -⟩, -⟩, budget⟩, -⟩
      refine ⟨List.not_mem_nil, fun _ => ⟨rfl, Nat.zero_le _, budget⟩, ?_, fun _ => rfl, rfl, rfl,
        ?_, fun _ => ⟨(by simp), (by simp), (by simp)⟩⟩
      · intro _ empty
        exact named (String.isEmpty_iff.mpr empty)
      · intro terminal
        simp [TracePolicy.terminal, isActive] at terminal
  | _ => cases starts

theorem none_notMem_stepCauses (late exhausted nativeStop : Bool) :
    .none ∉ stepCauses late exhausted nativeStop := by
  cases late <;> cases exhausted <;> cases nativeStop <;> decide

theorem none_notMem_causes (control : TraceControl) (call : TraceCall) :
    .none ∉ control.causes call := by
  cases call with
  | request reason now =>
      rw [causes_request]
      cases control.trace.active <;> cases reason <;> decide
  | step address nativeStop now =>
      unfold TraceControl.causes
      split_ifs
      · exact List.not_mem_nil
      · exact none_notMem_stepCauses _ _ _
  | reserve now =>
      unfold TraceControl.causes
      dsimp only
      split_ifs <;> simp
  | _ => simp [TraceControl.causes]

theorem hear_ne_maxSteps {record : StopRecord} {call : TraceCall}
    (other : record.fallback ≠ .maxSteps) (notAsked : call.passesMaxSteps = false) :
    (record.hear call).fallback ≠ .maxSteps := by
  cases call with
  | pauseCommitted fallback =>
      unfold StopRecord.hear
      split_ifs
      · exact other
      · simpa [TraceCall.passesMaxSteps] using notAsked
  | processExited => nofun
  | _ => exact other

theorem causes_of_inactive {control : TraceControl} (inactive : control.trace.active = false)
    (call : TraceCall) : control.causes call = [] := by
  simp [TraceControl.causes, inactive]

theorem finalize_of_inactive {trace : TracePolicy} (inactive : trace.active = false)
    (fallback : TraceReason) : trace.finalize fallback = trace := by
  simp [TracePolicy.finalize, inactive]

section Note

variable {record : StopRecord} {control : TraceControl} {call : TraceCall} {middle : TracePolicy}
  (recorded : Recorded record control) (noStart : control.starts call = false)
  (spec : CallSpec control call middle)

include recorded noStart spec

theorem Recorded.note_inactive (inactive : control.trace.active = false) :
    Recorded (record.note control call) (control.apply call).2 := by
  have quiet := causes_of_inactive inactive call
  have still : (control.apply call).2.trace = control.trace := by
    rcases spec.ends with same | ended
    · rw [same, spec.moves.inactive inactive]
    · rw [ended, spec.moves.inactive inactive, finalize_of_inactive inactive]
  rcases hear_apply recorded.fallback recorded.exited call noStart with ⟨fallback, exited⟩
  have noted : record.note control call =
      { record.hear call with
        causes := record.causes
        ended := record.ended
        asked := record.asked || call.passesMaxSteps } := by
    simp [StopRecord.note, noStart, quiet, inactive]
  rw [noted]
  constructor
  · exact recorded.named
  · rw [still]
    exact recorded.counted
  · rw [still]
    exact recorded.started
  · rw [still]
    exact recorded.pending
  · exact fallback
  · exact exited
  · rw [still]
    exact recorded.final
  · intro asked
    rcases Bool.or_eq_false_iff.mp asked with ⟨before, notAsked⟩
    rcases recorded.budget before with ⟨other, ended, exhausted⟩
    rw [still]
    exact ⟨hear_ne_maxSteps other notAsked, ended, exhausted⟩

theorem Recorded.note_active (isActive : control.trace.active = true) :
    Recorded (record.note control call) (control.apply call).2 := by
  have noted : record.note control call =
      { record.hear call with
        causes := record.causes ++ control.causes call
        ended := if !(control.apply call).2.trace.active then some (record.hear call).fallback
          else record.ended
        asked := record.asked || call.passesMaxSteps } := by
    simp [StopRecord.note, noStart, isActive]
  have named : .none ∉ record.causes ++ control.causes call := by
    rw [List.mem_append, not_or]
    exact ⟨recorded.named, none_notMem_causes control call⟩
  have pending : middle.pendingReason =
      (record.causes ++ control.causes call).foldl keep .none := by
    rw [List.foldl_append, ← recorded.pending isActive]
    exact spec.moves.pending isActive
  have before := recorded.counted (recorded.started isActive)
  have counted := spec.moves.counted before
  have started : middle.id ≠ "" := by
    rw [spec.moves.id]
    exact recorded.started isActive
  have budget : record.asked = false → call.passesMaxSteps = false →
      .maxSteps ∈ record.causes ++ control.causes call →
      middle.stepsExecuted = middle.maxSteps := by
    intro asked notAsked member
    rcases List.mem_append.mp member with earlier | now
    · have exhausted := (recorded.budget asked).2.2 earlier
      have advances := spec.moves.advances
      have most := counted.steps
      have same := spec.moves.maxSteps
      omega
    · rcases spec.budget before isActive now with asks | exhausted
      · rw [notAsked] at asks
        cases asks
      · exact exhausted
  rcases hear_apply recorded.fallback recorded.exited call noStart with ⟨fallback, exited⟩
  rw [noted]
  rcases spec.ends with same | ended
  · have stays : (control.apply call).2.trace.active = true := by
      rw [same, spec.moves.active, isActive]
    rw [stays]
    refine ⟨named, ?_, ?_, ?_, fallback, exited, ?_, ?_⟩
    · exact fun _ => same ▸ counted
    · exact fun _ => same ▸ started
    · exact fun _ => same ▸ pending
    · intro terminal
      simp [TracePolicy.terminal, stays] at terminal
    · intro asked
      rcases Bool.or_eq_false_iff.mp asked with ⟨earlier, notAsked⟩
      rcases recorded.budget earlier with ⟨other, unended, -⟩
      exact ⟨hear_ne_maxSteps other notAsked, unended, same ▸ budget earlier notAsked⟩
  · have middleActive : middle.active = true := spec.moves.active.trans isActive
    rw [fallback] at ended
    have stopped : (control.apply call).2.trace.active = false := by
      rw [ended, active_finalize]
    rw [TracePolicy.finalize, if_pos middleActive, pending, foldl_keep named] at ended
    rw [stopped]
    refine ⟨named, ?_, ?_, ?_, fallback, exited, ?_, ?_⟩
    · rw [ended]
      exact fun _ => ⟨counted.points, counted.steps, counted.budget⟩
    · rw [stopped]
      simp
    · rw [stopped]
      simp
    · intro _
      refine ⟨_, rfl, ?_, ?_⟩
      · rw [ended]
        exact StopRecord.finalReason_eq named _
      · rw [ended]
    · intro asked
      rcases Bool.or_eq_false_iff.mp asked with ⟨earlier, notAsked⟩
      rcases recorded.budget earlier with ⟨other, -, -⟩
      have otherNow := hear_ne_maxSteps other notAsked
      refine ⟨otherNow, fun same => otherNow (Option.some.inj same), ?_⟩
      rw [ended]
      exact budget earlier notAsked

end Note

theorem Recorded.note {record : StopRecord} {control : TraceControl}
    (recorded : Recorded record control) (call : TraceCall) :
    Recorded (record.note control call) (control.apply call).2 := by
  cases starts : control.starts call with
  | true =>
      rw [StopRecord.note, if_pos starts]
      exact recorded_start starts
  | false =>
      rcases exists_callSpec call starts with ⟨middle, spec⟩
      cases isActive : control.trace.active with
      | false => exact recorded.note_inactive starts spec isActive
      | true => exact recorded.note_active starts spec isActive

/-- The record of a trace, after some calls. -/
structure RecordInvariant (record : StopRecord) (control : TraceControl) : Prop where
  counted : control.trace.id ≠ "" →
    control.trace.points.length = control.trace.stepsExecuted + 1 ∧
      control.trace.stepsExecuted + 1 ≤ control.trace.maxSteps + 1 ∧
        control.trace.maxSteps + 1 ≤ kMaxPoints
  frozen : control.trace.terminal = true → ∀ call, control.starts call = false →
    (control.apply call).2.trace = control.trace
  states : control.trace.terminal = true → control.trace.reason ≠ .none ∧
    (control.trace.state = .completed ↔ control.trace.reason = .maxSteps) ∧
    (control.trace.state = .cancelled ↔ control.trace.reason = .cancelled) ∧
    (control.trace.state = .timedOut ↔ control.trace.reason = .timeout) ∧
    (control.trace.state = .interrupted ↔
      control.trace.reason ∉ [.maxSteps, .cancelled, .timeout])
  reason : control.trace.terminal = true → ∃ fallback, record.ended = some fallback ∧
    control.trace.reason = record.reason fallback
  budget : control.trace.terminal = true → record.asked = false →
    control.trace.state = .completed → control.trace.stepsExecuted = control.trace.maxSteps

theorem finalState_spec {reason : TraceReason} :
    (finalState reason = .completed ↔ reason = .maxSteps) ∧
      (finalState reason = .cancelled ↔ reason = .cancelled) ∧
      (finalState reason = .timedOut ↔ reason = .timeout) ∧
      (finalState reason = .interrupted ↔ reason ∉ [.maxSteps, .cancelled, .timeout]) := by
  cases reason <;> decide

theorem StopRecord.reason_ne_none {record : StopRecord} (named : .none ∉ record.causes)
    (fallback : TraceReason) : record.reason fallback ≠ .none := by
  unfold StopRecord.reason
  split_ifs with some empty
  · exact first_ne_none named some
  · nofun
  · exact empty

theorem StopRecord.mem_of_first {causes : List TraceReason}
    (isBudget : StopRecord.first causes = .maxSteps) : .maxSteps ∈ causes := by
  rcases causes with _ | ⟨cause, later⟩
  · cases isBudget
  · cases cause with
    | maxSteps => exact List.mem_cons_self
    | timeout =>
        rw [StopRecord.first] at isBudget
        split_ifs at isBudget
    | _ => cases isBudget

theorem Recorded.invariant {record : StopRecord} {control : TraceControl}
    (recorded : Recorded record control) : RecordInvariant record control := by
  have inactive : control.trace.terminal = true → control.trace.active = false := by
    intro terminal
    simp only [TracePolicy.terminal, Bool.and_eq_true, Bool.not_eq_true'] at terminal
    exact terminal.2
  constructor
  · intro started
    rcases recorded.counted started with ⟨points, steps, budget⟩
    exact ⟨points, Nat.succ_le_succ steps, Nat.succ_le_succ budget⟩
  · intro terminal call noStart
    rcases exists_callSpec call noStart with ⟨middle, spec⟩
    have still := spec.moves.inactive (inactive terminal)
    rcases spec.ends with same | ended
    · rw [same, still]
    · rw [ended, still, finalize_of_inactive (inactive terminal)]
  · intro terminal
    rcases recorded.final terminal with ⟨fallback, -, reason, state⟩
    refine ⟨?_, state ▸ finalState_spec⟩
    rw [reason]
    exact StopRecord.reason_ne_none recorded.named fallback
  · intro terminal
    rcases recorded.final terminal with ⟨fallback, ended, reason, -⟩
    exact ⟨fallback, ended, reason⟩
  · intro terminal asked completed
    rcases recorded.final terminal with ⟨fallback, ended, reason, state⟩
    rcases recorded.budget asked with ⟨-, other, exhausted⟩
    rw [state, finalState_spec.1, reason, StopRecord.reason] at completed
    split_ifs at completed with some empty
    · exact exhausted (StopRecord.mem_of_first completed)
    · exact absurd (completed ▸ ended) other

/-- In every run the record of the trace is bounded, agrees with the stop causes of the
calls since its `Start`, and stays as it is once it is terminal. -/
theorem trace_record {calls : List TraceCall} {events : List (List TraceEvent)}
    {control : TraceControl}
    (run : Transition.execute TraceControl.next {} calls = some (events, control)) :
    RecordInvariant (StopRecord.after {} {} calls) control := by
  have every : ∀ {record start}, Recorded record start → ∀ {events control},
      Transition.execute TraceControl.next start calls = some (events, control) →
      Recorded (record.after start calls) control := by
    clear run
    induction calls with
    | nil =>
        intro record start recorded events control run
        cases run
        exact recorded
    | cons call rest ih =>
        intro record start recorded events control run
        rcases Transition.execute_cons_eq_some_iff.mp run with ⟨_, middle, _, stepped, behind, -⟩
        have next : (start.apply call).2 = middle :=
          congrArg Prod.snd (TraceControl.next_eq_some_iff.mp stepped)
        exact ih (recorded.note call) (next ▸ behind)
  exact (every recorded_initial run).invariant

/-- The budget of one step is used up, a cancel request comes too late, and the trace
ends with the pause. -/
theorem trace_record_exhausted :
    ∃ events control, RecordInvariant
        (StopRecord.after {} {}
          [.begin ⟨"trace", .into, 1, 1000, 0x401000, [], true⟩ 7 42, .submitted ⟨1, 7⟩ true,
            .step 0x401001 false 10, .request .cancelled 20, .pauseCommitted .userPause])
        control ∧
      Transition.execute TraceControl.next {}
          [.begin ⟨"trace", .into, 1, 1000, 0x401000, [], true⟩ 7 42, .submitted ⟨1, 7⟩ true,
            .step 0x401001 false 10, .request .cancelled 20, .pauseCommitted .userPause] =
        some (events, control) ∧
      control.trace.terminal = true ∧ control.trace.reason = .maxSteps :=
  ⟨_, _, trace_record rfl, rfl, by decide, by decide⟩

end X64dbgMcp.Trace
