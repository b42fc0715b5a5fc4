import X64dbgMcp.Plugin.BreakpointOutcomes
import X64dbgMcp.Plugin.NativeHistory
import X64dbgMcp.Plugin.RunControl

/-!
# What the answers of the run control handlers say

Whatever the debugger answers, an error that calls the outcome unknown means that the one
command of the method was accepted, and a success that a callback has told of it behind the
submission.  An error that does not call it unknown means that nothing was changed, but for
the slips that are listed here.
-/

namespace X64dbgMcp.Plugin

open Text Transition Dialogue
open X64dbgMcp.Runtime (DebuggeeState PauseObservation PauseReasonKind)

/-! ## What a method submits -/

namespace RunMethod

/-- The commands between which a method chooses. -/
def commands (request : Request) : RunMethod → List String
  | .pause => [""]
  | .resume => ["run", "serun"]
  | .continueException =>
      [if request.exceptionDisposition = "handled" then "serun" else "erun"]
  | .stepInto => ["sti"]
  | .stepOver => ["sto"]
  | .stop => ["stop"]

/-- The state that a method leads to. -/
def expected : RunMethod → DebuggeeState
  | .pause | .stepInto | .stepOver => .paused
  | .resume | .continueException => .running
  | .stop => .absent

/-- The accepted submission. -/
def submission (command : String) : RunMethod → NativeRecord
  | .pause => ⟨.interrupt, true⟩
  | .stepInto | .stepOver => ⟨.cmdExecDirect (utf8 command), true⟩
  | .resume | .continueException | .stop => ⟨.cmdExec (utf8 command), true⟩

/-- The callback that tells of the submission. -/
def confirmation (before : Nat) : RunMethod → NativeRecord
  | .pause => ⟨.waitForPauseReason .userPause before, true⟩
  | .stepInto | .stepOver => ⟨.waitForPauseReason .step before, true⟩
  | .resume | .continueException => ⟨.waitForState .running before, true⟩
  | .stop => ⟨.waitForState .absent before, true⟩

/-- What a method may change before its submission. -/
def prepares : RunMethod → NativeRecord → Bool
  | .continueException, ⟨.setThreadContext .., _⟩ => true
  | .resume, ⟨.cmdExecDirect command, _⟩ => (utf8 "switchthread ").isPrefixOf command
  | _, _ => false

end RunMethod

/-- Only preparations have changed anything. -/
def OnlyPrepared (method : RunMethod) (history : List NativeRecord) : Prop :=
  ∀ record ∈ history, record.changes = true → method.prepares record = true

/-- The command of the method was accepted once, behind a look at the generation. -/
def Ran (request : Request) (method : RunMethod) (before : Nat) (history : List NativeRecord) :
    Prop :=
  ∃ command ∈ method.commands request, ∃ earlier later,
    history = earlier ++ method.submission command :: later ∧ OnlyPrepared method earlier ∧
      (⟨.generation, before⟩ : NativeRecord) ∈ earlier ∧ Quiet later

/-! ## Promises -/

/-- Errors that do not call the outcome unknown although something was changed. -/
inductive RunSlip (request : Request) : RunMethod → ErrorResponse → List NativeRecord → Prop
  /-- The registers were overridden, and then the context could not be read again or the
  command was not accepted. -/
  | overridden {error : ErrorResponse} {history : List NativeRecord}
      (prepared : OnlyPrepared .continueException history)
      (told : error ∈ [threadContextError request .unavailable,
        threadContextError request .changed, rejectedRun .continueException]) :
      RunSlip request .continueException error history
  /-- The debugger went back to the thread that was selected, and did not accept the command. -/
  | switched {history : List NativeRecord} (prepared : OnlyPrepared .resume history) :
      RunSlip request .resume (rejectedRun .resume) history
  /-- The command ran and said that it had failed. -/
  | failed {method : RunMethod} {command : String} {earlier : List NativeRecord}
      (step : method.isStep = true) (quiet : Quiet earlier) :
      RunSlip request method (rejectedRun method)
        (earlier ++ [⟨.cmdExecDirect (utf8 command), false⟩])
  /-- The step was confirmed, and could not be told of. -/
  | stepped {method : RunMethod} {error : ErrorResponse} {history : List NativeRecord}
      {before : Nat} (step : method.isStep = true) (ran : Ran request method before history)
      (confirmed : SeenBy (· = method.confirmation before) history)
      (told : error = stepUnreadable ∨ error = stepSuperseded) :
      RunSlip request method error history

/-- A result is what was read behind the confirmation. -/
inductive RunTold (request : Request) (method : RunMethod) (confirmed : Nat)
    (history : List NativeRecord) : RunResult → Prop
  | state (other : method.isStep = false) :
      RunTold request method confirmed history (.state method.expected)
  | stepped {thread own : UInt32} {instructionPointer stackPointer : Nat}
      {pause observed : PauseObservation} (step : method.isStep = true)
      (current : (⟨.threadId, own⟩ : NativeRecord) ∈ history)
      (asked : ∀ asked, request.targetThreadId = some asked → asked = own.toNat)
      (correlated : observed.hasThreadId = true ∧ observed.threadId = own)
      (paused : SeenBy (· = ⟨.latestPause, observed⟩) history)
      (registers : SeenBy (· = ⟨.registers, some (instructionPointer, stackPointer)⟩) history)
      (last : history.getLast? = some ⟨.confirmedPause confirmed, some (pause, thread)⟩) :
      RunTold request method confirmed history (.stepped thread instructionPointer pause)

/-- What an answer of a method is worth. -/
structure RunOutcome (request : Request) (method : RunMethod) (response : RunResponse)
    (history : List NativeRecord) : Prop where
  known : ∀ error, response = .error error → error.unknown = false →
    Quiet history ∨ RunSlip request method error history
  unknown : ∀ error, response = .error error → error.unknown = true →
    ∃ before, Ran request method before history
  confirmed : ∀ confirmed result, response = .ok (confirmed, result) →
    (∃ before, Ran request method before history ∧
      SeenBy (· = method.confirmation before) history) ∧
    SeenBy (· = ⟨.observedGeneration method.expected, confirmed⟩) history ∧
    RunTold request method confirmed history result

/-! ## Keeping the promises -/

section Steps

variable {request : Request} {method : RunMethod} {before : Nat} {past history : List NativeRecord}

theorem prepared_concat {record : NativeRecord} :
    OnlyPrepared method (history ++ [record]) ↔
      OnlyPrepared method history ∧ (record.changes = true → method.prepares record = true) := by
  simp only [OnlyPrepared, List.mem_append, List.mem_singleton]
  constructor
  · intro all
    exact ⟨fun earlier member => all earlier (.inl member), all record (.inr rfl)⟩
  · rintro ⟨earlier, last⟩ each (member | rfl)
    · exact earlier each member
    · exact last

theorem Quiet.prepared (quiet : Quiet history) : OnlyPrepared method history := by
  intro record member changes
  rw [quiet record member] at changes
  cases changes

theorem keptByReads_prepared : KeptByReads (OnlyPrepared method) := by
  intro past record prepared reads
  refine prepared_concat.mpr ⟨prepared, fun changes => ?_⟩
  rw [reads] at changes
  cases changes

theorem keptByReads_ran : KeptByReads (Ran request method before) := by
  rintro past record ⟨command, chosen, earlier, later, rfl, prepared, generation, quiet⟩ reads
  exact ⟨command, chosen, earlier, later ++ [record], by simp, prepared, generation,
    quiet_concat.mpr ⟨quiet, reads⟩⟩

/-- What was asked once stays in the history. -/
theorem keptByReads_member (record : NativeRecord) : KeptByReads (record ∈ ·) :=
  fun _ _ member _ => List.mem_append_left _ member

theorem Quiet.refusesRun (quiet : Quiet history) {error : ErrorResponse}
    (known : error.unknown = false) : RunOutcome request method (.error error) history where
  known := fun _ _ _ => .inl quiet
  unknown := by
    rintro _ ⟨⟩ unknown
    cases known.symm.trans unknown
  confirmed := by rintro _ _ ⟨⟩

theorem RunSlip.refuses {error : ErrorResponse} (slip : RunSlip request method error history)
    (known : error.unknown = false) : RunOutcome request method (.error error) history where
  known := by
    rintro _ ⟨⟩ _
    exact .inr slip
  unknown := by
    rintro _ ⟨⟩ unknown
    cases known.symm.trans unknown
  confirmed := by rintro _ _ ⟨⟩

theorem Ran.admits (ran : Ran request method before history) {error : ErrorResponse}
    (unknown : error.unknown = true) : RunOutcome request method (.error error) history where
  known := by
    rintro _ ⟨⟩ known
    cases unknown.symm.trans known
  unknown := fun _ _ _ => ⟨before, ran⟩
  confirmed := by rintro _ _ ⟨⟩

/-! ### Plans -/

variable (request method) in
/-- What a plan says is what the method submits. -/
structure Planned (plan : RunPlan) (history : List NativeRecord) : Prop where
  command : plan.command ∈ method.commands request
  expected : plan.expected = method.expected
  thread : ∀ thread, plan.stepThread = some thread →
    (⟨.threadId, thread⟩ : NativeRecord) ∈ history
  steps : method.isStep = true → plan.stepThread.isSome = true
  overrides : plan.overrideThread.isSome = true → method = .continueException

theorem Planned.extend {plan : RunPlan} (planned : Planned request method plan past)
    (extended : past <+: history) : Planned request method plan history :=
  ⟨planned.command, planned.expected,
    fun thread told => extended.subset (planned.thread thread told), planned.steps,
    planned.overrides⟩

theorem keptByReads_planned (plan : RunPlan) : KeptByReads (Planned request method plan) :=
  fun _ _ planned _ => planned.extend (List.prefix_append _ _)

theorem planStep_spec {state : DebuggeeState} {command : String} (quiet : Quiet past)
    (chosen : command ∈ method.commands request) (expected : method.expected = .paused) :
    (planStep state command).Meets recording
      (fun result later => Quiet later ∧
        (∀ error, result = .error error → error.unknown = false) ∧
        ∀ plan, result = .ok plan → Planned request method plan later) past := by
  rw [planStep]
  apply keptByReads_quiet.ask quiet rfl
  intro thread later quiet reached
  refine ⟨quiet, by rintro _ ⟨⟩, ?_⟩
  rintro _ ⟨⟩
  refine ⟨chosen, expected.symm, ?_, fun _ => rfl, by rintro ⟨⟩⟩
  rintro _ ⟨⟩
  simp [reached]

theorem planRun_spec {state : DebuggeeState} (quiet : Quiet past) :
    (planRun request state method).Meets recording
      (fun result later => Quiet later ∧
        (∀ error, result = .error error → error.unknown = false) ∧
        ∀ plan, result = .ok plan → Planned request method plan later) past := by
  cases method with
  | pause =>
      refine ⟨quiet, by rintro _ ⟨⟩, ?_⟩
      rintro _ ⟨⟩
      exact ⟨List.mem_singleton.mpr rfl, rfl, by rintro _ ⟨⟩, by rintro ⟨⟩, by rintro ⟨⟩⟩
  | resume =>
      rw [planRun]
      apply keptByReads_quiet.ask quiet rfl
      intro owned later quiet _
      refine ⟨quiet, by rintro _ ⟨⟩, ?_⟩
      rintro _ ⟨⟩
      refine ⟨?_, rfl, by rintro _ ⟨⟩, by rintro ⟨⟩, by rintro ⟨⟩⟩
      cases owned <;> simp [RunMethod.commands]
  | continueException =>
      rw [planRun]
      apply keptByReads_quiet.ask quiet rfl
      intro pause later quiet _
      rw [meets_ite]
      refine ⟨fun _ => ⟨quiet, by rintro _ ⟨⟩; rfl, by rintro _ ⟨⟩⟩, fun _ => ?_⟩
      rw [meets_ite]
      refine ⟨fun _ => ⟨quiet, by rintro _ ⟨⟩; rfl, by rintro _ ⟨⟩⟩, fun _ => ?_⟩
      refine ⟨quiet, by rintro _ ⟨⟩, ?_⟩
      rintro _ ⟨⟩
      refine ⟨?_, rfl, by rintro _ ⟨⟩, by rintro ⟨⟩, fun _ => rfl⟩
      simp [RunMethod.commands]
  | stepInto => exact planStep_spec quiet (List.mem_singleton.mpr rfl) rfl
  | stepOver => exact planStep_spec quiet (List.mem_singleton.mpr rfl) rfl
  | stop =>
      rw [planRun]
      apply keptByReads_quiet.ask quiet rfl
      intro origin later quiet _
      refine ⟨quiet, by rintro _ ⟨⟩, ?_⟩
      rintro _ ⟨⟩
      exact ⟨List.mem_singleton.mpr rfl, rfl, by rintro _ ⟨⟩, by rintro ⟨⟩, by rintro ⟨⟩⟩

/-! ### Submission -/

variable (request) in
theorem interruptDebuggee_spec (quiet : Quiet past)
    (generation : (⟨.generation, before⟩ : NativeRecord) ∈ past) :
    interruptDebuggee.Meets recording
      (fun result later =>
        (∀ error, result = .error error → error.unknown = false ∧ Quiet later) ∧
        (result = .ok false → Quiet later) ∧
        (result = .ok true → Ran request .pause before later)) past := by
  rw [interruptDebuggee]
  apply (keptByReads_quiet.and (keptByReads_member _)).ask ⟨quiet, generation⟩ rfl
  rintro (_ | _) later ⟨quiet, generation⟩ -
  · apply (keptByReads_quiet.and (keptByReads_member _)).ask ⟨quiet, generation⟩ rfl
    rintro _ later ⟨quiet, generation⟩ -
    apply meets_native
    rintro (_ | _)
    · have unchanged : Quiet (later ++ [⟨.interrupt, false⟩]) := keptByReads_quiet quiet rfl
      apply keptByReads_quiet.ask unchanged rfl
      intro _ later quiet _
      apply keptByReads_quiet.ask quiet rfl
      intro _ later quiet _
      exact ⟨by rintro _ ⟨⟩, fun _ => quiet, by rintro ⟨⟩⟩
    · refine ⟨by rintro _ ⟨⟩, by rintro ⟨⟩, fun _ => ?_⟩
      exact ⟨"", List.mem_singleton.mpr rfl, later, [], rfl, quiet.prepared, generation, quiet_nil⟩
  · refine ⟨?_, by rintro ⟨⟩, by rintro ⟨⟩⟩
    rintro _ ⟨⟩
    exact ⟨rfl, quiet⟩

theorem restoreSelectedThread_spec (quiet : Quiet past)
    (generation : (⟨.generation, before⟩ : NativeRecord) ∈ past) :
    restoreSelectedThread.Meets recording
      (fun _ later => OnlyPrepared .resume later ∧ (⟨.generation, before⟩ : NativeRecord) ∈ later)
      past := by
  rw [restoreSelectedThread]
  apply (keptByReads_quiet.and (keptByReads_member _)).ask ⟨quiet, generation⟩ rfl
  rintro (_ | _) later ⟨quiet, generation⟩ -
  · exact ⟨quiet.prepared, generation⟩
  · apply (keptByReads_quiet.and (keptByReads_member _)).ask ⟨quiet, generation⟩ rfl
    rintro thread later ⟨quiet, generation⟩ -
    rw [meets_ite]
    refine ⟨fun _ => ?_, fun _ => ⟨quiet.prepared, generation⟩⟩
    apply meets_native
    intro _
    refine ⟨prepared_concat.mpr ⟨quiet.prepared, fun _ => ?_⟩, List.mem_append_left _ generation⟩
    rw [RunMethod.prepares, switchThreadCommand, List.append_assoc]
    exact List.isPrefixOf_iff_prefix.mpr (List.prefix_append _ _)

/-- A queued command, behind what the method has prepared. -/
theorem submitQueued_spec {command : String} (queued : ∀ command : String,
      method.submission command = ⟨.cmdExec (utf8 command), true⟩)
    (chosen : command ∈ method.commands request) (prepared : OnlyPrepared method past)
    (generation : (⟨.generation, before⟩ : NativeRecord) ∈ past) :
    (do return .ok (← native (.cmdExec (utf8 command))) :
        Handler (Except ErrorResponse Bool)).Meets recording
      (fun result later => (∀ error, result ≠ .error error) ∧
        (result = .ok false → OnlyPrepared method later) ∧
        (result = .ok true → Ran request method before later)) past := by
  apply meets_native
  rintro (_ | _)
  · exact ⟨by rintro _ ⟨⟩, fun _ => keptByReads_prepared prepared rfl, by rintro ⟨⟩⟩
  · refine ⟨by rintro _ ⟨⟩, by rintro ⟨⟩, fun _ => ?_⟩
    exact ⟨command, chosen, past, [], by rw [queued], prepared, generation, quiet_nil⟩

/-- A step, which the debugger runs at once. -/
theorem submitStep_spec {command : String} (step : method.isStep = true)
    (chosen : command ∈ method.commands request) (quiet : Quiet past)
    (generation : (⟨.generation, before⟩ : NativeRecord) ∈ past) :
    (do return .ok (← native (.cmdExecDirect (utf8 command))) :
        Handler (Except ErrorResponse Bool)).Meets recording
      (fun result later => (∀ error, result ≠ .error error) ∧
        (result = .ok false → RunSlip request method (rejectedRun method) later) ∧
        (result = .ok true → Ran request method before later)) past := by
  apply meets_native
  rintro (_ | _)
  · exact ⟨by rintro _ ⟨⟩, fun _ => .failed step quiet, by rintro ⟨⟩⟩
  · refine ⟨by rintro _ ⟨⟩, by rintro ⟨⟩, fun _ => ?_⟩
    refine ⟨command, chosen, past, [], ?_, quiet.prepared, generation, quiet_nil⟩
    cases method <;> first | rfl | cases step

theorem submitRun_spec {command : String} (chosen : command ∈ method.commands request)
    (prepared : OnlyPrepared method past) (quiet : method ≠ .continueException → Quiet past)
    (generation : (⟨.generation, before⟩ : NativeRecord) ∈ past) :
    (submitRun method command).Meets recording
      (fun result later =>
        (∀ error, result = .error error → error.unknown = false ∧ Quiet later) ∧
        (result = .ok false → Quiet later ∨ RunSlip request method (rejectedRun method) later) ∧
        (result = .ok true → Ran request method before later)) past := by
  cases method with
  | pause =>
      apply (interruptDebuggee_spec request (quiet (by rintro ⟨⟩)) generation).mono
      rintro result later ⟨errors, refused, accepted⟩
      exact ⟨errors, fun told => .inl (refused told), accepted⟩
  | resume =>
      rw [submitRun, meets_bind]
      apply (restoreSelectedThread_spec (quiet (by rintro ⟨⟩)) generation).mono
      rintro _ later ⟨prepared, generation⟩
      refine (submitQueued_spec (fun _ => rfl) chosen prepared generation).mono ?_
      rintro result later ⟨errors, refused, accepted⟩
      exact ⟨fun error told => absurd told (errors error),
        fun told => .inr (.switched (refused told)), accepted⟩
  | continueException =>
      refine (submitQueued_spec (fun _ => rfl) chosen prepared generation).mono ?_
      rintro result later ⟨errors, refused, accepted⟩
      exact ⟨fun error told => absurd told (errors error),
        fun told => .inr (.overridden (refused told) (by simp)), accepted⟩
  | stepInto =>
      apply (submitStep_spec rfl chosen (quiet (by rintro ⟨⟩)) generation).mono
      rintro result later ⟨errors, refused, accepted⟩
      exact ⟨fun error told => absurd told (errors error), fun told => .inr (refused told),
        accepted⟩
  | stepOver =>
      apply (submitStep_spec rfl chosen (quiet (by rintro ⟨⟩)) generation).mono
      rintro result later ⟨errors, refused, accepted⟩
      exact ⟨fun error told => absurd told (errors error), fun told => .inr (refused told),
        accepted⟩
  | stop =>
      have quiet := quiet (by rintro ⟨⟩)
      rw [submitRun]
      apply meets_native
      rintro (_ | _)
      · exact ⟨by rintro _ ⟨⟩, fun _ => .inl (keptByReads_quiet quiet rfl), by rintro ⟨⟩⟩
      · refine ⟨by rintro _ ⟨⟩, by rintro ⟨⟩, fun _ => ?_⟩
        exact ⟨command, chosen, past, [], rfl, prepared, generation, quiet_nil⟩

/-! ### Register overrides -/

theorem mutateThreadContext_spec {thread : UInt32} {assignments : List RegisterAssignment}
    (quiet : Quiet past) :
    (mutateThreadContext thread assignments).Meets recording
      (fun status later => OnlyPrepared .continueException later ∧
        (status ∈ [.invalidList, .missing] → Quiet later)) past := by
  rw [mutateThreadContext, meets_ite]
  refine ⟨fun _ => ⟨quiet.prepared, fun _ => quiet⟩, fun _ => ?_⟩
  apply keptByReads_quiet.ask quiet rfl
  rintro (_ | threads) later quiet -
  · exact ⟨quiet.prepared, fun _ => quiet⟩
  dsimp only
  cases threadHandle thread 0 threads with
  | none => exact ⟨quiet.prepared, fun _ => quiet⟩
  | some handle =>
      dsimp only
      rw [meets_ite]
      refine ⟨fun _ => ⟨quiet.prepared, fun _ => quiet⟩, fun _ => ?_⟩
      apply keptByReads_quiet.ask quiet rfl
      rintro (_ | context) later quiet -
      · exact ⟨quiet.prepared, fun _ => quiet⟩
      rw [meets_ite]
      refine ⟨fun _ => ⟨quiet.prepared, fun _ => quiet⟩, fun _ => ?_⟩
      apply meets_native
      rintro (_ | _)
      · have unchanged : Quiet (later ++ [⟨.setThreadContext handle
            (applyRegisterAssignments context assignments).2, false⟩]) :=
          keptByReads_quiet quiet rfl
        exact ⟨unchanged.prepared, fun _ => unchanged⟩
      have written : OnlyPrepared .continueException (later ++ [⟨.setThreadContext handle
          (applyRegisterAssignments context assignments).2, true⟩]) :=
        prepared_concat.mpr ⟨quiet.prepared, fun _ => rfl⟩
      apply keptByReads_prepared.ask written rfl
      rintro (_ | observed) last prepared -
      · exact ⟨prepared, by simp⟩
      · rw [meets_ite]
        exact ⟨fun _ => ⟨prepared, by simp⟩, fun _ => ⟨prepared, by simp⟩⟩

/-! ### The part behind the checks -/

theorem releaseClaim_spec {holds : List NativeRecord → Prop} (kept : KeptByReads holds)
    (start : holds past) : (releaseClaim method).Meets recording (fun _ => holds) past := by
  rw [releaseClaim, meets_ite]
  exact ⟨fun _ => meets_put_recording.mpr fun _ => kept start rfl, fun _ => start⟩

theorem confirmRun_spec {plan : RunPlan} (planned : Planned request method plan history)
    {holds : List NativeRecord → Prop} (kept : KeptByReads holds) (start : holds past) :
    (confirmRun method plan.expected before).Meets recording
      (fun confirmed later => holds later ∧
        (confirmed = true → SeenBy (· = method.confirmation before) later)) past := by
  rw [planned.expected]
  cases method <;>
    exact meets_put_recording.mpr fun confirmed => ⟨kept start rfl, by
      rintro rfl
      exact seenBy_last rfl⟩

/-- The confirmed step can be told of, or the answer does not call its outcome unknown. -/
theorem answerStep_spec {plan : RunPlan} {confirmed : Nat} (step : method.isStep = true)
    (planned : Planned request method plan past)
    (asked : ∀ asked, request.targetThreadId = some asked →
      plan.stepThread.map UInt32.toNat = some asked)
    (ran : Ran request method before past)
    (seen : SeenBy (· = method.confirmation before) past)
    (generation : SeenBy (· = ⟨.observedGeneration method.expected, confirmed⟩) past) :
    (answerStep plan.stepThread confirmed).Meets recording (RunOutcome request method) past := by
  rw [answerStep]
  refine ((keptByReads_planned plan).and (keptByReads_ran.and ((keptByReads_seenBy _).and
    (keptByReads_seenBy _)))).ask ⟨planned, ran, seen, generation⟩ rfl ?_
  rintro observed later ⟨planned, ran, seen, generation⟩ reached
  have paused : SeenBy (· = ⟨.latestPause, observed⟩) later := by
    rw [reached]
    exact seenBy_last rfl
  rw [meets_ite]
  refine ⟨fun _ => ran.admits rfl, fun correlated => ?_⟩
  simp only [Bool.or_eq_true, Bool.not_eq_true', bne_iff_ne, not_or, Bool.not_eq_false,
    not_not] at correlated
  refine ((keptByReads_planned plan).and (keptByReads_ran.and ((keptByReads_seenBy _).and
    ((keptByReads_seenBy _).and (keptByReads_seenBy _))))).ask
    ⟨planned, ran, seen, generation, paused⟩ rfl ?_
  rintro (_ | ⟨instructionPointer, stackPointer⟩) last ⟨planned, ran, seen, generation, paused⟩ told
  · exact RunSlip.refuses (.stepped step ran seen (.inl rfl)) rfl
  have registers : SeenBy (· = ⟨.registers, some (instructionPointer, stackPointer)⟩) last := by
    rw [told]
    exact seenBy_last rfl
  apply meets_native
  rintro (_ | ⟨pause, thread⟩)
  · exact RunSlip.refuses (.stepped step (keptByReads_ran ran rfl)
      (keptByReads_seenBy _ seen rfl) (.inr rfl)) rfl
  · refine ⟨by rintro _ ⟨⟩, by rintro _ ⟨⟩, ?_⟩
    rintro _ _ ⟨⟩
    refine ⟨⟨before, keptByReads_ran ran rfl, keptByReads_seenBy _ seen rfl⟩,
      keptByReads_seenBy _ generation rfl, ?_⟩
    refine .stepped step (List.mem_append_left _ (planned.thread _ correlated.2)) ?_
      ⟨correlated.1, rfl⟩ (keptByReads_seenBy _ paused rfl)
      (keptByReads_seenBy _ registers rfl) List.getLast?_concat
    intro target told
    have same := asked target told
    rw [correlated.2, Option.map_some, Option.some.injEq] at same
    exact same.symm

theorem executeRun_spec {plan : RunPlan} (planned : Planned request method plan past)
    (asked : ∀ asked, method.isStep = true → request.targetThreadId = some asked →
      plan.stepThread.map UInt32.toNat = some asked)
    (prepared : OnlyPrepared method past) (quiet : method ≠ .continueException → Quiet past) :
    (executeRun method plan).Meets recording (RunOutcome request method) past := by
  rw [executeRun]
  apply meets_native
  intro before
  have chosen := planned.command
  rw [meets_bind]
  refine ((submitRun_spec chosen (keptByReads_prepared prepared rfl)
    (fun other => keptByReads_quiet (quiet other) rfl) (List.mem_append_right _
      (List.mem_singleton.mpr rfl))).and (meets_extends _)).mono ?_
  rintro (error | _ | _) later ⟨⟨errors, refused, accepted⟩, extended⟩
  · rcases errors error rfl with ⟨known, quiet⟩
    exact quiet.refusesRun known
  · rcases refused rfl with quiet | slip
    · exact quiet.refusesRun rfl
    · exact slip.refuses rfl
  have ran := accepted rfl
  have planned := (planned.extend (List.prefix_append _ _)).extend extended
  dsimp only
  rw [meets_bind]
  refine (confirmRun_spec planned ((keptByReads_planned plan).and keptByReads_ran)
    ⟨planned, ran⟩).mono ?_
  rintro (_ | _) later ⟨⟨planned, ran⟩, confirmed⟩
  · exact ran.admits rfl
  rw [meets_ite]
  refine ⟨by rintro ⟨⟩, fun _ => ?_⟩
  rw [meets_bind]
  refine (releaseClaim_spec ((keptByReads_planned plan).and (keptByReads_ran.and
    (keptByReads_seenBy _))) ⟨planned, ran, confirmed rfl⟩).mono ?_
  rintro _ later ⟨planned, ran, seen⟩
  refine ((keptByReads_planned plan).and (keptByReads_ran.and (keptByReads_seenBy _))).ask
    ⟨planned, ran, seen⟩ rfl ?_
  rintro confirmed later ⟨planned, ran, seen⟩ told
  have generation : SeenBy (· = ⟨.observedGeneration method.expected, confirmed⟩) later := by
    rw [told, planned.expected]
    exact seenBy_last rfl
  rw [meets_ite]
  constructor
  · intro step
    exact answerStep_spec step planned (fun target => asked target step) ran seen generation
  · intro other
    refine ⟨by rintro _ ⟨⟩, by rintro _ ⟨⟩, ?_⟩
    rintro _ _ ⟨⟩
    refine ⟨⟨before, ran, seen⟩, generation, ?_⟩
    rw [planned.expected]
    exact .state (Bool.not_eq_true _ ▸ other)

/-! ### All methods -/

theorem runStateError_spec (quiet : Quiet past) :
    (runStateError method).Meets recording
      (fun error later => Quiet later ∧ error.unknown = false) past := by
  rw [runStateError, meets_ite]
  refine ⟨fun _ => ?_, fun _ => ⟨quiet, rfl⟩⟩
  apply keptByReads_quiet.ask quiet rfl
  intro origin later quiet _
  rw [meets_ite]
  exact ⟨fun _ => ⟨quiet, rfl⟩, fun _ => ⟨quiet, rfl⟩⟩

theorem threadContextError_known (status : ThreadContextStatus) :
    (threadContextError request status).unknown = false := by
  cases status <;> first | rfl | (rw [threadContextError]; split_ifs <;> rfl)

theorem overriding_spec {plan : RunPlan} {rest : Handler RunResponse} (quiet : Quiet past)
    (planned : Planned request method plan past)
    (onward : ∀ later, OnlyPrepared method later → (method ≠ .continueException → Quiet later) →
      Planned request method plan later → rest.Meets recording (RunOutcome request method) later) :
    (overriding request plan rest).Meets recording (RunOutcome request method) past := by
  rw [overriding]
  cases overridden : plan.overrideThread with
  | none => exact onward past quiet.prepared (fun _ => quiet) planned
  | some thread =>
      obtain rfl := planned.overrides (by rw [overridden]; rfl)
      dsimp only
      rw [meets_bind]
      apply ((mutateThreadContext_spec quiet).and (meets_extends _)).mono
      rintro status later ⟨⟨prepared, unchanged⟩, extended⟩
      have planned := planned.extend extended
      cases status with
      | ok => exact onward later prepared (fun other => absurd rfl other) planned
      | invalidList => exact (unchanged (by simp)).refusesRun rfl
      | missing => exact (unchanged (by simp)).refusesRun (threadContextError_known _)
      | unavailable => exact RunSlip.refuses (.overridden prepared (by simp)) rfl
      | changed => exact RunSlip.refuses (.overridden prepared (by simp)) rfl

theorem controlRun_spec :
    (controlRun request method).Meets recording (RunOutcome request method) [] := by
  rw [controlRun]
  apply keptByReads_quiet.ask quiet_nil rfl
  intro _ later quiet _
  apply keptByReads_quiet.ask quiet rfl
  intro state later quiet _
  rw [meets_bind]
  apply (planRun_spec quiet).mono
  rintro (error | plan) later ⟨quiet, errors, plans⟩
  · exact quiet.refusesRun (errors error rfl)
  have planned := plans plan rfl
  dsimp only
  rw [meets_ite]
  constructor
  · intro _
    rw [meets_bind]
    exact (runStateError_spec quiet).mono fun _ _ ends => ends.1.refusesRun ends.2
  intro _
  apply (keptByReads_quiet.and (keptByReads_planned plan)).ask ⟨quiet, planned⟩ rfl
  rintro debugging later ⟨quiet, planned⟩ -
  rw [meets_ite]
  constructor
  · intro _
    rw [meets_bind]
    exact (runStateError_spec quiet).mono fun _ _ ends => ends.1.refusesRun ends.2
  intro _
  rw [meets_ite]
  refine ⟨fun _ => quiet.refusesRun rfl, fun _ => ?_⟩
  rw [meets_ite]
  refine ⟨fun _ => quiet.refusesRun rfl, fun same => ?_⟩
  apply overriding_spec quiet planned
  intro later prepared quiet planned
  refine executeRun_spec planned ?_ prepared quiet
  intro asked step target
  have stepped := planned.steps step
  rw [target, stepped, Bool.true_and, Option.isSome_some, Bool.true_and, bne_iff_ne, not_not] at same
  exact same.symm

end Steps

/-- An error that calls the outcome unknown stands for the one accepted command; any other
stands for nothing that was changed, but for the slips. -/
theorem controlRun_error {request : Request} {method : RunMethod} {response : RunResponse}
    {history : List NativeRecord}
    (runs : (controlRun request method).Runs recording [] response history)
    {error : ErrorResponse} (failed : response = .error error) :
    (error.unknown = true → ∃ before, Ran request method before history) ∧
      (error.unknown = false → Quiet history ∨ RunSlip request method error history) := by
  have outcome := meets_iff.mp controlRun_spec _ _ runs
  exact ⟨outcome.unknown error failed, outcome.known error failed⟩

/-- The step was confirmed, and the debugger had gone on before it could be told of. -/
theorem controlRun_error_superseded :
    (stepSuperseded.unknown = true → ∃ before, Ran sampleRequest .stepInto before
        ((controlRun sampleRequest .stepInto).play agreeable []).2) ∧
      (stepSuperseded.unknown = false →
        Quiet ((controlRun sampleRequest .stepInto).play agreeable []).2 ∨
          RunSlip sampleRequest .stepInto stepSuperseded
            ((controlRun sampleRequest .stepInto).play agreeable []).2) :=
  controlRun_error (runs_play agreeable _ [])
    (show ((controlRun sampleRequest .stepInto).play agreeable []).1 = .error stepSuperseded by rfl)

/-- This was accepted, and nothing else changed anything. -/
def Once (submission : NativeRecord) (history : List NativeRecord) : Prop :=
  ∃ earlier later, history = earlier ++ submission :: later ∧ Quiet earlier ∧ Quiet later

/-- The same, behind an answer that was read before. -/
def OnceBehind (read submission : NativeRecord) (history : List NativeRecord) : Prop :=
  ∃ earlier later, history = earlier ++ submission :: later ∧ Quiet earlier ∧ Quiet later ∧
    read ∈ earlier

theorem OnceBehind.once {read submission : NativeRecord} {history : List NativeRecord}
    (behind : OnceBehind read submission history) : Once submission history := by
  rcases behind with ⟨earlier, later, split, before, quiet, -⟩
  exact ⟨earlier, later, split, before, quiet⟩

/-- The command that lets the debuggee run. -/
abbrev runCommand : NativeRecord :=
  ⟨.cmdExec (utf8 "run"), true⟩

/-- A look behind which the breakpoint of the request is gone. -/
inductive RunToGone (target : Nat) (ownedName : String) : NativeRecord → Prop
  | absent : RunToGone target ownedName (look .normal target none)
  | foreign {found : BridgeBreakpoint}
      (other : runToBreakpointOwned found target ownedName = false) :
      RunToGone target ownedName (look .normal target (some found))

/-- The debuggee was let run exactly once. -/
def LetRun (history : List NativeRecord) : Prop :=
  ∃ earlier later, history = earlier ++ runCommand :: later ∧ runCommand ∉ earlier ∧
    runCommand ∉ later

/-- The debuggee was let run exactly once, behind a look at the generation, and these came
behind it. -/
def RunBetween (before : Nat) (told history : List NativeRecord) : Prop :=
  ∃ earlier later, history = earlier ++ runCommand :: later ∧ runCommand ∉ earlier ∧
    runCommand ∉ later ∧ (⟨.generation, before⟩ : NativeRecord) ∈ earlier ∧
      ∀ record ∈ told, record ∈ later

/-- The pause that ended the run, and whether it was the one that a run was given which took
too long. -/
inductive RunPaused (history : List NativeRecord) : Nat → PauseObservation → Bool → Prop
  | ended {before : Nat} {ended : RunEnd}
      (ran : RunBetween before [⟨.waitForRunEnd before, ended⟩] history)
      (newer : before < ended.pausedGeneration) :
      RunPaused history ended.pausedGeneration ended.pause false
  | interrupted {before beforePause generation : Nat} {pause : PauseObservation}
      (ran : RunBetween before [⟨.pausedObservation, (generation, pause)⟩,
        ⟨.waitForState .paused beforePause, true⟩] history) :
      RunPaused history generation pause true

/-- What a success tells. -/
inductive RunToTold (target : Nat) (ownedName : String) (history : List NativeRecord) :
    Nat → RunToResult → Prop
  | already {generation stackPointer : Nat} {pause : PauseObservation} (quiet : Quiet history)
      (current : (⟨.pausedSnapshotCurrent generation, true⟩ : NativeRecord) ∈ history)
      (there : (⟨.registers, some (target, stackPointer)⟩ : NativeRecord) ∈ history)
      (last : history.getLast? = some ⟨.latestPause, pause⟩) :
      RunToTold target ownedName history generation ⟨true, false, some (pause, target), none⟩
  | stopped {generation instructionPointer stackPointer : Nat} {completed timedOut : Bool}
      {pause : PauseObservation} {interruption : Option String}
      (paused : RunPaused history generation pause timedOut)
      (gone : SeenBy (RunToGone target ownedName) history)
      (registers : SeenBy (· = ⟨.registers, some (instructionPointer, stackPointer)⟩) history)
      (reached : completed = true ↔ timedOut = false ∧ pause.kind = .breakpoint ∧
        pause.hasAddress = true ∧ pause.address.toNat = target ∧
        pause.breakpointType = normalBreakpointType)
      (interrupted : interruption =
        if completed then none else some (interruptionName timedOut pause.kind))
      (last : history.getLast? = some ⟨.pauseObservationCurrent generation pause.generation, true⟩) :
      RunToTold target ownedName history generation
        ⟨completed, true, some (pause, instructionPointer), interruption⟩
  | exited {before generation : Nat}
      (absent : RunBetween before [⟨.waitForState .absent before, true⟩] history ∨
        RunBetween before [⟨.debuggeeState, DebuggeeState.absent⟩] history)
      (last : history.getLast? = some ⟨.observedGeneration .absent, generation⟩) :
      RunToTold target ownedName history generation ⟨false, true, none, some "process_exited"⟩

/-- What the answer of a run to an address is worth. -/
structure RunToOutcome (target : Nat) (ownedName : String) (response : RunToResponse)
    (history : List NativeRecord) : Prop where
  known : ∀ error, response = .error error → error.unknown = false →
    Quiet history ∨ SeenBy (RunToGone target ownedName) history ∧
      (runCommand ∉ history ∨ LetRun history ∧ error = runToSuperseded)
  unknown : ∀ error, response = .error error → error.unknown = true → ¬ Quiet history
  told : ∀ generation result, response = .ok (generation, result) →
    RunToTold target ownedName history generation result

section RunTo

variable {target : Nat} {ownedName : String} {past history : List NativeRecord} {rounds : Nat}

/-- A change that is not the run. -/
theorem runCommand_notMem_concat {record : NativeRecord} (other : record ≠ runCommand) :
    runCommand ∉ history ++ [record] ↔ runCommand ∉ history := by
  rw [List.mem_append, List.mem_singleton, not_or]
  exact and_iff_left other.symm

/-- The breakpoint may be set, and the debuggee was not let run. -/
def SetUp (history : List NativeRecord) : Prop :=
  runCommand ∉ history ∧ ¬ Quiet history

theorem LetRun.concat (letRun : LetRun history) {record : NativeRecord}
    (other : record ≠ runCommand) : LetRun (history ++ [record]) := by
  rcases letRun with ⟨earlier, later, rfl, before, behind⟩
  exact ⟨earlier, later ++ [record], by simp, before, (runCommand_notMem_concat other).mpr behind⟩

theorem RunBetween.letRun {before : Nat} {told : List NativeRecord}
    (between : RunBetween before told history) : LetRun history := by
  rcases between with ⟨earlier, later, split, notBefore, notBehind, -, -⟩
  exact ⟨earlier, later, split, notBefore, notBehind⟩

theorem RunBetween.concat {before : Nat} {told : List NativeRecord}
    (between : RunBetween before told history) {record : NativeRecord}
    (other : record ≠ runCommand) : RunBetween before told (history ++ [record]) := by
  rcases between with ⟨earlier, later, rfl, notBefore, notBehind, looked, behind⟩
  exact ⟨earlier, later ++ [record], by simp, notBefore,
    (runCommand_notMem_concat other).mpr notBehind, looked,
    fun each member => List.mem_append_left _ (behind each member)⟩

theorem RunPaused.concat {generation : Nat} {pause : PauseObservation} {timedOut : Bool}
    (paused : RunPaused history generation pause timedOut) {record : NativeRecord}
    (other : record ≠ runCommand) :
    RunPaused (history ++ [record]) generation pause timedOut := by
  cases paused with
  | ended ran newer => exact .ended (ran.concat other) newer
  | interrupted ran => exact .interrupted (ran.concat other)

theorem RunPaused.letRun {generation : Nat} {pause : PauseObservation} {timedOut : Bool}
    (paused : RunPaused history generation pause timedOut) : LetRun history := by
  cases paused with
  | ended ran => exact ran.letRun
  | interrupted ran => exact ran.letRun

/-- The error of a request that has cleaned up before the run. -/
theorem SetUp.cleanedUp (setUp : SetUp history) {status : CleanupStatus}
    (gone : status ≠ .unconfirmed → SeenBy (RunToGone target ownedName) history)
    {error : ErrorResponse} (known : error.unknown = false → status ≠ .unconfirmed) :
    RunToOutcome target ownedName (.error error) history where
  known := by
    rintro _ ⟨⟩ told
    exact .inr ⟨gone (known told), .inl setUp.1⟩
  unknown := fun _ _ _ => setUp.2
  told := by rintro _ _ ⟨⟩

end RunTo

end X64dbgMcp.Plugin
