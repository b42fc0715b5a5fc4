import X64dbgMcp.Plugin.BreakpointMutations
import X64dbgMcp.Settings.ScyllaHide

/-!
# The handlers that run the debuggee

Pausing, resuming, stepping and stopping submit one command each and wait for the callback
that tells of it.  Running to an address sets a breakpoint of its own first, and removes it
behind the run.
-/

namespace X64dbgMcp.Plugin

open Text Transition
open X64dbgMcp.Runtime (DebuggeeState PauseObservation PauseReasonKind)

/-! ## Pause, resume, step and stop -/

/-- The methods that run or stop the debuggee. -/
inductive RunMethod where
  | pause
  | resume
  | continueException
  | stepInto
  | stepOver
  | stop
  deriving DecidableEq

namespace RunMethod

/-- The method of this name. -/
def ofName (method : String) : Option RunMethod :=
  if method = "debugger.pause" then some .pause
  else if method = "debugger.resume" then some .resume
  else if method = "debugger.continue_exception" then some .continueException
  else if method = "debugger.step_into" then some .stepInto
  else if method = "debugger.step_over" then some .stepOver
  else if method = "debugger.stop" then some .stop
  else none

/-- The name of a method. -/
def name : RunMethod → String
  | .pause => "debugger.pause"
  | .resume => "debugger.resume"
  | .continueException => "debugger.continue_exception"
  | .stepInto => "debugger.step_into"
  | .stepOver => "debugger.step_over"
  | .stop => "debugger.stop"

/-- Each method has one name, so what holds of all methods holds of these requests. -/
theorem ofName_eq_some_iff {name : String} {method : RunMethod} :
    ofName name = some method ↔ name = method.name := by
  constructor
  · intro asked
    simp only [ofName] at asked
    split_ifs at asked with same same same same same same <;> cases asked <;> exact same
  · rintro rfl
    cases method <;> rfl

/-- The parser takes a request of each method for a mutation. -/
theorem isMutation_name (method : RunMethod) : isMutation method.name = true := by
  cases method <;> decide

/-- The method steps. -/
def isStep : RunMethod → Bool
  | .stepInto | .stepOver => true
  | _ => false

end RunMethod

/-- What a request is about to do. -/
structure RunPlan where
  command : String := ""
  expected : DebuggeeState
  valid : Bool
  stepThread : Option UInt32 := none
  overrideThread : Option UInt32 := none

/-- The check of a register override before the pause is looked at. -/
def overrideWritable (assignment : RegisterAssignment) : Bool :=
  match findWritableRegister assignment.name with
  | none => false
  | some spec => !(spec.bits < 64 && 2 ^ spec.bits ≤ assignment.value)

/-- The plan of a step. -/
def planStep (state : DebuggeeState) (command : String) : Handler (Except ErrorResponse RunPlan) := do
  let thread : UInt32 ← native .threadId
  return .ok { command, expected := .paused, valid := state = .paused, stepThread := thread }

/-- The branches over the method. -/
def planRun (request : Request) (state : DebuggeeState) :
    RunMethod → Handler (Except ErrorResponse RunPlan)
  | .pause => return .ok { expected := .paused, valid := state = .running }
  | .resume => do
      let owned : Bool ← native .ownedPauseException
      return .ok { command := if owned then "serun" else "run", expected := .running,
                   valid := state = .paused }
  | .continueException => do
      let pause : PauseObservation ← native .latestPause
      if !request.exceptionRegisterOverrides.all overrideWritable then
        return .error ⟨"INVALID_ARGUMENT",
          "register override is not writable on this architecture", false, false⟩
      let overrides := !request.exceptionRegisterOverrides.isEmpty
      if overrides && !pause.hasThreadId then
        return .error ⟨"INVALID_DEBUGGER_STATE", "exception pause has no correlated thread",
          false, false⟩
      let handled : Bool := request.exceptionDisposition = "handled"
      return .ok {
        command := if handled then "serun" else "erun"
        expected := .running
        valid := state = .paused && pause.kind == .exception && pause.hasExceptionCode &&
          (handled || pause.firstChance)
        overrideThread := if overrides then some pause.threadId else none }
  | .stepInto => planStep state "sti"
  | .stepOver => planStep state "sto"
  | .stop => do
      let origin : Runtime.SessionOrigin ← native .sessionOrigin
      return .ok {
        command := "stop"
        expected := .absent
        valid := (state == .starting || state == .running || state == .paused) &&
          origin != .attached }

/-! ### Thread contexts -/

/-- What came of a change of a thread's context. -/
inductive ThreadContextStatus where
  | ok
  | invalidList
  | missing
  | unavailable
  | changed
  deriving DecidableEq

/-- `INVALID_HANDLE_VALUE` -/
def invalidHandle : Nat :=
  2 ^ 64 - 1

/-- The loop over the threads; nothing when two of them have the identifier. -/
def threadHandle (requested : UInt32) (handle : Nat) : List (UInt32 × Nat) → Option Nat
  | [] => some handle
  | (identifier, own) :: threads =>
      if identifier = requested then
        if handle ≠ 0 then none else threadHandle requested own threads
      else threadHandle requested handle threads

/-- Write registers of a thread. -/
def mutateThreadContext (requested : UInt32) (assignments : List RegisterAssignment) :
    Handler ThreadContextStatus := do
  if requested = 0 ∨ assignments.isEmpty then return .missing
  let some threads ← native .threadList | return .invalidList
  let some handle := threadHandle requested 0 threads | return .invalidList
  if handle = 0 ∨ handle = invalidHandle then return .missing
  let some context ← native (.getThreadContext handle) | return .unavailable
  let (applied, target) := applyRegisterAssignments context assignments
  if !applied then return .unavailable
  if !(← native (.setThreadContext handle target)) then return .unavailable
  let some observed ← native (.getThreadContext handle) | return .unavailable
  let registers := coreRegisterContext observed
  if assignments.all fun assignment =>
      registerValue registers assignment.name == some (UInt64.ofNat assignment.value) then
    return .ok
  return .changed

/-- The error for what came of it. -/
def threadContextError (request : Request) : ThreadContextStatus → ErrorResponse
  | .invalidList => ⟨"INTERNAL", "thread snapshot is invalid", false, false⟩
  | .missing =>
      if request.targetThreadId.isSome then
        ⟨"INVALID_ARGUMENT", "thread_id is not present in this debuggee", false, false⟩
      else ⟨"INVALID_DEBUGGER_STATE", "no current debugger thread is available", false, false⟩
  | .unavailable => ⟨"ACCESS_DENIED", "thread context is unavailable", false, false⟩
  | .changed =>
      ⟨"BUSY", "thread selection or context changed during capture", true, false⟩
  | .ok => ⟨"INTERNAL", "thread context status is invalid", false, false⟩

/-! ### Submission -/

/-- Interrupt the debuggee with a thread that runs into a breakpoint. -/
def interruptDebuggee : Handler (Except ErrorResponse Bool) := do
  let pending : Bool ← native .claimInterrupt
  if pending then
    return .error ⟨"BUSY", "a debugger interrupt is already pending", true, false⟩
  let _ ← native .keepSelectedThread
  let created : Bool ← native .interrupt
  if !created then
    let _ ← native .releaseInterrupt
    let _ ← native .takeSelectedThread
    return .ok false
  return .ok true

/-- Select another thread. -/
def switchThreadCommand (thread : UInt32) : List UInt8 :=
  utf8 "switchthread " ++ hexValue thread.toNat ++ utf8 ", silent"

/-- Go back to the thread that was selected before the interrupt. -/
def restoreSelectedThread : Handler Unit := do
  let owned : Bool ← native .ownedPauseException
  if owned then
    let thread : UInt32 ← native .takeSelectedThread
    if thread ≠ 0 then
      let _ ← native (.cmdExecDirect (switchThreadCommand thread))

/-- Whether the debugger accepted the command of the plan. -/
def submitRun (method : RunMethod) (command : String) : Handler (Except ErrorResponse Bool) := do
  match method with
  | .pause => interruptDebuggee
  | .stepInto | .stepOver => return .ok (← native (.cmdExecDirect (utf8 command)))
  | .resume =>
      restoreSelectedThread
      return .ok (← native (.cmdExec (utf8 command)))
  | .continueException | .stop => return .ok (← native (.cmdExec (utf8 command)))

/-- Wait until the debuggee is where the method leads. -/
def confirmRun (method : RunMethod) (expected : DebuggeeState) (before : Nat) : Handler Bool :=
  match method with
  | .stepInto | .stepOver => native (.waitForPauseReason .step before)
  | .pause => native (.waitForPauseReason .userPause before)
  | .resume | .continueException | .stop => native (.waitForState expected before)

/-- What a method tells. -/
inductive RunResult where
  | state (expected : DebuggeeState)
  | stepped (thread : UInt32) (instructionPointer : Nat) (pause : PauseObservation)
  deriving DecidableEq

/-- An error, or the generation of the answer with its result. -/
abbrev RunResponse :=
  Except ErrorResponse (Nat × RunResult)

/-- The error of a request whose submission was not accepted. -/
def rejectedRun (method : RunMethod) : ErrorResponse where
  code := "BUSY"
  message :=
    if method = .pause then "debugger interrupt request failed"
    else "debugger command queue rejected the operation"
  retryable := true
  unknown := false

/-- The registers behind a step cannot be read. -/
def stepUnreadable : ErrorResponse :=
  ⟨"INTERNAL", "step register snapshot is unavailable", true, false⟩

/-- The debuggee has moved on behind a step. -/
def stepSuperseded : ErrorResponse :=
  ⟨"BUSY", "debugger changed after the confirmed step", true, false⟩

/-- What a step reads behind its pause. -/
def answerStep (stepThread : Option UInt32) (confirmed : Nat) : Handler RunResponse := do
  let pause : PauseObservation ← native .latestPause
  if !pause.hasThreadId || stepThread != some pause.threadId then
    return .error ⟨"TIMEOUT", "step paused a different or uncorrelated thread", false, true⟩
  let some registers ← native .registers | return .error stepUnreadable
  let some (pause, thread) ← native (.confirmedPause confirmed) | return .error stepSuperseded
  return .ok (confirmed, .stepped thread registers.1 pause)

/-- A confirmed interrupt is no longer pending. -/
def releaseClaim (method : RunMethod) : Handler Unit :=
  if method = .pause then native .releaseInterrupt else pure ()

/-- The part behind the checks. -/
def executeRun (method : RunMethod) (plan : RunPlan) : Handler RunResponse := do
  let before : Nat ← native .generation
  match ← submitRun method plan.command with
  | .error response => return .error response
  | .ok false => return .error (rejectedRun method)
  | .ok true =>
      if !(← confirmRun method plan.expected before) then
        return .error ⟨"TIMEOUT", "mutation outcome was not callback-confirmed", false, true⟩
      releaseClaim method
      let confirmed : Nat ← native (.observedGeneration plan.expected)
      if method.isStep then answerStep plan.stepThread confirmed
      else return .ok (confirmed, .state plan.expected)

/-- The error of a request that the state of the debugger does not admit. -/
def runStateError (method : RunMethod) : Handler ErrorResponse := do
  let message := "operation is not valid in the current debugger state"
  if method = .stop then
    let origin : Runtime.SessionOrigin ← native .sessionOrigin
    if origin = .attached then
      return ⟨"INVALID_DEBUGGER_STATE",
        "stop is unsafe for an attached session; use debuggee.detach", false, false⟩
    return ⟨"INVALID_DEBUGGER_STATE", message, false, false⟩
  return ⟨"INVALID_DEBUGGER_STATE", message, false, false⟩

/-- The request is refused, or the registers of the thread are overridden and it goes on. -/
def overriding (request : Request) (plan : RunPlan) (rest : Handler RunResponse) :
    Handler RunResponse := do
  match plan.overrideThread with
  | none => rest
  | some thread =>
      match ← mutateThreadContext thread request.exceptionRegisterOverrides with
      | .ok => rest
      | status => return .error (threadContextError request status)

/-- `debugger.pause`, `debugger.resume`, `debugger.continue_exception`,
`debugger.step_into`, `debugger.step_over` and `debugger.stop` -/
def controlRun (request : Request) (method : RunMethod) : Handler RunResponse := do
  let _ ← native .reconcileLiveness
  let state : DebuggeeState ← native .debuggeeState
  match ← planRun request state method with
  | .error response => return .error response
  | .ok plan =>
      if !plan.valid then return .error (← runStateError method)
      if !(← native .isDebugging) then return .error (← runStateError method)
      if plan.stepThread = some 0 then
        return .error
          ⟨"INVALID_DEBUGGER_STATE", "no debug-event thread is available", false, false⟩
      if plan.stepThread.isSome && request.targetThreadId.isSome &&
          request.targetThreadId != plan.stepThread.map UInt32.toNat then
        return .error ⟨"INVALID_ARGUMENT",
          "thread_id must match x64dbg's current debug-event thread", false, false⟩
      overriding request plan (executeRun method plan)

/-! ## Step out -/

/-- A space or a tab. -/
def isBlank (byte : UInt8) : Bool :=
  byte == 0x20 || byte == 0x09

/-- What a run to an address tells. -/
structure RunToResult where
  completed : Bool
  resumed : Bool
  /-- The pause and its instruction pointer, unless the debuggee is gone. -/
  stopped : Option (PauseObservation × Nat)
  interruption : Option String
  deriving DecidableEq

/-- The answer to a run to an address. -/
abbrev RunToResponse :=
  Except ErrorResponse (Nat × RunToResult)

/-- What a cleanup says when the record is gone from the list. -/
def removedStatus (target : Nat) : Handler CleanupStatus := do
  let present : Bool ← native (.getBpxTypeAt target)
  return if present then .unconfirmed else .absent

/-- One round of the loop that waits for the record to go. -/
def cleanupRound (target : Nat) (ownedName : String) : Handler (Option CleanupStatus) := do
  if !(← native .inTime) then return some .unconfirmed
  let some observed ← native (.getBridgeBp .normal target)
    | return some (← removedStatus target)
  if !runToBreakpointOwned observed target ownedName then return some .foreign
  return none

/-- `cleanupOwned` -/
def cleanupOwned (rounds target : Nat) (ownedName : String) : Handler CleanupStatus := do
  let some current ← native (.getBridgeBp .normal target) | removedStatus target
  if !runToBreakpointOwned current target ownedName then return .foreign
  if !(← native (.cmdExec (clearCommand target))) then return .unconfirmed
  return (← Dialogue.repeatUpTo (cleanupRound target ownedName) rounds).getD .unconfirmed

/-- Set the breakpoint and look at it; nothing when it stands. -/
def installRunTo (rounds target generation : Nat) (ownedName : String) :
    Handler (Option ErrorResponse) := do
  match ← submitFenced (runToBreakpointSetCommand target ownedName) with
  | .unarmed => return some ⟨"BUSY", "run-to command fence is unavailable", true, false⟩
  | .refused =>
      return some ⟨"BUSY", "debugger command queue rejected run-to setup", true, false⟩
  | .unfenced =>
      return some
        ⟨"TIMEOUT", "run-to setup was admitted without a completion fence", false, true⟩
  | .unconfirmed =>
      return some ⟨"TIMEOUT", "run-to setup was not command-queue confirmed", false, true⟩
  | .completed =>
      let installed : Option BridgeBreakpoint ← native (.getBridgeBp .normal target)
      if !installed.any fun current =>
          runToBreakpointOwned current target ownedName && current.enabled && current.active then
        return some (abandoned "run-to breakpoint setup could not be verified"
          (← cleanupOwned rounds target ownedName))
      if !(← native (.pausedSnapshotCurrent generation)) then
        let status ← cleanupOwned rounds target ownedName
        return some
          ⟨"BUSY", "debugger changed during run-to setup", false, status ≠ .absent⟩
      return none

/-- `interruption` of a run that has not come to its target. -/
def interruptionName (timedOut : Bool) (kind : PauseReasonKind) : String :=
  if timedOut then "timeout"
  else
    match kind with
    | .breakpoint => "breakpoint"
    | .exception => "exception"
    | .step => "step"
    | .userPause => "user_pause"
    | .processCreated | .systemBreakpoint | .unknown => "unknown"

/-- The value of `bp_normal`. -/
def normalBreakpointType : UInt8 :=
  1

/-- The debuggee has moved on behind the cleanup. -/
def runToSuperseded : ErrorResponse :=
  ⟨"BUSY", "debugger changed after run-to cleanup", true, false⟩

/-- Remove the breakpoint behind the run, and answer. -/
def finishRunTo (rounds target : Nat) (ownedName : String) (timedOut : Bool)
    (finalGeneration : Nat) (finalPause : PauseObservation) : Handler RunToResponse := do
  if finalGeneration = 0 then
    return .error ⟨"TIMEOUT", "run-to outcome was not callback-confirmed", false, true⟩
  let state : DebuggeeState ← native .debuggeeState
  if state ≠ .paused then
    return .error ⟨"TIMEOUT", "run-to outcome was not callback-confirmed", false, true⟩
  let completed := !timedOut && finalPause.kind == .breakpoint && finalPause.hasAddress &&
    finalPause.address.toNat == target && finalPause.breakpointType == normalBreakpointType
  match ← cleanupOwned rounds target ownedName with
  | .foreign =>
      return .error ⟨"CONFLICT", "run-to target breakpoint ownership changed", false, true⟩
  | .unconfirmed =>
      return .error ⟨"TIMEOUT", "run-to temporary breakpoint cleanup was not confirmed",
        false, true⟩
  | .absent =>
      let some final ← native .registers | return .error runToSuperseded
      if !(← native (.pauseObservationCurrent finalGeneration finalPause.generation)) then
        return .error runToSuperseded
      return .ok (finalGeneration, {
        completed
        resumed := true
        stopped := some (finalPause, final.1)
        interruption :=
          if completed then none else some (interruptionName timedOut finalPause.kind) })

/-- The debuggee has exited during the run. -/
def exitRunTo (beforeRun : Nat) : Handler RunToResponse := do
  let exited := do
    let stopped : Nat ← native (.observedGeneration .absent)
    return .ok (stopped,
      { completed := false, resumed := true, stopped := none,
        interruption := some "process_exited" })
  if ← native (.waitForState .absent beforeRun) then exited
  else
    let state : DebuggeeState ← native .debuggeeState
    if state ≠ .absent then
      return .error ⟨"TIMEOUT", "debuggee exited before run-to cleanup was confirmed",
        false, true⟩
    exited

/-- Wait for the end of the run, and pause a run that takes too long. -/
def awaitRunTo (rounds target : Nat) (ownedName : String) (beforeRun : Nat) :
    Handler RunToResponse := do
  let ended : RunEnd ← native (.waitForRunEnd beforeRun)
  if !ended.ready then
    return .error ⟨"CANCELLED", "plugin drained during run-to", true, true⟩
  if beforeRun < ended.absentGeneration ∨ ended.state = .absent ∨ ended.state = .exited then
    exitRunTo beforeRun
  else if beforeRun < ended.pausedGeneration then
    finishRunTo rounds target ownedName false ended.pausedGeneration ended.pause
  else if ended.terminal then finishRunTo rounds target ownedName false 0 {}
  else
    let unpaused : ErrorResponse :=
      ⟨"TIMEOUT", "run-to timeout could not be paused for cleanup", false, true⟩
    let beforePause : Nat ← native .generation
    if !(← native (.cmdExec (utf8 "pause"))) then return .error unpaused
    if !(← native (.waitForState .paused beforePause)) then return .error unpaused
    let final : Nat × PauseObservation ← native .pausedObservation
    finishRunTo rounds target ownedName true final.1 final.2

/-- `debugger.run_to_address` behind the resolution of its address. -/
def runToAddress (rounds : Nat) (request : Request) (target generation : Nat) :
    Handler RunToResponse := do
  if !(← native (.pausedSnapshotCurrent generation)) then
    return .error ⟨"BUSY", "debugger changed before run-to validation", true, false⟩
  let some initial ← native .registers
    | return .error ⟨"INTERNAL", "register snapshot is unavailable", true, false⟩
  let instruction : Int × List UInt8 ← native (.disasmAt target)
  if instruction.1 ≤ 0 ∨ 15 < instruction.1 then
    return .error ⟨"ACCESS_DENIED", "run-to target is not decodable", false, false⟩
  let present : Bool ← native (.getBpxTypeAt target)
  if present then
    return .error ⟨"CONFLICT", "run-to target already has a software breakpoint", false, false⟩
  if initial.1 = target then
    let pause : PauseObservation ← native .latestPause
    return .ok (generation, {
      completed := true, resumed := false, stopped := some (pause, target),
      interruption := none })
  if !(← native (.offers [.getBridgeBp])) then
    return .error ⟨"INTERNAL", "software breakpoint read-back is unavailable", false, false⟩
  let ownedName := runToBreakpointName request.operationId
  match ← installRunTo rounds target generation ownedName with
  | some response => return .error response
  | none =>
      let beforeRun : Nat ← native .generation
      if !(← native (.cmdExec (utf8 "run"))) then
        let status ← cleanupOwned rounds target ownedName
        return .error ⟨"BUSY", "debugger command queue rejected run-to execution", false,
          status ≠ .absent⟩
      awaitRunTo rounds target ownedName beforeRun

end X64dbgMcp.Plugin
