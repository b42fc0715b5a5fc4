import X64dbgMcp.Fence.CommandFence
import X64dbgMcp.Plugin.BreakpointOwnership
import X64dbgMcp.Plugin.Patching
import X64dbgMcp.Plugin.RegisterPolicy
import X64dbgMcp.Runtime.State
import X64dbgMcp.Transition.Dialogue

/-!
# What handlers ask the debugger

A handler that changes the debuggee is a dialogue with x64dbg and with the runtime of the
plugin.  Every native call that it makes, in the order in which it makes them, is a question;
nothing is said here about the answers.
-/

namespace X64dbgMcp.Plugin

open Fence Text Transition
open X64dbgMcp.Runtime (DebuggeeState PauseObservation PauseReasonKind SessionOrigin)

/-- The functions of `DBGFUNCTIONS` that handlers test for. -/
inductive NativeFunction where
  | getBridgeBp
  | memBpSize
  | bpRefVa
  | bpRefException
  | bpRefExists
  | bpSetFieldText
  | bpSetFieldNumber
  deriving DecidableEq

/-- `BP_REF` -/
structure BreakpointReference where
  type : BreakpointType
  address : Nat
  deriving DecidableEq

/-- The fields that handlers write. -/
inductive BreakpointField where
  | name
  | breakCondition
  | fastResume
  deriving DecidableEq

/-- What `run_to_address` reads under the state mutex when its wait has ended. -/
structure RunEnd where
  /-- The result of the wait. -/
  terminal : Bool
  ready : Bool
  state : DebuggeeState
  pausedGeneration : Nat
  absentGeneration : Nat
  pause : PauseObservation
  deriving DecidableEq

/-- What a handler asks x64dbg or the runtime. -/
inductive NativeCall where
  /-- `BeginPausedSnapshot` -/
  | beginPausedSnapshot
  | pausedSnapshotCurrent (generation : Nat)
  /-- `generation_.load` -/
  | generation
  /-- `DbgIsDebugging` -/
  | isDebugging
  | resolveAddress (reference : AddressReference)
  /-- `DbgFunctions`, and whether it offers all of these. -/
  | offers (functions : List NativeFunction)
  | getBridgeBp (type : BreakpointType) (address : Nat)
  /-- `DbgGetBpxTypeAt`, with its bit `bp_normal`. -/
  | getBpxTypeAt (address : Nat)
  /-- `DbgGetBpList` for hardware breakpoints; nothing when the list is malformed. -/
  | hardwareBreakpoints
  | memBpSize (address : Nat)
  /-- `DbgMemFindBaseAddr`, with the size of the region. -/
  | memFindBaseAddr (address : Nat)
  /-- Whether the pause of this generation is that of a process which has just started. -/
  | initializing (generation : Nat)
  /-- Whether the plugin is ready and the deadline ahead. -/
  | inTime
  /-- `BCryptGenRandom` for a token; zero when it fails. -/
  | random
  | arm (token : UInt64)
  | cancel (token : UInt64)
  | wait (token : UInt64)
  /-- `DbgCmdExec`, which appends the command to the queue of the debugger. -/
  | cmdExec (command : List UInt8)
  /-- `DbgCmdExecDirect`, which runs the command. -/
  | cmdExecDirect (command : List UInt8)
  | bpRefVa (reference : BreakpointReference)
  | bpRefException (reference : BreakpointReference)
  | bpRefExists (reference : BreakpointReference)
  | bpSetFieldText (reference : BreakpointReference) (field : BreakpointField)
      (text : List UInt8)
  | bpSetFieldNumber (reference : BreakpointReference) (field : BreakpointField) (value : Nat)
  /-- `DbgGetRegDumpEx`, with the instruction pointer and the stack pointer. -/
  | registers
  /-- `DbgDisasmAt`, with the size and the text of the instruction. -/
  | disasmAt (address : Nat)
  /-- `latestPause_` -/
  | latestPause
  /-- `pausedGeneration_` with `latestPause_` -/
  | pausedObservation
  | pauseObservationCurrent (generation pauseGeneration : Nat)
  | debuggeeState
  | observedGeneration (state : DebuggeeState)
  | sessionOrigin
  | ownedPauseException
  /-- `latestPause_` and `activeThreadId_`, unless the debugger has left this pause. -/
  | confirmedPause (generation : Nat)
  | waitForState (expected : DebuggeeState) (afterGeneration : Nat)
  | waitForPauseReason (reason : PauseReasonKind) (afterGeneration : Nat)
  /-- The wait of `run_to_address`. -/
  | waitForRunEnd (afterGeneration : Nat)
  /-- `ReconcileDebuggerLiveness` -/
  | reconcileLiveness
  /-- `DbgGetThreadId` -/
  | threadId
  /-- `DbgGetThreadList`, with the handle of every thread; nothing when it is malformed. -/
  | threadList
  | getThreadContext (thread : Nat)
  | setThreadContext (thread : Nat) (context : ThreadContext)
  /-- `pauseInterruptPending_.exchange(true)` -/
  | claimInterrupt
  /-- `pauseInterruptPending_.store(false)` -/
  | releaseInterrupt
  /-- Store the selected thread in `ownedPauseSelectedThreadId_`. -/
  | keepSelectedThread
  /-- `ownedPauseSelectedThreadId_.exchange(0)` -/
  | takeSelectedThread
  /-- `CreateRemoteThread` at `DbgBreakPoint`, where both handles are there. -/
  | interrupt
  deriving DecidableEq

/-- What it is told. -/
abbrev NativeCall.Answer : NativeCall → Type
  | .beginPausedSnapshot => Option Nat
  | .pausedSnapshotCurrent _ | .isDebugging | .offers _ | .getBpxTypeAt _ | .initializing _
  | .inTime | .arm _ | .cmdExec _ | .cmdExecDirect _ | .bpRefVa _ | .bpRefExists _
  | .bpSetFieldText .. | .bpSetFieldNumber .. | .pauseObservationCurrent .. | .waitForState ..
  | .waitForPauseReason .. | .ownedPauseException | .setThreadContext .. | .claimInterrupt
  | .interrupt => Bool
  | .generation | .memBpSize _ | .observedGeneration _ => Nat
  | .resolveAddress _ => Except AddressFailure Nat
  | .getBridgeBp .. => Option BridgeBreakpoint
  | .hardwareBreakpoints => Option (List BridgeBreakpoint)
  | .memFindBaseAddr _ => Nat × Nat
  | .random => UInt64
  | .cancel _ | .bpRefException _ | .reconcileLiveness | .releaseInterrupt | .keepSelectedThread =>
      Unit
  | .wait _ => CommandFenceWait
  | .registers => Option (Nat × Nat)
  | .disasmAt _ => Int × List UInt8
  | .latestPause => PauseObservation
  | .pausedObservation => Nat × PauseObservation
  | .debuggeeState => DebuggeeState
  | .sessionOrigin => SessionOrigin
  | .confirmedPause _ => Option (PauseObservation × UInt32)
  | .waitForRunEnd _ => RunEnd
  | .threadId | .takeSelectedThread => UInt32
  | .threadList => Option (List (UInt32 × Nat))
  | .getThreadContext _ => Option ThreadContext

/-- A handler that asks as it goes. -/
abbrev Handler :=
  Dialogue NativeCall NativeCall.Answer

/-- Ask and wait for the answer. -/
abbrev native (call : NativeCall) : Handler call.Answer :=
  .put call

/-! ## Commands -/

/-- `HexValue` -/
def hexValue (value : Nat) : List UInt8 :=
  utf8 "0x" ++ hexadecimal value

/-- What a fence command begins with. -/
def fencePrefix : List UInt8 :=
  utf8 "x64dbg_mcp_fence_internal "

/-- The command that signals a token, which is written in sixteen digits. -/
def fenceCommand (token : UInt64) : List UInt8 :=
  fencePrefix ++ (List.replicate (16 - (hexadecimal token.toNat).length) 0x30 ++
    hexadecimal token.toNat)

/-- The loop over the attempts to draw a token. -/
def drawToken : Nat → Handler UInt64
  | 0 => pure 0
  | attempts + 1 => do
      let token : UInt64 ← native .random
      if token = 0 then drawToken attempts else pure token

/-- `drawToken`, which is what every fenced command begins with. -/
def fenceToken : Handler UInt64 :=
  drawToken 4

/-- How far a fenced command has come. -/
inductive FencedProgress where
  | unarmed
  | refused
  | unfenced
  | unconfirmed
  | completed
  deriving DecidableEq

/-- Append a command and a fence behind it, and wait for the fence. -/
def submitFenced (command : List UInt8) : Handler FencedProgress := do
  let token ← fenceToken
  if token = 0 then return .unarmed
  if !(← native (.arm token)) then return .unarmed
  if !(← native (.cmdExec command)) then
    let _ ← native (.cancel token)
    return .refused
  if !(← native (.cmdExec (fenceCommand token))) then
    let _ ← native (.cancel token)
    return .unfenced
  match ← native (.wait token) with
  | .completed => return .completed
  | _ => return .unconfirmed

/-- What came of a fenced command. -/
inductive FencedStatus where
  | completed
  | rejected
  | unconfirmed
  deriving DecidableEq

/-- What the handlers of breakpoints make of it. -/
def FencedProgress.status : FencedProgress → FencedStatus
  | .unarmed | .refused => .rejected
  | .unfenced | .unconfirmed => .unconfirmed
  | .completed => .completed

/-- Run a command and learn only what came of it. -/
def submitFencedCommand (command : List UInt8) : Handler FencedStatus := do
  return (← submitFenced command).status

/-! ## Addresses -/

/-- The debuggee is not paused. -/
def notPaused : ErrorResponse :=
  ⟨"INVALID_DEBUGGER_STATE", "operation requires a paused debuggee", false, false⟩

/-- What every method with an address does first. -/
def resolvedLocation {α : Type} (request : Request)
    (handle : (address generation : Nat) → Handler (Except ErrorResponse α)) :
    Handler (Except ErrorResponse α) := do
  let some generation ← native .beginPausedSnapshot | return .error notPaused
  if !(← native .isDebugging) then return .error notPaused
  match ← native (.resolveAddress request.address) with
  | .error failure => return .error ⟨failure.code, failure.message, failure.retryable, false⟩
  | .ok address =>
      if !(← native (.pausedSnapshotCurrent generation)) then
        return .error ⟨"BUSY", "debugger changed during address resolution", true, false⟩
      handle address generation

end X64dbgMcp.Plugin
