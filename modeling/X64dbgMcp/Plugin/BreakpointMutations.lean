import X64dbgMcp.Plugin.BreakpointPolicy

/-!
# The handlers of breakpoints

Every handler looks before it changes something, submits its command, and looks again
before it answers.  A polling loop runs at most `rounds` times; the clock decides how often.
-/

namespace X64dbgMcp.Plugin

open Text Transition

/-- What a handler answers, without the location of the address. -/
inductive BreakpointResult where
  | exceptionToggled (code : UInt32) (chance : ExceptionChance) (managedId : String)
      (enabled changed : Bool)
  | exceptionPresent (code : UInt32) (chance : ExceptionChance) (managedId : String)
      (present : Bool)
  | toggled (kind : String) (address : Nat) (enabled changed : Bool)
  | hardwareToggled (address : Nat) (access : HardwareAccess) (size : Nat) (slot : Option Nat)
      (enabled changed : Bool)
  | memoryToggled (address : Nat) (mode : MemoryAccess) (size : Nat) (enabled changed : Bool)
  | conditionalToggled (address : Nat) (managedId : String) (conditionExpression : List UInt8)
      (fastResume enabled changed : Bool)
  | conditionalSet (address : Nat) (managedId : String) (condition : ConditionalSpec)
      (conditionExpression : String)
  | conditionalRemoved (address : Nat) (managedId : String)
  | software (address : Nat) (present : Bool)
  | hardware (address : Nat) (access : HardwareAccess) (size slot : Nat) (present : Bool)
  | memory (address : Nat) (mode : MemoryAccess) (size : Nat) (present : Bool)
  deriving DecidableEq

/-- An error, or the generation of the answer with its result. -/
abbrev BreakpointResponse :=
  Except ErrorResponse (Nat × BreakpointResult)

variable (build : Build) (types : NativeTypes) (rounds : Nat)

/-- Submit a fenced command and go on when it has run. -/
def submitting (command : List UInt8) (rejected unconfirmed : String)
    (rest : Handler BreakpointResponse) : Handler BreakpointResponse := do
  match ← submitFencedCommand command with
  | .rejected => return .error ⟨"BUSY", rejected, true, false⟩
  | .unconfirmed => return .error ⟨"TIMEOUT", unconfirmed, false, true⟩
  | .completed => rest

/-- A transition submits its command only when it changes something. -/
def transition (changed : Bool) (command : List UInt8) (rest : Handler BreakpointResponse) :
    Handler BreakpointResponse :=
  if changed then
    submitting command "debugger command queue rejected breakpoint transition"
      "breakpoint transition was admitted without confirmation" rest
  else rest

/-! ## Exception breakpoints -/

/-- x64dbg lacks the calls for exception breakpoints. -/
def exceptionUnavailable : ErrorResponse :=
  ⟨"INTERNAL", "typed exception breakpoint API is unavailable", false, false⟩

/-- The exception breakpoint is not the plugin's, or it was changed. -/
def exceptionForeign : ErrorResponse :=
  ⟨"CONFLICT", "exception breakpoint is foreign or was modified", false, false⟩

/-- The look behind the transition of an exception breakpoint. -/
def confirmException (request : Request) (enable : Bool) (snapshot : Nat) (code : UInt32)
    (chance : ExceptionChance) (before : BridgeBreakpoint) (changed : Bool) :
    Handler BreakpointResponse := do
  let unconfirmed : ErrorResponse :=
    ⟨"TIMEOUT", "exception breakpoint transition could not be exactly confirmed", false, changed⟩
  let some after ← native (.getBridgeBp .exception code.toNat) | return .error unconfirmed
  if after.enabled != enable ||
      !exceptionBreakpointOwned types.exceptionChance after code chance
        request.managedBreakpointId ||
      !breakpointConfigurationUnchanged before after false then
    return .error unconfirmed
  if !(← native (.pausedSnapshotCurrent snapshot)) then
    return .error ⟨"BUSY", "debugger changed during breakpoint transition", false, changed⟩
  return .ok (snapshot, .exceptionToggled code chance request.managedBreakpointId enable changed)

/-- `breakpoints.enable` and `breakpoints.disable` of an exception breakpoint. -/
def toggleException (request : Request) (enable : Bool) : Handler BreakpointResponse := do
  let code := UInt32.ofNat request.exceptionCode
  let some snapshot ← native .beginPausedSnapshot | return .error notPaused
  if !(← native .isDebugging) then return .error notPaused
  let some chance := parseExceptionChance request.exceptionChance
    | return .error exceptionUnavailable
  if !(← native (.offers [.getBridgeBp])) then return .error exceptionUnavailable
  let some before ← native (.getBridgeBp .exception code.toNat)
    | return .error ⟨"NOT_FOUND", "exception breakpoint does not exist", false, false⟩
  if !exceptionBreakpointOwned types.exceptionChance before code chance
      request.managedBreakpointId then
    return .error exceptionForeign
  let changed := before.enabled != enable
  transition changed (breakpointToggleCommand .exception code.toNat enable)
    (confirmException types request enable snapshot code chance before changed)

/-- What a cleanup finds or leaves. -/
inductive CleanupStatus where
  | absent
  | foreign
  | unconfirmed
  deriving DecidableEq

/-- An unnamed record of the same kind is taken for the one that was just created. -/
def exceptionBreakpointCreated (current : BridgeBreakpoint) (code : UInt32)
    (chance : ExceptionChance) (ownedName : String) : Bool :=
  strnlen current.name < current.name.length && current.type == .exception &&
    current.addr == code.toNat && current.typeEx == types.exceptionChance chance &&
    (current.name.take (strnlen current.name) == utf8 ownedName ||
      (current.name.take (strnlen current.name)).isEmpty)

/-- Remove a record, unless it is not the one that the request has made. -/
def cleanup (type : BreakpointType) (address : Nat) (created : BridgeBreakpoint → Bool)
    (command : List UInt8) : Handler CleanupStatus := do
  let some current ← native (.getBridgeBp type address) | return .absent
  if !created current then return .foreign
  if (← submitFencedCommand command) ≠ .completed then return .unconfirmed
  match ← native (.getBridgeBp type address) with
  | some _ => return .unconfirmed
  | none => return .absent

/-- The error of a request that could not finish what it had set up. -/
def abandoned (message : String) (status : CleanupStatus) : ErrorResponse where
  code := if status = .foreign then "CONFLICT" else "INTERNAL"
  message := message
  retryable := false
  unknown := status = .unconfirmed

/-- Delete an exception breakpoint that came about without being confirmed. -/
def exceptionCleanup (code : UInt32) (chance : ExceptionChance) (ownedName : String) :
    Handler CleanupStatus :=
  cleanup .exception code.toNat
    (fun current => exceptionBreakpointCreated types current code chance ownedName)
    (deleteExceptionCommand code)

/-- The last look at the snapshot. -/
def exceptionAnswer (request : Request) (snapshot : Nat) (code : UInt32)
    (chance : ExceptionChance) (present : Bool) : Handler BreakpointResponse := do
  if !(← native (.pausedSnapshotCurrent snapshot)) then
    return .error ⟨"BUSY", "debugger changed during exception breakpoint mutation", false, true⟩
  return .ok (snapshot, .exceptionPresent code chance request.managedBreakpointId present)

/-- Name the record that the command has created, and look at it. -/
def finishException (request : Request) (snapshot : Nat) (code : UInt32)
    (chance : ExceptionChance) : Handler BreakpointResponse := do
  let ownedName := managedBreakpointName "exception" request.managedBreakpointId
  let reference : BreakpointReference := ⟨.exception, code.toNat⟩
  let _ ← native (.bpRefException reference)
  let unassigned := "exception breakpoint ownership could not be assigned"
  if !(← native (.bpRefExists reference)) then
    return .error (abandoned unassigned (← exceptionCleanup types code chance ownedName))
  if !(← native (.bpSetFieldText reference .name (utf8 ownedName))) then
    return .error (abandoned unassigned (← exceptionCleanup types code chance ownedName))
  let unverified := "exception breakpoint setup could not be verified"
  let some installed ← native (.getBridgeBp .exception code.toNat)
    | return .error (abandoned unverified (← exceptionCleanup types code chance ownedName))
  if !exceptionBreakpointMatches types installed code chance request.managedBreakpointId then
    return .error (abandoned unverified (← exceptionCleanup types code chance ownedName))
  exceptionAnswer request snapshot code chance true

/-- `breakpoints.exception.set` and `breakpoints.exception.remove` -/
def mutateException (request : Request) (setting : Bool) : Handler BreakpointResponse := do
  let code := UInt32.ofNat request.exceptionCode
  let some snapshot ← native .beginPausedSnapshot | return .error notPaused
  if !(← native .isDebugging) then return .error notPaused
  let some chance := parseExceptionChance request.exceptionChance
    | return .error exceptionUnavailable
  if !(← native (.offers [.getBridgeBp, .bpRefException, .bpRefExists, .bpSetFieldText])) then
    return .error exceptionUnavailable
  if !(← native (.pausedSnapshotCurrent snapshot)) then
    return .error ⟨"BUSY", "debugger changed before exception breakpoint mutation", true, false⟩
  let before : Option BridgeBreakpoint ← native (.getBridgeBp .exception code.toNat)
  let rejected := "debugger command queue rejected exception breakpoint mutation"
  let unconfirmed := "exception breakpoint mutation was admitted without confirmation"
  if setting then
    if before.isSome then
      return .error ⟨"ALREADY_EXISTS", "an exception breakpoint already exists for this code",
        false, false⟩
    submitting (setExceptionCommand code chance) rejected unconfirmed
      (finishException types request snapshot code chance)
  else
    match before with
    | none => return .error ⟨"NOT_FOUND", "exception breakpoint does not exist", false, false⟩
    | some before =>
        if !exceptionBreakpointMatches types before code chance request.managedBreakpointId then
          return .error exceptionForeign
        submitting (deleteExceptionCommand code) rejected unconfirmed do
          match ← native (.getBridgeBp .exception code.toNat) with
          | some _ =>
              return .error ⟨"TIMEOUT", "exception breakpoint removal could not be confirmed",
                false, true⟩
          | none => exceptionAnswer request snapshot code chance false

/-! ## Transitions at an address -/

/-- What a transition must find, with the arguments that were read on the way. -/
inductive BreakpointSelector where
  | software
  | conditional
  | hardware (access : HardwareAccess)
  | memory (mode : MemoryAccess)
  deriving DecidableEq

namespace BreakpointSelector

/-- The type of breakpoint that the selector means. -/
def type : BreakpointSelector → BreakpointType
  | .software | .conditional => .normal
  | .hardware _ => .hardware
  | .memory _ => .memory

/-- The kind of transition that the selector asks for. -/
def kind : BreakpointSelector → BreakpointTransitionKind
  | .software => .software
  | .conditional => .conditional
  | .hardware _ => .hardware
  | .memory _ => .memory

end BreakpointSelector

/-- The breakpoint is not one that the selector means. -/
def selectorForeign : ErrorResponse :=
  ⟨"CONFLICT", "breakpoint does not exactly match the typed selector", false, false⟩

/-- Whether the record that was found before the transition is the selected one. -/
def selectBefore (request : Request) (address : Nat) (before : BridgeBreakpoint)
    (kind : BreakpointTransitionKind) : Handler (Except ErrorResponse BreakpointSelector) := do
  match kind with
  | .software =>
      if plainSoftwareBreakpointSelectable before address then return .ok .software
      return .error selectorForeign
  | .conditional =>
      if conditionalBreakpointOwned before address request.managedBreakpointId then
        return .ok .conditional
      return .error selectorForeign
  | .hardware =>
      let some access := parseHardwareAccess request.breakpointAccess
        | return .error selectorForeign
      if hardwareRequestValid build types access request.breakpointSize address &&
          hardwareBreakpointMatches build types before access request.breakpointSize false then
        return .ok (.hardware access)
      return .error selectorForeign
  | _ =>
      if !(← native (.offers [.memBpSize])) then
        return .error
          ⟨"INTERNAL", "typed memory breakpoint size is unavailable", false, false⟩
      let memorySize : Nat ← native (.memBpSize address)
      let some mode := parseMemoryAccess request.breakpointAccess
        | return .error selectorForeign
      if memoryBreakpointMatches types before mode request.breakpointSize memorySize false then
        return .ok (.memory mode)
      return .error selectorForeign

/-- Whether the record that was found behind the transition is the selected one. -/
def selectsAfter (request : Request) (address : Nat) (after : BridgeBreakpoint) (enable : Bool)
    (selector : BreakpointSelector) : Handler Bool := do
  match selector with
  | .software => return plainSoftwareBreakpointSelectable after address
  | .conditional => return conditionalBreakpointOwned after address request.managedBreakpointId
  | .hardware access =>
      return hardwareBreakpointMatches build types after access request.breakpointSize false &&
        (!enable || after.slot < 4)
  | .memory mode =>
      let observed : Nat ← native (.memBpSize address)
      return memoryBreakpointMatches types after mode request.breakpointSize observed false

/-- The result of a toggle. -/
def toggledResult (request : Request) (address : Nat) (after : BridgeBreakpoint)
    (enable changed : Bool) : BreakpointSelector → BreakpointResult
  | .software => .toggled request.breakpointKind address enable changed
  | .conditional =>
      .conditionalToggled address request.managedBreakpointId
        (after.breakCondition.take (strnlen after.breakCondition)) after.fastResume enable changed
  | .hardware access =>
      .hardwareToggled address access request.breakpointSize
        (if after.enabled && after.slot < 4 then some after.slot else none) enable changed
  | .memory mode => .memoryToggled address mode request.breakpointSize enable changed

/-- The look behind a transition at an address. -/
def confirmTransition (request : Request) (enable : Bool) (address generation : Nat)
    (selector : BreakpointSelector) (before : BridgeBreakpoint) (changed : Bool) :
    Handler BreakpointResponse := do
  let unconfirmed : ErrorResponse :=
    ⟨"TIMEOUT", "breakpoint transition could not be exactly confirmed", false, changed⟩
  let some after ← native (.getBridgeBp selector.type address) | return .error unconfirmed
  if after.enabled != enable ||
      !breakpointConfigurationUnchanged before after (selector.kind = .hardware) then
    return .error unconfirmed
  let moved : ErrorResponse :=
    ⟨"TIMEOUT", "breakpoint selector or debugger state changed during transition", false, changed⟩
  if !(← selectsAfter build types request address after enable selector) then
    return .error moved
  if !(← native (.pausedSnapshotCurrent generation)) then return .error moved
  return .ok (generation, toggledResult request address after enable changed selector)

/-- The debuggee has not come far enough for hardware breakpoints. -/
def uninitialized : ErrorResponse :=
  ⟨"INVALID_DEBUGGER_STATE",
    "hardware breakpoints require a pause after process and system-breakpoint initialization",
    false, false⟩

/-- One of the four slots must be free. -/
def hardwareSlotFree (exhausted : String) (rest : Handler BreakpointResponse) :
    Handler BreakpointResponse := do
  let some breakpoints ← native .hardwareBreakpoints
    | return .error ⟨"INTERNAL", "hardware breakpoint slot snapshot is invalid", false, false⟩
  if hardwareSlotsExhausted breakpoints then
    return .error ⟨"RESOURCE_EXHAUSTED", exhausted, false, false⟩
  rest

/-- An enabled hardware breakpoint takes a slot. -/
def slotFor (generation : Nat) (takes : Bool) (rest : Handler BreakpointResponse) :
    Handler BreakpointResponse := do
  if takes then
    let starting : Bool ← native (.initializing generation)
    if starting then return .error uninitialized
    hardwareSlotFree "all four hardware breakpoint slots are occupied" rest
  else rest

/-- The kind of breakpoint that a request names. -/
def transitionKind (request : Request) : Option BreakpointTransitionKind :=
  if request.breakpointKind = "software" then some .software
  else if request.breakpointKind = "conditional" then some .conditional
  else if request.breakpointKind = "hardware" then some .hardware
  else if request.breakpointKind = "memory" then some .memory
  else none

/-- The type that the debugger files a breakpoint of this kind under. -/
def BreakpointTransitionKind.type : BreakpointTransitionKind → BreakpointType
  | .software | .conditional => .normal
  | .hardware => .hardware
  | .memory => .memory
  | .exception => .exception

/-- `breakpoints.enable` and `breakpoints.disable` at an address. -/
def toggleAt (request : Request) (enable : Bool) (address generation : Nat) :
    Handler BreakpointResponse := do
  if !(← native (.offers [.getBridgeBp])) then
    return .error ⟨"INTERNAL", "typed breakpoint read-back is unavailable", false, false⟩
  let some kind := transitionKind request
    | return .error ⟨"INVALID_ARGUMENT", "breakpoint selector kind is invalid", false, false⟩
  if !(← native (.pausedSnapshotCurrent generation)) then
    return .error ⟨"BUSY", "debugger changed before breakpoint transition", true, false⟩
  let some before ← native (.getBridgeBp kind.type address)
    | return .error ⟨"NOT_FOUND", "selected breakpoint does not exist", false, false⟩
  match ← selectBefore build types request address before kind with
  | .error response => return .error response
  | .ok selector =>
      let changed := before.enabled != enable
      slotFor generation (kind = .hardware && enable && !before.enabled)
        (transition changed (breakpointToggleCommand kind address enable)
          (confirmTransition build types request enable address generation selector before changed))

/-! ## Conditional breakpoints -/

/-- Delete a conditional breakpoint that was not completed. -/
def conditionalCleanup (request : Request) (address : Nat) : Handler CleanupStatus :=
  cleanup .normal address
    (fun current => conditionalBreakpointOwned current address request.managedBreakpointId)
    (clearCommand address)

/-- The last look at the snapshot. -/
def conditionalAnswer (generation : Nat) (result : BreakpointResult) :
    Handler BreakpointResponse := do
  if !(← native (.pausedSnapshotCurrent generation)) then
    return .error ⟨"BUSY", "debugger changed during conditional breakpoint mutation", false, true⟩
  return .ok (generation, result)

/-- Write the condition into the new record, and look at it. -/
def finishConditional (request : Request) (address generation : Nat) :
    Handler BreakpointResponse := do
  let reference : BreakpointReference := ⟨.normal, address⟩
  let unassigned := "conditional breakpoint fields could not be assigned"
  if !(← native (.bpRefVa reference)) then
    return .error (abandoned unassigned (← conditionalCleanup request address))
  if !(← native (.bpRefExists reference)) then
    return .error (abandoned unassigned (← conditionalCleanup request address))
  if !(← native (.bpSetFieldText reference .breakCondition
      (utf8 request.conditionalExpression))) then
    return .error (abandoned unassigned (← conditionalCleanup request address))
  if !(← native (.bpSetFieldNumber reference .fastResume 1)) then
    return .error (abandoned unassigned (← conditionalCleanup request address))
  let unverified := "conditional breakpoint setup could not be verified"
  let some installed ← native (.getBridgeBp .normal address)
    | return .error (abandoned unverified (← conditionalCleanup request address))
  if !conditionalBreakpointMatches installed address request.managedBreakpointId
      request.conditionalExpression then
    return .error (abandoned unverified (← conditionalCleanup request address))
  conditionalAnswer generation (.conditionalSet address request.managedBreakpointId
    request.conditionalSpec request.conditionalExpression)

/-- `breakpoints.conditional.set` and `breakpoints.conditional.remove` -/
def mutateConditional (request : Request) (setting : Bool) (address generation : Nat) :
    Handler BreakpointResponse := do
  if request.conditionalInvalid then
    return .error ⟨"INVALID_ARGUMENT",
      "conditional breakpoint value is invalid for this architecture", false, false⟩
  if !(← native (.offers [.getBridgeBp, .bpRefVa, .bpRefExists, .bpSetFieldText,
      .bpSetFieldNumber])) then
    return .error ⟨"INTERNAL", "typed conditional breakpoint API is unavailable", false, false⟩
  if !(← native (.pausedSnapshotCurrent generation)) then
    return .error ⟨"BUSY", "debugger changed before conditional breakpoint mutation", true, false⟩
  let before : Option BridgeBreakpoint ← native (.getBridgeBp .normal address)
  let rejected := "debugger command queue rejected conditional breakpoint mutation"
  let unconfirmed := "conditional breakpoint mutation was admitted without confirmation"
  if setting then
    if before.isSome then
      return .error ⟨"ALREADY_EXISTS", "a software breakpoint already exists at this address",
        false, false⟩
    submitting (setConditionalCommand address
      (managedBreakpointName "conditional" request.managedBreakpointId)) rejected unconfirmed
      (finishConditional request address generation)
  else
    match before with
    | none => return .error ⟨"NOT_FOUND", "conditional breakpoint does not exist", false, false⟩
    | some before =>
        if !conditionalBreakpointOwned before address request.managedBreakpointId then
          return .error ⟨"CONFLICT", "conditional breakpoint is foreign or was renamed",
            false, false⟩
        submitting (clearCommand address) rejected unconfirmed do
          match ← native (.getBridgeBp .normal address) with
          | some _ =>
              return .error ⟨"TIMEOUT", "conditional breakpoint removal could not be confirmed",
                false, true⟩
          | none =>
              conditionalAnswer generation
                (.conditionalRemoved address request.managedBreakpointId)

/-! ## Software breakpoints -/

/-- The look behind the command. -/
def confirmSoftware (setting : Bool) (address : Nat) : Handler BreakpointResponse := do
  let present : Bool ← native (.getBpxTypeAt address)
  if present != setting then
    return .error ⟨"OUTCOME_UNKNOWN",
      "native breakpoint command returned without the requested user breakpoint state",
      false, true⟩
  return .ok (← native .generation, .software address setting)

/-- `breakpoints.set` and `breakpoints.remove` -/
def mutateSoftware (setting : Bool) (address generation : Nat) : Handler BreakpointResponse := do
  if !(← native (.pausedSnapshotCurrent generation)) then
    return .error ⟨"BUSY", "debugger changed after address resolution", true, false⟩
  let command := if setting then utf8 "bp " ++ hexValue address else clearCommand address
  let failed : ErrorResponse :=
    ⟨"OUTCOME_UNKNOWN",
      "native breakpoint command failed; an internal step breakpoint may own the address",
      false, true⟩
  if setting then
    if !(← native (.cmdExecDirect command)) then return .error failed
    confirmSoftware setting address
  else
    let present : Bool ← native (.getBpxTypeAt address)
    if present then
      if !(← native (.cmdExecDirect command)) then return .error failed
      confirmSoftware setting address
    else confirmSoftware setting address

/-! ## Hardware and memory breakpoints -/

/-- One round of the loop that waits for the command to take effect.  An ended loop says
whether it has, with the slot of the record. -/
def observeRound (type : BreakpointType) (address : Nat) (setting : Bool)
    (matched : BridgeBreakpoint → Handler Bool) (slot : Nat) : Handler (Option (Option Nat)) := do
  if !(← native .inTime) then return some none
  match ← native (.getBridgeBp type address) with
  | none => return if setting then none else some (some slot)
  | some current =>
      if setting then
        if ← matched current then return some (some current.slot)
        return none
      else return none

/-- The loop: the slot when the effect was observed in time. -/
def observe (type : BreakpointType) (address : Nat) (setting : Bool)
    (matched : BridgeBreakpoint → Handler Bool) (slot : Nat) : Handler (Option Nat) := do
  return (← Dialogue.repeatUpTo (observeRound type address setting matched slot) rounds).join

/-- Submit a command without a fence, and wait for its effect. -/
def submittingObserved (command : List UInt8) (type : BreakpointType)
    (address generation : Nat) (setting : Bool) (matched : BridgeBreakpoint → Handler Bool)
    (slot : Nat) (unconfirmed : String) (result : Nat → BreakpointResult) :
    Handler BreakpointResponse := do
  if !(← native (.cmdExec command)) then
    return .error ⟨"BUSY", "debugger command queue rejected the operation", true, false⟩
  let some confirmed ← observe rounds type address setting matched slot
    | return .error ⟨"TIMEOUT", unconfirmed, false, true⟩
  if !(← native (.pausedSnapshotCurrent generation)) then
    return .error ⟨"TIMEOUT", unconfirmed, false, true⟩
  return .ok (generation, result confirmed)

/-- `breakpoints.hardware.set` and `breakpoints.hardware.remove` -/
def mutateHardware (request : Request) (setting : Bool) (address generation : Nat) :
    Handler BreakpointResponse := do
  let size := request.breakpointSize
  let invalid : ErrorResponse :=
    ⟨"INVALID_ARGUMENT",
      "hardware breakpoint access, size, or alignment is invalid for this architecture",
      false, false⟩
  let some access := parseHardwareAccess request.breakpointAccess | return .error invalid
  if !hardwareRequestValid build types access size address then return .error invalid
  let starting : Bool ← native (.initializing generation)
  if starting then return .error uninitialized
  if !(← native (.offers [.getBridgeBp])) then
    return .error ⟨"INTERNAL", "typed breakpoint read-back is unavailable", false, false⟩
  if !(← native (.pausedSnapshotCurrent generation)) then
    return .error ⟨"BUSY", "debugger changed after address resolution", true, false⟩
  let before : Option BridgeBreakpoint ← native (.getBridgeBp .hardware address)
  let matched := fun current : BridgeBreakpoint =>
    (pure (hardwareBreakpointMatches build types current access size true) : Handler Bool)
  let unconfirmed := "hardware breakpoint outcome could not be exactly confirmed"
  let result := fun slot => BreakpointResult.hardware address access size slot setting
  if setting then
    if before.isSome then
      return .error ⟨"ALREADY_EXISTS", "a hardware breakpoint already exists at this address",
        false, false⟩
    hardwareSlotFree "all four hardware breakpoint slots are represented"
      (submittingObserved rounds (setHardwareCommand address access size) .hardware address
        generation setting matched 0 unconfirmed result)
  else
    match before with
    | none =>
        return .error ⟨"NOT_FOUND", "no hardware breakpoint exists at this address", false, false⟩
    | some before =>
        if !hardwareBreakpointMatches build types before access size false then
          return .error ⟨"CONFLICT", "hardware breakpoint does not match access and size",
            false, false⟩
        submittingObserved rounds (clearHardwareCommand address) .hardware address generation
          setting matched before.slot unconfirmed result

/-- `breakpoints.memory.set` and `breakpoints.memory.remove` -/
def mutateMemory (request : Request) (setting : Bool) (address generation : Nat) :
    Handler BreakpointResponse := do
  let size := request.breakpointSize
  let some mode := parseMemoryAccess request.breakpointAccess
    | return .error ⟨"INVALID_ARGUMENT", "memory breakpoint access is invalid", false, false⟩
  if !(← native (.offers [.getBridgeBp, .memBpSize])) then
    return .error ⟨"INTERNAL", "typed memory breakpoint read-back is unavailable", false, false⟩
  if !(← native (.pausedSnapshotCurrent generation)) then
    return .error ⟨"BUSY", "debugger changed after address resolution", true, false⟩
  let matched := fun current : BridgeBreakpoint => do
    let observed : Nat ← native (.memBpSize address)
    return memoryBreakpointMatches types current mode size observed true
  let unconfirmed := "memory breakpoint outcome could not be exactly confirmed"
  let result := fun _ => BreakpointResult.memory address mode size setting
  if setting then
    let region : Nat × Nat ← native (.memFindBaseAddr address)
    if !memoryRangeContained address size region.1 region.2 then
      return .error ⟨"INVALID_ARGUMENT",
        "memory breakpoint range must fit in one current memory region", false, false⟩
    let before : Option BridgeBreakpoint ← native (.getBridgeBp .memory address)
    if before.isSome then
      return .error ⟨"ALREADY_EXISTS", "a memory breakpoint already exists at this address",
        false, false⟩
    submittingObserved rounds (setMemoryCommand address mode size) .memory address generation
      setting matched 0 unconfirmed result
  else
    let some before ← native (.getBridgeBp .memory address)
      | return .error ⟨"NOT_FOUND", "no memory breakpoint exists at this address", false, false⟩
    let observed : Nat ← native (.memBpSize address)
    if !memoryBreakpointMatches types before mode size observed false then
      return .error ⟨"CONFLICT", "memory breakpoint does not match access and size", false, false⟩
    submittingObserved rounds (clearMemoryCommand address) .memory address generation setting
      matched 0 unconfirmed result

/-! ## All methods -/

/-- The methods that change breakpoints. -/
inductive BreakpointMethod where
  | toggle (enable : Bool)
  | exception (setting : Bool)
  | conditional (setting : Bool)
  | software (setting : Bool)
  | hardware (setting : Bool)
  | memory (setting : Bool)
  deriving DecidableEq

/-- What a method name asks to be done. -/
def breakpointMethod (method : String) : Option BreakpointMethod :=
  if method = "breakpoints.enable" then some (.toggle true)
  else if method = "breakpoints.disable" then some (.toggle false)
  else if method = "breakpoints.exception.set" then some (.exception true)
  else if method = "breakpoints.exception.remove" then some (.exception false)
  else if method = "breakpoints.conditional.set" then some (.conditional true)
  else if method = "breakpoints.conditional.remove" then some (.conditional false)
  else if method = "breakpoints.set" then some (.software true)
  else if method = "breakpoints.remove" then some (.software false)
  else if method = "breakpoints.hardware.set" then some (.hardware true)
  else if method = "breakpoints.hardware.remove" then some (.hardware false)
  else if method = "breakpoints.memory.set" then some (.memory true)
  else if method = "breakpoints.memory.remove" then some (.memory false)
  else none

/-- The name of a method. -/
def BreakpointMethod.name : BreakpointMethod → String
  | .toggle true => "breakpoints.enable"
  | .toggle false => "breakpoints.disable"
  | .exception true => "breakpoints.exception.set"
  | .exception false => "breakpoints.exception.remove"
  | .conditional true => "breakpoints.conditional.set"
  | .conditional false => "breakpoints.conditional.remove"
  | .software true => "breakpoints.set"
  | .software false => "breakpoints.remove"
  | .hardware true => "breakpoints.hardware.set"
  | .hardware false => "breakpoints.hardware.remove"
  | .memory true => "breakpoints.memory.set"
  | .memory false => "breakpoints.memory.remove"

theorem some_of_ite {α : Type} {condition : Prop} [Decidable condition] {value found : α}
    {rest : Option α} (chosen : (if condition then some value else rest) = some found) :
    condition ∧ value = found ∨ rest = some found := by
  split at chosen
  · rename_i holds
    exact .inl ⟨holds, Option.some.inj chosen⟩
  · exact .inr chosen

/-- Each method has one name, so what holds of all methods holds of these requests. -/
theorem breakpointMethod_eq_some_iff {name : String} {method : BreakpointMethod} :
    breakpointMethod name = some method ↔ name = method.name := by
  constructor
  · intro asked
    unfold breakpointMethod at asked
    iterate 12
      rcases some_of_ite asked with ⟨same, rfl⟩ | asked
      · exact same
    cases asked
  · rintro rfl
    cases method with
    | toggle setting | exception setting | conditional setting | software setting
    | hardware setting | memory setting => cases setting <;> rfl

/-- The parser takes a request of each method for a mutation. -/
theorem isMutation_breakpointMethod (method : BreakpointMethod) :
    isMutation method.name = true := by
  cases method with
  | toggle setting | exception setting | conditional setting | software setting
  | hardware setting | memory setting => cases setting <;> decide

/-- What the executor runs for a request that changes breakpoints. -/
def mutateBreakpoint (request : Request) : BreakpointMethod → Handler BreakpointResponse
  | .toggle enable =>
      if request.breakpointKind = "exception" then toggleException types request enable
      else resolvedLocation request (toggleAt build types request enable)
  | .exception setting => mutateException types request setting
  | .conditional setting => resolvedLocation request (mutateConditional request setting)
  | .software setting => resolvedLocation request (mutateSoftware setting)
  | .hardware setting => resolvedLocation request (mutateHardware build types rounds request setting)
  | .memory setting => resolvedLocation request (mutateMemory types rounds request setting)

end X64dbgMcp.Plugin
