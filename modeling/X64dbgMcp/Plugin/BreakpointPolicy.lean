import X64dbgMcp.Plugin.NativeCalls

/-!
# What a breakpoint request must find, and what it submits

The checks of single breakpoint records and the commands of the debugger that change them.
-/

namespace X64dbgMcp.Plugin

open Text

/-- The constants of the debugger's headers that breakpoint records carry. -/
structure NativeTypes where
  exceptionChance : ExceptionChance → UInt8
  hardwareAccess : HardwareAccess → UInt8
  memoryAccess : MemoryAccess → UInt8
  hwByte : UInt8
  hwWord : UInt8
  hwDword : UInt8
  hwQword : UInt8

variable (build : Build) (types : NativeTypes)

/-! ## Hardware breakpoints -/

/-- The size of a hardware breakpoint as x64dbg numbers it. -/
def nativeHardwareSize (size : Nat) : Option UInt8 :=
  match size with
  | 1 => some types.hwByte
  | 2 => some types.hwWord
  | 4 => some types.hwDword
  | 8 => if build.pointerBytes = 8 then some types.hwQword else none
  | _ => none

/-- The letter of an access in a command. -/
def hardwareAccessCommand : HardwareAccess → String
  | .execute => "x"
  | .write => "w"
  | .readWrite => "r"

/-- The processor can watch for what is asked. -/
def hardwareRequestValid (access : HardwareAccess) (size address : Nat) : Bool :=
  (nativeHardwareSize build types size).isSome && !(access == .execute && size != 1) &&
    address % size == 0

/-- The hardware breakpoint is as asked. -/
def hardwareBreakpointMatches (breakpoint : BridgeBreakpoint) (access : HardwareAccess)
    (size : Nat) (requireEnabled : Bool) : Bool :=
  match nativeHardwareSize build types size with
  | none => false
  | some nativeSize =>
      breakpoint.type == .hardware &&
        (!requireEnabled || (breakpoint.enabled && breakpoint.slot < 4)) &&
        breakpoint.typeEx == types.hardwareAccess access && breakpoint.hwSize == nativeSize

/-- All four debug registers are in use. -/
def hardwareSlotsExhausted (breakpoints : List BridgeBreakpoint) : Bool :=
  [0, 1, 2, 3].all fun slot =>
    breakpoints.any fun breakpoint =>
      breakpoint.type == .hardware && breakpoint.enabled && breakpoint.slot == slot

/-! ## Memory breakpoints -/

/-- The letter of a memory access in a command. -/
def memoryAccessCommand : MemoryAccess → String
  | .access => "a"
  | .read => "r"
  | .write => "w"
  | .execute => "x"

/-- A range of a breakpoint lies in a region. -/
def memoryRangeContained (address size regionBase regionSize : Nat) : Bool :=
  if size = 0 ∨ 65536 < size ∨ regionSize = 0 ∨ address < regionBase then false
  else
    let offset := address - regionBase
    if regionSize ≤ offset then false else size ≤ regionSize - offset

/-- The memory breakpoint is as asked. -/
def memoryBreakpointMatches (breakpoint : BridgeBreakpoint) (mode : MemoryAccess)
    (size observedSize : Nat) (requireEnabled : Bool) : Bool :=
  breakpoint.type == .memory && (!requireEnabled || breakpoint.enabled) &&
    breakpoint.typeEx == types.memoryAccess mode && observedSize == size

/-! ## Exception and conditional breakpoints -/

/-- The word of a chance in a command. -/
def exceptionChanceCommand : ExceptionChance → String
  | .first => "first"
  | .second => "second"
  | .both => "all"

/-- The exception breakpoint is as asked. -/
def exceptionBreakpointMatches (breakpoint : BridgeBreakpoint) (code : UInt32)
    (chance : ExceptionChance) (managedId : String) : Bool :=
  breakpoint.enabled &&
    exceptionBreakpointOwned types.exceptionChance breakpoint code chance managedId

/-- The conditional breakpoint is as asked. -/
def conditionalBreakpointMatches (breakpoint : BridgeBreakpoint) (address : Nat)
    (managedId expression : String) : Bool :=
  conditionalBreakpointOwned breakpoint address managedId && breakpoint.enabled &&
    breakpoint.active && !breakpoint.singleshoot && breakpoint.fastResume &&
    boundedFieldEquals breakpoint.breakCondition expression && emptyActionFields breakpoint

/-! ## Commands -/

/-- The kinds of breakpoints that are enabled and disabled. -/
inductive BreakpointTransitionKind where
  | software
  | conditional
  | hardware
  | memory
  | exception
  deriving DecidableEq

/-- The command that enables or disables this kind. -/
def breakpointToggleWord (enable : Bool) : BreakpointTransitionKind → String
  | .software | .conditional => if enable then "bpe " else "bpd "
  | .hardware => if enable then "bphwe " else "bphwd "
  | .memory => if enable then "bpme " else "bpmd "
  | .exception => if enable then "EnableExceptionBPX " else "DisableExceptionBPX "

/-- The same for one breakpoint. -/
def breakpointToggleCommand (kind : BreakpointTransitionKind) (identity : Nat) (enable : Bool) :
    List UInt8 :=
  utf8 (breakpointToggleWord enable kind) ++ hexValue identity

/-- Set an exception breakpoint. -/
def setExceptionCommand (code : UInt32) (chance : ExceptionChance) : List UInt8 :=
  utf8 "SetExceptionBPX " ++ hexValue code.toNat ++ utf8 ", " ++
    utf8 (exceptionChanceCommand chance)

/-- Delete it. -/
def deleteExceptionCommand (code : UInt32) : List UInt8 :=
  utf8 "DeleteExceptionBPX " ++ hexValue code.toNat

/-- Set a named software breakpoint. -/
def setConditionalCommand (address : Nat) (ownedName : String) : List UInt8 :=
  utf8 "bp " ++ hexValue address ++ utf8 ", \"" ++ utf8 ownedName ++ utf8 "\""

/-- Clear a software breakpoint. -/
def clearCommand (address : Nat) : List UInt8 :=
  utf8 "bc " ++ hexValue address

/-- Set the named breakpoint to run to, which goes when it is hit. -/
def runToBreakpointSetCommand (target : Nat) (ownedName : String) : List UInt8 :=
  utf8 "bp " ++ hexValue target ++ utf8 ", \"" ++ utf8 ownedName ++ utf8 "\", ss"

/-- Set a hardware breakpoint. -/
def setHardwareCommand (address : Nat) (access : HardwareAccess) (size : Nat) : List UInt8 :=
  utf8 "bphws " ++ hexValue address ++ utf8 ", " ++ utf8 (hardwareAccessCommand access) ++
    utf8 ", " ++ decimal size

/-- Clear it. -/
def clearHardwareCommand (address : Nat) : List UInt8 :=
  utf8 "bphwc " ++ hexValue address

/-- Set a memory breakpoint. -/
def setMemoryCommand (address : Nat) (mode : MemoryAccess) (size : Nat) : List UInt8 :=
  utf8 "bpmrange " ++ hexValue address ++ utf8 ", " ++ hexValue size ++ utf8 ", " ++
    utf8 (memoryAccessCommand mode)

/-- Clear it. -/
def clearMemoryCommand (address : Nat) : List UInt8 :=
  utf8 "bpmc " ++ hexValue address

end X64dbgMcp.Plugin
