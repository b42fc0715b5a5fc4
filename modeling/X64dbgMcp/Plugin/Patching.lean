import X64dbgMcp.Plugin.Backend
import X64dbgMcp.Plugin.Request
import X64dbgMcp.Plugin.Response
import X64dbgMcp.Transition.EarlyExit

/-!
# Patching and restoring

`assembly.patch` writes an assembled instruction over a span that holds the expected
bytes, and `patches.restore` puts the original bytes back.  x64dbg keeps a record of
every byte that a patch changed.  Whatever else the debugger answers is an input of a
request: it may refuse or change at any time.
-/

namespace X64dbgMcp.Plugin

open Text

/-- `DBGPATCHINFO` -/
structure PatchInfo (backend : Backend) where
  addr : Duint backend
  oldByte : UInt8
  newByte : UInt8
  deriving DecidableEq

/-- The memory of the debuggee, where a byte may not be readable, and the patch table. -/
@[ext]
structure PatchWorld (backend : Backend) where
  memory : Duint backend → Option UInt8
  patches : Duint backend → Option (PatchInfo backend)

variable {backend : Backend}

namespace PatchWorld

variable (world : PatchWorld backend)

/-- `DbgMemRead` -/
def read (address : Duint backend) (size : Nat) : Option (List UInt8) :=
  (List.range size).mapM fun index => world.memory (address + BitVec.ofNat _ index)

/-- Whether an address lies between two addresses, both included. -/
def inSpan (start finish address : Duint backend) : Bool :=
  (address - start).toNat ≤ (finish - start).toNat

/-- `PatchInRange` -/
def patchInRange (start finish : Duint backend) : Bool :=
  (List.range ((finish - start).toNat + 1)).any fun index =>
    (world.patches (start + BitVec.ofNat _ index)).isSome

/-- `MemPatch`: the bytes are written, and every byte that changes gets a record. -/
def memPatch (address : Duint backend) (bytes : List UInt8) : PatchWorld backend where
  memory target :=
    match bytes[(target - address).toNat]? with
    | some byte => some byte
    | none => world.memory target
  patches target :=
    match bytes[(target - address).toNat]?, world.memory target with
    | some byte, some old => if old ≠ byte then some ⟨target, old, byte⟩ else world.patches target
    | _, _ => world.patches target

/-- `PatchRestoreRange`: the records of the range give the old bytes back and go. -/
def patchRestoreRange (start finish : Duint backend) : PatchWorld backend where
  memory target :=
    if inSpan start finish target then
      match world.patches target with
      | some record => some record.oldByte
      | none => world.memory target
    else world.memory target
  patches target := if inSpan start finish target then none else world.patches target

end PatchWorld

/-! ## What the debugger answers -/

/-- The functions that `DbgFunctions` offers. -/
structure PatchFunctions where
  assemble : Bool
  patchInRange : Bool
  patchGetEx : Bool
  memPatch : Bool
  patchRestoreRange : Bool

/-- Why an address is refused. -/
structure AddressFailure where
  code : String
  message : String
  retryable : Bool

/-- What `Assemble` leaves in its arguments, the error already bounded. -/
structure Assembled where
  succeeded : Bool
  buffer : Vector UInt8 16
  size : Int
  boundedError : String

/-- What x64dbg answers to a patch. -/
structure PatchCalls (backend : Backend) where
  /-- `BeginPausedSnapshot` -/
  snapshot : Option Nat
  isDebugging : Bool
  resolveAddress : AddressReference → Except AddressFailure (Duint backend)
  /-- `PausedSnapshotCurrent`, by the times it was asked before. -/
  snapshotCurrent : Nat → Bool
  functions : Option PatchFunctions
  assemble : Duint backend → String → Assembled
  /-- Whether `MemPatch` goes through. -/
  patches : Bool
  /-- Whether `PatchRestoreRange` goes through. -/
  restores : Bool

/-! ## Policy -/

/-- The bytes of a patch, filled up as asked. -/
def preparePatchBytes (assembled expected : List UInt8) (fillNop : Bool) : Option (List UInt8) :=
  if assembled.isEmpty || expected.isEmpty || 16 < expected.length ||
      expected.length < assembled.length then none
  else if assembled.length < expected.length && !fillNop then none
  else some (assembled ++ List.replicate (expected.length - assembled.length) 0x90)

/-- The patch fits behind its address. -/
def patchRangeValid (address : Duint backend) (size : Nat) : Bool :=
  1 ≤ size && size ≤ 16 && BitVec.ofNat _ (size - 1) ≤ BitVec.allOnes _ - address

/-- The patch of a byte is as expected. -/
def patchRecordMatches (record : PatchInfo backend) (address : Duint backend)
    (original patched : UInt8) : Bool :=
  record.addr == address && record.oldByte == original && record.newByte == patched

/-! ## The handlers -/

/-- An early return of an error unless the condition holds. -/
def answerUnless (condition : Bool) (response : ErrorResponse) : Except ErrorResponse Unit :=
  if condition then .ok () else .error response

/-- What every method with an address does first. -/
def resolveLocation (calls : PatchCalls backend) (reference : AddressReference) :
    Except ErrorResponse (Duint backend × Nat) :=
  match calls.snapshot with
  | none =>
      .error ⟨"INVALID_DEBUGGER_STATE", "operation requires a paused debuggee", false, false⟩
  | some generation => do
      answerUnless calls.isDebugging
        ⟨"INVALID_DEBUGGER_STATE", "operation requires a paused debuggee", false, false⟩
      match calls.resolveAddress reference with
      | .error failure => .error ⟨failure.code, failure.message, failure.retryable, false⟩
      | .ok address => do
          answerUnless (calls.snapshotCurrent 0)
            ⟨"BUSY", "debugger changed during address resolution", true, false⟩
          pure (address, generation)

/-- x64dbg lacks the calls for patches. -/
def unavailable : ErrorResponse :=
  ⟨"INTERNAL", "assembler or patch APIs are unavailable", false, false⟩

/-- The bytes of an instruction. -/
def assembleInstruction (calls : PatchCalls backend) (address : Duint backend)
    (instruction : String) : Except ErrorResponse (List UInt8) :=
  let assembled := calls.assemble address instruction
  if !assembled.succeeded || assembled.size < 1 || 16 < assembled.size then
    let message :=
      if assembled.boundedError.isEmpty then "instruction could not be assembled"
      else "instruction could not be assembled: " ++ assembled.boundedError
    .error ⟨"INVALID_ARGUMENT", message, false, false⟩
  else .ok (assembled.buffer.toList.take assembled.size.toNat)

/-- The address of the last byte of a span. -/
def spanEnd (address : Duint backend) (size : Nat) : Duint backend :=
  address + BitVec.ofNat _ (size - 1)

/-- The checks of the span, and its bytes. -/
def readSpan (calls : PatchCalls backend) (world : PatchWorld backend) (address : Duint backend)
    (size : Nat) : Except ErrorResponse (List UInt8) := do
  answerUnless (patchRangeValid address size)
    ⟨"INVALID_ARGUMENT", "patch span is invalid for this architecture", false, false⟩
  answerUnless (calls.snapshotCurrent 1)
    ⟨"BUSY", "debugger changed after patch address resolution", true, false⟩
  match world.read address size with
  | none => .error ⟨"ACCESS_DENIED", "patch span is not fully readable", false, false⟩
  | some current => .ok current

/-- The loop over the records of a span, given as pairs of an original and a patched
byte.  It counts the changed bytes. -/
def checkRecords (world : PatchWorld backend) (mismatch unexpected : ErrorResponse)
    (changed : Nat) (address : Duint backend) :
    List (UInt8 × UInt8) → Except ErrorResponse Nat
  | [] => .ok changed
  | (original, patched) :: rest =>
      let record := world.patches address
      if patched ≠ original then
        if record.any fun record => patchRecordMatches record address original patched then
          checkRecords world mismatch unexpected (changed + 1) (address + 1) rest
        else .error mismatch
      else if record.isSome then .error unexpected
      else checkRecords world mismatch unexpected changed (address + 1) rest

/-- A digit in lower case. -/
def lowerDigit (value : Nat) : Char :=
  "0123456789abcdef".toList.getD value '0'

/-- `Hex` -/
def hex (bytes : List UInt8) : String :=
  String.ofList (bytes.flatMap fun byte =>
    [lowerDigit (byte.toNat / 16), lowerDigit (byte.toNat % 16)])

/-- The result of `assembly.patch`, without the location of its address. -/
structure PatchResult (backend : Backend) where
  address : Duint backend
  instruction : String
  originalBytesHex : String
  assembledBytesHex : String
  patchedBytesHex : String
  assembledLength : Nat
  spanLength : Nat
  nopPadding : Nat
  changedBytes : Nat
  stateGeneration : Nat

/-- The result of `patches.restore`, without the location of its address. -/
structure RestoreResult (backend : Backend) where
  address : Duint backend
  restoredBytesHex : String
  bytesRestored : Nat
  stateGeneration : Nat

/-- What is known in front of `MemPatch`. -/
structure PreparedPatch (backend : Backend) where
  address : Duint backend
  generation : Nat
  instructionBytes : List UInt8
  finalBytes : List UInt8

/-- `assembly.patch` up to the call of `MemPatch`. -/
def preparePatch (calls : PatchCalls backend) (request : Request) (world : PatchWorld backend) :
    Except ErrorResponse (PreparedPatch backend) := do
  let (address, generation) ← resolveLocation calls request.address
  answerUnless (calls.functions.any fun functions =>
    functions.assemble && functions.patchInRange && functions.patchGetEx && functions.memPatch)
    unavailable
  let instructionBytes ← assembleInstruction calls address request.instruction
  let current ← readSpan calls world address request.expectedBytes.length
  answerUnless (!world.patchInRange address (spanEnd address request.expectedBytes.length))
    ⟨"CONFLICT", "patch span already contains tracked patches", false, false⟩
  answerUnless (current == request.expectedBytes)
    ⟨"CONFLICT", "current memory does not match expected bytes", false, false⟩
  match preparePatchBytes instructionBytes request.expectedBytes request.fillNop with
  | none =>
      .error ⟨"INVALID_ARGUMENT",
        "assembled instruction does not fit the expected span or requires fill_nop", false, false⟩
  | some finalBytes => do
      answerUnless (finalBytes != request.expectedBytes)
        ⟨"CONFLICT", "assembled patch would not change memory", false, false⟩
      pure ⟨address, generation, instructionBytes, finalBytes⟩

/-- `assembly.patch` behind `MemPatch`. -/
def confirmPatch (calls : PatchCalls backend) (request : Request) (prepared : PreparedPatch backend)
    (world : PatchWorld backend) : Except ErrorResponse (PatchResult backend) := do
  let size := request.expectedBytes.length
  answerUnless (world.read prepared.address size == some prepared.finalBytes)
    ⟨"INTERNAL", "tracked patch read-back did not match", false, true⟩
  let changed ← checkRecords world
    ⟨"INTERNAL", "tracked patch metadata did not match", false, true⟩
    ⟨"INTERNAL", "unexpected patch metadata appeared", false, true⟩ 0 prepared.address
    (request.expectedBytes.zip prepared.finalBytes)
  answerUnless (world.patchInRange prepared.address (spanEnd prepared.address size) &&
      calls.snapshotCurrent 2)
    ⟨"INTERNAL", "tracked patch postcondition was not stable", false, true⟩
  pure
    { address := prepared.address
      instruction := request.instruction
      originalBytesHex := hex request.expectedBytes
      assembledBytesHex := hex prepared.instructionBytes
      patchedBytesHex := hex prepared.finalBytes
      assembledLength := prepared.instructionBytes.length
      spanLength := size
      nopPadding := size - prepared.instructionBytes.length
      changedBytes := changed
      stateGeneration := prepared.generation }

/-- `assembly.patch`, and what it leaves behind. -/
def patch (calls : PatchCalls backend) (request : Request) (world : PatchWorld backend) :
    Except ErrorResponse (PatchResult backend) × PatchWorld backend :=
  match preparePatch calls request world with
  | .error response => (.error response, world)
  | .ok prepared =>
      if calls.patches then
        let after := world.memPatch prepared.address prepared.finalBytes
        (confirmPatch calls request prepared after, after)
      else
        (.error ⟨"ACCESS_DENIED", "x64dbg rejected the tracked patch", false, false⟩, world)

/-- `patches.restore` up to the call of `PatchRestoreRange`. -/
def prepareRestore (calls : PatchCalls backend) (request : Request) (world : PatchWorld backend) :
    Except ErrorResponse (Duint backend × Nat) := do
  let (address, generation) ← resolveLocation calls request.address
  answerUnless (calls.functions.any fun functions =>
    functions.patchInRange && functions.patchGetEx && functions.patchRestoreRange) unavailable
  let current ← readSpan calls world address request.expectedBytes.length
  answerUnless (current == request.expectedBytes)
    ⟨"CONFLICT", "current memory does not match expected patched bytes", false, false⟩
  let _ ← checkRecords world
    ⟨"CONFLICT", "patch metadata does not match expected bytes", false, false⟩
    ⟨"CONFLICT", "patch span contains unexpected metadata", false, false⟩ 0 address
    (request.expectedOriginalBytes.zip request.expectedBytes)
  pure (address, generation)

/-- `patches.restore` behind `PatchRestoreRange`. -/
def confirmRestore (calls : PatchCalls backend) (request : Request) (address : Duint backend)
    (generation : Nat) (world : PatchWorld backend) :
    Except ErrorResponse (RestoreResult backend) := do
  let size := request.expectedBytes.length
  answerUnless (world.read address size == some request.expectedOriginalBytes &&
      !world.patchInRange address (spanEnd address size) && calls.snapshotCurrent 2)
    ⟨"INTERNAL", "patch restore postcondition did not match", false, true⟩
  pure
    { address := address
      restoredBytesHex := hex request.expectedOriginalBytes
      bytesRestored := size
      stateGeneration := generation }

/-- `patches.restore`, and what it leaves behind. -/
def restore (calls : PatchCalls backend) (request : Request) (world : PatchWorld backend) :
    Except ErrorResponse (RestoreResult backend) × PatchWorld backend :=
  match prepareRestore calls request world with
  | .error response => (.error response, world)
  | .ok (address, generation) =>
      let after :=
        if calls.restores then
          world.patchRestoreRange address (spanEnd address request.expectedBytes.length)
        else world
      (confirmRestore calls request address generation after, after)

end X64dbgMcp.Plugin
