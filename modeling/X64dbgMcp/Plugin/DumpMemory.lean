import X64dbgMcp.Files.Disk
import X64dbgMcp.Text.Utf8
import X64dbgMcp.Transition.EarlyExit
import Mathlib.Algebra.GroupWithZero.Nat

/-!
# Dumping memory to a file

A dump goes into a temporary file beside its destination and is renamed over it when
every byte is out and hashed.  Each call of the system, of the reader and of the
predicate may fail at any time; whatever has been opened is cleaned up on every exit.
-/

namespace X64dbgMcp.Plugin.Dump

open Files Text Transition

/-- A path in UTF-16. -/
abbrev WidePath := List UInt16

/-! ## Paths -/

/-- A character that no component of a path may have. -/
def forbiddenInPath (character : UInt16) : Bool :=
  character < 32 || character == 127 || character == 0x3a || character == 0x2f ||
    character == 0x22 || character == 0x3c || character == 0x3e || character == 0x7c ||
    character == 0x3f || character == 0x2a

/-- An ASCII text as a path. -/
def wide (text : String) : WidePath :=
  text.toList.map fun character => UInt16.ofNat character.toNat

/-- `equal`, which compares a stem with a reserved name. -/
def isReserved (stem : WidePath) (reserved : String) : Bool :=
  (stem.map fun c => if 0x61 ≤ c && c ≤ 0x7a then c - 0x20 else c) == wide reserved

/-- A name between two backslashes that may be dumped to. -/
def validDumpComponent (part : WidePath) : Bool :=
  let stem := part.takeWhile fun c => c != 0x2e
  !part.any forbiddenInPath && !part.isEmpty && part.getLast? != some 0x2e &&
    part.getLast? != some 0x20 &&
    !(["CON", "PRN", "AUX", "NUL", "CONIN$", "CONOUT$"].any (isReserved stem)) &&
    !(stem.length == 4 &&
      (["COM1", "COM2", "COM3", "COM4", "COM5", "COM6", "COM7", "COM8", "COM9", "LPT1", "LPT2",
          "LPT3", "LPT4", "LPT5", "LPT6", "LPT7", "LPT8", "LPT9"].any (isReserved stem) ||
        stem.getLast? == some 0xb9 || stem.getLast? == some 0xb2 || stem.getLast? == some 0xb3))

/-- A path that may be dumped to. -/
def validDumpPath (path : WidePath) : Bool :=
  match path with
  | drive :: 0x3a :: 0x5c :: rest =>
      4 ≤ path.length && path.length < 32700 &&
        (0x41 ≤ drive && drive ≤ 0x5a || 0x61 ≤ drive && drive ≤ 0x7a) &&
        (rest.splitOn 0x5c).all validDumpComponent
  | _ => false

/-- The directories above a path, from the drive down. -/
def ancestorsOf (path : WidePath) : List WidePath :=
  (List.range path.length).filterMap fun position =>
    if position < 2 || path[position]? != some 0x5c then none
    else if position = 2 then some (path.take 3)
    else some (path.take position)

/-- Everything up to the last separator, with it. -/
def directoryOf (path : WidePath) : WidePath :=
  (path.reverse.dropWhile fun c => c != 0x5c).reverse

/-- A digit of a digest. -/
def hexCharacter (value : UInt8) : Char :=
  "0123456789abcdef".toList.getD value.toNat '0'

/-- The digits of a byte. -/
def hexPair (byte : UInt8) : List Char :=
  [hexCharacter (byte >>> (4 : UInt8)), hexCharacter (byte &&& (15 : UInt8))]

/-- The name of the temporary file, out of sixteen random bytes. -/
def temporaryName (path : WidePath) (random : Vector UInt8 16) : WidePath :=
  let marked := (random.set 6 (random[6] &&& 0x0f ||| 0x40)).set 8 (random[8] &&& 0x3f ||| 0x80)
  let digits := marked.toList.mapIdx fun index byte =>
    (if index = 4 ∨ index = 6 ∨ index = 8 ∨ index = 10 then ['-'] else []) ++
      hexPair byte
  directoryOf path ++ wide ".mcp-dump-" ++
    digits.flatten.map (fun character => UInt16.ofNat character.toNat) ++ wide ".tmp"

/-! ## The system -/

/-- What `GetFileAttributesW` says of the destination. -/
inductive Attributes where
  | notFound
  | failed
  | found (directory reparse device : Bool)

/-- The outside of one dump.  Every answer may depend on when it is asked for. -/
structure DumpWorld (π : Type) where
  fileOf : WidePath → π
  expired : Nat → Bool
  current : Nat → Bool
  opensDirectory : Nat → WidePath → Bool
  isPlainDirectory : Nat → WidePath → Bool
  attributes : Nat → Attributes
  random : Nat → Option (Vector UInt8 16)
  createsFile : Nat → Bool
  opensAlgorithm : Nat → Bool
  createsHash : Nat → Bool
  reader : Nat → BitVec 64 → (count : Nat) → Option (Vector UInt8 count)
  writes : Nat → Nat → Bool × Nat
  hashes : Nat → Bool
  finishesHash : Nat → Bool
  flushes : Nat → Bool
  renames : Nat → Bool
  sha256 : List UInt8 → Vector UInt8 32

/-- What the caller is told. -/
structure DumpResult where
  complete : Bool := false
  outcomeUnknown : Bool := false
  bytesWritten : Nat := 0
  sha256 : String := ""
  code : Option String := some "ACCESS_DENIED"
  message : Option String := some "dump was not published"

/-- The locals of `DumpMemory` and the disk, with a record of the calls of the reader. -/
structure DumpProgress (π : Type) where
  tick : Nat := 0
  disk : Disk π
  result : DumpResult := { }
  temporary : Option π := none
  hashed : List UInt8 := []
  calls : List (BitVec 64 × Nat) := []
  received : List (BitVec 64 × List UInt8) := []

/-- `kDumpBuffer`: how much is read at a time. -/
def kDumpBuffer : Nat :=
  65536

/-- `kMaxDumpLength`: the longest dump. -/
def kMaxDumpLength : Nat :=
  67108864

section Dump

variable {π : Type} (world : DumpWorld π)

/-- A step of a dump either goes on or returns the result as it is. -/
abbrev DumpStep (π : Type) : Type :=
  DumpProgress π → Except (DumpProgress π) (DumpProgress π)

/-- A call that the dump cannot go on without. -/
def demand (answer : Nat → Bool) : DumpStep π := fun progress =>
  let later := { progress with tick := progress.tick + 1 }
  if answer progress.tick then .ok later else .error later

/-- Ask whether the request is still in time. -/
def valid : DumpStep π := fun progress =>
  if world.expired progress.tick then
    .error
      { progress with
        tick := progress.tick + 1
        result :=
          { progress.result with
            code := some "TIMEOUT"
            message := some "dump deadline expired before publication" } }
  else if !world.current (progress.tick + 1) then
    .error
      { progress with
        tick := progress.tick + 2
        result :=
          { progress.result with
            code := some "BUSY"
            message := some "debugger changed before dump publication" } }
  else .ok { progress with tick := progress.tick + 2 }

/-- The loop that opens the directories. -/
def openAncestors : List WidePath → DumpStep π
  | [], progress => .ok progress
  | directory :: rest, progress => do
      let progress ← demand (world.opensDirectory · directory) progress
      let progress ← demand (world.isPlainDirectory · directory) progress
      let progress ← valid world progress
      openAncestors rest progress

/-- The file may be put at the path. -/
def destinationValid (overwrite : Bool) (tick : Nat) : Bool :=
  match world.attributes tick with
  | .notFound => true
  | .failed => false
  | .found directory reparse device => overwrite && !(directory || reparse || device)

variable [DecidableEq π]

/-- The temporary file, which must not be there yet. -/
def createTemporary (path : WidePath) : DumpStep π := fun progress =>
  match world.random progress.tick with
  | none => .error { progress with tick := progress.tick + 1 }
  | some random =>
      let file := world.fileOf (temporaryName path random)
      let later := { progress with tick := progress.tick + 2 }
      if world.createsFile (progress.tick + 1) ∧ (progress.disk.files file).isNone then
        .ok { later with disk := progress.disk.put file [], temporary := some file }
      else .error later

/-- One call of the reader. -/
def readChunk (address : BitVec 64) (offset count : Nat) :
    DumpProgress π → Except (DumpProgress π) (List UInt8 × DumpProgress π) := fun progress =>
  let start := address + BitVec.ofNat 64 offset
  let later :=
    { progress with
      tick := progress.tick + 1
      calls := progress.calls ++ [(start, count)] }
  match world.reader progress.tick start count with
  | none =>
      .error
        { later with
          result :=
            { progress.result with
              message := some "memory range is not fully readable; dump was not published" } }
  | some bytes =>
      .ok (bytes.toList, { later with received := progress.received ++ [(start, bytes.toList)] })

/-- `WriteFile` at the end of the temporary file, which may take less than it is given. -/
def writeChunk (bytes : List UInt8) : DumpStep π := fun progress =>
  let later := { progress with tick := progress.tick + 1 }
  match progress.temporary with
  | none => .error later
  | some file =>
      let (success, written) := world.writes progress.tick bytes.length
      let out :=
        { later with disk := progress.disk.change file fun content => content ++ bytes.take written }
      if success ∧ written = bytes.length then .ok out else .error out

/-- Add a chunk to the digest. -/
def hashChunk (bytes : List UInt8) : DumpStep π := fun progress =>
  let later := { progress with tick := progress.tick + 1 }
  if world.hashes progress.tick then .ok { later with hashed := progress.hashed ++ bytes }
  else .error later

/-- The loop over the chunks. -/
def copyFrom (address : BitVec 64) (length offset : Nat) : DumpStep π := fun progress =>
  if offset < length then do
    let count := min kDumpBuffer (length - offset)
    let progress ← valid world progress
    let (bytes, progress) ← readChunk world address offset count progress
    let progress ← valid world progress
    let progress ← writeChunk world bytes progress
    let progress ← hashChunk world bytes progress
    let progress ← valid world progress
    copyFrom address length (offset + count) progress
  else .ok progress
  termination_by length - offset
  decreasing_by
    have positive : 0 < kDumpBuffer := by decide
    omega

/-- The digits of these bytes. -/
def hexOf (bytes : List UInt8) : String :=
  String.ofList (bytes.flatMap hexPair)

/-- Finish the digest. -/
def setDigest : DumpStep π := fun progress =>
  .ok
    { progress with
      result := { progress.result with sha256 := hexOf (world.sha256 progress.hashed).toList } }

/-- `SetFileInformationByHandle`, and the result of a complete dump behind it. -/
def publish (path : WidePath) (length : Nat) (overwrite : Bool) : DumpStep π := fun progress =>
  let later := { progress with tick := progress.tick + 1 }
  match progress.temporary with
  | none => .error later
  | some file =>
      if world.renames progress.tick ∧
          (overwrite ∨ (progress.disk.files (world.fileOf path)).isNone) then
        .ok
          { later with
            disk := progress.disk.rename file (world.fileOf path)
            temporary := none
            result :=
              { progress.result with
                bytesWritten := length
                complete := true
                code := none
                message := none } }
      else .error later

/-- The destructor of the resources. -/
def cleanUp (progress : DumpProgress π) : DumpProgress π :=
  match progress.temporary with
  | some file => { progress with disk := progress.disk.remove file }
  | none => progress

/-- Everything behind the check of the arguments. -/
def dumpBody (path : WidePath) (address : BitVec 64) (length : Nat) (overwrite : Bool) :
    DumpStep π := fun progress => do
  let progress ← valid world progress
  let progress ← openAncestors world (ancestorsOf path) progress
  let progress ← demand (destinationValid world overwrite) progress
  let progress ← createTemporary world path progress
  let progress ← demand world.opensAlgorithm progress
  let progress ← demand world.createsHash progress
  let progress ← copyFrom world address length 0 progress
  let progress ← demand world.finishesHash progress
  let progress ← demand world.flushes progress
  let progress ← setDigest world progress
  let progress ← demand (destinationValid world overwrite) progress
  let progress ← valid world progress
  publish world path length overwrite progress

/-- Read memory to a file beside the path, then move it there. -/
def dumpMemory (path : WidePath) (address : BitVec 64) (length : Nat) (overwrite : Bool)
    (disk : Disk π) : DumpProgress π :=
  if !validDumpPath path ∨ length = 0 ∨ kMaxDumpLength < length ∨
      BitVec.allOnes 64 - BitVec.ofNat 64 (length - 1) < address then
    { disk
      result :=
        { code := some "INVALID_ARGUMENT"
          message :=
            some "dump requires a drive-absolute regular-file path and 1..67108864 bytes" } }
  else
    match dumpBody world path address length overwrite { disk } with
    | .ok progress => cleanUp progress
    | .error progress => cleanUp progress

end Dump

/-! ## What a dump holds on to -/

/-- Chunks that lie one behind the other, from an address on. -/
def Tiles : Nat → List (BitVec 64 × List UInt8) → Prop
  | _, [] => True
  | start, (at_, bytes) :: rest => at_.toNat = start ∧ Tiles (start + bytes.length) rest

theorem tiles_concat {start : Nat} {chunks : List (BitVec 64 × List UInt8)} {at_ : BitVec 64}
    {bytes : List UInt8} (tiles : Tiles start chunks)
    (next : at_.toNat = start + (chunks.flatMap Prod.snd).length) :
    Tiles start (chunks ++ [(at_, bytes)]) := by
  induction chunks generalizing start with
  | nil => exact ⟨next, trivial⟩
  | cons chunk chunks ih =>
      rw [List.flatMap_cons, List.length_append] at next
      exact ⟨tiles.1, ih tiles.2 (by omega)⟩

section Invariants

variable {π : Type} {world : DumpWorld π}

/-- Nothing but the temporary file differs from the disk before the dump, and the reader
has not been asked for anything outside the range. -/
structure Pending (disk : Disk π) (address : BitVec 64) (length : Nat)
    (progress : DumpProgress π) : Prop where
  incomplete : progress.result.complete = false
  elsewhere : ∀ file, progress.temporary ≠ some file →
    progress.disk.files file = disk.files file
  fresh : ∀ file, progress.temporary = some file → disk.files file = none
  inRange : ∀ call ∈ progress.calls,
    address.toNat ≤ call.1.toNat ∧ call.1.toNat + call.2 ≤ address.toNat + length

/-- What has been taken from the reader, what is in the temporary file and what has been
hashed. -/
structure Holding (world : DumpWorld π) (disk : Disk π) (address : BitVec 64) (length : Nat)
    (taken written hashed : List UInt8) (progress : DumpProgress π) : Prop extends
    Pending disk address length progress where
  content : ∃ file, progress.temporary = some file ∧ progress.disk.content file = some written
  hashes : progress.hashed = hashed
  takes : progress.received.flatMap Prod.snd = taken
  tiles : Tiles address.toNat progress.received
  read : ∀ chunk ∈ progress.received, ∃ tick,
    (world.reader tick chunk.1 chunk.2.length).map Vector.toList = some chunk.2

/-- Before there is a temporary file. -/
structure Waiting (disk : Disk π) (address : BitVec 64) (length : Nat)
    (progress : DumpProgress π) : Prop extends Pending disk address length progress where
  uncreated : progress.temporary = none
  unread : progress.received = []
  unhashed : progress.hashed = []

variable {disk : Disk π} {address : BitVec 64} {length : Nat} {progress later : DumpProgress π}
  {taken written hashed bytes : List UInt8}

namespace Pending

theorem congr (pending : Pending disk address length progress)
    (sameDisk : later.disk = progress.disk) (sameFile : later.temporary = progress.temporary)
    (sameCalls : later.calls = progress.calls)
    (sameResult : later.result.complete = progress.result.complete) :
    Pending disk address length later where
  incomplete := sameResult.trans pending.incomplete
  elsewhere := by
    rw [sameDisk, sameFile]
    exact pending.elsewhere
  fresh := by
    rw [sameFile]
    exact pending.fresh
  inRange := by
    rw [sameCalls]
    exact pending.inRange

/-- Cleaning up undoes everything. -/
theorem files_cleanUp [DecidableEq π] (pending : Pending disk address length progress) (file : π) :
    (cleanUp progress).disk.files file = disk.files file := by
  rw [cleanUp]
  split
  · rename_i owned isOwned
    by_cases same : file = owned
    · rw [same, pending.fresh owned isOwned]
      exact Disk.files_remove_self
    · change (progress.disk.remove owned).files file = _
      rw [Disk.files_remove_of_ne same]
      refine pending.elsewhere file ?_
      rw [isOwned]
      intro equal
      exact same (Option.some.inj equal).symm
  · rename_i none_owned
    refine pending.elsewhere file ?_
    rw [none_owned]
    intro equal
    cases equal

end Pending

theorem cleanUp_result [DecidableEq π] : (cleanUp progress).result = progress.result := by
  rw [cleanUp]
  split <;> rfl

theorem cleanUp_calls [DecidableEq π] : (cleanUp progress).calls = progress.calls := by
  rw [cleanUp]
  split <;> rfl

/-! ## Steps that touch nothing -/

/-- A property that does not look at the time or at the text of the result. -/
def Untimed (property : DumpProgress π → Prop) : Prop :=
  ∀ progress later : DumpProgress π, property progress → later.disk = progress.disk →
    later.temporary = progress.temporary → later.calls = progress.calls →
    later.result.complete = progress.result.complete →
    later.result.sha256 = progress.result.sha256 → later.hashed = progress.hashed →
    later.received = progress.received → property later

theorem untimed_waiting : Untimed (Waiting disk address length) := by
  intro progress later waiting sameDisk sameFile sameCalls sameResult _ sameHash sameReads
  refine ⟨waiting.congr sameDisk sameFile sameCalls sameResult, ?_, ?_, ?_⟩
  · rw [sameFile, waiting.uncreated]
  · rw [sameReads, waiting.unread]
  · rw [sameHash, waiting.unhashed]

theorem untimed_holding : Untimed (Holding world disk address length taken written hashed) := by
  intro progress later holding sameDisk sameFile sameCalls sameResult _ sameHash sameReads
  refine ⟨holding.congr sameDisk sameFile sameCalls sameResult, ?_, ?_, ?_, ?_, ?_⟩
  · rw [sameFile, sameDisk]
    exact holding.content
  · rw [sameHash, holding.hashes]
  · rw [sameReads, holding.takes]
  · rw [sameReads]
    exact holding.tiles
  · rw [sameReads]
    exact holding.read

theorem ends_demand {property : DumpProgress π → Prop} (untimed : Untimed property)
    (holds : property progress) (answer : Nat → Bool) :
    Ends property property (demand answer progress) := by
  have after := untimed progress { progress with tick := progress.tick + 1 } holds
    rfl rfl rfl rfl rfl rfl rfl
  simp only [demand]
  split
  · exact after
  · exact after

theorem ends_valid {property : DumpProgress π → Prop} (untimed : Untimed property)
    (holds : property progress) : Ends property property (valid world progress) := by
  rw [valid]
  split
  · exact untimed progress _ holds rfl rfl rfl rfl rfl rfl rfl
  split
  · exact untimed progress _ holds rfl rfl rfl rfl rfl rfl rfl
  · exact untimed progress _ holds rfl rfl rfl rfl rfl rfl rfl

theorem ends_openAncestors {property : DumpProgress π → Prop} (untimed : Untimed property)
    (holds : property progress) (directories : List WidePath) :
    Ends property property (openAncestors world directories progress) := by
  induction directories generalizing progress with
  | nil => exact holds
  | cons directory directories ih =>
      rw [openAncestors]
      refine (ends_demand untimed holds _).bind ?_
      intro opened holds
      refine (ends_demand untimed holds _).bind ?_
      intro plain holds
      refine (ends_valid untimed holds).bind ?_
      intro checked holds
      exact ih holds

/-! ## Steps of the copy -/

/-- The error side of a step asks only that cleaning up undoes everything. -/
theorem Ends.pending {property : DumpProgress π → Prop}
    {result : Except (DumpProgress π) (DumpProgress π)}
    (ends : Ends property property result)
    (implies : ∀ progress, property progress → Pending disk address length progress) :
    Ends property (Pending disk address length) result := by
  cases result with
  | ok value => exact ends
  | error stopped => exact implies stopped ends

theorem ends_createTemporary [DecidableEq π] (waiting : Waiting disk address length progress)
    (path : WidePath) :
    Ends (Holding world disk address length [] [] []) (Pending disk address length)
      (createTemporary world path progress) := by
  rw [createTemporary]
  split
  · exact waiting.congr rfl rfl rfl rfl
  · rename_i random _
    simp only []
    split_ifs with created
    · have absent := Option.isNone_iff_eq_none.mp created.2
      have untouched (file : π) : progress.disk.files file = disk.files file := by
        refine waiting.elsewhere file ?_
        rw [waiting.uncreated]
        intro equal
        cases equal
      refine ⟨⟨waiting.incomplete, ?_, ?_, waiting.inRange⟩, ?_, waiting.unhashed, ?_, ?_, ?_⟩
      · intro file other
        have different : file ≠ world.fileOf (temporaryName path random) := by
          rintro rfl
          exact other rfl
        change (progress.disk.put _ []).files file = _
        rw [Disk.files_put_of_ne different, untouched]
      · intro file same
        cases same
        rw [← untouched, absent]
      · exact ⟨_, rfl, Disk.content_put_self⟩
      · change progress.received.flatMap Prod.snd = []
        rw [waiting.unread]
        rfl
      · change Tiles address.toNat progress.received
        rw [waiting.unread]
        trivial
      · intro chunk member
        change chunk ∈ progress.received at member
        rw [waiting.unread] at member
        cases member
    · exact waiting.congr rfl rfl rfl rfl

theorem map_reader_toList {tick count : Nat} {start : BitVec 64} {bytes : Vector UInt8 count}
    (answered : world.reader tick start count = some bytes) :
    (world.reader tick start bytes.toList.length).map Vector.toList = some bytes.toList := by
  have counted : bytes.toList.length = count := bytes.length_toList
  rw [counted, answered]
  rfl

/-- The reader is asked for what follows the bytes that are taken. -/
theorem ends_readChunk (fits : address.toNat + length ≤ 2 ^ 64)
    (holding : Holding world disk address length taken taken taken progress) {count : Nat}
    (within : taken.length + count ≤ length) (positive : 0 < count) :
    Ends (fun result : List UInt8 × DumpProgress π => result.1.length = count ∧
        Holding world disk address length (taken ++ result.1) taken taken result.2)
      (Pending disk address length)
      (readChunk world address taken.length count progress) := by
  have start : (address + BitVec.ofNat 64 taken.length).toNat = address.toNat + taken.length := by
    rw [BitVec.toNat_add, BitVec.toNat_ofNat]
    omega
  have inRange : ∀ call ∈ progress.calls ++
      [(address + BitVec.ofNat 64 taken.length, count)],
      address.toNat ≤ call.1.toNat ∧ call.1.toNat + call.2 ≤ address.toNat + length := by
    intro call member
    rcases List.mem_append.mp member with earlier | last
    · exact holding.inRange call earlier
    · rw [List.mem_singleton.mp last]
      simp only [start]
      omega
  simp only [readChunk]
  split
  · exact ⟨holding.incomplete, holding.elsewhere, holding.fresh, inRange⟩
  · rename_i bytes answered
    refine ⟨bytes.length_toList, ⟨holding.incomplete, holding.elsewhere, holding.fresh, inRange⟩,
      holding.content, holding.hashes, ?_, ?_, ?_⟩
    · change (progress.received ++ [(_, bytes.toList)]).flatMap Prod.snd = _
      rw [List.flatMap_append, holding.takes, List.flatMap_singleton]
    · refine tiles_concat holding.tiles ?_
      rw [holding.takes, start]
    · intro chunk member
      rcases List.mem_append.mp member with earlier | last
      · exact holding.read chunk earlier
      · rw [List.mem_singleton.mp last]
        exact ⟨progress.tick, map_reader_toList answered⟩

theorem ends_writeChunk [DecidableEq π]
    (holding : Holding world disk address length taken written hashed progress)
    (bytes : List UInt8) :
    Ends (Holding world disk address length taken (written ++ bytes) hashed)
      (Pending disk address length) (writeChunk world bytes progress) := by
  rcases holding.content with ⟨file, isFile, content⟩
  have pending (edit : List UInt8 → List UInt8) : Pending disk address length
      { progress with
        tick := progress.tick + 1
        disk := progress.disk.change file edit } := by
    refine ⟨holding.incomplete, ?_, holding.fresh, holding.inRange⟩
    intro other differs
    have different : other ≠ file := by
      rintro rfl
      exact differs isFile
    change (progress.disk.change file edit).files other = _
    rw [Disk.files_change_of_ne different]
    exact holding.elsewhere other differs
  simp only [writeChunk]
  split
  · rename_i absent
    rw [isFile] at absent
    cases absent
  · rename_i owned isOwned
    rw [isFile] at isOwned
    cases isOwned
    split_ifs with success
    · refine ⟨pending _, ⟨file, isFile, ?_⟩, holding.hashes, holding.takes, holding.tiles,
        holding.read⟩
      change (progress.disk.change file _).content file = some (written ++ bytes)
      rw [Disk.content_change_self content, success.2, List.take_length]
    · exact pending _

theorem ends_hashChunk
    (holding : Holding world disk address length taken written hashed progress)
    (bytes : List UInt8) :
    Ends (Holding world disk address length taken written (hashed ++ bytes))
      (Pending disk address length) (hashChunk world bytes progress) := by
  have pending : Pending disk address length { progress with tick := progress.tick + 1 } :=
    holding.congr rfl rfl rfl rfl
  simp only [hashChunk]
  split_ifs with success
  · refine ⟨holding.congr rfl rfl rfl rfl, holding.content, ?_, holding.takes, holding.tiles,
      holding.read⟩
    change progress.hashed ++ bytes = hashed ++ bytes
    rw [holding.hashes]
  · exact pending

/-- The loop takes, writes and hashes the rest of the range. -/
theorem ends_copyFrom [DecidableEq π] (fits : address.toNat + length ≤ 2 ^ 64)
    (holding : Holding world disk address length taken taken taken progress)
    (within : taken.length ≤ length) :
    Ends (fun later => ∃ all : List UInt8, all.length = length ∧
        Holding world disk address length all all all later)
      (Pending disk address length) (copyFrom world address length taken.length progress) := by
  -- The induction is on what is left of the range.
  induction left : length - taken.length using Nat.strongRecOn
    generalizing taken progress with
  | _ left ih =>
      have pendingOf (taken written hashed : List UInt8) (later : DumpProgress π)
          (held : Holding world disk address length taken written hashed later) :
          Pending disk address length later := held.toPending
      rw [copyFrom]
      by_cases more : taken.length < length
      · rw [if_pos more]
        have positive : 0 < min kDumpBuffer (length - taken.length) := by
          simp only [kDumpBuffer]
          omega
        have least := Nat.min_le_right kDumpBuffer (length - taken.length)
        generalize min kDumpBuffer (length - taken.length) = count at *
        refine Ends.bind (Ends.pending (ends_valid untimed_holding holding) (pendingOf _ _ _)) ?_
        intro checked holding
        refine Ends.bind (ends_readChunk fits holding (by omega) positive) ?_
        rintro ⟨bytes, read⟩ ⟨counted, holding⟩
        simp only [] at counted holding
        refine Ends.bind (Ends.pending (ends_valid untimed_holding holding) (pendingOf _ _ _)) ?_
        intro stillValid holding
        refine Ends.bind (ends_writeChunk holding bytes) ?_
        intro out holding
        refine Ends.bind (ends_hashChunk holding bytes) ?_
        intro digested holding
        refine Ends.bind (Ends.pending (ends_valid untimed_holding holding) (pendingOf _ _ _)) ?_
        intro again holding
        have size : (taken ++ bytes).length = taken.length + count := by
          rw [List.length_append, counted]
        have rest := ih (length - (taken ++ bytes).length) (by omega) holding (by omega) rfl
        rw [size] at rest
        exact rest
      · rw [if_neg more]
        exact ⟨taken, by omega, holding⟩

/-- What a published dump leaves behind. -/
structure Published (world : DumpWorld π) (disk : Disk π) (path : WidePath) (address : BitVec 64)
    (length : Nat) (progress : DumpProgress π) : Prop where
  complete : progress.result.complete = true
  counted : progress.result.bytesWritten = length
  owned : progress.temporary = none
  content : progress.disk.content (world.fileOf path) =
    some (progress.received.flatMap Prod.snd)
  size : (progress.received.flatMap Prod.snd).length = length
  digest : progress.result.sha256 =
    hexOf (world.sha256 (progress.received.flatMap Prod.snd)).toList
  tiles : Tiles address.toNat progress.received
  read : ∀ chunk ∈ progress.received, ∃ tick,
    (world.reader tick chunk.1 chunk.2.length).map Vector.toList = some chunk.2
  elsewhere : ∀ file, file ≠ world.fileOf path → progress.disk.files file = disk.files file
  inRange : ∀ call ∈ progress.calls,
    address.toNat ≤ call.1.toNat ∧ call.1.toNat + call.2 ≤ address.toNat + length

/-- A dump that holds the whole range and its digest. -/
structure Ready (world : DumpWorld π) (disk : Disk π) (address : BitVec 64) (length : Nat)
    (all : List UInt8) (progress : DumpProgress π) : Prop extends
    Holding world disk address length all all all progress where
  digest : progress.result.sha256 = hexOf (world.sha256 all).toList

theorem untimed_ready {all : List UInt8} : Untimed (Ready world disk address length all) := by
  intro progress later ready sameDisk sameFile sameCalls sameResult sameDigest sameHash sameReads
  refine ⟨untimed_holding progress later ready.toHolding sameDisk sameFile sameCalls sameResult
    sameDigest sameHash sameReads, ?_⟩
  rw [sameDigest, ready.digest]

theorem ends_setDigest {all : List UInt8}
    (holding : Holding world disk address length all all all progress) :
    Ends (Ready world disk address length all) (Pending disk address length)
      (setDigest world progress) := by
  refine ⟨⟨holding.congr rfl rfl rfl rfl, holding.content, holding.hashes, holding.takes,
    holding.tiles, holding.read⟩, ?_⟩
  change hexOf (world.sha256 progress.hashed).toList = _
  rw [holding.hashes]

theorem ends_publish [DecidableEq π] {all : List UInt8} {path : WidePath} {overwrite : Bool}
    (ready : Ready world disk address length all progress) (size : all.length = length) :
    Ends (fun later => Published world disk path address length later ∧
        (overwrite = false → disk.files (world.fileOf path) = none))
      (Pending disk address length) (publish world path length overwrite progress) := by
  rcases ready.content with ⟨file, isFile, content⟩
  simp only [publish]
  split
  · exact ready.congr rfl rfl rfl rfl
  · rename_i owned isOwned
    rw [isFile] at isOwned
    cases isOwned
    split_ifs with renamed
    · have source : (progress.disk.rename file (world.fileOf path)).content (world.fileOf path) =
          some (progress.received.flatMap Prod.snd) := by
        rw [ready.takes, ← content]
        exact Disk.content_of_files (Disk.files_rename_target _ _)
      refine ⟨⟨rfl, rfl, rfl, source, ?_, ?_, ready.tiles, ready.read, ?_, ready.inRange⟩, ?_⟩
      · change (progress.received.flatMap Prod.snd).length = length
        rw [ready.takes, size]
      · change progress.result.sha256 = hexOf (world.sha256
          (progress.received.flatMap Prod.snd)).toList
        rw [ready.takes, ready.digest]
      · intro other different
        change (progress.disk.rename file (world.fileOf path)).files other = _
        by_cases same : other = file
        · rw [same] at different ⊢
          rw [Disk.files_rename_source different, ready.fresh file isFile]
        · rw [Disk.files_rename_of_ne different same]
          refine ready.elsewhere other ?_
          rw [isFile]
          intro equal
          exact same (Option.some.inj equal).symm
      · intro keeps
        rcases renamed.2 with replaces | absent
        · rw [keeps] at replaces
          cases replaces
        · have gone := Option.isNone_iff_eq_none.mp absent
          by_cases same : world.fileOf path = file
          · rw [same]
            exact ready.fresh file isFile
          · rw [← gone]
            refine (ready.elsewhere _ ?_).symm
            rw [isFile]
            intro equal
            exact same (Option.some.inj equal).symm
    · exact ready.congr rfl rfl rfl rfl

/-- Either the dump is published, or cleaning up undoes everything. -/
theorem ends_dumpBody [DecidableEq π] (fits : address.toNat + length ≤ 2 ^ 64)
    (waiting : Waiting disk address length progress) (path : WidePath) (overwrite : Bool) :
    Ends (fun later => Published world disk path address length later ∧
        (overwrite = false → disk.files (world.fileOf path) = none))
      (Pending disk address length)
      (dumpBody world path address length overwrite progress) := by
  have waits (later : DumpProgress π) (waiting : Waiting disk address length later) :
      Pending disk address length later := waiting.toPending
  have holds (all : List UInt8) (later : DumpProgress π)
      (holding : Holding world disk address length all all all later) :
      Pending disk address length later := holding.toPending
  have readies (all : List UInt8) (later : DumpProgress π)
      (ready : Ready world disk address length all later) :
      Pending disk address length later := ready.toPending
  rw [dumpBody]
  refine Ends.bind (Ends.pending (ends_valid untimed_waiting waiting) waits) ?_
  intro checked waiting
  refine Ends.bind (Ends.pending (ends_openAncestors untimed_waiting waiting _) waits) ?_
  intro opened waiting
  refine Ends.bind (Ends.pending (ends_demand untimed_waiting waiting _) waits) ?_
  intro admitted waiting
  refine Ends.bind (ends_createTemporary waiting path) ?_
  intro created holding
  refine Ends.bind (Ends.pending (ends_demand untimed_holding holding _) (holds _)) ?_
  intro provided holding
  refine Ends.bind (Ends.pending (ends_demand untimed_holding holding _) (holds _)) ?_
  intro hashing holding
  refine Ends.bind (ends_copyFrom fits holding (Nat.zero_le _)) ?_
  rintro copied ⟨all, size, holding⟩
  refine Ends.bind (Ends.pending (ends_demand untimed_holding holding _) (holds _)) ?_
  intro finished holding
  refine Ends.bind (Ends.pending (ends_demand untimed_holding holding _) (holds _)) ?_
  intro flushed holding
  refine Ends.bind (ends_setDigest holding) ?_
  intro digested ready
  refine Ends.bind (Ends.pending (ends_demand untimed_ready ready _) (readies _)) ?_
  intro stillAdmitted ready
  refine Ends.bind (Ends.pending (ends_valid untimed_ready ready) (readies _)) ?_
  intro last ready
  exact ends_publish ready size

/-- The range of an accepted request does not wrap. -/
theorem within_of_accepted {path : WidePath}
    (accepted : ¬ ((!validDumpPath path) = true ∨ length = 0 ∨ kMaxDumpLength < length ∨
      BitVec.allOnes 64 - BitVec.ofNat 64 (length - 1) < address)) :
    address.toNat + length ≤ 2 ^ 64 := by
  rcases not_or.mp accepted with ⟨-, accepted⟩
  rcases not_or.mp accepted with ⟨positive, accepted⟩
  rcases not_or.mp accepted with ⟨short, room⟩
  simp only [kMaxDumpLength] at short
  have size : (BitVec.ofNat 64 (length - 1)).toNat = length - 1 := by
    rw [BitVec.toNat_ofNat]
    omega
  have least : BitVec.ofNat 64 (length - 1) ≤ BitVec.allOnes 64 := by
    rw [BitVec.le_def, BitVec.toNat_allOnes, size]
    omega
  rw [BitVec.not_lt, BitVec.le_def, BitVec.toNat_sub_of_le least, BitVec.toNat_allOnes,
    size] at room
  omega

/-- A dump publishes the whole range at once or leaves nothing behind.  If it is
complete, the destination holds what the reader gave for the range, in order, and the
digest and the length are those of these bytes; otherwise every file is as before.
Without `overwrite` a destination that was there stays, and the reader is never asked
for an address outside the range. -/
theorem dump_atomic [DecidableEq π] (world : DumpWorld π) (path : WidePath)
    (address : BitVec 64) (length : Nat) (overwrite : Bool) (disk : Disk π) :
    let outcome := dumpMemory world path address length overwrite disk
    (outcome.result.complete = true →
      Published world disk path address length outcome) ∧
    (outcome.result.complete = false → ∀ file, outcome.disk.files file = disk.files file) ∧
    (overwrite = false → (disk.files (world.fileOf path)).isSome →
      outcome.disk.files (world.fileOf path) = disk.files (world.fileOf path)) ∧
    (∀ call ∈ outcome.calls, address.toNat ≤ call.1.toNat ∧
      call.1.toNat + call.2 ≤ address.toNat + length ∧
      address.toNat + length ≤ 2 ^ 64) := by
  simp only [dumpMemory]
  split
  · refine ⟨?_, ?_, ?_, ?_⟩
    · intro complete
      cases complete
    · intro _ file
      rfl
    · intro _ _
      rfl
    · intro call member
      cases member
  rename_i accepted
  have fits := within_of_accepted accepted
  have waiting : Waiting disk address length ({ disk } : DumpProgress π) :=
    { incomplete := rfl
      elsewhere := fun _ _ => rfl
      fresh := fun _ absent => by cases absent
      inRange := fun _ member => by cases member
      uncreated := rfl
      unread := rfl
      unhashed := rfl }
  have ends := @ends_dumpBody π world disk address length _ _ fits waiting path overwrite
  rcases body : dumpBody world path address length overwrite { disk } with stopped | finished
  · rw [body] at ends
    have pending : Pending disk address length stopped := ends
    simp only [cleanUp_result, cleanUp_calls, pending.incomplete, pending.files_cleanUp]
    refine ⟨?_, fun _ _ => trivial, fun _ _ => trivial, ?_⟩
    · intro complete
      cases complete
    · intro call member
      exact ⟨(pending.inRange call member).1, (pending.inRange call member).2, fits⟩
  · rw [body] at ends
    rcases ends with ⟨published, keeps⟩
    have clean : cleanUp finished = finished := by
      rw [cleanUp, published.owned]
    simp only [clean, published.complete]
    refine ⟨fun _ => published, ?_, ?_, ?_⟩
    · intro complete
      cases complete
    · intro keep there
      rw [keeps keep] at there
      cases there
    · intro call member
      exact ⟨(published.inRange call member).1, (published.inRange call member).2, fits⟩

end Invariants

/-- A system in which nothing fails; a byte of the memory is the end of its address. -/
def willing : DumpWorld WidePath where
  fileOf := id
  expired := fun _ => false
  current := fun _ => true
  opensDirectory := fun _ _ => true
  isPlainDirectory := fun _ _ => true
  attributes := fun _ => .notFound
  random := fun _ => some (Vector.replicate 16 0)
  createsFile := fun _ => true
  opensAlgorithm := fun _ => true
  createsHash := fun _ => true
  reader := fun _ address count =>
    some (Vector.ofFn fun (index : Fin count) => UInt8.ofNat (address.toNat + index.val))
  writes := fun _ count => (true, count)
  hashes := fun _ => true
  finishesHash := fun _ => true
  flushes := fun _ => true
  renames := fun _ => true
  sha256 := fun _ => Vector.replicate 32 0

/-- Three bytes are dumped to a new file, and no other file is left. -/
theorem dump_atomic_published :
    let outcome := dumpMemory willing (wide "C:\\out.bin") 0x1001 3 false Disk.empty
    outcome.result.complete = true ∧
      outcome.disk.content (wide "C:\\out.bin") = some [1, 2, 3] ∧
      ∀ file, file ≠ wide "C:\\out.bin" → outcome.disk.files file = none := by
  have complete : (dumpMemory willing (wide "C:\\out.bin") 0x1001 3 false
      Disk.empty).result.complete = true := by
    decide +kernel
  have published := (dump_atomic willing (wide "C:\\out.bin") 0x1001 3 false
    Disk.empty).1 complete
  exact ⟨complete, by decide +kernel, published.elsewhere⟩

end X64dbgMcp.Plugin.Dump
