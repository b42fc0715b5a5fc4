import Mathlib.Data.List.Sort
import X64dbgMcp.Files.Disk
import X64dbgMcp.Files.Interruption
import X64dbgMcp.Ipc.ToolError
import X64dbgMcp.Text.JsonWriter

/-!
# The audit store

The store keeps a directory of segments: backups named by their identifiers, oldest
first, and the active segment that takes the next line.  Every step on the directory
has a site, where it may be cut short.  Identifiers and times are supplied by the
environment, and the reader of a header is a parameter.

A file is named by its path alone; the open file follows a rename.
-/

namespace X64dbgMcp.Audit

open Files Text
open Ipc (Uuid)

/-- The byte that ends a record. -/
def newline : UInt8 := 0x0a

/-- The files of the log: the active one and its backups. -/
inductive Path where
  | active
  | backup (id : Uuid)
  deriving DecidableEq

/-- A file with its identifier and the length that counts. -/
structure Segment where
  id : Uuid
  path : Path
  length : Nat
  deriving DecidableEq

/-- The open file and where the next write goes. -/
structure Handle where
  path : Path
  position : Nat
  deriving DecidableEq

/-- The list of segments is `rotated` followed by `active`. -/
structure Store where
  file : Handle
  rotated : List Segment
  active : Segment
  backups : Nat
  rotateBytes : Nat
  recoveredBytes : Nat
  oversizeRecords : Nat
  deriving DecidableEq

/-- All segments, the oldest first. -/
def Store.segments (store : Store) : List Segment :=
  store.rotated ++ [store.active]

/-- The store in memory and the disk below it. -/
structure World where
  store : Store
  disk : Disk Path

/-- The steps of the store that a fault can hit. -/
inductive Site where
  | openActive
  | openTruncate
  | rotationSync
  | rename
  | createNew
  | headerWrite
  | headerSync
  | remove (index : Nat)
  | position
  | lineWrite
  | lineSync
  | restoreLength
  | restorePosition
  deriving DecidableEq

/-- The text of a header before its newline. -/
def headerText (id : Uuid) (time : UInt64) : Bytes :=
  Json.write (fun _ => []) (.object
    [("kind", .string "segment"), ("segment_id", .string id.text),
      ("timestamp_unix_ms", .number (.posInt time))])

/-- The first line of a segment. -/
def headerLine (id : Uuid) (time : UInt64) : Bytes :=
  headerText id time ++ [newline]

/-! ## Steps on the world -/

namespace World

/-- `write_all` at the position of the open file. -/
def writeFile (data : Bytes) (world : World) : World where
  store :=
    { world.store with
      file := { world.store.file with position := world.store.file.position + data.length } }
  disk := world.disk.change world.store.file.path (Disk.overwrite world.store.file.position data)

/-- `set_len` on the open file. -/
def setLength (length : Nat) (world : World) : World :=
  { world with disk := world.disk.change world.store.file.path (Disk.resize length) }

/-- Move the position of the open file. -/
def seek (position : Nat) (world : World) : World :=
  { world with
    store := { world.store with file := { world.store.file with position := position } } }

/-- The active segment takes the name of a backup; the open file follows. -/
def renameActive (world : World) : World :=
  let target := Path.backup world.store.active.id
  { store :=
      { world.store with
        active := { world.store.active with path := target }
        file :=
          { world.store.file with
            path :=
              if world.store.file.path = world.store.active.path then target
              else world.store.file.path } }
    disk := world.disk.rename world.store.active.path target }

/-- There is an active file to rename. -/
def canRename (world : World) : Bool :=
  (world.disk.files world.store.active.path).isSome

/-- A new active segment. -/
def createActive (id : Uuid) (world : World) : World where
  store :=
    { world.store with
      file := ⟨.active, 0⟩
      rotated := world.store.rotated ++ [world.store.active]
      active := ⟨id, .active, 0⟩ }
  disk := world.disk.put .active []

/-- `create_new` refuses a file that is there. -/
def canCreate (world : World) : Bool :=
  (world.disk.files .active).isNone

/-- Count the bytes of the active segment. -/
def setActiveLength (length : Nat) (world : World) : World :=
  { world with
    store := { world.store with active := { world.store.active with length := length } } }

/-- Remove the first segment and its file. -/
def removeOldest (world : World) : World :=
  match world.store.rotated with
  | [] => world
  | first :: rest =>
      { store := { world.store with rotated := rest }, disk := world.disk.remove first.path }

/-- The file of the oldest segment is there. -/
def canRemove (world : World) : Bool :=
  world.store.rotated.head?.any fun first => (world.disk.files first.path).isSome

/-- One record more than fits into a segment. -/
def countOversize (world : World) : World :=
  { world with
    store := { world.store with oversizeRecords := world.store.oversizeRecords + 1 } }

end World

/-! ## Programs -/

/-- A program over the store that a fault can cut short. -/
abbrev Action (α : Type) := Program Site World α

/-- A call that never fails by itself. -/
def always (_ : World) : Bool :=
  true

/-- Write the header line of a new segment. -/
def writeHeader (time : UInt64) : Action Unit := do
  let world ← Program.get
  let line := headerLine world.store.active.id time
  .step .headerWrite always (World.writeFile line) fun left => World.writeFile (line.take left)
  .atomic .headerSync always fun world => world
  .modify (World.setActiveLength line.length)

/-- Remove the oldest of the given segments while there are more than the backups. -/
def prune (index : Nat) : List Segment → Action Unit
  | [] => pure ()
  | _ :: rest => do
      let world ← Program.get
      if world.store.backups < rest.length + 1 then do
        .atomic (.remove index) World.canRemove World.removeOldest
        prune (index + 1) rest
      else pure ()

/-- The active segment has no room for the line. -/
def Store.rotates (store : Store) (line : Bytes) : Bool :=
  store.rotateBytes < store.active.length + line.length && 256 < store.active.length

/-- Make the active file a backup and begin a new one. -/
def rotate (id : Uuid) (time : UInt64) : Action Unit := do
  .atomic .rotationSync always fun world => world
  .atomic .rename World.canRename World.renameActive
  .atomic .createNew World.canCreate (World.createActive id)
  writeHeader time
  let world ← Program.get
  prune 0 world.store.rotated

/-- Write a line, or restore the file. -/
def writeLine (line : Bytes) (start : Nat) : Action Unit :=
  Program.orElse
    (do
      .step .lineWrite always (World.writeFile line) fun left => World.writeFile (line.take left)
      .atomic .lineSync always fun world => world)
    (do
      .atomic .restoreLength always (World.setLength start)
      .atomic .restorePosition always (World.seek start)
      .fail)

/-- Count a line of the active segment. -/
def World.countLine (line : Bytes) (world : World) : World :=
  let counted := if world.store.rotateBytes < line.length then world.countOversize else world
  counted.setActiveLength (world.store.active.length + line.length)

/-- Rotate when the line does not fit. -/
def makeRoom (line : Bytes) (id : Uuid) (time : UInt64) : Action Unit := do
  let world ← Program.get
  if world.store.rotates line then rotate id time else pure ()

/-- Write the line where the file stands. -/
def placeLine (line : Bytes) : Action Unit := do
  .atomic .position always fun world => world
  let world ← Program.get
  writeLine line world.store.file.position
  .modify (World.countLine line)

/-- `append`: one line, behind a rotation where it does not fit. -/
def append (line : Bytes) (id : Uuid) (time : UInt64) : Action Unit := do
  makeRoom line id time
  placeLine line

/-! ## Opening -/

/-- `rposition` of a newline. -/
def lastNewline (bytes : Bytes) : Option Nat :=
  (bytes.reverse.findIdx? (· == newline)).map fun index => bytes.length - 1 - index

/-- Look for the last newline before `until`, one block at a time from the back. -/
def completeTail (block : Nat) (content : Bytes) : Nat → Nat → Nat
  | 0, _ => 0
  | rounds + 1, until_ =>
      if until_ = 0 then 0
      else
        let start := until_ - block
        match lastNewline ((content.drop start).take (until_ - start)) with
        | some last => start + last + 1
        | none => completeTail block content rounds start

/-- The length up to the last complete record, scanned from the end. -/
def completeTailLength (content : Bytes) (length : Nat) : Nat :=
  completeTail 8192 content length length

/-- The modification time of a backup; a file without one comes first. -/
def modifiedKey (disk : Disk Path) (id : Uuid) : Nat :=
  ((disk.files (.backup id)).map fun entry => entry.modified + 1).getD 0

/-- The segment of a backup that is found on the disk. -/
def backupSegment (disk : Disk Path) (id : Uuid) : Segment where
  id := id
  path := .backup id
  length := ((disk.content (.backup id)).map List.length).getD 0

/-- Open the active segment and cut it after its last complete line; the lengths
before and after. -/
def recoverActive : Program Site (Disk Path) (Nat × Nat) := do
  .atomic .openActive (fun _ => true) fun disk =>
    if (disk.files .active).isNone then disk.put .active [] else disk
  let disk ← Program.get
  let content := (disk.content .active).getD []
  let valid := completeTailLength content content.length
  .atomic .openTruncate (fun _ => true) fun disk => disk.change .active (Disk.resize valid)
  pure (content.length, valid)

section Opening

-- `segmentIdOf` reads the identifier from the text of a header.
variable (segmentIdOf : Bytes → Option Uuid)

/-- The store of a directory before its header and its pruning. -/
def storeOf (disk : Disk Path) (listing : List Uuid) (newId : Uuid) (backups rotateBytes : Nat)
    (original valid : Nat) : Store where
  file := ⟨.active, valid⟩
  rotated :=
    (listing.insertionSort fun first second => modifiedKey disk first ≤ modifiedKey disk second).map
      (backupSegment disk)
  active :=
    { id :=
        (segmentIdOf ((((disk.content .active).getD []).take (min valid 1024)).takeWhile
          (· != newline))).getD newId
      path := .active
      length := valid }
  backups := backups
  rotateBytes := rotateBytes
  recoveredBytes := original - valid
  oversizeRecords := 0

/-- The part of `open` that has a store. -/
def prepare (time : UInt64) : Action Unit := do
  let world ← Program.get
  if world.store.active.length = 0 then do
    writeHeader time
    prune 0 world.store.rotated
  else prune 0 world.store.rotated

/-- `Store::open`, with the backups in the order of the directory. -/
def openStore (listing : List Uuid) (newId : Uuid) (time : UInt64) (backups rotateBytes : Nat)
    (fault : Option (Fault Site)) (disk : Disk Path) : Ended Store × Disk Path :=
  match recoverActive fault disk with
  | (.returned (original, valid), recovered) =>
      let store :=
        storeOf segmentIdOf recovered listing newId backups rotateBytes original valid
      match prepare time fault ⟨store, recovered⟩ with
      | (.returned (), world) => (.returned world.store, world.disk)
      | (.failed, world) => (.failed, world.disk)
      | (.crashed, world) => (.crashed, world.disk)
  | (.failed, recovered) => (.failed, recovered)
  | (.crashed, recovered) => (.crashed, recovered)

end Opening

end X64dbgMcp.Audit
