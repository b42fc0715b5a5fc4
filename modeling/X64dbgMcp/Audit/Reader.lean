import X64dbgMcp.Audit.Store
import X64dbgMcp.Text.Utf8Scan
import X64dbgMcp.Transition.Execution

/-!
# The audit reader

A reader takes a snapshot of the segments and reads it in chunks, each at the cursor
that the chunk before gave it.  A chunk ends at a byte budget, at a character and at a
number of records.  Cursors are kept in the order in which they were given, and the
oldest are dropped.  The reader of an identifier is a parameter.
-/

namespace X64dbgMcp.Audit

open Files Text Transition
open Ipc (Uuid)

/-- The codes with which a read fails. -/
inductive ReadCode where
  | invalidArgument
  | cursorExpired
  | logReadFailed
  deriving DecidableEq

/-- A code as it is told. -/
def ReadCode.text : ReadCode → String
  | .invalidArgument => "INVALID_ARGUMENT"
  | .cursorExpired => "CURSOR_EXPIRED"
  | .logReadFailed => "LOG_READ_FAILED"

/-- The error of the reader: recoverable, not safe to retry, without details. -/
structure Failure where
  code : ReadCode
  message : String
  deriving DecidableEq

/-- Where a reader stands in its snapshot of the segments. -/
structure Cursor where
  segments : List Segment
  index : Nat
  offset : Nat
  partialRecord : Bool
  deriving DecidableEq

/-- The cursors that were given out. -/
structure Cursors where
  cursors : Uuid → Option Cursor
  cursorOrder : List Uuid
  successors : Uuid → Nat → Nat → Option Uuid

/-- The identifiers of segments and cursors so far are those that a new one differs
from. -/
structure Log where
  world : World
  cursors : Cursors
  issued : List Uuid

/-- The records that one call reads from one segment. -/
structure Chunk where
  text : Bytes
  bytes : Nat
  completedRecords : Nat
  segmentId : Uuid
  offset : Nat
  startsMidRecord : Bool
  endsMidRecord : Bool
  partialRecord : Bool
  nextCursor : Option Uuid
  complete : Bool
  deriving DecidableEq

/-- `empty_read`, or a chunk. -/
inductive Reply where
  | empty
  | chunk (chunk : Chunk)
  deriving DecidableEq

namespace Reply

/-- The encoding that every chunk names. -/
def encoding : String := "utf8_jsonl"

/-- The bytes that a reply holds. -/
def text : Reply → Bytes
  | empty => []
  | chunk read => read.text

/-- The cursor to go on with, if there is more to read. -/
def nextCursor : Reply → Option Uuid
  | empty => none
  | chunk read => read.nextCursor

/-- Whether the snapshot has been read to its end. -/
def complete : Reply → Bool
  | empty => true
  | chunk read => read.complete

end Reply

/-! ## Arguments -/

/-- An optional number within bounds, with a default. -/
def optionalBounded (value : Option Json) (default minimum maximum : Nat) (message : String) :
    Except Failure Nat :=
  match value with
  | none => .ok default
  | some value =>
      match value.asU64.filter fun number => minimum ≤ number.toNat ∧ number.toNat ≤ maximum with
      | some number => .ok number.toNat
      | none => .error ⟨.invalidArgument, message⟩

/-- The record limit and the byte budget of a call. -/
def readBounds (arguments : Json) : Except Failure (Nat × Nat) :=
  match arguments.asObject with
  | none => .error ⟨.invalidArgument, "arguments must be an object"⟩
  | some object =>
      if object.any fun field => !(["cursor", "limit", "max_bytes"].contains field.1) then
        .error ⟨.invalidArgument, "unknown log reader field"⟩
      else do
        let limit ← optionalBounded (object.lookup "limit") 50 1 100 "invalid log record limit"
        let budget ←
          optionalBounded (object.lookup "max_bytes") 65536 1024 262144 "invalid log byte limit"
        pure (limit, budget)

/-! ## Positions -/

namespace Cursor

/-- Each segment is passed at most once. -/
def advance : Nat → Cursor → Cursor
  | 0, cursor => cursor
  | rounds + 1, cursor =>
      match cursor.segments[cursor.index]? with
      | none => cursor
      | some segment =>
          if cursor.offset = segment.length then
            advance rounds
              { cursor with index := cursor.index + 1, offset := 0, partialRecord := false }
          else cursor

/-- Go over the segments that have been read to their ends. -/
def advanceEmptySegments (cursor : Cursor) : Cursor :=
  cursor.advance (cursor.segments.length - cursor.index)

/-- The segment that the next byte is in. -/
def segment (cursor : Cursor) : Option Segment :=
  cursor.segments[cursor.index]?

/-- The bytes stop within a record. -/
def endsMidRecord (bytes : Bytes) : Bool :=
  bytes.getLast? != some newline

/-- Go past the bytes of a chunk. -/
def pass (cursor : Cursor) (bytes : Bytes) : Cursor :=
  { cursor with offset := cursor.offset + bytes.length, partialRecord := endsMidRecord bytes }

end Cursor

/-- The cursor is unknown or was forgotten. -/
def invalidCursor : Failure :=
  ⟨.cursorExpired, "invalid or expired audit cursor"⟩

/-- A segment of the snapshot is no longer there. -/
def rotatedOut : Failure :=
  ⟨.cursorExpired, "snapshot segment has rotated out"⟩

/-- A segment could not be read. -/
def unreadable : Failure :=
  ⟨.logReadFailed, "audit segment could not be read"⟩

/-- A segment does not hold text. -/
def notUtf8 : Failure :=
  ⟨.logReadFailed, "audit segment is not UTF-8"⟩

/-- Read exactly so many bytes of a segment that the store still has. -/
def readSegment (world : World) (segment : Segment) (offset count : Nat) : Except Failure Bytes :=
  match world.store.segments.find? fun candidate => candidate.id = segment.id with
  | none => .error rotatedOut
  | some current =>
      match world.disk.content current.path with
      | none => .error unreadable
      | some content =>
          if content.length < offset + count then .error unreadable
          else .ok ((content.drop offset).take count)

/-! ## Chunks -/

/-- How many records end in the bytes, up to the limit, and where the last of them
does. -/
def recordBoundary (limit : Nat) : Bytes → Nat → Nat → Option Nat → Nat × Option Nat
  | [], _, completed, last => (completed, last)
  | byte :: rest, index, completed, last =>
      if byte = newline then
        if completed + 1 = limit then (completed + 1, some (index + 1))
        else recordBoundary limit rest (index + 1) (completed + 1) (some (index + 1))
      else recordBoundary limit rest (index + 1) completed last

/-- Cut bytes at a character and at a record; the chunk and its completed records. -/
def cutChunk (limit : Nat) (bytes : Bytes) : Except Failure (Bytes × Nat) :=
  match (fromUtf8 bytes).validUpTo bytes.length with
  | none => .error notUtf8
  | some valid =>
      let bytes := bytes.take valid
      match recordBoundary limit bytes 0 0 none with
      | (completed, some last) => .ok (bytes.take last, completed)
      | (completed, none) => .ok (bytes, completed)

/-! ## Cursor tables -/

/-- `MAX_CURSORS`: how many cursors are remembered. -/
def maxCursors : Nat := 512

namespace Cursors

/-- No cursor has been given. -/
def empty : Cursors :=
  ⟨fun _ => none, [], fun _ _ _ => none⟩

/-- Forget a cursor and what refers to it. -/
def expire (expired : Uuid) (cursors : Cursors) : Cursors where
  cursors := Function.update cursors.cursors expired none
  cursorOrder := cursors.cursorOrder
  successors := fun source limit budget =>
    (cursors.successors source limit budget).filter fun successor =>
      source ≠ expired ∧ successor ≠ expired

/-- Drop the first cursors of the order while there are too many. -/
def evict : List Uuid → Cursors → Cursors
  | [], cursors => { cursors with cursorOrder := [] }
  | expired :: rest, cursors =>
      if maxCursors < rest.length + 1 then evict rest (cursors.expire expired)
      else { cursors with cursorOrder := expired :: rest }

/-- A new cursor, the successor of its source. -/
def add (cursors : Cursors) (source : Option Uuid) (limit budget : Nat) (id : Uuid)
    (cursor : Cursor) : Cursors where
  cursors := Function.update cursors.cursors id (some cursor)
  cursorOrder := cursors.cursorOrder ++ [id]
  successors := fun origin records bytes =>
    if source = some origin ∧ records = limit ∧ bytes = budget then some id
    else cursors.successors origin records bytes

/-- Record a new cursor and forget the oldest ones beyond the limit. -/
def insert (cursors : Cursors) (source : Option Uuid) (limit budget : Nat) (id : Uuid)
    (cursor : Cursor) : Cursors :=
  evict (cursors.cursorOrder ++ [id]) (cursors.add source limit budget id cursor)

/-- The successor that an earlier call made. -/
def existing (cursors : Cursors) (source : Option Uuid) (limit budget : Nat) : Option Uuid :=
  (source.bind fun source => cursors.successors source limit budget).filter fun successor =>
    (cursors.cursors successor).isSome

/-- The cursor after a chunk: none at the end, else that of an earlier call or a new
one. -/
def follow (cursors : Cursors) (source : Option Uuid) (limit budget : Nat) (after : Cursor)
    (newId : Uuid) : Option Uuid × Cursors :=
  if after.index = after.segments.length then (none, cursors)
  else
    match cursors.existing source limit budget with
    | some existing => (some existing, cursors)
    | none => (some newId, cursors.insert source limit budget newId after)

end Cursors

/-! ## Calls -/

namespace Log

variable (parseUuid : String → Option Uuid)

/-- Where a call starts: a new snapshot, or a cursor. -/
def position (log : Log) (cursor : Option Json) : Except Failure (Option Uuid × Cursor) :=
  match cursor with
  | none => .ok (none, ⟨log.world.store.segments, 0, 0, false⟩)
  | some value =>
      match (value.asStr.filter fun text => (utf8 text).length ≤ 512).bind parseUuid with
      | none => .error invalidCursor
      | some id =>
          match log.cursors.cursors id with
          | none => .error invalidCursor
          | some cursor => .ok (some id, cursor)

/-- The reply of a call that read a chunk at a cursor. -/
def chunkOf (cursor : Cursor) (segment : Segment) (bytes : Bytes) (completedRecords : Nat)
    (after : Cursor) (nextCursor : Option Uuid) : Chunk where
  text := bytes
  bytes := bytes.length
  completedRecords := completedRecords
  segmentId := segment.id
  offset := cursor.offset
  startsMidRecord := cursor.partialRecord
  endsMidRecord := Cursor.endsMidRecord bytes
  partialRecord := cursor.partialRecord || Cursor.endsMidRecord bytes
  nextCursor := nextCursor
  complete := after.index = after.segments.length

/-- A chunk at a position. -/
def readAt (log : Log) (source : Option Uuid) (position : Cursor) (limit budget : Nat)
    (newId : Uuid) : Except Failure Reply × Log :=
  let cursor := position.advanceEmptySegments
  match cursor.segment with
  | none => (.ok .empty, log)
  | some segment =>
      match readSegment log.world segment cursor.offset
          (min budget (segment.length - cursor.offset)) >>= cutChunk limit with
      | .error failure => (.error failure, log)
      | .ok (bytes, completedRecords) =>
          let after := (cursor.pass bytes).advanceEmptySegments
          let followed := log.cursors.follow source limit budget after newId
          let log := { log with cursors := followed.2 }
          match fromUtf8 bytes with
          | .valid =>
              (.ok (.chunk (chunkOf cursor segment bytes completedRecords after followed.1)), log)
          | _ => (.error notUtf8, log)

/-- `AuditLog::read` of an available store. -/
def read (log : Log) (arguments : Json) (newId : Uuid) : Except Failure Reply × Log :=
  match readBounds arguments with
  | .error failure => (.error failure, log)
  | .ok (limit, budget) =>
      match log.position parseUuid (arguments.get "cursor") with
      | .error failure => (.error failure, log)
      | .ok (source, position) => log.readAt source position limit budget newId

end Log

/-! ## Runs -/

/-- A line is appended, or a reader calls. -/
inductive LogEvent where
  | append (text : String) (id : Uuid) (time : UInt64)
  | read (arguments : Json) (newId : Uuid)

/-- What a step of the log tells. -/
inductive LogReport where
  | appended
  | replied (result : Except Failure Reply)

/-- The line of a text. -/
def lineOf (text : String) : Bytes :=
  utf8 text ++ [newline]

/-- One append or one read; its identifier must be new. -/
def logNext (parseUuid : String → Option Uuid) : Step Log LogEvent LogReport := fun log event =>
  match event with
  | .append text id time =>
      if id ∈ log.issued then none
      else
        match append (lineOf text) id time none log.world with
        | (.returned (), world) =>
            some (.appended, { log with world := world, issued := id :: log.issued })
        | _ => none
  | .read arguments newId =>
      if newId ∈ log.issued then none
      else
        let called := log.read parseUuid arguments newId
        some (.replied called.1, { called.2 with issued := newId :: log.issued })

end X64dbgMcp.Audit
