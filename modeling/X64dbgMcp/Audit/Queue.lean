import X64dbgMcp.Audit.Store
import X64dbgMcp.Transition.Execution

/-!
# The audit queue

`AuditLog::record` hands a line to the writer thread through a bounded channel.  The
bytes on their way are counted before a line is sent and given back by whoever ends its
way: the caller whose line was refused, or the writer.  Callers and writer interleave at
every atomic operation, and appends fail at any time.

A call is named by its number; the number of a line is not part of its bytes.
-/

namespace X64dbgMcp.Audit

open Files Text

/-- `QUEUE_RECORDS`: the capacity of the channel. -/
def queueRecords : Nat := 256

/-- `MAX_QUEUED_BYTES`: the bytes that may wait for the writer. -/
def maxQueuedBytes : Nat := 64 * 1024 * 1024

/-- The values of a `usize`. -/
def usizeSize : Nat := 2 ^ 64

/-- Addition on `usize` that tells of an overflow. -/
def checkedAdd (left right : Nat) : Option Nat :=
  if left + right < usizeSize then some (left + right) else none

/-- `fetch_sub` wraps around. -/
def fetchSub (value amount : Nat) : Nat :=
  if amount ≤ value then value - amount else value + usizeSize - amount

/-- The atomic fields that the tasks and the writer share. -/
structure Counters where
  queuedBytes : Nat := 0
  dropped : UInt64 := 0
  written : UInt64 := 0
  errors : UInt64 := 0
  healthy : Bool := true
  deriving DecidableEq

/-- A serialised record in the channel, with the call that sent it. -/
structure AuditLine where
  call : Nat
  bytes : Bytes
  deriving DecidableEq

/-- Where a running call of `record` stands. -/
inductive RecordPoint where
  /-- About to count the record as dropped. -/
  | dropping
  | reserving (line : Bytes)
  /-- The bytes are counted; the line is not sent yet. -/
  | sending (line : Bytes)
  /-- The channel was full; the bytes are still counted. -/
  | releasing (line : Bytes)
  deriving DecidableEq

/-- A running call of `record` and how far it has come. -/
structure RecordCall where
  call : Nat
  point : RecordPoint
  deriving DecidableEq

/-- Where the writer stands. -/
inductive WriterPoint where
  | receiving
  /-- About to lock the store. -/
  | locking (line : AuditLine)
  /-- About to load the number of dropped records. -/
  | loading (line : AuditLine)
  /-- About to append an `audit_gap`. -/
  | reporting (line : AuditLine) (dropped : UInt64)
  | appending (line : AuditLine)
  /-- About to give the bytes back. -/
  | releasing (line : AuditLine) (appended : Bool)
  | counting (call : Nat) (appended : Bool)
  /-- The error is counted; the drop is not. -/
  | dropping (call : Nat)
  /-- About to store that the log is not healthy. -/
  | degrading
  deriving DecidableEq

/-- The log as the recording tasks and the writer thread see it. -/
structure AuditQueue where
  /-- Whether there is a sender. -/
  connected : Bool
  counters : Counters := {}
  /-- The number of calls so far. -/
  calls : Nat := 0
  running : List RecordCall := []
  queue : List AuditLine := []
  writer : WriterPoint := .receiving
  reportedDrops : UInt64 := 0
  deriving DecidableEq

/-- What becomes of a record in the end. -/
inductive Fate where
  | written
  | dropped
  deriving DecidableEq

/-- The numbers of an `audit_gap` line. -/
structure AuditGap where
  droppedTotal : UInt64
  droppedSincePrevious : UInt64
  deriving DecidableEq

/-- What a step shows: the call that was counted, or the gap that was appended. -/
inductive AuditEvent where
  | quiet
  | counted (call : Nat) (fate : Fate)
  | reported (gap : AuditGap)
  deriving DecidableEq

/-- The steps of the recording tasks and of the writer. -/
inductive AuditAction where
  /-- A call begins, and its record is serialised or not. -/
  | record (serialised : Option Bytes)
  /-- One operation of the running call at a position. -/
  | advance (index : Nat)
  /-- One operation of the writer.  `succeeds` is the outcome of the lock or append. -/
  | write (succeeds : Bool)
  deriving DecidableEq

namespace AuditQueue

/-- An opened log, or a disabled one. -/
def start (connected : Bool) : AuditQueue where
  connected := connected

/-- The first operation of a call. -/
def entry (log : AuditQueue) (serialised : Option Bytes) : RecordPoint :=
  if log.connected then
    match serialised with
    | none => .dropping
    | some record => .reserving (record ++ [newline])
  else .dropping

/-- A call of `record` up to its first atomic operation. -/
def record (log : AuditQueue) (serialised : Option Bytes) : AuditQueue :=
  { log with
    calls := log.calls + 1
    running := log.running ++ [⟨log.calls, log.entry serialised⟩] }

/-- The running call at `index` goes on to `point`. -/
def move (log : AuditQueue) (index call : Nat) (point : RecordPoint) : AuditQueue :=
  { log with running := log.running.set index ⟨call, point⟩ }

/-- The running call at `index` returns. -/
def leave (log : AuditQueue) (index : Nat) : AuditQueue :=
  { log with running := log.running.eraseIdx index }

/-- Store the number of queued bytes. -/
def setQueuedBytes (log : AuditQueue) (queued : Nat) : AuditQueue :=
  { log with counters.queuedBytes := queued }

/-- One record more was dropped; the counter wraps. -/
def countDropped (log : AuditQueue) : AuditQueue :=
  { log with counters.dropped := log.counters.dropped + 1 }

/-- The bytes counted after a reservation that fits. -/
def reserve (log : AuditQueue) (length : Nat) : Option Nat :=
  (checkedAdd log.counters.queuedBytes length).filter fun total => total ≤ maxQueuedBytes

/-- `try_send`. -/
def trySend (log : AuditQueue) (line : AuditLine) : Option AuditQueue :=
  if log.queue.length < queueRecords then some { log with queue := log.queue ++ [line] } else none

/-- The next atomic operation of a running call. -/
def advance (log : AuditQueue) (index : Nat) : Option (AuditEvent × AuditQueue) :=
  match log.running[index]? with
  | none => none
  | some ⟨call, .dropping⟩ => some (.counted call .dropped, log.countDropped.leave index)
  | some ⟨call, .reserving line⟩ =>
      match log.reserve line.length with
      | some total => some (.quiet, (log.setQueuedBytes total).move index call (.sending line))
      | none => some (.quiet, log.move index call .dropping)
  | some ⟨call, .sending line⟩ =>
      match log.trySend ⟨call, line⟩ with
      | some sent => some (.quiet, sent.leave index)
      | none => some (.quiet, log.move index call (.releasing line))
  | some ⟨call, .releasing line⟩ =>
      some (.quiet, (log.setQueuedBytes (fetchSub log.counters.queuedBytes line.length)).move
        index call .dropping)

/-- Where the writer stands now. -/
def setWriter (log : AuditQueue) (point : WriterPoint) : AuditQueue :=
  { log with writer := point }

/-- `writer_loop`, one operation at a time. -/
def write (log : AuditQueue) (succeeds : Bool) : Option (AuditEvent × AuditQueue) :=
  match log.writer with
  | .receiving =>
      match log.queue with
      | [] => none
      | line :: rest => some (.quiet, { log with queue := rest, writer := .locking line })
  | .locking line =>
      some (.quiet, log.setWriter (if succeeds then .loading line else .releasing line false))
  | .loading line =>
      if log.counters.dropped ≠ log.reportedDrops then
        some (.quiet, log.setWriter (.reporting line log.counters.dropped))
      else
        some (.quiet, log.setWriter (.appending line))
  | .reporting line dropped =>
      if succeeds then
        some (.reported ⟨dropped, dropped - log.reportedDrops⟩,
          { log with reportedDrops := dropped, writer := .appending line })
      else
        some (.quiet, log.setWriter (.releasing line false))
  | .appending line => some (.quiet, log.setWriter (.releasing line succeeds))
  | .releasing line appended =>
      let queued := fetchSub log.counters.queuedBytes line.bytes.length
      some (.quiet, (log.setQueuedBytes queued).setWriter (.counting line.call appended))
  | .counting call true =>
      some (.counted call .written,
        { log with
          counters.written := log.counters.written + 1
          writer := .receiving })
  | .counting call false =>
      some (.quiet,
        { log with
          counters.errors := log.counters.errors + 1
          writer := .dropping call })
  | .dropping call => some (.counted call .dropped, log.countDropped.setWriter .degrading)
  | .degrading => some (.quiet, { log with counters.healthy := false, writer := .receiving })

/-- One step of the log. -/
def next : Transition.Step AuditQueue AuditAction AuditEvent
  | log, .record serialised => some (.quiet, log.record serialised)
  | log, .advance index => log.advance index
  | log, .write succeeds => log.write succeeds

/-! ## What is on its way -/

end AuditQueue

/-- The line that a running call has counted. -/
def RecordPoint.reserved : RecordPoint → List Bytes
  | .sending line | .releasing line => [line]
  | .dropping | .reserving _ => []

/-- The line in the writer's hands whose bytes are counted. -/
def WriterPoint.reserved : WriterPoint → List Bytes
  | .locking line | .loading line | .reporting line _ | .appending line | .releasing line _ =>
      [line.bytes]
  | .receiving | .counting _ _ | .dropping _ | .degrading => []

/-- The call in the writer's hands that is not counted yet. -/
def WriterPoint.outstanding : WriterPoint → List Nat
  | .locking line | .loading line | .reporting line _ | .appending line | .releasing line _ =>
      [line.call]
  | .counting call _ | .dropping call => [call]
  | .receiving | .degrading => []

namespace AuditQueue

/-- The lines reserved and not released yet. -/
def reserved (log : AuditQueue) : List Bytes :=
  log.running.flatMap (fun run => run.point.reserved) ++ log.queue.map AuditLine.bytes ++
    log.writer.reserved

/-- The calls that are not counted yet. -/
def outstanding (log : AuditQueue) : List Nat :=
  log.running.map RecordCall.call ++ log.queue.map AuditLine.call ++ log.writer.outstanding

/-- No call and no step of the writer is in progress. -/
def Quiescent (log : AuditQueue) : Prop :=
  log.running = [] ∧ log.writer = .receiving

end AuditQueue

/-- The calls that were counted with a fate. -/
def countedAs (fate : Fate) (events : List AuditEvent) : List Nat :=
  events.filterMap fun
    | .counted call counted => if counted = fate then some call else none
    | _ => none

/-- The appended `audit_gap` lines. -/
def reportedGaps (events : List AuditEvent) : List AuditGap :=
  events.filterMap fun
    | .reported gap => some gap
    | _ => none

/-- The sum of `dropped_since_previous` over them. -/
def reportedSince (events : List AuditEvent) : Nat :=
  ((reportedGaps events).map fun gap => gap.droppedSincePrevious.toNat).sum

end X64dbgMcp.Audit
