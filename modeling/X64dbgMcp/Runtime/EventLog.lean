import Mathlib.Data.List.Basic

/-!
# Event records and the two event histories

Every debugger callback that is observable from outside becomes an
`EventRecord`.  Records go to the history of the established session or, while
a session is only announced, to the history of the candidate.  Both histories
are bounded and drop their oldest record.

Counters are natural numbers.
-/

namespace X64dbgMcp.Runtime

/-- The kinds of recorded events. -/
inductive EventKind where
  | debugInitialized
  | processCreated
  | systemBreakpoint
  | breakpoint
  | exception
  | paused
  | stepped
  | resumed
  | attached
  | detached
  | stopping
  | processExited
  | debugStopped
  | threadCreated
  | threadExited
  | dllLoaded
  | dllUnloaded
  | debugString
  | rip
  deriving DecidableEq

/-- An event as it is kept and told. -/
structure EventRecord where
  sessionId : String := ""
  timestampUnixMs : UInt64 := 0
  sequence : Nat := 0
  generation : Nat := 0
  kind : EventKind := .debugInitialized
  processId : UInt32 := 0
  threadId : UInt32 := 0
  address : UInt64 := 0
  code : UInt64 := 0
  auxiliary : UInt32 := 0
  breakpointType : UInt8 := 0
  hasProcessId : Bool := false
  hasThreadId : Bool := false
  hasAddress : Bool := false
  hasCode : Bool := false
  firstChance : Bool := false
  deriving DecidableEq

/-- What recording an event takes from outside: the wall clock, and whether the
history could allocate room for the record. -/
structure RecordInput where
  timestampUnixMs : UInt64
  stored : Bool
  deriving DecidableEq

/-- The history of the session and the one that a new session may begin with. -/
structure EventLog where
  instanceId : String := ""
  eventHistory : List EventRecord := []
  candidateEvents : List EventRecord := []
  eventHistoryOffset : Nat := 0
  candidateHistoryOffset : Nat := 0
  eventSessionEpoch : Nat := 0
  eventSessionCounter : Nat := 0
  candidateEventSession : Option Nat := none
  eventSessionEstablished : Bool := false
  historyComplete : Bool := true
  candidateHistoryComplete : Bool := true
  nextEventSequence : Nat := 1
  deriving DecidableEq

namespace EventLog

/-- How many events a history keeps. -/
def kMaxEventHistory : Nat := 65536

/-- The largest integer that every reader of JSON keeps exact. -/
def kMaxJsonSafeInteger : Nat := 9007199254740991

/-- The session identifier in its 80-byte buffer, of which the last byte is the
terminator. -/
def sessionIdOf (instanceId : String) (epoch : Nat) : String :=
  String.ofList ((instanceId ++ ":" ++ toString epoch).toList.take 79)

/-- One bounded history with its offset and its completeness flag. -/
structure History where
  records : List EventRecord
  offset : Nat
  complete : Bool

/-- Append a record, dropping the oldest one from a full history. -/
def History.append (history : History) (event : EventRecord) (stored : Bool) : History :=
  let full := history.records.length == kMaxEventHistory
  { records := (if full then history.records.tail else history.records) ++
      (if stored then [event] else [])
    offset := if full then history.offset + 1 else history.offset
    complete := history.complete && !full && stored }

/-- The history that receives the next record. -/
def target (log : EventLog) : History :=
  if log.candidateEventSession.isSome then
    ⟨log.candidateEvents, log.candidateHistoryOffset, log.candidateHistoryComplete⟩
  else ⟨log.eventHistory, log.eventHistoryOffset, log.historyComplete⟩

/-- Store the history that events are recorded in. -/
def setTarget (log : EventLog) (history : History) : EventLog :=
  if log.candidateEventSession.isSome then
    { log with
      candidateEvents := history.records
      candidateHistoryOffset := history.offset
      candidateHistoryComplete := history.complete }
  else
    { log with
      eventHistory := history.records
      eventHistoryOffset := history.offset
      historyComplete := history.complete }

/-- Number an event, hand it to the event stream and append it to its history.
Beyond the largest integer that JSON can carry nothing is recorded. -/
def recordEventLocked (log : EventLog) (input : RecordInput) (event : EventRecord) :
    Option EventRecord × EventLog :=
  if kMaxJsonSafeInteger < log.nextEventSequence then
    (none, log.setTarget { log.target with complete := false })
  else
    let numbered :=
      { event with
        sequence := log.nextEventSequence
        sessionId := sessionIdOf log.instanceId
          (log.candidateEventSession.getD log.eventSessionEpoch)
        timestampUnixMs := input.timestampUnixMs }
    (some numbered,
      { log.setTarget (log.target.append numbered input.stored) with
        nextEventSequence := log.nextEventSequence + 1 })

/-- A new debug session is announced; its events wait for the process. -/
def openCandidate (log : EventLog) : EventLog :=
  { log with
    candidateEvents := []
    candidateHistoryOffset := 0
    candidateHistoryComplete := true
    eventSessionCounter := log.eventSessionCounter + 1
    candidateEventSession := some (log.eventSessionCounter + 1)
    eventSessionEstablished := false }

/-- The created process establishes the announced session, or a new one when
none was announced, and invalidates the old cursors.  The counter moves in both
cases: the source passes its increment as the default of `value_or`. -/
def establish (log : EventLog) : EventLog :=
  { log with
    eventSessionCounter := log.eventSessionCounter + 1
    eventSessionEpoch := log.candidateEventSession.getD (log.eventSessionCounter + 1)
    eventHistory := log.candidateEvents
    eventHistoryOffset := log.candidateHistoryOffset
    candidateEvents := []
    candidateHistoryOffset := 0
    historyComplete := log.candidateHistoryComplete
    candidateEventSession := none
    eventSessionEstablished := true }

/-- The debug session is over. -/
def closeCandidate (log : EventLog) : EventLog :=
  { log with
    candidateEvents := []
    candidateHistoryOffset := 0
    candidateEventSession := none
    eventSessionEstablished := false }

end EventLog

end X64dbgMcp.Runtime
