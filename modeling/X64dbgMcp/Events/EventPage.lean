import X64dbgMcp.Plugin.Request
import X64dbgMcp.Plugin.Response

/-!
# Pages of the event history

`events.list` answers a page of the established history under the state lock.
A cursor names the session, the filter and the absolute offset of the first
event that the page before left out; the oldest retained record stands at the
offset of the history.
-/

namespace X64dbgMcp.Events

open X64dbgMcp.Runtime Plugin Text

/-- The underlying value of an event kind. -/
def kindNumber : EventKind → Nat
  | .debugInitialized => 0
  | .processCreated => 1
  | .systemBreakpoint => 2
  | .breakpoint => 3
  | .exception => 4
  | .paused => 5
  | .stepped => 6
  | .resumed => 7
  | .attached => 8
  | .detached => 9
  | .stopping => 10
  | .processExited => 11
  | .debugStopped => 12
  | .threadCreated => 13
  | .threadExited => 14
  | .dllLoaded => 15
  | .dllUnloaded => 16
  | .debugString => 17
  | .rip => 18

/-- The filter of a request: one bit for each kind, all of them when none is
named. -/
def filterOf (types : List EventKind) : Nat :=
  let filter := types.foldl (fun filter kind => filter ||| (1 <<< kindNumber kind)) 0
  if filter = 0 then (1 <<< 19) - 1 else filter

/-- What a page takes from outside: whether the deadline has passed when the
record at an offset is examined, and the generation after the lock. -/
structure PageInput where
  expired : Nat → Bool
  stateGeneration : Nat

/-- What `events.list` answers. -/
structure EventPage where
  requestId : String
  stateGeneration : Nat
  sessionId : String
  latestSequence : Nat
  historyComplete : Bool
  storageError : Option String
  nextCursor : Option String
  items : List EventRecord

/-- The session as pages name it. -/
def sessionText (instanceId : String) (epoch : Nat) : String :=
  instanceId ++ ":" ++ toString epoch

/-- The version, the session and the filter of a cursor. -/
def cursorPrefix (session : String) (filter : Nat) : String :=
  "ev1:" ++ session ++ ":" ++ toString filter ++ ":"

/-- A cursor as it is written. -/
def cursorText (session : String) (filter offset : Nat) : String :=
  cursorPrefix session filter ++ toString offset

/-- The loop over the records from `offset` on, with the items copied so far;
it stops at the first match that does not fit the page. -/
def copyPage (input : PageInput) (filter pageLimit : Nat) :
    Nat → List EventRecord → List EventRecord → Except ErrorResponse (List EventRecord × Option Nat)
  | _, copied, [] => .ok (copied, none)
  | offset, copied, event :: rest =>
      if input.expired offset then
        .error ⟨"TIMEOUT", "event page deadline expired", true, false⟩
      else if filter &&& (1 <<< kindNumber event.kind) = 0 then
        copyPage input filter pageLimit (offset + 1) copied rest
      else if copied.length < pageLimit then
        copyPage input filter pageLimit (offset + 1) (copied ++ [event]) rest
      else .ok (copied, some offset)

/-- The offset at which a page begins. -/
def pageOffset (log : EventLog) (prefixText cursor : String) : Except ErrorResponse Nat :=
  if cursor.isEmpty then .ok log.eventHistoryOffset
  else if (utf8 prefixText).isPrefixOf (utf8 cursor) then
    match fromCharsAll 10 (2 ^ 64) ((utf8 cursor).drop (utf8 prefixText).length) with
    | none => .error ⟨"INVALID_ARGUMENT", "invalid event cursor offset", false, false⟩
    | some offset =>
        if offset < log.eventHistoryOffset ∨
            log.eventHistory.length < offset - log.eventHistoryOffset then
          .error ⟨"INVALID_ARGUMENT", "invalid event cursor offset", false, false⟩
        else .ok offset
  else .error ⟨"INVALID_ARGUMENT", "stale or filter-mismatched event cursor", false, false⟩

/-- The handler of `events.list`. -/
def listEvents (log : EventLog) (request : Request) (input : PageInput) :
    Except ErrorResponse EventPage := do
  let session := sessionText log.instanceId log.eventSessionEpoch
  let filter := filterOf request.eventTypes
  let offset ← pageOffset log (cursorPrefix session filter) request.eventCursor
  let (items, next) ← copyPage input filter request.pageLimit offset []
    (log.eventHistory.drop (offset - log.eventHistoryOffset))
  pure
    { requestId := request.requestId
      stateGeneration := input.stateGeneration
      sessionId := session
      latestSequence := (log.eventHistory.getLast?.map EventRecord.sequence).getD 0
      historyComplete := log.historyComplete
      storageError := if log.historyComplete then none else some "event history is incomplete"
      nextCursor := next.map (cursorText session filter)
      items := items }

/-! ## The filter -/

/-- The kinds a request asks for. -/
def wanted (types : List EventKind) (kind : EventKind) : Bool :=
  types.isEmpty || types.contains kind

/-- The test of one bit. -/
def selects (filter : Nat) (kind : EventKind) : Bool :=
  filter &&& (1 <<< kindNumber kind) != 0

theorem kindNumber_injective : Function.Injective kindNumber := by
  intro first second same
  cases first <;> cases second <;> first | rfl | cases same

theorem kindNumber_lt (kind : EventKind) : kindNumber kind < 19 := by
  cases kind <;> decide

theorem selects_eq_testBit (filter : Nat) (kind : EventKind) :
    selects filter kind = filter.testBit (kindNumber kind) := by
  rw [selects, Nat.one_shiftLeft]
  cases bit : filter.testBit (kindNumber kind) with
  | false =>
      have nothing : filter &&& 2 ^ kindNumber kind = 0 := by
        apply Nat.eq_of_testBit_eq
        intro other
        rw [Nat.testBit_and, Nat.testBit_two_pow, Nat.zero_testBit]
        by_cases same : kindNumber kind = other
        · rw [← same, bit, Bool.false_and]
        · rw [decide_eq_false same, Bool.and_false]
      rw [nothing]
      rfl
  | true =>
      rw [bne_iff_ne]
      intro zero
      have cleared := congrArg (fun number => number.testBit (kindNumber kind)) zero
      simp [bit] at cleared

theorem testBit_foldl_kinds (types : List EventKind) (filter bit : Nat) :
    (types.foldl (fun filter kind => filter ||| (1 <<< kindNumber kind)) filter).testBit bit =
      (filter.testBit bit || types.any fun kind => kindNumber kind == bit) := by
  induction types generalizing filter with
  | nil => simp
  | cons kind rest ih =>
      rw [List.foldl_cons, ih, Nat.testBit_or, Nat.one_shiftLeft, Nat.testBit_two_pow,
        List.any_cons, Bool.or_assoc]
      rfl

theorem testBit_kinds (types : List EventKind) (kind : EventKind) :
    (types.foldl (fun filter kind => filter ||| (1 <<< kindNumber kind)) 0).testBit
      (kindNumber kind) = types.contains kind := by
  rw [testBit_foldl_kinds, Nat.zero_testBit, Bool.false_or, List.contains_eq_any_beq]
  congr 1
  funext other
  rw [Bool.eq_iff_iff, beq_iff_eq, beq_iff_eq, kindNumber_injective.eq_iff, eq_comm]

/-- The filter selects the kinds that were asked for. -/
theorem selects_filterOf (types : List EventKind) (kind : EventKind) :
    selects (filterOf types) kind = wanted types kind := by
  rw [selects_eq_testBit, filterOf]
  cases types with
  | nil =>
      have inside := kindNumber_lt kind
      change ((1 <<< 19) - 1).testBit (kindNumber kind) = true
      rw [Nat.one_shiftLeft, Nat.testBit_two_pow_sub_one, decide_eq_true inside]
  | cons first rest =>
      have some_bit := testBit_kinds (first :: rest) first
      have nonzero : (first :: rest).foldl
          (fun filter kind => filter ||| (1 <<< kindNumber kind)) 0 ≠ 0 := by
        intro zero
        rw [zero, Nat.zero_testBit] at some_bit
        simp at some_bit
      rw [if_neg nonzero, testBit_kinds]
      rfl

/-! ## One page -/

/-- A page is a prefix of the records, and it ends at a match or at the end. -/
theorem copyPage_spec {input : PageInput} {filter pageLimit offset : Nat}
    {copied records items : List EventRecord} {next : Option Nat}
    (page : copyPage input filter pageLimit offset copied records = .ok (items, next)) :
    ∃ count, count ≤ records.length ∧
      items = copied ++ (records.take count).filter (fun event => selects filter event.kind) ∧
      next = if count = records.length then none else some (offset + count) := by
  induction records generalizing offset copied with
  | nil =>
      cases page
      exact ⟨0, Nat.le_refl _, by simp, rfl⟩
  | cons event rest ih =>
      simp only [copyPage] at page
      split at page
      · cases page
      · split at page
        · rename_i skipped
          rcases ih page with ⟨count, le, items, next⟩
          have unselected : selects filter event.kind = false := by simp [selects, skipped]
          refine ⟨count + 1, Nat.succ_le_succ le, ?_, ?_⟩
          · simp [items, unselected]
          · simp only [next, List.length_cons, Nat.add_right_cancel_iff]
            congr 2
            omega
        · rename_i matched
          have selected : selects filter event.kind = true := by simp [selects, matched]
          split at page
          · rcases ih page with ⟨count, le, items, next⟩
            refine ⟨count + 1, Nat.succ_le_succ le, ?_, ?_⟩
            · simp [items, selected]
            · simp only [next, List.length_cons, Nat.add_right_cancel_iff]
              congr 2
              omega
          · cases page
            exact ⟨0, Nat.zero_le _, by simp, by simp⟩

/-- Session and filter of a cursor as bytes. -/
def cursorBytes (session : String) (filter : Nat) : List UInt8 :=
  (utf8 "ev1:" ++ utf8 session) ++ 0x3a :: decimal filter

theorem utf8_cursorPrefix (session : String) (filter : Nat) :
    utf8 (cursorPrefix session filter) = cursorBytes session filter ++ [0x3a] := by
  simp only [cursorPrefix, utf8_append, Nat.toString_eq_repr, cursorBytes, decimal,
    List.append_assoc]
  rfl

theorem utf8_cursorText (session : String) (filter offset : Nat) :
    utf8 (cursorText session filter offset) =
      cursorBytes session filter ++ 0x3a :: decimal offset := by
  rw [cursorText, utf8_append, utf8_cursorPrefix, List.append_assoc]
  rfl

theorem cursorText_ne_empty (session : String) (filter offset : Nat) :
    (cursorText session filter offset).isEmpty = false := by
  rw [Bool.eq_false_iff, ne_eq, String.isEmpty_iff]
  intro empty
  have bytes := utf8_cursorText session filter offset
  rw [empty] at bytes
  exact absurd bytes.symm (List.append_ne_nil_of_right_ne_nil _ (List.cons_ne_nil _ _))

/-- Equal session texts name the same session. -/
theorem sessionText_inj {firstInstance secondInstance : String} {first second : Nat}
    (same : sessionText firstInstance first = sessionText secondInstance second) :
    firstInstance = secondInstance ∧ first = second := by
  have written : ∀ instanceId epoch,
      utf8 (sessionText instanceId epoch) = utf8 instanceId ++ 0x3a :: decimal epoch := by
    intro instanceId epoch
    rw [sessionText, utf8_append, utf8_append, List.append_assoc]
    rfl
  have bytes := congrArg utf8 same
  rw [written, written] at bytes
  rcases append_numeral_inj (colon_notMem_decimal first) (colon_notMem_decimal second) bytes with
    ⟨instances, epochs⟩
  exact ⟨utf8_injective instances, decimal_injective epochs⟩

theorem cursorBytes_inj {first second : String} {firstFilter secondFilter : Nat}
    (same : cursorBytes first firstFilter = cursorBytes second secondFilter) :
    first = second ∧ firstFilter = secondFilter := by
  rcases append_numeral_inj (colon_notMem_decimal firstFilter)
    (colon_notMem_decimal secondFilter) same with ⟨sessions, filters⟩
  exact ⟨utf8_injective (List.append_cancel_left sessions), decimal_injective filters⟩

/-- A cursor is accepted only in its own session, with its own filter and
within the retained records; it is then read back exactly. -/
theorem pageOffset_cursorText {log : EventLog} {session current : String}
    {filter own offset start : Nat}
    (accepted : pageOffset log (cursorPrefix current own) (cursorText session filter offset) =
      .ok start) :
    session = current ∧ filter = own ∧ start = offset ∧ log.eventHistoryOffset ≤ offset ∧
      offset - log.eventHistoryOffset ≤ log.eventHistory.length := by
  rw [pageOffset, cursorText_ne_empty] at accepted
  simp only [Bool.false_eq_true, if_false] at accepted
  split at accepted
  · rename_i begins
    rcases List.isPrefixOf_iff_prefix.mp begins with ⟨rest, whole⟩
    rw [← whole, List.drop_left] at accepted
    split at accepted
    · cases accepted
    · rename_i number reads
      split at accepted
      · cases accepted
      · rename_i inside
        cases accepted
        rw [utf8_cursorPrefix, utf8_cursorText, List.append_assoc, List.singleton_append] at whole
        rcases append_numeral_inj (colon_notMem_of_digits (isDigit_of_fromCharsAll reads))
          (colon_notMem_decimal offset) whole with ⟨heads, tails⟩
        rcases cursorBytes_inj heads with ⟨rfl, rfl⟩
        rw [tails, fromCharsAll_decimal] at reads
        split at reads
        · cases reads
          simp only [not_or, Nat.not_lt] at inside
          exact ⟨rfl, rfl, rfl, inside⟩
        · cases reads
  · cases accepted

/-! ## The handler -/

/-- What a successful page answers. -/
theorem listEvents_ok {log : EventLog} {request : Request} {input : PageInput} {page : EventPage}
    (answered : listEvents log request input = .ok page) :
    ∃ offset count,
      pageOffset log (cursorPrefix (sessionText log.instanceId log.eventSessionEpoch)
        (filterOf request.eventTypes)) request.eventCursor = .ok offset ∧
      count ≤ (log.eventHistory.drop (offset - log.eventHistoryOffset)).length ∧
      page.sessionId = sessionText log.instanceId log.eventSessionEpoch ∧
      page.items = ((log.eventHistory.drop (offset - log.eventHistoryOffset)).take count).filter
        (fun event => wanted request.eventTypes event.kind) ∧
      page.nextCursor =
        if count = (log.eventHistory.drop (offset - log.eventHistoryOffset)).length then none
        else some (cursorText page.sessionId (filterOf request.eventTypes) (offset + count)) := by
  simp only [listEvents, bind, Except.bind] at answered
  split at answered
  · cases answered
  · rename_i offset begins
    split at answered
    · cases answered
    · rename_i copied scanned
      cases answered
      rcases copyPage_spec scanned with ⟨count, le, items, next⟩
      refine ⟨offset, count, begins, le, rfl, ?_, ?_⟩
      · simpa only [List.nil_append, selects_filterOf] using items
      · change copied.2.map _ = _
        rw [next, apply_ite (Option.map _)]
        rfl

/-- A page for the cursor of an evicted position, of another session or of
another filter is refused. -/
theorem listEvents_refuses {log : EventLog} {request : Request} {instanceId : String}
    {epoch offset : Nat} {types : List EventKind}
    (cursor : request.eventCursor = cursorText (sessionText instanceId epoch) (filterOf types) offset)
    (stale : offset < log.eventHistoryOffset ∨ instanceId ≠ log.instanceId ∨
      epoch ≠ log.eventSessionEpoch ∨
        ∃ kind, wanted types kind ≠ wanted request.eventTypes kind) (input : PageInput) :
    ∃ error, listEvents log request input = .error error := by
  cases answered : listEvents log request input with
  | error error => exact ⟨error, rfl⟩
  | ok page =>
      rcases listEvents_ok answered with ⟨start, count, accepted, -⟩
      rw [cursor] at accepted
      rcases pageOffset_cursorText accepted with ⟨sessions, filters, -, retained, -⟩
      rcases sessionText_inj sessions with ⟨rfl, rfl⟩
      rcases stale with evicted | other | other | ⟨kind, differ⟩
      · exact absurd retained (Nat.not_le.mpr evicted)
      · exact absurd rfl other
      · exact absurd rfl other
      · rw [← selects_filterOf, ← selects_filterOf, filters] at differ
        exact absurd rfl differ

end X64dbgMcp.Events
