import Mathlib.Data.List.Perm.Basic
import X64dbgMcp.Audit.Queue

/-!
# The accounts of the audit queue

Three accounts are kept by separate counters: the bytes on their way, the calls by their
fate, and the drops that the log itself reports.  One list of what an operation can do
serves all three.
-/

namespace X64dbgMcp.Audit

open Files Text

/-- An entry splits its list, and the split is kept by replacing or removing it. -/
theorem split_at_index {α : Type} {list : List α} {index : Nat} {entry : α}
    (found : list[index]? = some entry) :
    ∃ front back, list = front ++ entry :: back ∧ list.eraseIdx index = front ++ back ∧
      ∀ other, list.set index other = front ++ other :: back := by
  rcases List.getElem?_eq_some_iff.mp found with ⟨bound, rfl⟩
  refine ⟨list.take index, list.drop (index + 1), ?_, ?_, ?_⟩
  · rw [List.getElem_cons_drop, List.take_append_drop]
  · exact List.eraseIdx_eq_take_drop_succ list index
  · intro other
    rw [List.set_eq_take_append_cons_drop, if_pos bound]

namespace AuditQueue

/-- What one operation can do. -/
inductive Stepped (before : AuditQueue) : AuditEvent → AuditQueue → Prop where
  | recorded (serialised : Option Bytes) : Stepped before .quiet (before.record serialised)
  | droppedRecord {front back : List RecordCall} {call : Nat}
      (running : before.running = front ++ ⟨call, .dropping⟩ :: back) :
      Stepped before (.counted call .dropped) { before.countDropped with running := front ++ back }
  | reserved {front back : List RecordCall} {call : Nat} {line : Bytes}
      (running : before.running = front ++ ⟨call, .reserving line⟩ :: back)
      (fits : before.counters.queuedBytes + line.length ≤ maxQueuedBytes) :
      Stepped before .quiet
        { before.setQueuedBytes (before.counters.queuedBytes + line.length) with
          running := front ++ ⟨call, .sending line⟩ :: back }
  | refused {front back : List RecordCall} {call : Nat} {line : Bytes}
      (running : before.running = front ++ ⟨call, .reserving line⟩ :: back) :
      Stepped before .quiet { before with running := front ++ ⟨call, .dropping⟩ :: back }
  | sent {front back : List RecordCall} {call : Nat} {line : Bytes}
      (running : before.running = front ++ ⟨call, .sending line⟩ :: back) :
      Stepped before .quiet
        { before with
          queue := before.queue ++ [⟨call, line⟩]
          running := front ++ back }
  | full {front back : List RecordCall} {call : Nat} {line : Bytes}
      (running : before.running = front ++ ⟨call, .sending line⟩ :: back) :
      Stepped before .quiet { before with running := front ++ ⟨call, .releasing line⟩ :: back }
  | released {front back : List RecordCall} {call : Nat} {line : Bytes}
      (running : before.running = front ++ ⟨call, .releasing line⟩ :: back) :
      Stepped before .quiet
        { before.setQueuedBytes (fetchSub before.counters.queuedBytes line.length) with
          running := front ++ ⟨call, .dropping⟩ :: back }
  | received {line : AuditLine} {rest : List AuditLine} (free : before.writer = .receiving)
      (queue : before.queue = line :: rest) :
      Stepped before .quiet { before with queue := rest, writer := .locking line }
  | moved {point : WriterPoint} (reserved : point.reserved = before.writer.reserved)
      (outstanding : point.outstanding = before.writer.outstanding)
      (fresh : ∀ line dropped, point ≠ .reporting line dropped) :
      Stepped before .quiet (before.setWriter point)
  | loaded {line : AuditLine} (held : before.writer = .loading line) :
      Stepped before .quiet (before.setWriter (.reporting line before.counters.dropped))
  | reported {line : AuditLine} {dropped : UInt64}
      (held : before.writer = .reporting line dropped) :
      Stepped before (.reported ⟨dropped, dropped - before.reportedDrops⟩)
        { before with reportedDrops := dropped, writer := .appending line }
  | returned {line : AuditLine} {appended : Bool}
      (held : before.writer = .releasing line appended) :
      Stepped before .quiet
        ((before.setQueuedBytes (fetchSub before.counters.queuedBytes line.bytes.length)).setWriter
          (.counting line.call appended))
  | written {call : Nat} (held : before.writer = .counting call true) :
      Stepped before (.counted call .written)
        { before with
          counters.written := before.counters.written + 1
          writer := .receiving }
  | failed {call : Nat} (held : before.writer = .counting call false) :
      Stepped before .quiet
        { before with
          counters.errors := before.counters.errors + 1
          writer := .dropping call }
  | droppedLine {call : Nat} (held : before.writer = .dropping call) :
      Stepped before (.counted call .dropped) (before.countDropped.setWriter .degrading)
  | degraded (held : before.writer = .degrading) :
      Stepped before .quiet { before with counters.healthy := false, writer := .receiving }

variable {before after log : AuditQueue} {event : AuditEvent} {events : List AuditEvent}

theorem reserve_eq_some {length total : Nat} (reserved : log.reserve length = some total) :
    total = log.counters.queuedBytes + length ∧ total ≤ maxQueuedBytes := by
  simp only [reserve, checkedAdd, Option.filter_eq_some_iff, decide_eq_true_eq] at reserved
  rcases reserved with ⟨added, fits⟩
  split at added
  · cases added
    exact ⟨rfl, fits⟩
  · contradiction

theorem stepped_advance {index : Nat} (stepped : before.advance index = some (event, after)) :
    Stepped before event after := by
  unfold advance at stepped
  split at stepped
  · contradiction
  · rename_i call found
    obtain ⟨front, back, running, erased, -⟩ := split_at_index found
    cases stepped
    simpa only [leave, countDropped, erased] using Stepped.droppedRecord running
  · rename_i call line found
    obtain ⟨front, back, running, -, replaced⟩ := split_at_index found
    split at stepped
    · rename_i total reserved
      obtain ⟨rfl, fits⟩ := reserve_eq_some reserved
      cases stepped
      simpa only [move, setQueuedBytes, replaced] using Stepped.reserved running fits
    · cases stepped
      simpa only [move, replaced] using Stepped.refused running
  · rename_i call line found
    obtain ⟨front, back, running, erased, replaced⟩ := split_at_index found
    unfold trySend at stepped
    by_cases room : before.queue.length < queueRecords
    · rw [if_pos room] at stepped
      cases stepped
      simpa only [leave, erased] using Stepped.sent running
    · rw [if_neg room] at stepped
      cases stepped
      simpa only [move, replaced] using Stepped.full running
  · rename_i call line found
    obtain ⟨front, back, running, -, replaced⟩ := split_at_index found
    cases stepped
    simpa only [move, setQueuedBytes, replaced] using Stepped.released running

theorem stepped_write {succeeds : Bool} (stepped : before.write succeeds = some (event, after)) :
    Stepped before event after := by
  unfold write at stepped
  split at stepped
  · rename_i free
    split at stepped
    · contradiction
    · rename_i line rest queue
      cases stepped
      exact .received free queue
  · rename_i line held
    cases stepped
    cases succeeds <;> exact .moved (by rw [held]; rfl) (by rw [held]; rfl) nofun
  · rename_i line held
    split at stepped
    · cases stepped
      exact .loaded held
    · cases stepped
      exact .moved (by rw [held]; rfl) (by rw [held]; rfl) nofun
  · rename_i line dropped held
    split at stepped
    · cases stepped
      exact .reported held
    · cases stepped
      exact .moved (by rw [held]; rfl) (by rw [held]; rfl) nofun
  · rename_i line held
    cases stepped
    exact .moved (by rw [held]; rfl) (by rw [held]; rfl) nofun
  · rename_i line appended held
    cases stepped
    exact .returned held
  · rename_i call held
    cases stepped
    exact .written held
  · rename_i call held
    cases stepped
    exact .failed held
  · rename_i call held
    cases stepped
    exact .droppedLine held
  · rename_i held
    cases stepped
    exact .degraded held

/-- Inversion lemma. -/
theorem stepped_next {action : AuditAction} (stepped : next before action = some (event, after)) :
    Stepped before event after := by
  cases action with
  | record serialised =>
      cases stepped
      exact .recorded serialised
  | advance index => exact stepped_advance stepped
  | write succeeds => exact stepped_write stepped

/-! ## Bytes -/

/-- The bytes on their way are counted, and fit. -/
structure BytesCounted (log : AuditQueue) : Prop where
  exact : log.counters.queuedBytes = (log.reserved.map List.length).sum
  bounded : log.counters.queuedBytes ≤ maxQueuedBytes

theorem BytesCounted.length_le (counted : BytesCounted log) {line : Bytes}
    (onWay : line ∈ log.reserved) : line.length ≤ log.counters.queuedBytes := by
  rw [counted.exact]
  exact List.le_sum_of_mem (List.mem_map_of_mem onWay)

theorem fetchSub_of_le {value amount : Nat} (covered : amount ≤ value) :
    fetchSub value amount = value - amount :=
  if_pos covered

theorem reserved_of_running {front back : List RecordCall} {run : RecordCall}
    (running : log.running = front ++ run :: back) {line : Bytes}
    (onWay : line ∈ run.point.reserved) : line ∈ log.reserved := by
  simp only [reserved, running, List.mem_append, List.mem_flatMap]
  exact .inl (.inl ⟨run, by simp, onWay⟩)

theorem reserved_of_writer {line : Bytes} (onWay : line ∈ log.writer.reserved) :
    line ∈ log.reserved :=
  List.mem_append_right _ onWay

theorem BytesCounted.stepped (counted : BytesCounted before)
    (stepped : Stepped before event after) : BytesCounted after := by
  have covered : ∀ line ∈ before.reserved, line.length ≤ before.counters.queuedBytes :=
    fun _ => counted.length_le
  obtain ⟨exact, bounded⟩ := counted
  have total := exact
  simp only [reserved, List.map_append, List.sum_append] at total
  cases stepped with
  | recorded serialised =>
      refine ⟨?_, bounded⟩
      have opened : (before.entry serialised).reserved = [] := by
        unfold entry
        split
        · cases serialised <;> rfl
        · rfl
      simpa [reserved, record, opened] using exact
  | droppedRecord running =>
      refine ⟨?_, bounded⟩
      simpa [reserved, countDropped, running, RecordPoint.reserved] using exact
  | @reserved front back call line running fits =>
      refine ⟨?_, fits⟩
      simp [running, RecordPoint.reserved] at total
      simp [AuditQueue.reserved, setQueuedBytes, RecordPoint.reserved]
      omega
  | refused running =>
      refine ⟨?_, bounded⟩
      simpa [reserved, running, RecordPoint.reserved] using exact
  | sent running =>
      refine ⟨?_, bounded⟩
      simp [running, RecordPoint.reserved] at total
      simp [reserved, RecordPoint.reserved]
      omega
  | full running =>
      refine ⟨?_, bounded⟩
      simpa [reserved, running, RecordPoint.reserved] using exact
  | @released front back call line running =>
      have fits := covered line (reserved_of_running running List.mem_cons_self)
      simp only [setQueuedBytes, fetchSub_of_le fits]
      refine ⟨?_, (Nat.sub_le _ _).trans bounded⟩
      simp [running, RecordPoint.reserved] at total
      simp [reserved, RecordPoint.reserved]
      omega
  | received free queue =>
      refine ⟨?_, bounded⟩
      simp [free, queue, WriterPoint.reserved] at total
      simp [reserved, WriterPoint.reserved]
      omega
  | moved same _ _ =>
      refine ⟨?_, bounded⟩
      simpa [reserved, setWriter, same] using exact
  | loaded held =>
      refine ⟨?_, bounded⟩
      simpa [reserved, setWriter, held, WriterPoint.reserved] using exact
  | reported held =>
      refine ⟨?_, bounded⟩
      simpa [reserved, held, WriterPoint.reserved] using exact
  | @returned line appended held =>
      have fits := covered line.bytes (reserved_of_writer (by rw [held]; exact List.mem_cons_self))
      simp only [setWriter, setQueuedBytes, fetchSub_of_le fits]
      refine ⟨?_, (Nat.sub_le _ _).trans bounded⟩
      simp [held, WriterPoint.reserved] at total
      simp [reserved, WriterPoint.reserved]
      omega
  | written held =>
      refine ⟨?_, bounded⟩
      simpa [reserved, held, WriterPoint.reserved] using exact
  | failed held =>
      refine ⟨?_, bounded⟩
      simpa [reserved, held, WriterPoint.reserved] using exact
  | droppedLine held =>
      refine ⟨?_, bounded⟩
      simpa [reserved, countDropped, setWriter, held, WriterPoint.reserved] using exact
  | degraded held =>
      refine ⟨?_, bounded⟩
      simpa [reserved, held, WriterPoint.reserved] using exact

/-! ## Calls -/

/-- Every call so far is outstanding or was counted, and only once. -/
structure CallsCounted (events : List AuditEvent) (log : AuditQueue) : Prop where
  once : (log.outstanding ++ countedAs .written events ++ countedAs .dropped events).Perm
    (List.range log.calls)
  written : log.counters.written = UInt64.ofNat (countedAs .written events).length
  dropped : log.counters.dropped = UInt64.ofNat (countedAs .dropped events).length

theorem countedAs_concat (fate : Fate) (events : List AuditEvent) (event : AuditEvent) :
    countedAs fate (events ++ [event]) = countedAs fate events ++ countedAs fate [event] :=
  List.filterMap_append

@[simp]
theorem countedAs_quiet (fate : Fate) : countedAs fate [.quiet] = [] :=
  rfl

@[simp]
theorem countedAs_reported (fate : Fate) (gap : AuditGap) : countedAs fate [.reported gap] = [] :=
  rfl

@[simp]
theorem countedAs_counted (fate counted : Fate) (call : Nat) :
    countedAs fate [.counted call counted] = if counted = fate then [call] else [] := by
  by_cases same : counted = fate <;> simp [countedAs, same]

/-- An operation that only moves a call along counts nothing. -/
theorem CallsCounted.moved (counted : CallsCounted events before) {event : AuditEvent}
    (silent : ∀ fate, countedAs fate [event] = []) (calls : after.calls = before.calls)
    (same : after.counters.written = before.counters.written ∧
      after.counters.dropped = before.counters.dropped)
    (outstanding : after.outstanding.Perm before.outstanding) :
    CallsCounted (events ++ [event]) after := by
  obtain ⟨once, written, dropped⟩ := counted
  constructor
  · simp only [countedAs_concat, silent, List.append_nil, calls]
    exact ((outstanding.append_right _).append_right _).trans once
  · rw [same.1, countedAs_concat, silent, List.append_nil, written]
  · rw [same.2, countedAs_concat, silent, List.append_nil, dropped]

/-- An outstanding call gets its fate. -/
theorem CallsCounted.once_counted (counted : CallsCounted events before) {call : Nat} (fate : Fate)
    (calls : after.calls = before.calls)
    (outstanding : before.outstanding.Perm (call :: after.outstanding)) :
    (after.outstanding ++ countedAs .written (events ++ [.counted call fate]) ++
      countedAs .dropped (events ++ [.counted call fate])).Perm (List.range after.calls) := by
  rw [calls]
  refine List.Perm.trans ?_ counted.once
  rw [List.perm_iff_count]
  intro other
  have here := List.perm_iff_count.mp outstanding other
  cases fate <;>
    simp only [countedAs_concat, countedAs_counted, if_true, reduceCtorEq, if_false,
      List.append_nil, List.count_append, List.count_cons, List.count_nil] at here ⊢ <;>
    omega

theorem CallsCounted.drop (counted : CallsCounted events before) {call : Nat}
    (calls : after.calls = before.calls)
    (written : after.counters.written = before.counters.written)
    (dropped : after.counters.dropped = before.counters.dropped + 1)
    (outstanding : before.outstanding.Perm (call :: after.outstanding)) :
    CallsCounted (events ++ [.counted call .dropped]) after := by
  refine ⟨counted.once_counted .dropped calls outstanding, ?_, ?_⟩
  · simp [countedAs_concat, written, counted.written]
  · simp [countedAs_concat, dropped, counted.dropped]

theorem CallsCounted.write (counted : CallsCounted events before) {call : Nat}
    (calls : after.calls = before.calls)
    (written : after.counters.written = before.counters.written + 1)
    (dropped : after.counters.dropped = before.counters.dropped)
    (outstanding : before.outstanding.Perm (call :: after.outstanding)) :
    CallsCounted (events ++ [.counted call .written]) after := by
  refine ⟨counted.once_counted .written calls outstanding, ?_, ?_⟩
  · simp [countedAs_concat, written, counted.written]
  · simp [countedAs_concat, dropped, counted.dropped]

/-- A new call takes the next number. -/
theorem CallsCounted.record (counted : CallsCounted events before) (serialised : Option Bytes) :
    CallsCounted (events ++ [.quiet]) (before.record serialised) := by
  obtain ⟨once, written, dropped⟩ := counted
  refine ⟨?_, ?_, ?_⟩
  · have numbered : (before.record serialised).calls = before.calls + 1 := rfl
    rw [numbered, List.range_succ]
    refine List.Perm.trans ?_ (once.append_right [before.calls])
    rw [List.perm_iff_count]
    intro other
    simp only [countedAs_concat, countedAs_quiet, List.append_nil, outstanding, AuditQueue.record,
      List.map_append, List.map_cons, List.map_nil, List.count_append]
    omega
  · rw [countedAs_concat, countedAs_quiet, List.append_nil]
    exact written
  · rw [countedAs_concat, countedAs_quiet, List.append_nil]
    exact dropped

theorem outstanding_running {front back : List RecordCall} {run : RecordCall}
    (running : log.running = front ++ run :: back) :
    log.outstanding.Perm
      (run.call :: { log with running := front ++ back }.outstanding) := by
  simp only [outstanding, running, List.map_append, List.map_cons, List.append_assoc]
  exact List.perm_middle

theorem outstanding_writer {call : Nat} (held : log.writer.outstanding = [call])
    {point : WriterPoint} (free : point.outstanding = []) :
    log.outstanding.Perm (call :: (log.setWriter point).outstanding) := by
  simp only [outstanding, setWriter, held, free, List.append_nil]
  exact List.perm_append_singleton call _

theorem CallsCounted.stepped (counted : CallsCounted events before)
    (stepped : Stepped before event after) : CallsCounted (events ++ [event]) after := by
  cases stepped with
  | recorded serialised => exact counted.record serialised
  | droppedRecord running => exact counted.drop rfl rfl rfl (outstanding_running running)
  | reserved running _ =>
      refine counted.moved (fun _ => rfl) rfl ⟨rfl, rfl⟩ ?_
      simp [outstanding, setQueuedBytes, running]
  | refused running =>
      refine counted.moved (fun _ => rfl) rfl ⟨rfl, rfl⟩ ?_
      simp [outstanding, running]
  | sent running =>
      refine counted.moved (fun _ => rfl) rfl ⟨rfl, rfl⟩ ?_
      refine List.Perm.trans ?_ (outstanding_running running).symm
      rw [List.perm_iff_count]
      intro other
      simp only [outstanding, List.map_append, List.map_cons, List.map_nil, List.count_append,
        List.count_cons, List.count_nil]
      omega
  | full running =>
      refine counted.moved (fun _ => rfl) rfl ⟨rfl, rfl⟩ ?_
      simp [outstanding, running]
  | released running =>
      refine counted.moved (fun _ => rfl) rfl ⟨rfl, rfl⟩ ?_
      simp [outstanding, setQueuedBytes, running]
  | received free queue =>
      refine counted.moved (fun _ => rfl) rfl ⟨rfl, rfl⟩ ?_
      rw [List.perm_iff_count]
      intro other
      simp only [outstanding, free, queue, WriterPoint.outstanding, List.map_cons,
        List.count_append, List.count_cons, List.count_nil]
      omega
  | moved _ same _ =>
      refine counted.moved (fun _ => rfl) rfl ⟨rfl, rfl⟩ ?_
      simp [outstanding, setWriter, same]
  | loaded held =>
      refine counted.moved (fun _ => rfl) rfl ⟨rfl, rfl⟩ ?_
      simp [outstanding, setWriter, held, WriterPoint.outstanding]
  | reported held =>
      refine counted.moved (fun _ => rfl) rfl ⟨rfl, rfl⟩ ?_
      simp [outstanding, held, WriterPoint.outstanding]
  | returned held =>
      refine counted.moved (fun _ => rfl) rfl ⟨rfl, rfl⟩ ?_
      simp [outstanding, setWriter, setQueuedBytes, held, WriterPoint.outstanding]
  | written held =>
      exact counted.write rfl rfl rfl
        (outstanding_writer (by rw [held]; rfl) (rfl : WriterPoint.receiving.outstanding = []))
  | failed held =>
      refine counted.moved (fun _ => rfl) rfl ⟨rfl, rfl⟩ ?_
      simp [outstanding, held, WriterPoint.outstanding]
  | droppedLine held =>
      exact counted.drop rfl rfl rfl
        (outstanding_writer (by rw [held]; rfl) (rfl : WriterPoint.degrading.outstanding = []))
  | degraded held =>
      refine counted.moved (fun _ => rfl) rfl ⟨rfl, rfl⟩ ?_
      simp [outstanding, held, WriterPoint.outstanding]

/-! ## Reported drops -/

/-- The log reports `count` drops, which is what they were at some time before. -/
structure DropsReported (events : List AuditEvent) (log : AuditQueue) (count : Nat) : Prop where
  reported : log.reportedDrops = UInt64.ofNat count
  happened : count ≤ (countedAs .dropped events).length
  sum : UInt64.ofNat (reportedSince events) = log.reportedDrops
  sum_le : reportedSince events ≤ count
  last : ∀ gap ∈ (reportedGaps events).getLast?, gap.droppedTotal = log.reportedDrops
  /-- What the writer has loaded and not reported yet. -/
  loaded : ∀ line dropped, log.writer = .reporting line dropped → ∃ later,
    dropped = UInt64.ofNat later ∧ count ≤ later ∧ later ≤ (countedAs .dropped events).length
  /-- Every gap tells a number of drops that had happened when it was appended. -/
  timely : ∀ earlier gap later, events = earlier ++ .reported gap :: later →
    gap.droppedTotal.toNat ≤ (countedAs .dropped earlier).length

theorem reportedGaps_concat (events : List AuditEvent) (event : AuditEvent) :
    reportedGaps (events ++ [event]) = reportedGaps events ++ reportedGaps [event] :=
  List.filterMap_append

theorem reportedSince_concat (events : List AuditEvent) (event : AuditEvent) :
    reportedSince (events ++ [event]) = reportedSince events + reportedSince [event] := by
  simp only [reportedSince, reportedGaps_concat, List.map_append, List.sum_append]

theorem countedAs_length_le (fate : Fate) (events : List AuditEvent) (event : AuditEvent) :
    (countedAs fate events).length ≤ (countedAs fate (events ++ [event])).length := by
  rw [countedAs_concat, List.length_append]
  exact Nat.le_add_right _ _

theorem toNat_ofNat_le (count : Nat) : (UInt64.ofNat count).toNat ≤ count := by
  rw [UInt64.toNat_ofNat']
  exact Nat.mod_le _ _

/-- An operation that appends no gap and loads nothing. -/
theorem DropsReported.quiet {count : Nat} (told : DropsReported events before count)
    {event : AuditEvent} (silent : reportedGaps [event] = [])
    (same : after.reportedDrops = before.reportedDrops)
    (kept : ∀ line dropped, after.writer = .reporting line dropped →
      before.writer = .reporting line dropped) :
    DropsReported (events ++ [event]) after count := by
  obtain ⟨reported, happened, sum, sumLe, last, loaded, timely⟩ := told
  have more := countedAs_length_le .dropped events event
  have since : reportedSince (events ++ [event]) = reportedSince events := by
    rw [reportedSince_concat, reportedSince, reportedSince, silent]
    rfl
  refine ⟨same.trans reported, happened.trans more, ?_, ?_, ?_, ?_, ?_⟩
  · rw [since, sum, same]
  · rw [since]
    exact sumLe
  · rw [reportedGaps_concat, silent, List.append_nil, same]
    exact last
  · intro line dropped held
    obtain ⟨later, value, atLeast, atMost⟩ := loaded line dropped (kept line dropped held)
    exact ⟨later, value, atLeast, atMost.trans more⟩
  · intro earlier gap later split
    rcases List.eq_nil_or_concat later with rfl | ⟨between, lastEvent, rfl⟩
    · obtain ⟨-, rest⟩ := List.append_inj' split rfl
      cases rest
      cases silent
    · rw [List.concat_eq_append, ← List.cons_append, ← List.append_assoc] at split
      obtain ⟨front, -⟩ := List.append_inj' split rfl
      exact timely earlier gap between front

/-- The writer loads the number of dropped calls. -/
theorem DropsReported.load {count : Nat} (told : DropsReported events before count)
    (counted : CallsCounted events before) (line : AuditLine) :
    DropsReported (events ++ [.quiet])
      (before.setWriter (.reporting line before.counters.dropped)) count := by
  -- Everything but `loaded` is what it was; the writer is moved off to say so.
  have quiet := @DropsReported.quiet before (before.setWriter (.appending line)) events count told
    .quiet rfl rfl nofun
  obtain ⟨reported, happened, sum, sumLe, last, -, timely⟩ := quiet
  refine ⟨reported, happened, sum, sumLe, last, ?_, timely⟩
  rintro _ _ held
  cases held
  have more := countedAs_length_le .dropped events .quiet
  exact ⟨_, counted.dropped, told.happened, more⟩

/-- The writer appends a gap. -/
theorem DropsReported.report {count : Nat} (told : DropsReported events before count)
    {line : AuditLine} {dropped : UInt64} (held : before.writer = .reporting line dropped) :
    ∃ later, DropsReported
      (events ++ [.reported ⟨dropped, dropped - before.reportedDrops⟩])
      { before with reportedDrops := dropped, writer := .appending line } later := by
  obtain ⟨later, rfl, atLeast, atMost⟩ := told.loaded line dropped held
  have since : (UInt64.ofNat later - before.reportedDrops).toNat ≤ later - count := by
    rw [told.reported, ← UInt64.ofNat_sub atLeast]
    exact toNat_ofNat_le (later - count)
  have total : reportedSince (events ++ [.reported ⟨UInt64.ofNat later,
      UInt64.ofNat later - before.reportedDrops⟩]) =
        reportedSince events + (UInt64.ofNat later - before.reportedDrops).toNat :=
    reportedSince_concat events _
  refine ⟨later, rfl, ?_, ?_, ?_, ?_, nofun, ?_⟩
  · rw [countedAs_concat, countedAs_reported, List.append_nil]
    exact atMost
  · rw [total, UInt64.ofNat_add, told.sum, UInt64.ofNat_toNat, UInt64.add_comm,
      UInt64.sub_add_cancel]
  · have sumLe := told.sum_le
    rw [total]
    omega
  · intro gap isLast
    rw [reportedGaps_concat] at isLast
    simp only [reportedGaps, List.filterMap_cons, List.filterMap_nil, List.getLast?_concat,
      Option.mem_def, Option.some.injEq] at isLast
    rw [← isLast]
  · intro earlier gap later' split
    rcases List.eq_nil_or_concat later' with rfl | ⟨between, lastEvent, rfl⟩
    · obtain ⟨rfl, rest⟩ := List.append_inj' split rfl
      cases rest
      exact (toNat_ofNat_le later).trans atMost
    · rw [List.concat_eq_append, ← List.cons_append, ← List.append_assoc] at split
      obtain ⟨front, -⟩ := List.append_inj' split rfl
      exact told.timely earlier gap between front

theorem DropsReported.stepped {count : Nat} (told : DropsReported events before count)
    (counted : CallsCounted events before) (stepped : Stepped before event after) :
    ∃ later, DropsReported (events ++ [event]) after later := by
  cases stepped with
  | recorded serialised => exact ⟨count, told.quiet rfl rfl fun _ _ => id⟩
  | droppedRecord => exact ⟨count, told.quiet rfl rfl fun _ _ => id⟩
  | reserved => exact ⟨count, told.quiet rfl rfl fun _ _ => id⟩
  | refused => exact ⟨count, told.quiet rfl rfl fun _ _ => id⟩
  | sent => exact ⟨count, told.quiet rfl rfl fun _ _ => id⟩
  | full => exact ⟨count, told.quiet rfl rfl fun _ _ => id⟩
  | released => exact ⟨count, told.quiet rfl rfl fun _ _ => id⟩
  | received => exact ⟨count, told.quiet rfl rfl nofun⟩
  | moved _ _ fresh =>
      exact ⟨count, told.quiet rfl rfl fun line dropped held => absurd held (fresh line dropped)⟩
  | loaded => exact ⟨count, told.load counted _⟩
  | reported held => exact told.report held
  | returned => exact ⟨count, told.quiet rfl rfl nofun⟩
  | written => exact ⟨count, told.quiet rfl rfl nofun⟩
  | failed => exact ⟨count, told.quiet rfl rfl nofun⟩
  | droppedLine => exact ⟨count, told.quiet rfl rfl nofun⟩
  | degraded => exact ⟨count, told.quiet rfl rfl nofun⟩

/-! ## Runs -/

/-- The three accounts together. -/
structure Accounted (events : List AuditEvent) (log : AuditQueue) : Prop where
  bytes : BytesCounted log
  calls : CallsCounted events log
  drops : ∃ count, DropsReported events log count

theorem accounted_start (connected : Bool) : Accounted [] (start connected) := by
  refine ⟨⟨rfl, Nat.zero_le _⟩, ⟨List.Perm.refl [], rfl, rfl⟩, 0, ?_⟩
  refine ⟨rfl, Nat.le_refl 0, rfl, Nat.le_refl 0, nofun, nofun, ?_⟩
  intro earlier gap later split
  cases earlier <;> cases split

/-- Step lemma. -/
theorem Accounted.next {action : AuditAction} (accounted : Accounted events before)
    (stepped : AuditQueue.next before action = some (event, after)) :
    Accounted (events ++ [event]) after := by
  obtain ⟨bytes, calls, count, drops⟩ := accounted
  have effect := stepped_next stepped
  exact ⟨bytes.stepped effect, calls.stepped effect, drops.stepped calls effect⟩

/-- Run lemma. -/
theorem accounted_of_execute {connected : Bool} {actions : List AuditAction}
    (run : Transition.execute next (start connected) actions = some (events, log)) :
    Accounted events log :=
  Transition.execute_history Accounted (fun _ _ _ _ _ accounted _ stepped => accounted.next stepped)
    [] (accounted_start connected) (Transition.along_anything next (start connected) actions) run

/-- Fewer calls are dropped than there are. -/
theorem CallsCounted.dropped_le (counted : CallsCounted events log) :
    (countedAs .dropped events).length ≤ log.calls := by
  have lengths := counted.once.length_eq
  simp only [List.length_append, List.length_range] at lengths
  omega

theorem Quiescent.outstanding_eq (quiet : log.Quiescent) :
    log.outstanding = log.queue.map AuditLine.call := by
  obtain ⟨running, writer⟩ := quiet
  simp [outstanding, running, writer, WriterPoint.outstanding]

/-- However calls and writer interleave and appends fail: the counted bytes are those of
the lines on their way, at most the limit and enough for every release; every call is
outstanding, written or dropped, and counted once, with nothing outstanding but the queue
when no operation is pending; and the drops told by the gaps add up to what the last gap
tells, which had happened by then.  The counters of calls wrap after `2 ^ 64` of them. -/
theorem queue_accounting {connected : Bool} {actions : List AuditAction}
    (run : Transition.execute next (start connected) actions = some (events, log)) :
    (log.counters.queuedBytes = (log.reserved.map List.length).sum ∧
      log.counters.queuedBytes ≤ maxQueuedBytes ∧
      ∀ line ∈ log.reserved, line.length ≤ log.counters.queuedBytes) ∧
    ((log.outstanding ++ countedAs .written events ++ countedAs .dropped events).Perm
        (List.range log.calls) ∧
      log.counters.written = UInt64.ofNat (countedAs .written events).length ∧
      log.counters.dropped = UInt64.ofNat (countedAs .dropped events).length ∧
      (log.Quiescent → log.outstanding = log.queue.map AuditLine.call)) ∧
    (∀ last ∈ (reportedGaps events).getLast?,
      UInt64.ofNat (reportedSince events) = last.droppedTotal ∧
      (log.calls < 2 ^ 64 → reportedSince events = last.droppedTotal.toNat)) ∧
    ∀ earlier gap later, events = earlier ++ .reported gap :: later →
      gap.droppedTotal.toNat ≤ (countedAs .dropped earlier).length := by
  obtain ⟨bytes, calls, count, drops⟩ := accounted_of_execute run
  refine ⟨⟨bytes.exact, bytes.bounded, fun _ => bytes.length_le⟩,
    ⟨calls.once, calls.written, calls.dropped, Quiescent.outstanding_eq⟩, ?_, drops.timely⟩
  intro last isLast
  have total := drops.sum.trans (drops.last last isLast).symm
  refine ⟨total, ?_⟩
  intro few
  have below : reportedSince events < 2 ^ 64 :=
    (drops.sum_le.trans (drops.happened.trans calls.dropped_le)).trans_lt few
  rw [← total, UInt64.toNat_ofNat_of_lt' below]

/-- A record that cannot be serialised is dropped, and the next line brings the gap. -/
def gapRun : List AuditAction :=
  [.record none, .advance 0, .record (some []), .advance 0, .advance 0] ++
    List.replicate 7 (.write true)

/-- The log after it. -/
def gapLog : AuditQueue where
  connected := true
  counters := { dropped := 1, written := 1 }
  calls := 2
  reportedDrops := 1

/-- What is seen when one record is dropped and the next one is written behind its gap. -/
def gapEvents : List AuditEvent :=
  [.quiet, .counted 0 .dropped] ++ List.replicate 6 .quiet ++
    [.reported ⟨1, 1⟩, .quiet, .quiet, .counted 1 .written]

theorem queue_accounting_gap :
    gapLog.Quiescent ∧ (reportedGaps gapEvents).getLast? = some ⟨1, 1⟩ ∧
      (countedAs .written gapEvents ++ countedAs .dropped gapEvents).Perm (List.range 2) ∧
      reportedSince gapEvents = 1 := by
  have run : Transition.execute next (start true) gapRun = some (gapEvents, gapLog) := by decide
  obtain ⟨-, ⟨once, -, -, -⟩, total, -⟩ := queue_accounting run
  exact ⟨⟨rfl, rfl⟩, rfl, once, (total ⟨1, 1⟩ rfl).2 (by decide)⟩

end AuditQueue

end X64dbgMcp.Audit
