import Mathlib.Data.Set.Card
import X64dbgMcp.Audit.Snapshots

/-!
# The tables of cursors stay in step

The map of cursors, the order in which they were given and the map of their successors
change together, and only when a call gives a new cursor.  They agree after every run,
and a call that is made again at a cursor that is still there adds nothing.
-/

namespace X64dbgMcp.Audit

open Text Transition
open Ipc (Uuid)

namespace Cursors

/-- The sources of the successors, with the bounds of their calls. -/
def entries (cursors : Cursors) : Set (Uuid × Nat × Nat) :=
  {entry | (cursors.successors entry.1 entry.2.1 entry.2.2).isSome = true}

/-- The three tables in step with each other. -/
structure InStep (cursors : Cursors) : Prop where
  distinct : cursors.cursorOrder.Nodup
  listed : ∀ id, (cursors.cursors id).isSome = true ↔ id ∈ cursors.cursorOrder
  bounded : cursors.cursorOrder.length ≤ maxCursors
  source : ∀ source limit budget id, cursors.successors source limit budget = some id →
    (cursors.cursors source).isSome = true
  target : ∀ source limit budget id, cursors.successors source limit budget = some id →
    (cursors.cursors id).isSome = true
  single : ∀ source limit budget other otherLimit otherBudget id,
    cursors.successors source limit budget = some id →
    cursors.successors other otherLimit otherBudget = some id →
    (source, limit, budget) = (other, otherLimit, otherBudget)
  fewer : cursors.entries.encard ≤ cursors.cursorOrder.length

/-- What a run keeps of the tables. -/
structure Kept (issued : List Uuid) (cursors : Cursors) : Prop where
  ordered : cursors.Ordered issued
  bounded : cursors.cursorOrder.length ≤ maxCursors
  single : ∀ source limit budget other otherLimit otherBudget id,
    cursors.successors source limit budget = some id →
    cursors.successors other otherLimit otherBudget = some id →
    (source, limit, budget) = (other, otherLimit, otherBudget)

variable {issued : List Uuid} {cursors : Cursors}

theorem kept_empty : Kept issued empty where
  ordered := ordered_empty.more (List.nil_subset issued)
  bounded := Nat.zero_le maxCursors
  single := nofun

theorem Kept.more {more : List Uuid} (kept : Kept issued cursors) (known : issued ⊆ more) :
    Kept more cursors :=
  ⟨kept.ordered.more known, kept.bounded, kept.single⟩

/-- Every successor has a target of its own. -/
theorem Kept.inStep (kept : Kept issued cursors) : cursors.InStep where
  distinct := kept.ordered.distinct
  listed := kept.ordered.live
  bounded := kept.bounded
  source source limit budget id found :=
    (kept.ordered.live source).mpr
      ((kept.ordered.later source limit budget id found).subset List.mem_cons_self)
  target source limit budget id found :=
    (kept.ordered.live id).mpr
      ((kept.ordered.later source limit budget id found).subset (by simp))
  single := kept.single
  fewer := by
    let target := fun entry : Uuid × Nat × Nat =>
      (cursors.successors entry.1 entry.2.1 entry.2.2).getD 0
    have found : ∀ entry ∈ cursors.entries,
        cursors.successors entry.1 entry.2.1 entry.2.2 = some (target entry) := by
      intro entry member
      rcases Option.isSome_iff_exists.mp member with ⟨id, held⟩
      rw [held]
      exact congrArg some (congrArg (Option.getD · 0) held).symm
    have into : Set.MapsTo target cursors.entries ↑cursors.cursorOrder.toFinset := by
      intro entry member
      rw [Finset.mem_coe, List.mem_toFinset]
      exact (kept.ordered.later _ _ _ _ (found entry member)).subset (by simp)
    have apart : Set.InjOn target cursors.entries := by
      intro entry member other otherMember same
      exact kept.single _ _ _ _ _ _ _ (found entry member) (same ▸ found other otherMember)
    refine (Set.encard_le_encard_of_injOn into apart).trans ?_
    rw [Set.encard_coe_eq_coe_finsetCard]
    exact Nat.cast_le.mpr (List.toFinset_card_le cursors.cursorOrder)

/-! ## A new cursor -/

theorem length_evict_le (order : List Uuid) (cursors : Cursors) :
    (evict order cursors).cursorOrder.length ≤ maxCursors := by
  induction order generalizing cursors with
  | nil => exact Nat.zero_le maxCursors
  | cons expired rest ih =>
      rw [evict]
      split_ifs with full
      · exact ih _
      · exact Nat.le_of_not_lt full

/-- A new cursor has one successor entry at most, and the others are older. -/
theorem Kept.insert {source : Option Uuid} {limit budget : Nat} {newId : Uuid} {cursor : Cursor}
    (kept : Kept issued cursors) (fresh : newId ∉ issued)
    (live : ∀ origin, source = some origin → (cursors.cursors origin).isSome = true)
    (absent : cursors.existing source limit budget = none) :
    Kept (newId :: issued) (cursors.insert source limit budget newId cursor) ∧
      Retires issued cursors (cursors.insert source limit budget newId cursor) := by
  have inOrder : ∀ origin, source = some origin → origin ∈ cursors.cursorOrder :=
    fun origin isSource => (kept.ordered.live origin).mp (live origin isSource)
  rcases kept.ordered.insert fresh inOrder with ⟨ordered, thins, -⟩
  have older : ∀ origin records bytes id,
      cursors.successors origin records bytes = some id → id ≠ newId := by
    rintro origin records bytes id found rfl
    have members := (kept.ordered.later origin records bytes id found).subset
    exact fresh (kept.ordered.known id (members (by simp)))
  have added : ∀ origin records bytes id,
      (cursors.insert source limit budget newId cursor).successors origin records bytes = some id →
        id = newId ∧ source = some origin ∧ records = limit ∧ bytes = budget ∨
          cursors.successors origin records bytes = some id := by
    intro origin records bytes id found
    have held := thins.fewer origin records bytes id found
    simp only [Cursors.add] at held
    split_ifs at held with here
    · cases held
      exact .inl ⟨rfl, here⟩
    · exact .inr held
  constructor
  · refine ⟨ordered, length_evict_le _ _, ?_⟩
    intro first records bytes second otherRecords otherBytes id foundFirst foundSecond
    rcases added _ _ _ _ foundFirst with ⟨isNew, from_, rfl, rfl⟩ | old
    · rcases added _ _ _ _ foundSecond with ⟨-, fromToo, rfl, rfl⟩ | old
      · rw [Option.some.inj (from_.symm.trans fromToo)]
      · exact absurd isNew (older _ _ _ _ old)
    · rcases added _ _ _ _ foundSecond with ⟨isNew, -⟩ | oldToo
      · exact absurd isNew (older _ _ _ _ old)
      · exact kept.single _ _ _ _ _ _ _ old oldToo
  · refine (retires_add fresh ?_).thins thins
    rintro origin rfl
    rw [kept.ordered.existing_eq] at absent
    exact absent

end Cursors

/-! ## Calls -/

section Calls

open Cursors

variable {parseUuid : String → Option Uuid} {log after : Log}

theorem tables_follow (cursors : Cursors) (source : Option Uuid) (limit budget : Nat)
    (after : Cursor) (newId : Uuid) :
    (cursors.follow source limit budget after newId).2 = cursors ∨
      cursors.existing source limit budget = none ∧
        (cursors.follow source limit budget after newId).2 =
          cursors.insert source limit budget newId after := by
  rw [Cursors.follow]
  split_ifs
  · exact .inl rfl
  · cases cursors.existing source limit budget with
    | some id => exact .inl rfl
    | none => exact .inr ⟨rfl, rfl⟩

/-- A chunk is followed by a new cursor or by none. -/
theorem tables_readAt (log : Log) (source : Option Uuid) (position : Cursor) (limit budget : Nat)
    (newId : Uuid) :
    (log.readAt source position limit budget newId).2.cursors = log.cursors ∨
      ∃ cursor, log.cursors.existing source limit budget = none ∧
        (log.readAt source position limit budget newId).2.cursors =
          log.cursors.insert source limit budget newId cursor := by
  rw [Log.readAt]
  cases position.advanceEmptySegments.segment with
  | none => exact .inl rfl
  | some segment =>
      dsimp only
      split
      · exact .inl rfl
      · rename_i bytes _ _
        let after := (position.advanceEmptySegments.pass bytes).advanceEmptySegments
        rcases tables_follow log.cursors source limit budget after newId with
          same | ⟨absent, inserted⟩
        · refine .inl ?_
          split <;> exact same
        · refine .inr ⟨after, absent, ?_⟩
          split <;> exact inserted

/-- A call leaves the tables alone or gives one new cursor. -/
theorem tables_read (parseUuid : String → Option Uuid) (log : Log) (arguments : Json)
    (newId : Uuid) :
    (log.read parseUuid arguments newId).2.cursors = log.cursors ∨
      ∃ source limit budget cursor,
        (∀ origin, source = some origin → (log.cursors.cursors origin).isSome = true) ∧
        log.cursors.existing source limit budget = none ∧
        (log.read parseUuid arguments newId).2.cursors =
          log.cursors.insert source limit budget newId cursor := by
  rw [Log.read]
  split
  · exact .inl rfl
  split
  · exact .inl rfl
  rename_i limit budget _ _ source position started
  have live : ∀ origin, source = some origin → (log.cursors.cursors origin).isSome = true := by
    rcases position_eq_ok started with ⟨-, rfl, -⟩ | ⟨_, id, -, -, rfl, found⟩
    · simp
    · rintro origin ⟨⟩
      rw [found]
      rfl
  rcases tables_readAt log source position limit budget newId with
    same | ⟨cursor, absent, inserted⟩
  · exact .inl same
  · exact .inr ⟨source, limit, budget, cursor, live, absent, inserted⟩

/-- Step lemma: appending and reading keep the tables in step. -/
theorem kept_next (kept : Kept log.issued log.cursors) {event : LogEvent} {report : LogReport}
    (stepped : logNext parseUuid log event = some (report, after)) :
    Kept after.issued after.cursors ∧ Retires log.issued log.cursors after.cursors ∧
      log.issued ⊆ after.issued := by
  cases event with
  | append text id time =>
      simp only [logNext] at stepped
      split at stepped
      · contradiction
      · split at stepped
        · cases stepped
          have known := List.subset_cons_self id log.issued
          exact ⟨kept.more known, .refl, known⟩
        · contradiction
  | read arguments newId =>
      simp only [logNext] at stepped
      split at stepped
      · contradiction
      · rename_i fresh
        cases stepped
        have known := List.subset_cons_self newId log.issued
        dsimp only
        rcases tables_read parseUuid log arguments newId with
          same | ⟨source, limit, budget, cursor, live, absent, inserted⟩
        · rw [same]
          exact ⟨kept.more known, .refl, known⟩
        · rw [inserted]
          rcases kept.insert fresh live absent with ⟨keptAfter, retires⟩
          exact ⟨keptAfter, retires, known⟩

theorem kept_run (kept : Kept log.issued log.cursors) {events : List LogEvent}
    {reports : List LogReport}
    (run : execute (logNext parseUuid) log events = some (reports, after)) :
    Kept after.issued after.cursors ∧ Retires log.issued log.cursors after.cursors ∧
      log.issued ⊆ after.issued := by
  induction events generalizing log reports with
  | nil =>
      cases run
      exact ⟨kept, .refl, List.Subset.refl _⟩
  | cons event rest ih =>
      rcases execute_cons_eq_some_iff.mp run with ⟨report, middle, later, stepped, executed, -⟩
      rcases kept_next kept stepped with ⟨keptMiddle, first, known⟩
      rcases ih keptMiddle executed with ⟨keptAfter, second, knownAfter⟩
      refine ⟨keptAfter, first.trans second known ?_, List.Subset.trans known knownAfter⟩
      intro source limit budget id found
      have members := (kept.ordered.later source limit budget id found).subset
      exact kept.ordered.known source (members List.mem_cons_self)

/-- A call at a cursor whose successor is recorded adds nothing, and gives that successor
or none. -/
theorem read_of_successor (kept : Kept log.issued log.cursors) {arguments : Json}
    {source id : Uuid} {limit budget : Nat} {position : Cursor} (newId : Uuid)
    (bounds : readBounds arguments = .ok (limit, budget))
    (started : log.position parseUuid (arguments.get "cursor") = .ok (some source, position))
    (recorded : log.cursors.successors source limit budget = some id) :
    (log.read parseUuid arguments newId).2.cursors = log.cursors ∧
      ∀ reply, (log.read parseUuid arguments newId).1 = .ok reply →
        ∀ next, reply.nextCursor = some next → next = id := by
  have existing : log.cursors.existing (some source) limit budget = some id := by
    rw [kept.ordered.existing_eq]
    exact recorded
  have follows : ∀ after, (log.cursors.follow (some source) limit budget after newId).2 =
      log.cursors ∧ ∀ next,
        (log.cursors.follow (some source) limit budget after newId).1 = some next → next = id := by
    intro after
    rw [Cursors.follow, existing]
    split_ifs
    · exact ⟨rfl, (by simp)⟩
    · exact ⟨rfl, fun next given => (Option.some.inj given).symm⟩
  rw [Log.read, bounds]
  dsimp only
  rw [started]
  dsimp only
  rw [Log.readAt]
  cases position.advanceEmptySegments.segment with
  | none =>
      refine ⟨rfl, ?_⟩
      rintro reply ⟨⟩ next given
      cases given
  | some segment =>
      dsimp only
      split
      · exact ⟨rfl, (by simp)⟩
      · rename_i bytes _ _
        rcases follows (position.advanceEmptySegments.pass bytes).advanceEmptySegments with
          ⟨same, given⟩
        split
        · refine ⟨same, ?_⟩
          rintro reply ⟨⟩ next isNext
          exact given next isNext
        · exact ⟨same, (by simp)⟩

/-- In every run of a log whose tables are empty at first the tables stay in step, and as
long as a cursor lives, a call at it that has a successor gives no other. -/
theorem cursor_tables_in_step {start : Log} {earlier : List LogEvent} {reports : List LogReport}
    (opened : start.cursors = .empty)
    (run : execute (logNext parseUuid) start earlier = some (reports, log)) :
    log.cursors.InStep ∧
      ∀ {events laterReports later},
        execute (logNext parseUuid) log events = some (laterReports, later) →
        ∀ source limit budget id, log.cursors.successors source limit budget = some id →
          (later.cursors.cursors source).isSome = true →
          later.cursors.successors source limit budget = some id ∧
          (later.cursors.cursors id).isSome = true ∧
          ∀ arguments position newId, readBounds arguments = .ok (limit, budget) →
            later.position parseUuid (arguments.get "cursor") = .ok (some source, position) →
            (later.read parseUuid arguments newId).2.cursors = later.cursors ∧
            ∀ reply, (later.read parseUuid arguments newId).1 = .ok reply →
              ∀ next, reply.nextCursor = some next → next = id := by
  have keptStart : Kept start.issued start.cursors := by
    rw [opened]
    exact kept_empty
  have kept := (kept_run keptStart run).1
  refine ⟨kept.inStep, ?_⟩
  intro events laterReports later runs source limit budget id recorded live
  rcases kept_run kept runs with ⟨keptLater, retires, -⟩
  have held : later.cursors.successors source limit budget = some id := by
    rcases retires.successor source limit budget id recorded with gone | held
    · rw [gone] at live
      cases live
    · exact held
  refine ⟨held, keptLater.inStep.target source limit budget id held, ?_⟩
  intro arguments position newId bounds started
  exact read_of_successor keptLater newId bounds started held

end Calls

/-- The active segment has three records. -/
def threeRecords : Log where
  world :=
    { twoRecords.world with
      store :=
        { twoRecords.world.store with
          file := ⟨.active, 6⟩
          active := ⟨1, .active, 6⟩ }
      disk := Files.Disk.empty.put .active [0x61, newline, 0x62, newline, 0x63, newline] }
  cursors := Cursors.empty
  issued := [1]

/-- The second call records the cursor that it gives as the successor of its own, and
gives it again after an append. -/
theorem cursor_tables_in_step_threeRecords :
    ∃ reports log appended later reply,
      execute (logNext uuidOfText) threeRecords [.read oneRecord 10, .read (oneRecordAt 10) 11] =
        some (reports, log) ∧
      log.cursors.InStep ∧ log.cursors.successors 10 1 65536 = some 11 ∧
      execute (logNext uuidOfText) log [.append "d" 2 0] = some (appended, later) ∧
      (later.read uuidOfText (oneRecordAt 10) 12).1 = .ok reply ∧ reply.nextCursor = some 11 ∧
      (later.read uuidOfText (oneRecordAt 10) 12).2.cursors = later.cursors := by
  have shown : (execute (logNext uuidOfText) threeRecords
      [.read oneRecord 10, .read (oneRecordAt 10) 11]).any (fun result =>
        decide (result.2.cursors.successors 10 1 65536 = some 11) &&
          (execute (logNext uuidOfText) result.2 [.append "d" 2 0]).any fun last =>
            (last.2.cursors.cursors 10).isSome &&
              (LogReport.replied (last.2.read uuidOfText (oneRecordAt 10) 12).1).reply?.any
                fun reply => reply.nextCursor.isSome) = true := by
    decide +kernel
  rcases (Option.any_eq_true _ _).mp shown with ⟨⟨reports, log⟩, run, second⟩
  rcases (Bool.and_eq_true_iff).mp second with ⟨recorded, third⟩
  rcases (Option.any_eq_true _ _).mp third with ⟨⟨appended, later⟩, ran, fourth⟩
  rcases (Bool.and_eq_true_iff).mp fourth with ⟨live, fifth⟩
  rcases (Option.any_eq_true _ _).mp fifth with ⟨reply, isReply, gives⟩
  have replied : (later.read uuidOfText (oneRecordAt 10) 12).1 = .ok reply := by
    simpa using LogReport.eq_of_reply? isReply
  rcases Option.isSome_iff_exists.mp live with ⟨position, found⟩
  have started : later.position uuidOfText ((oneRecordAt 10).get "cursor") =
      .ok (some 10, position) := by
    have carried : Carries uuidOfText (oneRecordAt 10) 10 :=
      ⟨_, rfl, by decide +kernel, by decide +kernel⟩
    rw [position_of_carries carried, found]
  rcases Option.isSome_iff_exists.mp gives with ⟨next, isNext⟩
  have inStep := cursor_tables_in_step rfl run
  rcases inStep.2 ran 10 1 65536 11 (of_decide_eq_true recorded) live with ⟨-, -, again⟩
  rcases again (oneRecordAt 10) position 12 (by decide +kernel) started with ⟨same, given⟩
  refine ⟨reports, log, appended, later, reply, run, inStep.1, of_decide_eq_true recorded, ran,
    replied, ?_, same⟩
  rw [isNext, given reply replied next isNext]

end X64dbgMcp.Audit
