import X64dbgMcp.Audit.Reading

/-!
# Snapshots are read whole

A reader that follows its cursors gets the bytes of its snapshot, whatever is appended,
rotated out and read by others in between.
-/

namespace X64dbgMcp.Audit

open Files Text Transition
open Ipc (Uuid)

/-- What a chunk says of itself is true of the segment that it is from. -/
structure Describes (texts : List (Uuid × Bytes)) (chunk : Chunk) (content : Bytes) : Prop where
  segment : (chunk.segmentId, content) ∈ texts
  within : chunk.offset + chunk.text.length ≤ content.length
  text : chunk.text = (content.drop chunk.offset).take chunk.text.length
  nonempty : chunk.text ≠ []
  isUtf8 : IsUtf8 chunk.text
  bytes : chunk.bytes = chunk.text.length
  completedRecords : chunk.completedRecords = chunk.text.count newline
  startsMidRecord : chunk.startsMidRecord = true ↔ ¬ Complete (content.take chunk.offset)
  endsMidRecord : chunk.endsMidRecord = true ↔
    ¬ Complete (content.take (chunk.offset + chunk.text.length))
  partialRecord : chunk.partialRecord = (chunk.startsMidRecord || chunk.endsMidRecord)

section Readers

variable (parseUuid : String → Option Uuid)

/-- The arguments have the cursor. -/
def Carries (arguments : Json) (cursor : Uuid) : Prop :=
  ∃ text, arguments.get "cursor" = some (.string text) ∧ (utf8 text).length ≤ 512 ∧
    parseUuid text = some cursor

/-- Successful calls of one reader, each at the cursor of the one before.  In between
anything may happen. -/
inductive Chain (start : Log) : List Reply → Log → Option Uuid → Prop where
  | first {after : Log} {arguments : Json} {newId : Uuid} {reply : Reply}
      (fresh : arguments.get "cursor" = none)
      (called : logNext parseUuid start (.read arguments newId) =
        some (.replied (.ok reply), after)) :
      Chain start [reply] after reply.nextCursor
  | next {replies : List Reply} {middle later after : Log} {cursor : Uuid}
      {events : List LogEvent} {reports : List LogReport} {arguments : Json} {newId : Uuid}
      {reply : Reply} (before : Chain start replies middle (some cursor))
      (between : execute (logNext parseUuid) middle events = some (reports, later))
      (carried : Carries parseUuid arguments cursor)
      (called : logNext parseUuid later (.read arguments newId) =
        some (.replied (.ok reply), after)) :
      Chain start (replies ++ [reply]) after reply.nextCursor

/-- The replies are the snapshot, or its beginning as long as there is a next cursor. -/
structure Reconstructs (texts : List (Uuid × Bytes)) (replies : List Reply)
    (next : Option Uuid) : Prop where
  chunks : texts.flatMap Prod.snd ≠ [] → ∀ reply ∈ replies, ∃ chunk content,
    reply = .chunk chunk ∧ Describes texts chunk content
  joined : replies.flatMap Reply.text <+: texts.flatMap Prod.snd
  whole : next = none → replies.flatMap Reply.text = texts.flatMap Prod.snd
  complete : replies.getLast?.map Reply.complete = some next.isNone
  bounded : replies.length ≤ max 1 (texts.flatMap Prod.snd).length

variable {parseUuid}

/-- A successful call, step by step. -/
theorem read_eq_ok {log after : Log} {arguments : Json} {newId : Uuid} {reply : Reply}
    (called : logNext parseUuid log (.read arguments newId) = some (.replied (.ok reply), after)) :
    newId ∉ log.issued ∧ ∃ limit budget source position middle,
      readBounds arguments = .ok (limit, budget) ∧
        log.position parseUuid (arguments.get "cursor") = .ok (source, position) ∧
        log.readAt source position limit budget newId = (.ok reply, middle) ∧
        after = { middle with issued := newId :: log.issued } := by
  simp only [logNext] at called
  split at called
  · contradiction
  rename_i fresh
  refine ⟨fresh, ?_⟩
  rcases result : log.read parseUuid arguments newId with ⟨replied, middle⟩
  rw [result] at called
  cases called
  simp only [Log.read] at result
  split at result
  · cases result
  · rename_i limit budget bounds
    split at result
    · cases result
    · rename_i source position started
      exact ⟨limit, budget, source, position, middle, bounds, started, result, rfl⟩

/-- The segments of a cursor are those of the snapshot. -/
def Within (texts : List (Uuid × Bytes)) (archive : Uuid → Bytes) (cursor : Cursor) : Prop :=
  ∀ segment ∈ cursor.segments, (segment.id, cutText archive segment) ∈ texts

variable {archive : Uuid → Bytes} {log : Log} {texts : List (Uuid × Bytes)}

theorem describes_chunkOf {cursor after : Cursor} {next : Option Uuid} {segment : Segment}
    {chunk rest : Bytes} (sound : cursor.Sound archive log.issued) (within : Within texts archive cursor)
    (found : cursor.segment = some segment)
    (split : (cutText archive segment).drop cursor.offset = chunk ++ rest) (some : chunk ≠ [])
    (isUtf8 : IsUtf8 chunk) :
    Describes texts (Log.chunkOf cursor segment chunk (chunk.count newline) after next)
      (cutText archive segment) := by
  have member := Cursor.mem_of_segment found
  have length := congrArg List.length split
  have inside := sound.offset segment found
  rw [List.length_drop, List.length_append] at length
  have whole := sound.length_cutText member
  refine ⟨within segment member, ?_, ?_, some, isUtf8, rfl, rfl, sound.starts segment found, ?_, rfl⟩
  · simp only [Log.chunkOf]
    omega
  · simp only [Log.chunkOf]
    rw [split, List.take_left]
  · simp only [Log.chunkOf]
    rw [List.take_add, split, List.take_left]
    exact Cursor.endsMidRecord_iff _ some

/-- Where a reader stands after a reply. -/
structure Stands (texts : List (Uuid × Bytes)) (archive : Uuid → Bytes) (log : Log) (next : Uuid)
    (left : Bytes) : Prop where
  issued : next ∈ log.issued
  cursor : ∃ cursor, log.cursors.cursors next = some cursor ∧ Within texts archive cursor ∧
    cursor.remaining archive = left

/-- One call reads a beginning of what is left. -/
theorem LogInvariant.call (invariant : LogInvariant archive log) {source : Option Uuid}
    {position : Cursor} {limit budget : Nat} {newId : Uuid} {reply : Reply} {after : Log}
    (fresh : newId ∉ log.issued) (sound : position.Sound archive log.issued)
    (live : ∀ origin, source = some origin → log.cursors.cursors origin = some position)
    (within : Within texts archive position) (large : 4 ≤ budget)
    (called : log.readAt source position limit budget newId = (.ok reply, after)) :
    (position.remaining archive = [] ∧ reply = .empty) ∨
      ∃ chunk content rest, reply = .chunk chunk ∧ Describes texts chunk content ∧
        position.remaining archive = chunk.text ++ rest ∧
        chunk.complete = chunk.nextCursor.isNone ∧ (chunk.nextCursor = none → rest = []) ∧
        ∀ next, chunk.nextCursor = some next → rest ≠ [] ∧
          Stands texts archive { after with issued := newId :: log.issued } next rest := by
  rcases sound.advanceEmptySegments with ⟨advanced, segments, same, -⟩
  cases found : position.advanceEmptySegments.segment with
  | none =>
      rw [readAt_past found] at called
      cases called
      rw [← same]
      exact .inl ⟨Cursor.remaining_of_segment_none found, rfl⟩
  | some segment =>
      by_cases member : segment.id ∈ log.world.store.segments.map Segment.id
      · rcases invariant.readAt_eq sound large limit found member source newId with
          ⟨bytes, rest, some, isUtf8, restUtf8, split, cut, read⟩
        rcases after_spec sound found split some restUtf8 with ⟨soundAfter, kept, left, finished⟩
        rw [read] at called
        have withinAdvanced : Within texts archive position.advanceEmptySegments := by
          rw [Within, segments]
          exact within
        have withinAfter : Within texts archive
            (position.advanceEmptySegments.pass bytes).advanceEmptySegments := by
          rw [Within, kept]
          exact within
        cases called
        refine .inr ⟨_, _, _, rfl, describes_chunkOf advanced withinAdvanced found split some isUtf8,
          left, ?_⟩
        simp only [Log.chunkOf]
        rcases follow_cases log.cursors source limit budget
            (position.advanceEmptySegments.pass bytes).advanceEmptySegments newId
            invariant.ordered with
          ⟨done, followed⟩ | ⟨unfinished, origin, existing, from_, held, followed⟩ |
            ⟨unfinished, absent, followed⟩
        · simp only [followed, done, decide_true, Option.isNone_none, true_and]
          exact ⟨fun _ => finished.mpr done, nofun⟩
        · have member := (invariant.ordered.later origin limit budget existing held).subset
            (by simp : existing ∈ [origin, existing])
          rcases Option.isSome_iff_exists.mp ((invariant.ordered.live existing).mpr member) with
            ⟨next, nextFound⟩
          rcases invariant.follows origin limit budget existing position next held
            (live origin from_) nextFound with ⟨other, chunk, completed, foundOther, cutOther, rfl⟩
          cases found.symm.trans foundOther
          cases cut.symm.trans cutOther
          simp only [followed, unfinished, decide_false, Option.isNone_some, true_and]
          refine ⟨nofun, ?_⟩
          rintro _ ⟨⟩
          exact ⟨fun nothing => unfinished (finished.mp nothing),
            List.mem_cons_of_mem _ (invariant.ordered.known existing member), _, nextFound,
            withinAfter, rfl⟩
        · have left_ : Cursor.remaining archive
              (position.advanceEmptySegments.pass bytes).advanceEmptySegments ≠ [] :=
            fun nothing => unfinished (finished.mp nothing)
          rcases invariant.insert fresh live absent ⟨segment, bytes, _, found, cut, rfl⟩ soundAfter
            left_ with ⟨-, -, inserted⟩
          simp only [followed, unfinished, decide_false, Option.isNone_some, true_and]
          refine ⟨nofun, ?_⟩
          rintro _ ⟨⟩
          exact ⟨left_, List.mem_cons_self, _, inserted, withinAfter, rfl⟩
      · rw [readAt_rotatedOut found member] at called
        cases called

theorem position_of_carries {arguments : Json} {cursor : Uuid}
    (carried : Carries parseUuid arguments cursor) :
    log.position parseUuid (arguments.get "cursor") =
      match log.cursors.cursors cursor with
      | none => .error invalidCursor
      | some position => .ok (some cursor, position) := by
  rcases carried with ⟨text, found, short, parsed⟩
  have asStr : ((Json.string text).asStr.filter fun text => (utf8 text).length ≤ 512).bind
      parseUuid = some cursor := by
    rw [show (Json.string text).asStr = some text from rfl, Option.filter_some,
      if_pos (decide_eq_true short), Option.bind_some, parsed]
  rcases held : log.cursors.cursors cursor with _ | position
  · simp only [Log.position, found, asStr, held]
  · simp only [Log.position, found, asStr, held]

/-! ## The calls of one reader -/

/-- What a reader has read, and what is left. -/
structure Progress (texts : List (Uuid × Bytes)) (replies : List Reply) (next : Option Uuid)
    (left : Bytes) : Prop where
  chunks : texts.flatMap Prod.snd ≠ [] → ∀ reply ∈ replies, ∃ chunk content,
    reply = .chunk chunk ∧ Describes texts chunk content
  joined : replies.flatMap Reply.text ++ left = texts.flatMap Prod.snd
  done : next = none → left = []
  complete : replies.getLast?.map Reply.complete = some next.isNone
  bounded : replies.length + left.length ≤ max 1 (texts.flatMap Prod.snd).length

theorem Progress.reconstructs {replies : List Reply} {next : Option Uuid} {left : Bytes}
    (progress : Progress texts replies next left) : Reconstructs texts replies next := by
  refine ⟨progress.chunks, ⟨left, progress.joined⟩, ?_, progress.complete, ?_⟩
  · intro last
    have joined := progress.joined
    rwa [progress.done last, List.append_nil] at joined
  · exact Nat.le_trans (Nat.le_add_right _ _) progress.bounded

/-- One more chunk. -/
theorem Progress.next {replies : List Reply} {cursor : Uuid} {chunk : Chunk} {content left rest : Bytes}
    (progress : Progress texts replies (some cursor) left) (describes : Describes texts chunk content)
    (split : left = chunk.text ++ rest) (complete : chunk.complete = chunk.nextCursor.isNone)
    (last : chunk.nextCursor = none → rest = []) :
    Progress texts (replies ++ [.chunk chunk]) chunk.nextCursor rest := by
  refine ⟨?_, ?_, last, ?_, ?_⟩
  · intro some reply member
    rcases List.mem_append.mp member with earlier | new
    · exact progress.chunks some reply earlier
    · cases List.mem_singleton.mp new
      exact ⟨chunk, content, rfl, describes⟩
  · have joined := progress.joined
    rw [split] at joined
    simpa [Reply.text] using joined
  · simp [Reply.complete, complete]
  · have positive := List.length_pos_iff.mpr describes.nonempty
    have bounded := progress.bounded
    rw [split, List.length_append] at bounded
    rw [List.length_append, List.length_singleton]
    omega

theorem Chain.progress {start final : Log} {replies : List Reply} {next : Option Uuid}
    {opened : Uuid → Bytes} (invariant : LogInvariant opened start)
    (chain : Chain parseUuid start replies final next) :
    ∃ archive left, LogInvariant archive final ∧ Progress start.world.texts replies next left ∧
      ∀ cursor, next = some cursor → left ≠ [] ∧
        Stands start.world.texts archive final cursor left := by
  induction chain with
  | @first after arguments newId reply fresh called =>
      rcases read_eq_ok called with
        ⟨unused, limit, budget, source, position, middle, bounds, started, read, rfl⟩
      have large : 4 ≤ budget := Nat.le_trans (by decide) (readBounds_eq_ok bounds)
      rcases invariant.position_sound started with ⟨sound, live⟩
      have kept := @LogInvariant.readAt opened start position limit budget invariant source newId
        unused sound live large
      rw [read] at kept
      rw [fresh] at started
      rcases position_eq_ok started with ⟨-, -, rfl⟩ | ⟨_, _, absurd_, -⟩
      · rcases invariant.snapshot with ⟨-, snapshot⟩
        have within : Within start.world.texts opened ⟨start.world.store.segments, 0, 0, false⟩ :=
          fun segment member => (invariant.cutText_eq member).1
        rcases invariant.call unused sound live within large read with
          ⟨nothing, rfl⟩ | ⟨chunk, content, rest, rfl, describes, split, complete, last, stands⟩
        · rw [snapshot] at nothing
          refine ⟨opened, [], kept.1, ⟨fun some => absurd nothing some, ?_, fun _ => rfl, rfl, ?_⟩,
            nofun⟩
          · simp [Reply.text, nothing]
          · simp
        · rw [snapshot] at split
          refine ⟨opened, rest, kept.1, ⟨?_, ?_, last, ?_, ?_⟩, stands⟩
          · intro _ reply member
            cases List.mem_singleton.mp member
            exact ⟨chunk, content, rfl, describes⟩
          · simp [Reply.text, split]
          · simp [Reply.complete, Reply.nextCursor, complete]
          · have positive := List.length_pos_iff.mpr describes.nonempty
            rw [split, List.length_append, List.length_singleton]
            omega
      · contradiction
  | @next replies middle log after cursor events reports arguments newId reply before between carried
      called ih =>
      rcases ih with ⟨earlier, left, kept, progress, stands⟩
      rcases stands cursor rfl with ⟨some, issued, held, heldFound, within, leftEq⟩
      rcases kept.run between with ⟨archive, continues⟩
      rcases read_eq_ok called with
        ⟨unused, limit, budget, source, position, middle, bounds, started, read, rfl⟩
      have large : 4 ≤ budget := Nat.le_trans (by decide) (readBounds_eq_ok bounds)
      rcases continues.invariant.position_sound started with ⟨sound, live⟩
      have keptAfter := @LogInvariant.readAt archive log position limit budget continues.invariant
        source newId unused sound live large
      rw [read] at keptAfter
      rw [position_of_carries carried] at started
      rcases continues.retires.kept cursor issued with gone | same
      · rw [gone] at started
        contradiction
      · rw [same, heldFound] at started
        cases started
        have soundBefore := (kept.sound cursor held heldFound).1
        have withinNow : Within start.world.texts archive held := by
          intro segment member
          rw [soundBefore.cutText_eq continues.grows member]
          exact within segment member
        have leftNow : held.remaining archive = left := by
          rw [soundBefore.remaining_eq continues.grows, leftEq]
        rcases continues.invariant.call unused sound live withinNow large read with
          ⟨nothing, -⟩ | ⟨chunk, content, rest, rfl, describes, split, complete, last, standsAfter⟩
        · rw [leftNow] at nothing
          exact absurd nothing some
        · rw [leftNow] at split
          exact ⟨archive, rest, keptAfter.1, progress.next describes split complete last, standsAfter⟩

/-! ## The same call again -/

/-- The successor that a call gives is kept as long as its source. -/
theorem follow_successor {cursors : Cursors} {issued : List Uuid} {origin newId next : Uuid}
    {limit budget : Nat} {after : Cursor} (ordered : cursors.Ordered issued)
    (fresh : newId ∉ issued) (live : origin ∈ cursors.cursorOrder)
    (given : (cursors.follow (some origin) limit budget after newId).1 = some next) :
    let tables := (cursors.follow (some origin) limit budget after newId).2
    tables.cursors origin = none ∨ tables.successors origin limit budget = some next := by
  rcases follow_cases cursors (some origin) limit budget after newId ordered with
    ⟨-, followed⟩ | ⟨-, source, existing, from_, held, followed⟩ | ⟨-, -, followed⟩
  · rw [followed] at given
    contradiction
  · rw [followed] at given ⊢
    cases from_
    cases given
    exact .inr held
  · rw [followed] at given ⊢
    cases given
    have inOrder : ∀ source, some origin = some source → source ∈ cursors.cursorOrder := by
      rintro _ ⟨⟩
      exact live
    have thins : Cursors.Thins (cursors.add (some origin) limit budget newId after)
        (cursors.insert (some origin) limit budget newId after) :=
      (ordered.insert fresh inOrder).2.1
    exact thins.successor origin limit budget newId (by simp [Cursors.add])

theorem follow_again {cursors : Cursors} {issued : List Uuid} {origin newId next : Uuid}
    {limit budget : Nat} {after : Cursor} (ordered : cursors.Ordered issued)
    (unfinished : after.index ≠ after.segments.length)
    (held : cursors.successors origin limit budget = some next) :
    (cursors.follow (some origin) limit budget after newId).1 = some next := by
  have existing : cursors.existing (some origin) limit budget = some next := by
    rw [ordered.existing_eq]
    exact held
  simp only [Cursors.follow, if_neg unfinished, existing]

/-- The next cursor of a call that is made again. -/
theorem follow_repeats {cursors later : Cursors} {issued more : List Uuid}
    {origin newId : Uuid} {limit budget : Nat} {after : Cursor} (otherId : Uuid)
    (ordered : cursors.Ordered issued) (orderedLater : later.Ordered more) (fresh : newId ∉ issued)
    (inOrder : origin ∈ cursors.cursorOrder)
    (live : (cursors.follow (some origin) limit budget after newId).2.cursors origin ≠ none)
    (kept : ∀ next, (cursors.follow (some origin) limit budget after newId).2.successors origin
      limit budget = some next → later.successors origin limit budget = some next) :
    (later.follow (some origin) limit budget after otherId).1 =
      (cursors.follow (some origin) limit budget after newId).1 := by
  by_cases finished : after.index = after.segments.length
  · simp only [Cursors.follow, if_pos finished]
  · cases given : (cursors.follow (some origin) limit budget after newId).1 with
    | none =>
        simp only [Cursors.follow, if_neg finished] at given
        split at given <;> contradiction
    | some next =>
        rcases follow_successor ordered fresh inOrder given with gone | held
        · exact absurd gone live
        · exact follow_again orderedLater finished (kept next held)

/-- The next call at the cursor reads from the segment. -/
def Expects (log : Log) (cursor : Uuid) (segment : Segment) : Prop :=
  ∃ position, log.cursors.cursors cursor = some position ∧
    position.advanceEmptySegments.segment = some segment

theorem read_of_carries {arguments : Json} {cursor newId : Uuid} {position : Cursor}
    {limit budget : Nat} (carried : Carries parseUuid arguments cursor)
    (bounds : readBounds arguments = .ok (limit, budget))
    (found : log.cursors.cursors cursor = some position) :
    log.read parseUuid arguments newId = log.readAt (some cursor) position limit budget newId := by
  simp only [Log.read, bounds, position_of_carries carried, found]

theorem replied_eq {after : Log} {arguments : Json} {newId : Uuid} {result : Except Failure Reply}
    (called : logNext parseUuid log (.read arguments newId) = some (.replied result, after)) :
    newId ∉ log.issued ∧ result = (log.read parseUuid arguments newId).1 ∧
      after = { (log.read parseUuid arguments newId).2 with issued := newId :: log.issued } := by
  simp only [logNext] at called
  split at called
  · contradiction
  · rename_i fresh
    cases called
    exact ⟨fresh, rfl, rfl⟩

/-- The reply again, at a cursor that is still live, unless its segment is gone. -/
theorem LogInvariant.again (invariant : LogInvariant archive log) {cursor newId otherId : Uuid}
    {arguments other : Json} {reply : Reply} {after middle final : Log} {events : List LogEvent}
    {reports : List LogReport} {result : Except Failure Reply}
    (carried : Carries parseUuid arguments cursor) (carriedToo : Carries parseUuid other cursor)
    (same : readBounds other = readBounds arguments)
    (called : logNext parseUuid log (.read arguments newId) = some (.replied (.ok reply), after))
    (between : execute (logNext parseUuid) after events = some (reports, middle))
    (live : middle.cursors.cursors cursor ≠ none)
    (calledAgain : logNext parseUuid middle (.read other otherId) =
      some (.replied result, final)) :
    result = .ok reply ∨
      result = .error rotatedOut ∧ ∃ segment, Expects middle cursor segment ∧
        segment.id ∉ middle.world.store.segments.map Segment.id := by
  rcases read_eq_ok called with
    ⟨unused, limit, budget, source, position, reached, bounds, started, read, rfl⟩
  have large : 4 ≤ budget := Nat.le_trans (by decide) (readBounds_eq_ok bounds)
  rcases invariant.position_sound started with ⟨sound, from_⟩
  have kept := @LogInvariant.readAt archive log position limit budget invariant source newId unused
    sound from_ large
  rw [read] at kept
  rcases kept with ⟨invariantAfter, retires⟩
  rcases invariantAfter.run between with ⟨later, continues⟩
  rw [position_of_carries carried] at started
  cases found : log.cursors.cursors cursor with
  | none =>
      rw [found] at started
      contradiction
  | some held =>
      rw [found] at started
      cases started
      have inOrder : cursor ∈ log.cursors.cursorOrder := by
        rw [← invariant.ordered.live, found]
        rfl
      have issued := invariant.ordered.known cursor inOrder
      have liveAfter : reached.cursors.cursors cursor ≠ none := by
        intro gone
        rcases continues.retires.kept cursor (List.mem_cons_of_mem _ issued) with none | equal
        · exact live none
        · exact live (equal.trans gone)
      have foundMiddle : middle.cursors.cursors cursor = some position := by
        rcases continues.retires.kept cursor (List.mem_cons_of_mem _ issued) with none | equal
        · exact absurd none live
        · rw [equal]
          rcases retires.kept cursor issued with none | equal
          · exact absurd none liveAfter
          · exact equal.trans found
      rcases replied_eq calledAgain with ⟨-, resultEq, -⟩
      rw [read_of_carries carriedToo (same.trans bounds) foundMiddle] at resultEq
      cases next : position.advanceEmptySegments.segment with
      | none =>
          rw [readAt_past next] at read resultEq
          cases read
          exact .inl resultEq
      | some segment =>
          by_cases member : segment.id ∈ log.world.store.segments.map Segment.id
          · by_cases memberToo : segment.id ∈ middle.world.store.segments.map Segment.id
            · have grows : Cursor.Grows log.issued archive later :=
                fun id member => continues.grows id (List.mem_cons_of_mem _ member)
              have soundMiddle := sound.grow grows
                (List.Subset.trans (List.subset_cons_self _ _) continues.issued)
              have cutEq : cutText later segment = cutText archive segment := by
                rcases sound.advanceEmptySegments with ⟨-, segments, -, -⟩
                have inSegments := Cursor.mem_of_segment next
                rw [segments] at inSegments
                exact sound.cutText_eq grows inSegments
              rcases invariant.readAt_eq sound large limit next member (some cursor) newId with
                ⟨chunk, _, -, -, -, -, cut, replied⟩
              rcases continues.invariant.readAt_eq soundMiddle large limit next memberToo
                (some cursor) otherId with ⟨chunkToo, _, -, -, -, -, cutToo, repliedToo⟩
              rw [cutEq] at cutToo
              cases cut.symm.trans cutToo
              rw [replied] at read
              rw [repliedToo] at resultEq
              cases read
              rw [resultEq]
              have nextEq := follow_repeats otherId invariant.ordered continues.invariant.ordered
                unused inOrder liveAfter (fun given held =>
                  (continues.retires.successor cursor limit budget given held).resolve_left live)
              exact .inl (by rw [nextEq])
            · rw [readAt_rotatedOut next memberToo] at resultEq
              exact .inr ⟨resultEq, segment, ⟨position, foundMiddle, next⟩, memberToo⟩
          · rw [readAt_rotatedOut next member] at read
            cases read

/-! ## From the opening of the store -/

/-- The segments hold lines of UTF-8, and nothing has been read. -/
structure OpenedLog (log : Log) : Prop where
  named : Named log.world
  lengths : LengthInvariant log.world
  whole : ∀ text ∈ log.world.texts, WholeText text.2
  known : ∀ segment ∈ log.world.store.segments, segment.id ∈ log.issued
  unread : log.cursors = Cursors.empty

theorem exists_archive (texts : List (Uuid × Bytes)) (distinct : (texts.map Prod.fst).Nodup) :
    ∃ archive : Uuid → Bytes, ∀ text ∈ texts, archive text.1 = text.2 := by
  induction texts with
  | nil => exact ⟨fun _ => [], List.forall_mem_nil _⟩
  | cons text rest ih =>
      rcases List.nodup_cons.mp distinct with ⟨other, later⟩
      rcases ih later with ⟨archive, held⟩
      refine ⟨Function.update archive text.1 text.2, ?_⟩
      intro segment member
      rcases List.mem_cons.mp member with rfl | behind
      · exact Function.update_self _ _ _
      · rw [Function.update_of_ne]
        · exact held segment behind
        · intro same
          exact other (same ▸ List.mem_map_of_mem behind)

theorem OpenedLog.invariant (opened : OpenedLog log) : ∃ archive, LogInvariant archive log := by
  rcases exists_archive log.world.texts (by rw [ids_texts]; exact opened.named.distinct) with
    ⟨archive, held⟩
  refine ⟨archive, opened.named, opened.lengths, held, opened.whole, opened.known, ?_, ?_, ?_⟩
  · rw [opened.unread]
    exact Cursors.ordered_empty.more (List.nil_subset _)
  · rw [opened.unread]
    nofun
  · rw [opened.unread]
    nofun

/-- In every run from an opened store, with appends, rotations and any readers: the
replies to a reader that follows its cursors are its snapshot in nonempty chunks, and
at most as many as the snapshot has bytes; a call at a live cursor that is made again
gets the same reply as long as the segment is there; and a call whose segment is gone
is told that its cursor expired. -/
theorem read_reconstructs_snapshot {start log : Log} {earlier : List LogEvent}
    {reports : List LogReport} (opened : OpenedLog start)
    (run : execute (logNext parseUuid) start earlier = some (reports, log)) :
    (∀ replies final next, Chain parseUuid log replies final next →
      Reconstructs log.world.texts replies next) ∧
    (∀ cursor newId otherId arguments other reply after events between middle result final,
      Carries parseUuid arguments cursor → Carries parseUuid other cursor →
      readBounds other = readBounds arguments →
      logNext parseUuid log (.read arguments newId) = some (.replied (.ok reply), after) →
      execute (logNext parseUuid) after events = some (between, middle) →
      middle.cursors.cursors cursor ≠ none →
      logNext parseUuid middle (.read other otherId) = some (.replied result, final) →
      result = .ok reply ∨
        result = .error rotatedOut ∧ ∃ segment, Expects middle cursor segment ∧
          segment.id ∉ middle.world.store.segments.map Segment.id) ∧
    (∀ cursor newId arguments bounds segment result after, Carries parseUuid arguments cursor →
      readBounds arguments = .ok bounds → Expects log cursor segment →
      segment.id ∉ log.world.store.segments.map Segment.id →
      logNext parseUuid log (.read arguments newId) = some (.replied result, after) →
      result = .error ⟨.cursorExpired, "snapshot segment has rotated out"⟩) := by
  rcases opened.invariant with ⟨_, invariant⟩
  rcases invariant.run run with ⟨archive, continues⟩
  have reached := continues.invariant
  refine ⟨?_, ?_, ?_⟩
  · intro replies final next chain
    rcases chain.progress reached with ⟨_, _, -, progress, -⟩
    exact progress.reconstructs
  · intro cursor newId otherId arguments other reply after events between middle result final
      carried carriedToo same called ran live again
    exact reached.again carried carriedToo same called ran live again
  · rintro cursor newId arguments ⟨limit, budget⟩ segment result after carried bounds
      ⟨position, found, expects⟩ gone called
    rcases replied_eq called with ⟨-, rfl, -⟩
    rw [read_of_carries carried bounds found, readAt_rotatedOut expects gone]
    rfl

end Readers

/-! ## Two records -/

/-- The identifier that a text of hexadecimal digits and hyphens stands for. -/
def uuidOfText (text : String) : Option Uuid :=
  if (utf8 text).length = 36 then
    some (BitVec.ofNat 128 ((utf8 text).foldl
      (fun value byte =>
        if byte = 0x2d then value
        else value * 16 + (byte.toNat - if byte ≤ 0x39 then 0x30 else 0x57)) 0))
  else none

/-- The active segment has two records. -/
def twoRecords : Log where
  world :=
    { store :=
        { file := ⟨.active, 4⟩
          rotated := []
          active := ⟨1, .active, 4⟩
          backups := 1
          rotateBytes := 300
          recoveredBytes := 0
          oversizeRecords := 0 }
      disk := Disk.empty.put .active [0x61, newline, 0x62, newline] }
  cursors := Cursors.empty
  issued := [1]

theorem openedLog_twoRecords : OpenedLog twoRecords := by
  refine ⟨⟨List.forall_mem_nil _, .inl rfl, by decide⟩, ⟨?_, rfl⟩, ?_, ?_, rfl⟩
  · intro segment member
    cases List.mem_singleton.mp member
    decide +kernel
  · intro text member
    cases List.mem_singleton.mp member
    exact ⟨isUtf8_ascii (by decide +kernel), .inr ⟨[0x61, newline, 0x62], by decide +kernel⟩⟩
  · intro segment member
    cases List.mem_singleton.mp member
    decide

/-- The reply of a call that succeeded. -/
def LogReport.reply? : LogReport → Option Reply
  | .replied (.ok reply) => some reply
  | _ => none

theorem LogReport.eq_of_reply? {report : LogReport} {reply : Reply}
    (found : report.reply? = some reply) : report = .replied (.ok reply) := by
  rcases report with _ | _ | given
  · cases found
  · cases found
  · cases found
    rfl

/-- One record a call. -/
def oneRecord : Json :=
  .object [("limit", .number (.posInt 1))]

/-- The next record behind a cursor. -/
def oneRecordAt (cursor : Uuid) : Json :=
  .object [("cursor", .string cursor.text), ("limit", .number (.posInt 1))]

/-- A line is appended between the calls. -/
theorem read_reconstructs_snapshot_twoRecords :
    ∃ replies final, Chain uuidOfText twoRecords replies final none ∧
      Reconstructs twoRecords.world.texts replies none := by
  have first : ((logNext uuidOfText twoRecords (.read oneRecord 10)).any fun result =>
      result.1.reply?.any (fun reply => reply.nextCursor = some 10) &&
        (execute (logNext uuidOfText) result.2 [.append "c" 2 0]).any fun appended =>
          (logNext uuidOfText appended.2 (.read (oneRecordAt 10) 11)).any fun last =>
            last.1.reply?.any fun reply => reply.nextCursor = none) = true := by
    decide +kernel
  have carried : Carries uuidOfText (oneRecordAt 10) 10 :=
    ⟨_, rfl, by decide +kernel, by decide +kernel⟩
  rcases (Option.any_eq_true _ _).mp first with ⟨⟨report, middle⟩, called, shown⟩
  rcases (Bool.and_eq_true_iff).mp shown with ⟨replied, second⟩
  rcases (Option.any_eq_true _ _).mp replied with ⟨reply, isReply, next⟩
  rcases (Option.any_eq_true _ _).mp second with ⟨⟨reports, later⟩, appended, third⟩
  rcases (Option.any_eq_true _ _).mp third with ⟨⟨lastReport, final⟩, calledAgain, shown⟩
  rcases (Option.any_eq_true _ _).mp shown with ⟨last, isLast, done⟩
  cases LogReport.eq_of_reply? isReply
  cases LogReport.eq_of_reply? isLast
  have beginning : Chain uuidOfText twoRecords [reply] middle (some 10) :=
    of_decide_eq_true next ▸ Chain.first rfl called
  have chain : Chain uuidOfText twoRecords [reply, last] final none :=
    of_decide_eq_true done ▸ Chain.next beginning appended carried calledAgain
  exact ⟨[reply, last], final, chain,
    (read_reconstructs_snapshot openedLog_twoRecords
      (show execute (logNext uuidOfText) twoRecords [] = some ([], twoRecords) from rfl)).1
      _ _ _ chain⟩

end X64dbgMcp.Audit
