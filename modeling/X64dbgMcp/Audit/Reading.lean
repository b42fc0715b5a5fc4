import X64dbgMcp.Audit.Atomicity
import X64dbgMcp.Audit.Chunks
import X64dbgMcp.Audit.CursorTables

/-!
# Calls of the reader

The invariant of the log under appends and calls.  An archive gives each identifier
the bytes of its segment, also when the segment has been rotated out.
-/

namespace X64dbgMcp.Audit

open Files Text Transition
open Ipc (Uuid)

/-- The cursor after a chunk. -/
def Follows (archive : Uuid → Bytes) (cursor : Cursor) (limit budget : Nat) (after : Cursor) :
    Prop :=
  ∃ segment chunk completed, cursor.advanceEmptySegments.segment = some segment ∧
    cutChunk limit (((cutText archive segment).drop cursor.advanceEmptySegments.offset).take
      budget) = .ok (chunk, completed) ∧
    after = (cursor.advanceEmptySegments.pass chunk).advanceEmptySegments

/-- What holds of a log between its appends, against an archive of all texts. -/
structure LogInvariant (archive : Uuid → Bytes) (log : Log) : Prop where
  named : Named log.world
  lengths : LengthInvariant log.world
  held : ∀ text ∈ log.world.texts, archive text.1 = text.2
  whole : ∀ text ∈ log.world.texts, WholeText text.2
  known : ∀ segment ∈ log.world.store.segments, segment.id ∈ log.issued
  ordered : log.cursors.Ordered log.issued
  sound : ∀ id cursor, log.cursors.cursors id = some cursor →
    cursor.Sound archive log.issued ∧ cursor.remaining archive ≠ []
  follows : ∀ source limit budget id cursor after,
    log.cursors.successors source limit budget = some id →
      log.cursors.cursors source = some cursor → log.cursors.cursors id = some after →
        Follows archive cursor limit budget after

/-! ## Headers are UTF-8 -/

theorem hexDigit_lt {value : UInt8} (small : value.toNat < 16) : hexDigit value < 0x80 := by
  rw [UInt8.lt_iff_toNat_lt]
  unfold hexDigit
  split <;> rw [UInt8.toNat_add] <;> simp <;> omega

theorem ascii_escapeByte {byte : UInt8} (ascii : byte < 0x80) :
    ∀ written ∈ escapeByte byte, written < 0x80 := by
  have high : (byte / 16).toNat < 16 := by
    rw [UInt8.toNat_div]
    have below := byte.toNat_lt
    simp
    omega
  have low : (byte % 16).toNat < 16 := by
    rw [UInt8.toNat_mod]
    exact Nat.mod_lt _ (by decide)
  unfold escapeByte
  split_ifs <;> simp only [List.forall_mem_cons, List.not_mem_nil, false_implies, implies_true,
    and_true]
  all_goals first | decide | skip
  · exact ⟨by decide, by decide, by decide, by decide, hexDigit_lt high, hexDigit_lt low⟩
  · exact ascii

theorem escapeByte_of_not_ascii {byte : UInt8} (other : ¬ byte < 0x80) : escapeByte byte = [byte] := by
  rw [UInt8.lt_iff_toNat_lt] at other
  unfold escapeByte
  split_ifs with quote backslash back feed line ret tab control
  all_goals first | rfl | skip
  all_goals
    exfalso
    apply other
  · rw [quote]; decide
  · rw [backslash]; decide
  · rw [back]; decide
  · rw [feed]; decide
  · rw [line]; decide
  · rw [ret]; decide
  · rw [tab]; decide
  · exact Nat.lt_trans (UInt8.lt_iff_toNat_lt.mp control) (by decide)

/-- Escaping changes only characters of one byte. -/
theorem isUtf8_escaped (character : Char) :
    IsUtf8 ((String.utf8EncodeChar character).flatMap escapeByte) := by
  by_cases single : ∃ byte ∈ String.utf8EncodeChar character, byte < 0x80
  · rcases single with ⟨byte, member, ascii⟩
    rw [encode_eq_singleton member ascii, List.flatMap_singleton]
    exact isUtf8_ascii (ascii_escapeByte ascii)
  · refine ⟨[character], ?_⟩
    have same : (String.utf8EncodeChar character).flatMap escapeByte =
        (String.utf8EncodeChar character).flatMap fun byte => [byte] := by
      apply List.flatMap_congr
      intro byte member
      exact escapeByte_of_not_ascii fun ascii => single ⟨byte, member, ascii⟩
    rw [same]
    simp

theorem isUtf8_writeString (text : String) : IsUtf8 (writeString text) := by
  have quote : IsUtf8 [0x22] := isUtf8_byte (by decide)
  refine (quote.append ?_).append quote
  rw [utf8, List.flatMap_assoc]
  induction text.toList with
  | nil => exact .nil
  | cons character rest ih =>
      rw [List.flatMap_cons]
      exact (isUtf8_escaped character).append ih

theorem isUtf8_headerLine (id : Uuid) (time : UInt64) : IsUtf8 (headerLine id time) := by
  have open_ : IsUtf8 [0x7b] := isUtf8_byte (by decide)
  have close : IsUtf8 [0x7d] := isUtf8_byte (by decide)
  have colon : IsUtf8 [0x3a] := isUtf8_byte (by decide)
  have comma : IsUtf8 [0x2c] := isUtf8_byte (by decide)
  have ends : IsUtf8 [newline] := isUtf8_byte (by decide)
  have key := isUtf8_writeString
  have digits : IsUtf8 (decimal time.toNat) := isUtf8_utf8 _
  rw [headerLine, headerText_eq]
  exact (((((((((((((open_.append (key _)).append colon).append (key _)).append comma).append
    (key _)).append colon).append (key _)).append comma).append (key _)).append colon).append
    digits).append close).append ends)

/-! ## Segments -/

section Segments

variable {archive : Uuid → Bytes} {log : Log}

theorem mem_texts {world : World} (lengths : LengthInvariant world) {segment : Segment}
    (member : segment ∈ world.store.segments) :
    ∃ content, world.disk.content segment.path = some content ∧
      content.length = segment.length ∧ (segment.id, content) ∈ world.texts := by
  rcases Option.map_eq_some_iff.mp (lengths.lengths segment member) with ⟨content, found, length⟩
  refine ⟨content, found, length, ?_⟩
  refine List.mem_map.mpr ⟨segment, member, ?_⟩
  rw [found]
  rfl

/-- A segment of the store is archived as it is. -/
theorem LogInvariant.cutText_eq (invariant : LogInvariant archive log) {segment : Segment}
    (member : segment ∈ log.world.store.segments) :
    (segment.id, cutText archive segment) ∈ log.world.texts ∧
      (archive segment.id).length = segment.length := by
  rcases mem_texts invariant.lengths member with ⟨content, -, length, text⟩
  have held : archive segment.id = content := invariant.held _ text
  rw [cutText, held, ← length, List.take_length]
  exact ⟨text, rfl⟩

/-- The position of a new snapshot. -/
theorem LogInvariant.snapshot (invariant : LogInvariant archive log) :
    Cursor.Sound archive log.issued ⟨log.world.store.segments, 0, 0, false⟩ ∧
      Cursor.remaining archive ⟨log.world.store.segments, 0, 0, false⟩ =
        log.world.texts.flatMap Prod.snd := by
  have texts {segment : Segment} (member : segment ∈ log.world.store.segments) :=
    invariant.cutText_eq member
  constructor
  · have whole : ∀ segment ∈ log.world.store.segments, WholeText (cutText archive segment) := by
      intro segment member
      exact invariant.whole _ (texts member).1
    refine ⟨invariant.known, ?_, whole, Nat.zero_le _, fun _ _ => Nat.zero_le _, ?_, ?_⟩
    · intro segment member
      rw [(texts member).2]
    · intro segment found
      exact (whole segment (List.mem_of_getElem? found)).isUtf8
    · intro segment _
      exact iff_of_false Bool.false_ne_true fun torn => torn (.inl List.take_zero)
  · rw [Cursor.remaining_start, List.drop_zero, World.texts, List.flatMap_map]
    apply List.flatMap_congr
    intro segment member
    rcases mem_texts invariant.lengths member with ⟨content, found, length, text⟩
    have held : archive segment.id = content := invariant.held _ text
    rw [cutText, held, ← length, List.take_length, found]
    rfl

/-- Reading a segment that the store still has. -/
theorem LogInvariant.readSegment_eq (invariant : LogInvariant archive log) {segment : Segment}
    {offset : Nat} (member : segment.id ∈ log.world.store.segments.map Segment.id)
    (within : segment.length ≤ (archive segment.id).length) (inside : offset ≤ segment.length)
    (budget : Nat) :
    readSegment log.world segment offset (min budget (segment.length - offset)) =
      .ok (((cutText archive segment).drop offset).take budget) := by
  rcases List.mem_map.mp member with ⟨candidate, held, same⟩
  have some : (log.world.store.segments.find? fun candidate => candidate.id = segment.id).isSome :=
    List.find?_isSome.mpr ⟨candidate, held, decide_eq_true same⟩
  rcases Option.isSome_iff_exists.mp some with ⟨current, found⟩
  have passed := List.find?_some found
  have id : current.id = segment.id := of_decide_eq_true passed
  rcases mem_texts invariant.lengths (List.mem_of_find?_eq_some found) with
    ⟨content, readable, -, text⟩
  have archived : archive segment.id = content := by
    rw [← id]
    exact invariant.held _ text
  rw [archived] at within
  have enough : ¬ content.length < offset + min budget (segment.length - offset) := by omega
  simp only [readSegment, found, readable, if_neg enough]
  rw [cutText, archived, List.drop_take, List.take_take]

theorem readSegment_rotatedOut {world : World} {segment : Segment}
    (gone : segment.id ∉ world.store.segments.map Segment.id) (offset count : Nat) :
    readSegment world segment offset count = .error rotatedOut := by
  have none : (world.store.segments.find? fun candidate => candidate.id = segment.id) = none := by
    rw [List.find?_eq_none]
    intro candidate member same
    exact gone (List.mem_map.mpr ⟨candidate, member, of_decide_eq_true same⟩)
  simp only [readSegment, none]

end Segments

/-! ## Appends -/

section Appends

variable {archive later : Uuid → Bytes} {log : Log}

theorem Follows.grow {cursor after : Cursor} {limit budget : Nat} {issued : List Uuid}
    (follows : Follows archive cursor limit budget after) (sound : cursor.Sound archive issued)
    (grows : Cursor.Grows issued archive later) : Follows later cursor limit budget after := by
  rcases follows with ⟨segment, chunk, completed, found, cut, rfl⟩
  rcases sound.advanceEmptySegments with ⟨advanced, -, -, -⟩
  refine ⟨segment, chunk, completed, found, ?_, rfl⟩
  rw [advanced.cutText_eq grows (Cursor.mem_of_segment found)]
  exact cut

/-- The cursors of a log whose segments grow. -/
theorem LogInvariant.grow (invariant : LogInvariant archive log) {world : World} {issued : List Uuid}
    (grows : Cursor.Grows log.issued archive later) (more : log.issued ⊆ issued)
    (named : Named world) (lengths : LengthInvariant world)
    (held : ∀ text ∈ world.texts, later text.1 = text.2)
    (whole : ∀ text ∈ world.texts, WholeText text.2)
    (known : ∀ segment ∈ world.store.segments, segment.id ∈ issued) :
    LogInvariant later { log with world := world, issued := issued } := by
  refine ⟨named, lengths, held, whole, known, invariant.ordered.more more, ?_, ?_⟩
  · intro id cursor found
    rcases invariant.sound id cursor found with ⟨sound, left⟩
    refine ⟨sound.grow grows more, ?_⟩
    rw [sound.remaining_eq grows]
    exact left
  · intro source limit budget id cursor after successor found foundAfter
    exact (invariant.follows source limit budget id cursor after successor found foundAfter).grow
      (invariant.sound source cursor found).1 grows

theorem ids_texts (world : World) :
    world.texts.map Prod.fst = world.store.segments.map Segment.id := by
  rw [World.texts, List.map_map]
  rfl

/-- A line is appended. -/
theorem LogInvariant.append (invariant : LogInvariant archive log) {text : String} {id : Uuid}
    {time : UInt64} {world : World} (fresh : id ∉ log.issued)
    (ran : Audit.append (lineOf text) id time none log.world = (.returned (), world)) :
    ∃ later, LogInvariant later { log with world := world, issued := id :: log.issued } ∧
      Cursor.Grows log.issued archive later := by
  have unknown : id ∉ log.world.store.segments.map Segment.id := by
    intro member
    rcases List.mem_map.mp member with ⟨segment, held, rfl⟩
    exact fresh (invariant.known segment held)
  have stepped : attemptNext log.world ⟨lineOf text, id, time, none⟩ = some (.returned (), world) := by
    simp only [attemptNext, if_neg unknown]
    exact congrArg some ran
  rcases atomic_iff (keeps_shelf invariant.named invariant.lengths) stepped with ⟨atomic, named⟩
  have promised := atomic.mpr (by intro _ _ faulty; cases faulty)
  rcases promised.adds rfl with ⟨kept, owner, front, texts, origin⟩
  have distinct := named.distinct
  rw [← ids_texts, texts, List.map_append] at distinct
  have other {segment : Uuid × Bytes} (member : segment ∈ kept) : segment.1 ≠ owner :=
    (List.nodup_append.mp distinct).2.2 _ (List.mem_map_of_mem member) _ (by simp)
  have old {segment : Uuid × Bytes} (member : segment ∈ kept) : segment ∈ log.world.texts := by
    rcases origin with same | ⟨-, -, behind⟩
    · rw [← same]
      exact List.mem_append_left _ member
    · exact behind.subset member
  have isUtf8 : IsUtf8 front := by
    rcases origin with same | ⟨-, rfl, -⟩
    · have member : (owner, front) ∈ log.world.texts := by
        rw [← same]
        simp
      exact (invariant.whole _ member).isUtf8
    · exact isUtf8_headerLine _ _
  have line : IsUtf8 (lineOf text) := (isUtf8_utf8 text).append (isUtf8_byte (by decide))
  have grows : Cursor.Grows log.issued archive
      (Function.update archive owner (front ++ lineOf text)) := by
    intro known member
    by_cases own : known = owner
    · subst own
      rw [Function.update_self]
      rcases origin with same | ⟨new, -, -⟩
      · have held : archive known = front := invariant.held (known, front) (by simp [← same])
        rw [held]
        exact List.prefix_append _ _
      · rw [new] at member
        exact absurd member fresh
    · exact (Function.update_of_ne own _ _).symm ▸ List.prefix_rfl
  refine ⟨_, invariant.grow grows (List.subset_cons_self _ _) named promised.lengths ?_ ?_ ?_, grows⟩
  · rw [texts]
    intro segment member
    rcases List.mem_append.mp member with before | last
    · rw [Function.update_of_ne (other before)]
      exact invariant.held segment (old before)
    · cases List.mem_singleton.mp last
      exact Function.update_self _ _ _
  · rw [texts]
    intro segment member
    rcases List.mem_append.mp member with before | last
    · exact invariant.whole segment (old before)
    · cases List.mem_singleton.mp last
      exact ⟨isUtf8.append line, .inr ⟨front ++ utf8 text, (List.append_assoc _ _ _).symm⟩⟩
  · intro segment member
    have inTexts : segment.id ∈ world.texts.map Prod.fst := by
      rw [ids_texts]
      exact List.mem_map_of_mem member
    rw [texts] at inTexts
    rcases List.mem_map.mp inTexts with ⟨held, among, same⟩
    rw [← same]
    rcases List.mem_append.mp among with before | last
    · rcases List.mem_map.mp (old before) with ⟨segment, heldSegment, rfl⟩
      exact List.mem_cons_of_mem _ (invariant.known segment heldSegment)
    · cases List.mem_singleton.mp last
      rcases origin with whole | ⟨rfl, -, -⟩
      · have member : (owner, front) ∈ log.world.texts := by simp [← whole]
        rcases List.mem_map.mp member with ⟨segment, heldSegment, equal⟩
        cases equal
        exact List.mem_cons_of_mem _ (invariant.known segment heldSegment)
      · exact List.mem_cons_self

end Appends

/-! ## Calls -/

section Calls

variable {archive : Uuid → Bytes} {log : Log} {position : Cursor} {limit budget : Nat}

/-- A snapshot that is read to its end. -/
theorem readAt_past {source : Option Uuid} {newId : Uuid}
    (past : position.advanceEmptySegments.segment = none) :
    log.readAt source position limit budget newId = (.ok .empty, log) := by
  simp only [Log.readAt, past]

/-- The next segment was rotated out. -/
theorem readAt_rotatedOut {source : Option Uuid} {newId : Uuid} {segment : Segment}
    (found : position.advanceEmptySegments.segment = some segment)
    (gone : segment.id ∉ log.world.store.segments.map Segment.id) :
    log.readAt source position limit budget newId = (.error rotatedOut, log) := by
  simp only [Log.readAt, found, readSegment_rotatedOut gone]
  rfl

/-- The store still has the next segment. -/
theorem LogInvariant.readAt_eq (invariant : LogInvariant archive log)
    (sound : position.Sound archive log.issued) (large : 4 ≤ budget) (limit : Nat) {segment : Segment}
    (found : position.advanceEmptySegments.segment = some segment)
    (member : segment.id ∈ log.world.store.segments.map Segment.id) (source : Option Uuid)
    (newId : Uuid) :
    ∃ chunk rest, chunk ≠ [] ∧ IsUtf8 chunk ∧ IsUtf8 rest ∧
      (cutText archive segment).drop position.advanceEmptySegments.offset = chunk ++ rest ∧
      cutChunk limit (((cutText archive segment).drop position.advanceEmptySegments.offset).take
        budget) = .ok (chunk, chunk.count newline) ∧
      log.readAt source position limit budget newId =
        (.ok (.chunk (Log.chunkOf position.advanceEmptySegments segment chunk
            (chunk.count newline) (position.advanceEmptySegments.pass chunk).advanceEmptySegments
            (log.cursors.follow source limit budget
              (position.advanceEmptySegments.pass chunk).advanceEmptySegments newId).1)),
          { log with
            cursors := (log.cursors.follow source limit budget
              (position.advanceEmptySegments.pass chunk).advanceEmptySegments newId).2 }) := by
  rcases sound.advanceEmptySegments with ⟨advanced, -, -, inside⟩
  have inSegments := Cursor.mem_of_segment found
  have some := advanced.remaining_ne_nil found (inside segment found)
  rcases cutChunk_spec (advanced.boundary segment found) some large limit with
    ⟨chunk, rest, cut, split, nonempty, chunkUtf8, restUtf8⟩
  refine ⟨chunk, rest, nonempty, chunkUtf8, restUtf8, split, cut, ?_⟩
  have bytes := invariant.readSegment_eq member (advanced.within segment inSegments)
    (Nat.le_of_lt (inside segment found)) budget
  have read : (readSegment log.world segment position.advanceEmptySegments.offset
      (min budget (segment.length - position.advanceEmptySegments.offset)) >>= cutChunk limit) =
        .ok (chunk, chunk.count newline) := by
    rw [bytes]
    exact cut
  simp only [Log.readAt, found, read, fromUtf8_of_isUtf8 chunkUtf8]

theorem optionalBounded_eq_ok {value : Option Json} {default minimum maximum number : Nat}
    {message : String} (bounded : minimum ≤ default)
    (result : optionalBounded value default minimum maximum message = .ok number) :
    minimum ≤ number := by
  simp only [optionalBounded] at result
  split at result
  · cases result
    exact bounded
  · split at result
    · rename_i found
      cases result
      exact (of_decide_eq_true (Option.filter_eq_some_iff.mp found).2).1
    · contradiction

theorem readBounds_eq_ok {arguments : Json} (bounds : readBounds arguments = .ok (limit, budget)) :
    1024 ≤ budget := by
  simp only [readBounds] at bounds
  split at bounds
  · contradiction
  · split at bounds
    · contradiction
    · rename_i object _ _
      cases records : optionalBounded (object.lookup "limit") 50 1 100
          "invalid log record limit" with
      | error failure =>
          rw [records] at bounds
          contradiction
      | ok most =>
          cases bytes : optionalBounded (object.lookup "max_bytes") 65536 1024 262144
              "invalid log byte limit" with
          | error failure =>
              rw [records, bytes] at bounds
              contradiction
          | ok number =>
              rw [records, bytes] at bounds
              cases bounds
              exact optionalBounded_eq_ok (by decide) bytes

/-- Where a call starts. -/
theorem position_eq_ok {parseUuid : String → Option Uuid} {cursor : Option Json}
    {source : Option Uuid} (result : log.position parseUuid cursor = .ok (source, position)) :
    (cursor = none ∧ source = none ∧ position = ⟨log.world.store.segments, 0, 0, false⟩) ∨
      ∃ value id, cursor = some value ∧
        (value.asStr.filter fun text => (utf8 text).length ≤ 512).bind parseUuid = some id ∧
        source = some id ∧ log.cursors.cursors id = some position := by
  simp only [Log.position] at result
  split at result
  · cases result
    exact .inl ⟨rfl, rfl, rfl⟩
  · split at result
    · contradiction
    · rename_i value _ id parsed
      split at result
      · contradiction
      · rename_i found
        cases result
        exact .inr ⟨value, id, rfl, parsed, rfl, found⟩

/-- The reply gives a new cursor, that of an earlier call or none. -/
theorem follow_cases (cursors : Cursors) (source : Option Uuid) (limit budget : Nat) (after : Cursor)
    (newId : Uuid) {issued : List Uuid} (ordered : cursors.Ordered issued) :
    (after.index = after.segments.length ∧
        cursors.follow source limit budget after newId = (none, cursors)) ∨
      (after.index ≠ after.segments.length ∧ ∃ origin existing, source = some origin ∧
        cursors.successors origin limit budget = some existing ∧
        cursors.follow source limit budget after newId = (some existing, cursors)) ∨
      (after.index ≠ after.segments.length ∧
        (∀ origin, source = some origin → cursors.successors origin limit budget = none) ∧
        cursors.follow source limit budget after newId =
          (some newId, cursors.insert source limit budget newId after)) := by
  simp only [Cursors.follow, ordered.existing_eq]
  split
  · rename_i finished
    exact .inl ⟨finished, rfl⟩
  · rename_i unfinished
    refine .inr ?_
    cases found : source.bind fun origin => cursors.successors origin limit budget with
    | some existing =>
        rcases Option.bind_eq_some_iff.mp found with ⟨origin, sourceEq, held⟩
        exact .inl ⟨unfinished, origin, existing, sourceEq, held, rfl⟩
    | none =>
        refine .inr ⟨unfinished, ?_, rfl⟩
        rintro origin rfl
        exact found

/-- A call only adds a cursor. -/
theorem LogInvariant.insert (invariant : LogInvariant archive log) {source : Option Uuid}
    {newId : Uuid} {after : Cursor} (fresh : newId ∉ log.issued)
    (live : ∀ origin, source = some origin → log.cursors.cursors origin = some position)
    (absent : ∀ origin, source = some origin →
      log.cursors.successors origin limit budget = none)
    (follows : Follows archive position limit budget after) (sound : after.Sound archive log.issued)
    (left : after.remaining archive ≠ []) :
    LogInvariant archive
        { log with
          cursors := log.cursors.insert source limit budget newId after
          issued := newId :: log.issued } ∧
      Cursors.Retires log.issued log.cursors (log.cursors.insert source limit budget newId after) ∧
      (log.cursors.insert source limit budget newId after).cursors newId = some after := by
  have known {id : Uuid} (member : id ∈ log.cursors.cursorOrder) : id ≠ newId := by
    rintro rfl
    exact fresh (invariant.ordered.known id member)
  have inOrder : ∀ origin, source = some origin → origin ∈ log.cursors.cursorOrder := by
    intro origin from_
    rw [← invariant.ordered.live, live origin from_]
    rfl
  rcases @Cursors.Ordered.insert log.issued log.cursors source limit budget newId after
    invariant.ordered fresh inOrder with ⟨ordered, thins, held⟩
  refine ⟨?_, (Cursors.retires_add fresh absent).thins thins, held⟩
  have more : log.issued ⊆ newId :: log.issued := List.subset_cons_self _ _
  have same : Cursor.Grows log.issued archive archive := fun id _ => List.prefix_refl _
  have old {id : Uuid} {cursor : Cursor} (other : id ≠ newId)
      (found : (log.cursors.insert source limit budget newId after).cursors id = some cursor) :
      log.cursors.cursors id = some cursor := by
    rcases thins.kept id with gone | kept
    · rw [found] at gone
      contradiction
    · rw [kept] at found
      exact (Function.update_of_ne other _ _).symm.trans found
  refine ⟨invariant.named, invariant.lengths, invariant.held, invariant.whole,
    fun segment member => more (invariant.known segment member), ordered, ?_, ?_⟩
  · intro id cursor found
    by_cases own : id = newId
    · subst own
      cases held.symm.trans found
      exact ⟨sound.grow same more, left⟩
    · rcases invariant.sound id cursor (old own found) with ⟨soundOld, leftOld⟩
      exact ⟨soundOld.grow same more, leftOld⟩
  · intro origin records bytes id cursor next successor found foundNext
    have added := thins.fewer origin records bytes id successor
    simp only [Cursors.add] at added
    split at added
    · rename_i here
      rcases here with ⟨from_, rfl, rfl⟩
      cases added
      cases held.symm.trans foundNext
      cases (live origin from_).symm.trans (old (known (inOrder origin from_)) found)
      exact follows
    · have members := (invariant.ordered.later origin records bytes id added).subset
      exact invariant.follows origin records bytes id cursor next added
        (old (known (members List.mem_cons_self)) found) (old (known (members (by simp))) foundNext)

/-- The cursor after a chunk stands where the rest of the snapshot begins. -/
theorem after_spec (sound : position.Sound archive log.issued) {segment : Segment}
    {chunk rest : Bytes} (found : position.advanceEmptySegments.segment = some segment)
    (split : (cutText archive segment).drop position.advanceEmptySegments.offset = chunk ++ rest)
    (some : chunk ≠ []) (isUtf8 : IsUtf8 rest) :
    let after := (position.advanceEmptySegments.pass chunk).advanceEmptySegments
    after.Sound archive log.issued ∧ after.segments = position.segments ∧
      position.remaining archive = chunk ++ after.remaining archive ∧
      (after.remaining archive = [] ↔ after.index = after.segments.length) := by
  rcases sound.advanceEmptySegments with ⟨advanced, segments, same, -⟩
  rcases advanced.pass found split some isUtf8 with ⟨passed, left⟩
  rcases passed.advanceEmptySegments with ⟨after, segmentsAfter, sameAfter, inside⟩
  refine ⟨after, segmentsAfter.trans segments, ?_, after.remaining_eq_nil_iff inside⟩
  rw [← same, left, sameAfter]

/-- Nothing but the identifiers changes. -/
theorem LogInvariant.issue (invariant : LogInvariant archive log) (id : Uuid) :
    LogInvariant archive { log with issued := id :: log.issued } :=
  invariant.grow (fun _ _ => List.prefix_refl _) (List.subset_cons_self _ _) invariant.named
    invariant.lengths invariant.held invariant.whole
    fun segment member => List.mem_cons_of_mem id (invariant.known segment member)

theorem LogInvariant.readAt (invariant : LogInvariant archive log) {source : Option Uuid}
    {newId : Uuid} (fresh : newId ∉ log.issued) (sound : position.Sound archive log.issued)
    (live : ∀ origin, source = some origin → log.cursors.cursors origin = some position)
    (large : 4 ≤ budget) :
    let called := log.readAt source position limit budget newId
    LogInvariant archive { called.2 with issued := newId :: log.issued } ∧
      Cursors.Retires log.issued log.cursors called.2.cursors := by
  cases found : position.advanceEmptySegments.segment with
  | none =>
      rw [readAt_past found]
      exact ⟨invariant.issue newId, .refl⟩
  | some segment =>
      by_cases member : segment.id ∈ log.world.store.segments.map Segment.id
      · rcases invariant.readAt_eq sound large limit found member source newId with
          ⟨chunk, rest, some, -, isUtf8, split, cut, read⟩
        rcases after_spec sound found split some isUtf8 with ⟨after, -, -, finished⟩
        rw [read]
        rcases follow_cases log.cursors source limit budget
            (position.advanceEmptySegments.pass chunk).advanceEmptySegments newId
            invariant.ordered with
          ⟨-, followed⟩ | ⟨-, _, _, -, -, followed⟩ | ⟨unfinished, absent, followed⟩
        · simp only [followed]
          exact ⟨invariant.issue newId, .refl⟩
        · simp only [followed]
          exact ⟨invariant.issue newId, .refl⟩
        · simp only [followed]
          rcases invariant.insert fresh live absent ⟨segment, chunk, _, found, cut, rfl⟩ after
            (fun nothing => unfinished (finished.mp nothing)) with ⟨inserted, retires, -⟩
          exact ⟨inserted, retires⟩
      · rw [readAt_rotatedOut found member]
        exact ⟨invariant.issue newId, .refl⟩

/-- What an event keeps. -/
structure Continues (archive later : Uuid → Bytes) (log after : Log) : Prop where
  invariant : LogInvariant later after
  grows : Cursor.Grows log.issued archive later
  retires : Cursors.Retires log.issued log.cursors after.cursors
  issued : log.issued ⊆ after.issued

theorem LogInvariant.position_sound (invariant : LogInvariant archive log)
    {parseUuid : String → Option Uuid} {cursor : Option Json} {source : Option Uuid}
    (result : log.position parseUuid cursor = .ok (source, position)) :
    position.Sound archive log.issued ∧
      ∀ origin, source = some origin → log.cursors.cursors origin = some position := by
  rcases position_eq_ok result with ⟨-, rfl, rfl⟩ | ⟨_, id, -, -, rfl, found⟩
  · exact ⟨invariant.snapshot.1, nofun⟩
  · refine ⟨(invariant.sound id position found).1, ?_⟩
    rintro origin ⟨⟩
    exact found

theorem LogInvariant.next (invariant : LogInvariant archive log) {parseUuid : String → Option Uuid}
    {event : LogEvent} {report : LogReport} {after : Log}
    (stepped : logNext parseUuid log event = some (report, after)) :
    ∃ later, Continues archive later log after := by
  cases event with
  | append text id time =>
      simp only [logNext] at stepped
      split at stepped
      · contradiction
      rename_i fresh
      split at stepped
      · rename_i world ran
        cases stepped
        rcases invariant.append fresh ran with ⟨later, kept, grows⟩
        exact ⟨later, kept, grows, .refl, List.subset_cons_self _ _⟩
      · contradiction
  | read arguments newId =>
      simp only [logNext] at stepped
      split at stepped
      · contradiction
      rename_i fresh
      have kept : LogInvariant archive
            { (log.read parseUuid arguments newId).2 with issued := newId :: log.issued } ∧
          Cursors.Retires log.issued log.cursors (log.read parseUuid arguments newId).2.cursors := by
        simp only [Log.read]
        split
        · exact ⟨invariant.issue newId, .refl⟩
        · rename_i limit budget bounds
          split
          · exact ⟨invariant.issue newId, .refl⟩
          · rename_i source position started
            rcases invariant.position_sound started with ⟨sound, live⟩
            have large : 4 ≤ budget := Nat.le_trans (by decide) (readBounds_eq_ok bounds)
            exact invariant.readAt fresh sound live large
      cases stepped
      exact ⟨archive, kept.1, fun _ _ => List.prefix_refl _, kept.2, List.subset_cons_self _ _⟩

/-- What a run keeps. -/
theorem LogInvariant.run (invariant : LogInvariant archive log) {parseUuid : String → Option Uuid}
    {events : List LogEvent} {reports : List LogReport} {final : Log}
    (run : execute (logNext parseUuid) log events = some (reports, final)) :
    ∃ later, Continues archive later log final := by
  induction events generalizing archive log reports with
  | nil =>
      cases run
      exact ⟨archive, invariant, fun _ _ => List.prefix_refl _, .refl, List.Subset.refl _⟩
  | cons event rest ih =>
      rcases execute_cons_eq_some_iff.mp run with ⟨report, middle, later, stepped, executed, -⟩
      rcases invariant.next stepped with ⟨grown, first⟩
      rcases ih first.invariant executed with ⟨last, second⟩
      refine ⟨last, second.invariant, ?_, ?_, List.Subset.trans first.issued second.issued⟩
      · intro id member
        exact (first.grows id member).trans (second.grows id (first.issued member))
      · refine first.retires.trans second.retires first.issued ?_
        intro source limit budget id found
        have members := (invariant.ordered.later source limit budget id found).subset
        exact invariant.ordered.known source (members List.mem_cons_self)

end Calls

end X64dbgMcp.Audit
