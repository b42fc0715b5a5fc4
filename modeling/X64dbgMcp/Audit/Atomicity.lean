import X64dbgMcp.Audit.Appending
import X64dbgMcp.Audit.Lines
import X64dbgMcp.Transition.Execution

/-!
# Appends under failing steps

Any number of appends in a row, each with at most one failing step.  What an append
promises is compared, at every append of the run, with the one step whose failure
breaks it.
-/

namespace X64dbgMcp.Audit

open Files Text Transition
open Ipc (Uuid)

namespace World

/-- The segments with their contents. -/
def texts (world : World) : List (Uuid × Bytes) :=
  world.store.segments.map fun segment =>
    (segment.id, (world.disk.content segment.path).getD [])

end World

/-- Every recorded length is that of its file, and the active file is open at its end. -/
structure LengthInvariant (world : World) : Prop where
  lengths : ∀ segment ∈ world.store.segments,
    (world.disk.content segment.path).map List.length = some segment.length
  position : world.store.file = ⟨world.store.active.path, world.store.active.length⟩

/-- Each segment has the file of its identifier; the active one may wait for a
successor under its later name. -/
structure Named (world : World) : Prop where
  rotated : ∀ segment ∈ world.store.rotated, segment.path = .backup segment.id
  active : world.store.active.path = .active ∨
    (world.store.active.path = .backup world.store.active.id ∧ world.disk.files .active = none)
  distinct : (world.store.segments.map Segment.id).Nodup

/-! ## The shelf of a named world -/

/-- The contents of the segments, as the store knows them. -/
def World.shelf (world : World) : Shelf where
  rotated := world.store.rotated.map fun segment =>
    (segment.id, (world.disk.content segment.path).getD [])
  active := (world.store.active.id, (world.disk.content world.store.active.path).getD [])
  renamed := world.store.active.path != .active

/-- A segment that a world keeps is a text of the shelf. -/
theorem Matches.texts {world : World} {shelf : Shelf} (same : Matches world shelf) :
    world.texts = shelf.texts := by
  have rotated : (shelf.rotated.map backupOf).map (fun segment =>
      (segment.id, (world.disk.content segment.path).getD [])) = shelf.rotated := by
    rw [List.map_map]
    refine (List.map_congr_left ?_).trans (List.map_id _)
    intro text member
    simp [backupOf, same.backups text member]
  simp only [World.texts, Store.segments, Shelf.texts, List.map_append, List.map_cons,
    List.map_nil, same.rotated, rotated, same.id, same.path, same.front, Option.getD_some]

theorem Matches.named {world : World} {shelf : Shelf} (same : Matches world shelf) :
    Named world := by
  refine ⟨?_, ?_, ?_⟩
  · rw [same.rotated]
    intro segment member
    rcases List.mem_map.mp member with ⟨text, -, rfl⟩
    rfl
  · rw [same.path, same.id, Shelf.path]
    split
    · rename_i renamed
      exact .inr ⟨rfl, same.free renamed⟩
    · exact .inl rfl
  · rw [same.ids]
    exact same.distinct

theorem content_of_length {world : World} {segment : Segment}
    (length : (world.disk.content segment.path).map List.length = some segment.length) :
    world.disk.content segment.path = some ((world.disk.content segment.path).getD []) ∧
      segment.length = ((world.disk.content segment.path).getD []).length := by
  rcases Option.map_eq_some_iff.mp length with ⟨content, found, lengthEq⟩
  simp [found, lengthEq]

theorem keeps_shelf {world : World} (named : Named world) (lengths : LengthInvariant world) :
    Keeps False world world.shelf world.shelf.active.2.length world.store.backups := by
  have active := content_of_length (lengths.lengths world.store.active (by simp [Store.segments]))
  have path : world.store.active.path = world.shelf.path := by
    simp only [Shelf.path, World.shelf]
    rcases named.active with front | ⟨behind, -⟩
    · simp [front]
    · simp [behind]
  refine ⟨⟨?_, rfl, path, ?_, ?_, ?_, ?_, ?_⟩, False.elim, active.2, rfl⟩
  · simp only [World.shelf, List.map_map]
    refine (List.map_id _).symm.trans (List.map_congr_left ?_)
    intro segment member
    have length :=
      (content_of_length (lengths.lengths segment (by simp [Store.segments, member]))).2
    have own := named.rotated segment member
    simp only [id_eq, Function.comp_apply, backupOf, ← length, ← own]
  · rw [lengths.position, ← path]
    exact congrArg _ active.2
  · intro text member
    rcases List.mem_map.mp member with ⟨segment, held, rfl⟩
    have found :=
      (content_of_length (lengths.lengths segment (by simp [Store.segments, held]))).1
    rw [← named.rotated segment held]
    exact found
  · rw [← path]
    exact active.1
  · intro renamed
    rcases named.active with front | ⟨-, free⟩
    · simp [World.shelf, front] at renamed
    · exact free
  · have distinct := named.distinct
    simpa [Shelf.ids, World.shelf, Shelf.texts, Store.segments, Function.comp_def] using distinct

/-- The length invariant fails only at the active segment. -/
theorem lengthInvariant_iff {world : World} {shelf : Shelf} {recorded backups : Nat}
    (keeps : Keeps False world shelf recorded backups) :
    LengthInvariant world ↔ recorded = shelf.active.2.length := by
  constructor
  · intro lengths
    have active := lengths.lengths world.store.active (by simp [Store.segments])
    rw [keeps.same.path, keeps.same.front, keeps.active] at active
    exact (Option.some.inj active).symm
  · intro recordedEq
    refine ⟨?_, ?_⟩
    · intro segment member
      rcases List.mem_append.mp member with rotated | active
      · rw [keeps.same.rotated] at rotated
        rcases List.mem_map.mp rotated with ⟨text, held, rfl⟩
        simp [backupOf, keeps.same.backups text held]
      · cases List.mem_singleton.mp active
        rw [keeps.same.path, keeps.same.front, keeps.active, recordedEq]
        rfl
    · rw [keeps.same.file, keeps.same.path, keeps.active, recordedEq]

/-! ## What an append promises -/

/-- An append, with the step of it that fails after some bytes. -/
structure Attempt where
  line : Bytes
  id : Uuid
  time : UInt64
  fault : Option (Site × Nat)

/-- The fault of an attempt as a failed call, not as a crash. -/
def Attempt.failing (attempt : Attempt) : Option (Fault Site) :=
  attempt.fault.map fun fault => ⟨fault.1, .fails, fault.2⟩

/-- An append, unless its identifier is one of the store already. -/
def attemptNext : Step World Attempt (Ended Unit) := fun world attempt =>
  if attempt.id ∈ world.store.segments.map Segment.id then none
  else some (append attempt.line attempt.id attempt.time attempt.failing world)

/-- The append comes to the step. -/
def Due (store : Store) (line : Bytes) : Site → Prop
  | .rotationSync | .rename | .createNew | .headerWrite | .headerSync => store.rotates line = true
  | .remove index => store.rotates line = true ∧ index < store.rotated.length + 1 - store.backups
  | .position | .lineWrite | .lineSync => True
  | .openActive | .openTruncate | .restoreLength | .restorePosition => False

/-- The line becomes the end of the active segment, or of a new one. -/
def Adds (world : World) (attempt : Attempt) (after : World) : Prop :=
  ∃ kept id text, after.texts = kept ++ [(id, text ++ attempt.line)] ∧
    (kept ++ [(id, text)] = world.texts ∨
      id = attempt.id ∧ text = headerLine attempt.id attempt.time ∧ kept <:+ world.texts)

/-- What the append promises. -/
structure Atomic (world : World) (attempt : Attempt) (ended : Ended Unit) (after : World) :
    Prop where
  fails : ∀ site left, attempt.fault = some (site, left) →
    Due world.store attempt.line site → ended = .failed
  clean : ended = .failed → ∀ text ∈ after.texts,
    text ∈ world.texts ∨ text.1 = attempt.id ∧ text.2 <+: headerLine attempt.id attempt.time
  lengths : LengthInvariant after
  adds : ended = .returned () → Adds world attempt after
  complete : (∀ text ∈ world.texts, Complete text.2) → IsLine attempt.line →
    ∀ text ∈ after.texts, Complete text.2

/-- No header is cut short after its first byte, nor left unsynced. -/
def Harmless (world : World) (attempt : Attempt) : Prop :=
  ∀ site left, attempt.fault = some (site, left) → Due world.store attempt.line site →
    site ≠ .headerSync ∧ (site = .headerWrite → left = 0)

section Outcomes

variable {store : Store} {shelf after : Shelf} {line header : Bytes} {id : Uuid}
  {fault : Option (Fault Site)} {ended : Ended Unit} {length : Nat}

/-- The texts before the line: those of the shelf, or the newer of them and a header. -/
theorem roomFor_texts (shelf : Shelf) (store : Store) (line : Bytes) (id : Uuid) (header : Bytes) :
    (shelf.roomFor store line id header).texts = shelf.texts ∨
      ∃ count, (shelf.roomFor store line id header).texts =
        shelf.texts.drop count ++ [(id, header)] := by
  simp only [Shelf.roomFor]
  split
  · exact .inr ⟨_, rfl⟩
  · exact .inl rfl

theorem Rotated.spared {backups : Nat}
    (rotated : Rotated shelf id header backups fault (.returned ()) after length) :
    Spared fault .rotationSync ∧ Spared fault .rename ∧ Spared fault .createNew ∧
      Spared fault .headerWrite ∧ Spared fault .headerSync ∧
      ∀ index, index < shelf.excess backups → Spared fault (.remove index) := by
  generalize endedEq : Ended.returned () = ended at rotated
  cases rotated with
  | rotated sync rename create write headerSync remove =>
      exact ⟨sync, rename, create, write, headerSync, remove⟩
  | unmoved cut => cases cut <;> contradiction
  | renamed cut => cases cut <;> contradiction
  | torn cut => cases cut <;> contradiction
  | unsynced cut => cases cut <;> contradiction
  | pruning cut => cases cut <;> contradiction

/-- Only a header can leave the recorded length behind. -/
theorem Appended.length_eq_iff
    (appended : Appended store shelf line id header fault ended after length)
    (fails : ∀ hit, fault = some hit → hit.cut = .fails) (some_byte : 0 < header.length) :
    length = after.active.2.length ↔
      ∀ hit, fault = some hit → store.rotates line = true →
        hit.site ≠ .headerSync ∧ (hit.site = .headerWrite → hit.left = 0) := by
  cases appended with
  | rotating due stopped rotated =>
      cases rotated with
      | unmoved cut left early =>
          refine iff_of_true rfl ?_
          rintro _ ⟨rfl⟩ -
          rcases early with rfl | rfl <;> exact ⟨nofun, nofun⟩
      | renamed =>
          refine iff_of_true rfl ?_
          rintro _ ⟨rfl⟩ -
          exact ⟨nofun, nofun⟩
      | torn cut left =>
          have shown : (header.take left).length = 0 ↔ left = 0 := by
            rw [List.length_take]
            omega
          constructor
          · rintro lengthEq _ ⟨rfl⟩ -
            exact ⟨nofun, fun _ => shown.mp lengthEq.symm⟩
          · intro harmless
            exact (shown.mpr ((harmless _ rfl due).2 rfl)).symm
      | unsynced cut left =>
          constructor
          · intro lengthEq
            exact absurd lengthEq.symm (Nat.ne_of_gt some_byte)
          · intro harmless
            exact absurd rfl (harmless _ rfl due).1
      | pruning =>
          refine iff_of_true rfl ?_
          rintro _ ⟨rfl⟩ -
          exact ⟨nofun, nofun⟩
      | rotated => exact absurd rfl stopped
  | placing =>
      refine iff_of_true rfl ?_
      rintro _ ⟨rfl⟩ -
      exact ⟨nofun, nofun⟩
  | restored left late =>
      refine iff_of_true rfl ?_
      rintro _ ⟨rfl⟩ -
      rcases late with rfl | rfl <;> exact ⟨nofun, nofun⟩
  | torn left => cases fails _ rfl
  | unsynced left => cases fails _ rfl
  | appended room =>
      refine iff_of_true rfl ?_
      rintro ⟨site, cut, left⟩ rfl due
      rcases (room due).spared with ⟨-, -, -, write, sync, -⟩
      constructor
      · rintro rfl
        exact sync cut left rfl
      · rintro rfl
        exact absurd rfl (write cut left)

/-- A step that fails makes the append fail. -/
theorem Appended.failed_of_due {site : Site} {left : Nat}
    (appended : Appended store shelf line id header (some ⟨site, .fails, left⟩) ended after length)
    (same : store.rotated.length = shelf.rotated.length) (due : Due store line site) :
    ended = .failed := by
  generalize faultEq : some (Fault.mk site Cut.fails left) = fault at appended
  cases appended with
  | rotating _ stopped rotated =>
      cases rotated with
      | rotated => exact absurd rfl stopped
      | _ => cases faultEq; rfl
  | placing => cases faultEq; rfl
  | restored => rfl
  | torn => cases faultEq
  | unsynced => cases faultEq
  | appended room position write sync =>
      subst faultEq
      exfalso
      cases site with
      | rotationSync => exact (room due).spared.1 _ _ rfl
      | rename => exact (room due).spared.2.1 _ _ rfl
      | createNew => exact (room due).spared.2.2.1 _ _ rfl
      | headerWrite => exact (room due).spared.2.2.2.1 _ _ rfl
      | headerSync => exact (room due).spared.2.2.2.2.1 _ _ rfl
      | remove index =>
          rcases due with ⟨due, more⟩
          rw [same] at more
          exact (room due).spared.2.2.2.2.2 index more _ _ rfl
      | position => exact position _ _ rfl
      | lineWrite => exact write _ _ rfl
      | lineSync => exact sync _ _ rfl
      | openActive => exact due
      | openTruncate => exact due
      | restoreLength => exact due
      | restorePosition => exact due

/-- A failed append leaves only old texts and the beginning of a header. -/
theorem Appended.texts_of_failed
    (appended : Appended store shelf line id header fault .failed after length)
    {text : Uuid × Bytes} (member : text ∈ after.texts) :
    text ∈ shelf.texts ∨ text.1 = id ∧ text.2 <+: header := by
  have started {count : Nat} {start : Bytes} (isPrefix : start <+: header)
      (held : text ∈ shelf.texts.drop count ++ [(id, start)]) :
      text ∈ shelf.texts ∨ text.1 = id ∧ text.2 <+: header := by
    rcases List.mem_append.mp held with old | new
    · exact .inl (List.mem_of_mem_drop old)
    · cases List.mem_singleton.mp new
      exact .inr ⟨rfl, isPrefix⟩
  have room (held : text ∈ (shelf.roomFor store line id header).texts) :
      text ∈ shelf.texts ∨ text.1 = id ∧ text.2 <+: header := by
    rcases roomFor_texts shelf store line id header with same | ⟨count, started_eq⟩
    · rw [same] at held
      exact .inl held
    · rw [started_eq] at held
      exact started (List.prefix_refl header) held
  generalize endedEq : Ended.failed = ended at appended
  cases appended with
  | rotating _ _ rotated =>
      cases rotated with
      | unmoved => exact .inl member
      | renamed => exact .inl member
      | torn cut left => exact @started 0 _ (List.take_prefix left header) member
      | unsynced => exact @started 0 _ (List.prefix_refl header) member
      | @pruning index => exact @started index _ (List.prefix_refl header) member
      | rotated => contradiction
  | placing => exact room member
  | restored => exact room member
  | torn => contradiction
  | unsynced => contradiction
  | appended => contradiction

/-- A successful append adds its line at the end. -/
theorem Appended.texts_of_returned
    (appended : Appended store shelf line id header fault (.returned ()) after length) :
    ∃ kept owner text, after.texts = kept ++ [(owner, text ++ line)] ∧
      (kept ++ [(owner, text)] = shelf.texts ∨
        owner = id ∧ text = header ∧ kept <:+ shelf.texts) := by
  generalize endedEq : Ended.returned () = ended at appended
  cases appended with
  | rotating _ stopped => exact absurd endedEq.symm stopped
  | placing cut => cases cut <;> contradiction
  | restored => contradiction
  | torn => contradiction
  | unsynced => contradiction
  | appended =>
      refine ⟨(shelf.roomFor store line id header).rotated, _, _, rfl, ?_⟩
      simp only [Shelf.roomFor]
      split
      · exact .inr ⟨rfl, rfl, List.drop_suffix _ _⟩
      · exact .inl rfl

/-- Texts of whole lines stay so where the recorded length is right. -/
theorem Appended.complete
    (appended : Appended store shelf line id header fault ended after length)
    (fails : ∀ hit, fault = some hit → hit.cut = .fails) (counted : length = after.active.2.length)
    (complete : ∀ text ∈ shelf.texts, Complete text.2) (headed : Complete header)
    (isLine : IsLine line) : ∀ text ∈ after.texts, Complete text.2 := by
  have started {count : Nat} {start : Bytes} (whole : Complete start) :
      ∀ text ∈ shelf.texts.drop count ++ [(id, start)], Complete text.2 := by
    intro text held
    rcases List.mem_append.mp held with old | new
    · exact complete text (List.mem_of_mem_drop old)
    · cases List.mem_singleton.mp new
      exact whole
  have room : ∀ text ∈ (shelf.roomFor store line id header).texts, Complete text.2 := by
    rcases roomFor_texts shelf store line id header with same | ⟨count, started_eq⟩
    · rw [same]
      exact complete
    · rw [started_eq]
      exact started headed
  cases appended with
  | rotating _ stopped rotated =>
      cases rotated with
      | unmoved => exact complete
      | renamed => exact complete
      | torn cut left => exact @started 0 _ (.inl (List.eq_nil_of_length_eq_zero counted.symm))
      | unsynced => exact @started 0 _ headed
      | @pruning index => exact @started index _ headed
      | rotated => exact absurd rfl stopped
  | placing => exact room
  | restored => exact room
  | torn left => cases fails _ rfl
  | unsynced left => cases fails _ rfl
  | appended =>
      intro text held
      rcases List.mem_append.mp held with old | new
      · exact room text (List.mem_append_left _ old)
      · cases List.mem_singleton.mp new
        exact isLine.complete _

end Outcomes

theorem atomic_iff {world after : World} {attempt : Attempt} {ended : Ended Unit}
    {shelf : Shelf} (keeps : Keeps False world shelf shelf.active.2.length world.store.backups)
    (stepped : attemptNext world attempt = some (ended, after)) :
    (Atomic world attempt ended after ↔ Harmless world attempt) ∧ Named after := by
  simp only [attemptNext] at stepped
  split at stepped
  · contradiction
  rename_i fresh
  rw [keeps.same.ids] at fresh
  rcases append_spec keeps fresh (Option.some.inj stepped) with ⟨reached, length, appended, kept⟩
  refine ⟨?_, kept.same.named⟩
  have fails : ∀ hit, attempt.failing = some hit → hit.cut = .fails := by
    intro hit faultEq
    rcases Option.map_eq_some_iff.mp faultEq with ⟨fault, -, rfl⟩
    rfl
  have harmless_iff : length = reached.active.2.length ↔ Harmless world attempt := by
    rw [appended.length_eq_iff fails (length_headerLine_pos _ _)]
    constructor
    · intro spared site left faultEq due
      have hit : attempt.failing = some ⟨site, .fails, left⟩ := by
        simp [Attempt.failing, faultEq]
      constructor
      · rintro rfl
        exact (spared _ hit due).1 rfl
      · rintro rfl
        exact (spared _ hit due).2 rfl
    · intro harmless hit faultEq due
      rcases Option.map_eq_some_iff.mp faultEq with ⟨⟨site, left⟩, pair, rfl⟩
      constructor
      · rintro rfl
        exact (harmless _ _ pair due).1 rfl
      · rintro rfl
        exact (harmless _ _ pair due).2 rfl
  constructor
  · intro atomic
    exact harmless_iff.mp ((lengthInvariant_iff kept).mp atomic.lengths)
  · intro harmless
    have counted := harmless_iff.mpr harmless
    refine ⟨?_, ?_, (lengthInvariant_iff kept).mpr counted, ?_, ?_⟩
    · intro site left faultEq due
      have hit : attempt.failing = some ⟨site, .fails, left⟩ := by
        simp [Attempt.failing, faultEq]
      rw [hit] at appended
      exact appended.failed_of_due keeps.same.length_rotated due
    · rintro rfl text member
      rw [kept.same.texts] at member
      rw [keeps.same.texts]
      exact appended.texts_of_failed member
    · rintro rfl
      rw [Adds, kept.same.texts, keeps.same.texts]
      exact appended.texts_of_returned
    · rw [kept.same.texts, keeps.same.texts]
      intro complete isLine
      exact appended.complete fails counted complete (.inr ⟨_, rfl⟩) isLine

/-- In every run of appends, each with at most one failing step, from any store with
the length invariant: every append keeps its promise exactly when no header is cut
short after its first byte and none is left unsynced. -/
theorem append_atomic_iff {world final : World} {attempts : List Attempt}
    {endings : List (Ended Unit)} (named : Named world) (lengths : LengthInvariant world)
    (run : execute attemptNext world attempts = some (endings, final)) :
    Along attemptNext
        (fun world attempt => ∀ ended after, attemptNext world attempt = some (ended, after) →
          Atomic world attempt ended after) world attempts ↔
      Along attemptNext Harmless world attempts := by
  have start : Named world ∧ LengthInvariant world := ⟨named, lengths⟩
  have agree : ∀ ⦃world attempt ended after⦄, Named world ∧ LengthInvariant world →
      attemptNext world attempt = some (ended, after) →
      ((∀ ended after, attemptNext world attempt = some (ended, after) →
          Atomic world attempt ended after) ↔ Harmless world attempt) ∧
        ((∀ ended after, attemptNext world attempt = some (ended, after) →
          Atomic world attempt ended after) → Named after ∧ LengthInvariant after) := by
    rintro world attempt ended after ⟨named, lengths⟩ stepped
    rcases atomic_iff (keeps_shelf named lengths) stepped with ⟨same, namedAfter⟩
    constructor
    · constructor
      · intro promised
        exact same.mp (promised ended after stepped)
      · intro harmless ended' after' stepped'
        cases stepped.symm.trans stepped'
        exact same.mpr harmless
    · intro promised
      exact ⟨namedAfter, (promised ended after stepped).lengths⟩
  exact along_congr agree start run

/-! ## A full segment -/

/-- The active segment 1 is full; nothing else is there. -/
def fullWorld : World where
  store :=
    { file := ⟨.active, 300⟩
      rotated := []
      active := ⟨1, .active, 300⟩
      backups := 1
      rotateBytes := 300
      recoveredBytes := 0
      oversizeRecords := 0 }
  disk := Disk.empty.put .active (List.replicate 299 0x78 ++ [newline])

theorem named_fullWorld : Named fullWorld :=
  ⟨List.forall_mem_nil _, .inl rfl, by decide⟩

theorem lengthInvariant_fullWorld : LengthInvariant fullWorld := by
  refine ⟨?_, rfl⟩
  intro segment member
  cases List.mem_singleton.mp member
  decide +kernel

/-- A line while the next segment cannot be created, and the line again. -/
def retriedLine : List Attempt :=
  [⟨[0x79, newline], 2, 0, some (.createNew, 0)⟩, ⟨[0x79, newline], 2, 0, none⟩]

theorem append_atomic_iff_retried :
    Along attemptNext
      (fun world attempt => ∀ ended after, attemptNext world attempt = some (ended, after) →
        Atomic world attempt ended after) fullWorld retriedLine := by
  have ran : (execute attemptNext fullWorld retriedLine).isSome = true := by decide +kernel
  rcases Option.isSome_iff_exists.mp ran with ⟨⟨endings, final⟩, run⟩
  apply (append_atomic_iff named_fullWorld lengthInvariant_fullWorld run).mpr
  refine ⟨?_, fun _ _ _ => ⟨?_, fun _ _ _ => trivial⟩⟩
  · rintro _ _ ⟨rfl⟩ -
    exact ⟨nofun, nofun⟩
  · rintro _ _ ⟨⟩

/-- The first line of a new segment is cut short after one byte. -/
def tornHeader : Attempt :=
  ⟨[0x79, newline], 2, 0, some (.headerWrite, 1)⟩

/-- Of the failed append one byte of a header stays that no length accounts for, and
the next line is glued to it. -/
theorem append_keeps_torn_header :
    Named fullWorld ∧ LengthInvariant fullWorld ∧
      ∃ after, attemptNext fullWorld tornHeader = some (.failed, after) ∧
        ¬ Atomic fullWorld tornHeader .failed after ∧
        ∃ later, attemptNext after ⟨[0x7a, newline], 3, 0, none⟩ = some (.returned (), later) ∧
          later.texts.getLast? = some (2, [0x7b, 0x7a, newline]) := by
  refine ⟨named_fullWorld, lengthInvariant_fullWorld, ?_⟩
  have failed : ((attemptNext fullWorld tornHeader).any fun result =>
      result.1 = .failed ∧ result.2.store.active = ⟨2, .active, 0⟩ ∧
        (result.2.disk.content .active).map List.length = some 1 ∧
        (attemptNext result.2 ⟨[0x7a, newline], 3, 0, none⟩).any fun result =>
          result.1 = .returned () ∧
            result.2.texts.getLast? = some (2, [0x7b, 0x7a, newline])) = true := by
    decide +kernel
  rcases (Option.any_eq_true _ _).mp failed with ⟨⟨ended, after⟩, first, shown⟩
  simp only [decide_eq_true_eq] at shown
  rcases shown with ⟨rfl, active, length, second⟩
  rcases (Option.any_eq_true _ _).mp second with ⟨⟨ended, later⟩, placed, shown⟩
  simp only [decide_eq_true_eq] at shown
  rcases shown with ⟨rfl, glued⟩
  refine ⟨after, first, ?_, later, placed, glued⟩
  intro atomic
  have recorded := atomic.lengths.lengths after.store.active (by simp [Store.segments])
  rw [active] at recorded
  rw [length] at recorded
  contradiction

end X64dbgMcp.Audit
