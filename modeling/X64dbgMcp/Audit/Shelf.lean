import X64dbgMcp.Audit.Store

/-!
# The shelf behind a store

A shelf is what a store keeps, without lengths, paths and handles: the texts of its
segments in order.  `Matches` connects it to the world, and each step on the world
is one on the shelf.
-/

namespace X64dbgMcp.Audit

open Files Text
open Ipc (Uuid)

/-- `renamed` tells that the active segment already has the name of a backup. -/
structure Shelf where
  rotated : List (Uuid × Bytes)
  active : Uuid × Bytes
  renamed : Bool

namespace Shelf

/-- All segments, the oldest first. -/
def texts (shelf : Shelf) : List (Uuid × Bytes) :=
  shelf.rotated ++ [shelf.active]

/-- The identifiers of the segments, the oldest first. -/
def ids (shelf : Shelf) : List Uuid :=
  shelf.texts.map Prod.fst

/-- Where the active segment is. -/
def path (shelf : Shelf) : Path :=
  if shelf.renamed then .backup shelf.active.1 else .active

/-- The active segment ends with more bytes. -/
def push (shelf : Shelf) (data : Bytes) : Shelf :=
  { shelf with active := (shelf.active.1, shelf.active.2 ++ data) }

/-- The active file has been renamed to a backup. -/
def rename (shelf : Shelf) : Shelf :=
  { shelf with renamed := true }

/-- Start a segment. -/
def start (shelf : Shelf) (id : Uuid) (text : Bytes) : Shelf where
  rotated := shelf.texts
  active := (id, text)
  renamed := false

/-- Drop the oldest segments. -/
def drop (shelf : Shelf) (count : Nat) : Shelf :=
  { shelf with rotated := shelf.rotated.drop count }

@[simp]
theorem ids_push (shelf : Shelf) (data : Bytes) : (shelf.push data).ids = shelf.ids := by
  simp [ids, texts, push]

@[simp]
theorem ids_rename (shelf : Shelf) : shelf.rename.ids = shelf.ids :=
  rfl

@[simp]
theorem ids_start (shelf : Shelf) (id : Uuid) (text : Bytes) :
    (shelf.start id text).ids = shelf.ids ++ [id] := by
  simp [ids, texts, start]

@[simp]
theorem push_nil (shelf : Shelf) : shelf.push [] = shelf := by
  simp [push]

theorem start_push (shelf : Shelf) (id : Uuid) (text : Bytes) :
    (shelf.start id []).push text = shelf.start id text := by
  simp [push, start]

@[simp]
theorem drop_zero (shelf : Shelf) : shelf.drop 0 = shelf :=
  rfl

theorem drop_drop (shelf : Shelf) (first second : Nat) :
    (shelf.drop first).drop second = shelf.drop (first + second) := by
  simp [drop, List.drop_drop]

end Shelf

/-- The segment of a rotated text. -/
def backupOf (text : Uuid × Bytes) : Segment :=
  ⟨text.1, .backup text.1, text.2.length⟩

/-- The world keeps the shelf.  Nothing is said of the length that is recorded for
the active segment. -/
structure Matches (world : World) (shelf : Shelf) : Prop where
  rotated : world.store.rotated = shelf.rotated.map backupOf
  id : world.store.active.id = shelf.active.1
  path : world.store.active.path = shelf.path
  file : world.store.file = ⟨shelf.path, shelf.active.2.length⟩
  backups : ∀ text ∈ shelf.rotated, world.disk.content (.backup text.1) = some text.2
  front : world.disk.content shelf.path = some shelf.active.2
  free : shelf.renamed = true → world.disk.files .active = none
  distinct : shelf.ids.Nodup

namespace Matches

variable {world : World} {shelf : Shelf}

theorem length_rotated (same : Matches world shelf) :
    world.store.rotated.length = shelf.rotated.length := by
  rw [same.rotated, List.length_map]

theorem ids (same : Matches world shelf) :
    world.store.segments.map Segment.id = shelf.ids := by
  simp [Store.segments, Shelf.ids, Shelf.texts, same.rotated, same.id, backupOf]

theorem id_ne_of_mem (same : Matches world shelf) {text : Uuid × Bytes}
    (member : text ∈ shelf.rotated) : text.1 ≠ shelf.active.1 := by
  have distinct := same.distinct
  simp only [Shelf.ids, Shelf.texts, List.map_append, List.map_cons, List.map_nil] at distinct
  exact (List.nodup_append.mp distinct).2.2 _ (List.mem_map_of_mem member) _
    (List.mem_singleton_self _)

theorem path_ne_of_mem (same : Matches world shelf) {text : Uuid × Bytes}
    (member : text ∈ shelf.rotated) : Path.backup text.1 ≠ shelf.path := by
  intro equal
  simp only [Shelf.path] at equal
  split at equal
  · exact same.id_ne_of_mem member (Path.backup.inj equal)
  · contradiction

theorem setActiveLength (same : Matches world shelf) (length : Nat) :
    Matches (world.setActiveLength length) shelf :=
  ⟨same.rotated, same.id, same.path, same.file, same.backups, same.front, same.free,
    same.distinct⟩

theorem countLine (same : Matches world shelf) (line : Bytes) :
    Matches (world.countLine line) shelf := by
  simp only [World.countLine]
  split
  · exact ⟨same.rotated, same.id, same.path, same.file, same.backups, same.front, same.free,
      same.distinct⟩
  · exact same.setActiveLength _

/-- Only the content of the active segment changes. -/
theorem change (same : Matches world shelf) (edit : Bytes → Bytes) :
    (∀ text ∈ shelf.rotated, (world.disk.change world.store.file.path edit).content
      (.backup text.1) = some text.2) ∧
    (world.disk.change world.store.file.path edit).content shelf.path =
      some (edit shelf.active.2) ∧
    (shelf.renamed = true →
      (world.disk.change world.store.file.path edit).files .active = none) := by
  rw [same.file]
  refine ⟨?_, Disk.content_change_self same.front, ?_⟩
  · intro text member
    rw [Disk.content_of_files (Disk.files_change_of_ne (same.path_ne_of_mem member))]
    exact same.backups text member
  · intro renamed
    have elsewhere : Path.active ≠ shelf.path := by simp [Shelf.path, renamed]
    rw [Disk.files_change_of_ne elsewhere]
    exact same.free renamed

/-- Writing at the end of the active segment. -/
theorem writeFile (same : Matches world shelf) (data : Bytes) :
    Matches (world.writeFile data) (shelf.push data) := by
  rcases same.change (Disk.overwrite world.store.file.position data) with ⟨backups, front, free⟩
  have atEnd : world.store.file.position = shelf.active.2.length := by rw [same.file]
  refine ⟨same.rotated, same.id, same.path, ?_, backups, ?_, free, ?_⟩
  · simp only [World.writeFile, same.file, Shelf.push, List.length_append]
    rfl
  · refine front.trans ?_
    rw [atEnd, Disk.overwrite_length]
    rfl
  · rw [Shelf.ids_push]
    exact same.distinct

/-- Restoring the length and the position undoes a write. -/
theorem restore {data : Bytes} (same : Matches world (shelf.push data)) :
    Matches ((world.setLength shelf.active.2.length).seek shelf.active.2.length) shelf := by
  rcases same.change (Disk.resize shelf.active.2.length) with ⟨backups, front, free⟩
  refine ⟨same.rotated, same.id, same.path, ?_, backups, ?_, free, ?_⟩
  · simp only [World.seek, World.setLength, same.file]
    rfl
  · simp only [Shelf.push, Disk.resize_append] at front
    exact front
  · have distinct := same.distinct
    rwa [Shelf.ids_push] at distinct

theorem canRename (same : Matches world shelf) : world.canRename = true := by
  rcases Option.map_eq_some_iff.mp same.front with ⟨entry, files, -⟩
  simp only [World.canRename, same.path, files, Option.isSome_some]

theorem renameActive (same : Matches world shelf) : Matches world.renameActive shelf.rename := by
  have target : world.renameActive.disk = world.disk.rename shelf.path (.backup shelf.active.1) := by
    simp only [World.renameActive, same.path, same.id]
  refine ⟨same.rotated, same.id, ?_, ?_, ?_, ?_, ?_, same.distinct⟩
  · simp only [World.renameActive, same.id, Shelf.path, Shelf.rename, if_true]
  · simp only [World.renameActive, same.id, same.path, same.file, Shelf.path, Shelf.rename,
      if_true]
  · intro text member
    have notTarget : Path.backup text.1 ≠ .backup shelf.active.1 := by
      intro equal
      exact same.id_ne_of_mem member (Path.backup.inj equal)
    rw [target, Disk.content_of_files
      (Disk.files_rename_of_ne notTarget (same.path_ne_of_mem member))]
    exact same.backups text member
  · rw [target]
    simp only [Shelf.path, Shelf.rename, if_true]
    rw [Disk.content_of_files (Disk.files_rename_target _ _)]
    exact same.front
  · intro _
    rw [target]
    by_cases renamed : shelf.renamed = true
    · have elsewhere : Path.active ≠ shelf.path := by simp [Shelf.path, renamed]
      rw [Disk.files_rename_of_ne (by simp) elsewhere]
      exact same.free renamed
    · simp only [Shelf.path, renamed]
      exact Disk.files_rename_source (by simp)

theorem canCreate (same : Matches world shelf) (renamed : shelf.renamed = true) :
    world.canCreate = true := by
  simp only [World.canCreate, same.free renamed, Option.isNone_none]

theorem createActive (same : Matches world shelf)
    (counted : world.store.active.length = shelf.active.2.length)
    (renamed : shelf.renamed = true) {id : Uuid} (fresh : id ∉ shelf.ids) :
    Matches (world.createActive id) (shelf.start id []) := by
  have path : shelf.path = .backup shelf.active.1 := by simp [Shelf.path, renamed]
  refine ⟨?_, rfl, rfl, rfl, ?_, Disk.content_put_self, nofun, ?_⟩
  · have active : world.store.active = backupOf shelf.active := by
      rw [backupOf, ← path, ← same.path, ← counted, ← same.id]
    simp only [World.createActive, Shelf.start, Shelf.texts, List.map_append, List.map_cons,
      List.map_nil, same.rotated, active]
  · intro text member
    simp only [World.createActive]
    rw [Disk.content_of_files (Disk.files_put_of_ne (by simp))]
    rcases List.mem_append.mp member with rotated | active
    · exact same.backups text rotated
    · cases List.mem_singleton.mp active
      rw [← path]
      exact same.front
  · rw [Shelf.ids_start]
    refine List.nodup_append.mpr ⟨same.distinct, List.nodup_singleton _, ?_⟩
    intro other member added single equal
    rw [List.mem_singleton.mp single] at equal
    exact fresh (equal ▸ member)

theorem segments_cons (same : Matches world shelf) {first : Uuid × Bytes}
    {rest : List (Uuid × Bytes)} (rotated : shelf.rotated = first :: rest) :
    world.store.rotated = backupOf first :: rest.map backupOf := by
  rw [same.rotated, rotated, List.map_cons]

theorem canRemove (same : Matches world shelf) {first : Uuid × Bytes} {rest : List (Uuid × Bytes)}
    (rotated : shelf.rotated = first :: rest) : world.canRemove = true := by
  rcases Option.map_eq_some_iff.mp (same.backups first (by simp [rotated])) with ⟨entry, files, -⟩
  simp only [World.canRemove, same.segments_cons rotated, List.head?_cons, Option.any_some,
    backupOf, files, Option.isSome_some]

theorem removeOldest_eq (same : Matches world shelf) {first : Uuid × Bytes}
    {rest : List (Uuid × Bytes)} (rotated : shelf.rotated = first :: rest) :
    world.removeOldest =
      { store := { world.store with rotated := rest.map backupOf }
        disk := world.disk.remove (.backup first.1) } := by
  simp only [World.removeOldest, same.segments_cons rotated, backupOf]

theorem removeOldest (same : Matches world shelf) {first : Uuid × Bytes}
    {rest : List (Uuid × Bytes)} (rotated : shelf.rotated = first :: rest) :
    Matches world.removeOldest (shelf.drop 1) := by
  have member : first ∈ shelf.rotated := by simp [rotated]
  have distinct := same.distinct
  simp only [Shelf.ids, Shelf.texts, rotated, List.cons_append, List.map_cons,
    List.nodup_cons] at distinct
  rw [same.removeOldest_eq rotated]
  refine ⟨?_, same.id, same.path, same.file, ?_, ?_, ?_, ?_⟩
  · simp only [Shelf.drop, rotated, List.drop_succ_cons, List.drop_zero]
  · intro text kept
    simp only [Shelf.drop, rotated, List.drop_succ_cons, List.drop_zero] at kept
    have different : Path.backup text.1 ≠ .backup first.1 := by
      intro equal
      apply distinct.1
      rw [← Path.backup.inj equal]
      exact List.mem_map_of_mem (List.mem_append_left _ kept)
    rw [Disk.content_of_files (Disk.files_remove_of_ne different)]
    exact same.backups text (by simp [rotated, kept])
  · exact (Disk.content_of_files
      (Disk.files_remove_of_ne (same.path_ne_of_mem member).symm)).trans same.front
  · intro renamed
    exact (Disk.files_remove_of_ne (by simp)).trans (same.free renamed)
  · simpa only [Shelf.ids, Shelf.texts, Shelf.drop, rotated, List.drop_succ_cons,
      List.drop_zero] using distinct.2

end Matches

/-! ## Files in order -/

/-- When a file was changed. -/
def stamp (disk : Disk Path) (path : Path) : Option Nat :=
  (disk.files path).map Entry.modified

/-- The backups are those of the shelf, and were changed in its order. -/
structure Filed (disk : Disk Path) (shelf : Shelf) : Prop where
  only : ∀ id, (disk.files (.backup id)).isSome = true →
    id ∈ shelf.rotated.map Prod.fst ∨ shelf.renamed = true ∧ id = shelf.active.1
  ordered : shelf.rotated.Pairwise fun first second =>
    ∀ earlier later, stamp disk (.backup first.1) = some earlier →
      stamp disk (.backup second.1) = some later → earlier < later
  latest : ∀ text ∈ shelf.rotated, ∀ earlier later, stamp disk (.backup text.1) = some earlier →
    stamp disk shelf.path = some later → earlier < later
  clock : ∀ path time, stamp disk path = some time → time < disk.clock

namespace Filed

variable {world : World} {shelf : Shelf}

theorem stamp_of_files {disk other : Disk Path} {path : Path}
    (same : disk.files path = other.files path) : stamp disk path = stamp other path := by
  rw [stamp, same, stamp]

/-- A change of the active segment. -/
theorem change (filed : Filed world.disk shelf) (same : Matches world shelf)
    (edit : Bytes → Bytes) : Filed (world.disk.change world.store.file.path edit) shelf := by
  rw [same.file]
  rcases Option.map_eq_some_iff.mp same.front with ⟨entry, files, -⟩
  have changed : world.disk.change shelf.path edit = world.disk.put shelf.path (edit entry.content) := by
    simp only [Disk.change, files]
  have kept {path : Path} (different : path ≠ shelf.path) :
      stamp (world.disk.put shelf.path (edit entry.content)) path = stamp world.disk path :=
    stamp_of_files (Disk.files_put_of_ne different)
  rw [changed]
  refine ⟨?_, ?_, ?_, ?_⟩
  · intro id present
    by_cases own : Path.backup id = shelf.path
    · apply filed.only id
      rw [own, files]
      rfl
    · rw [Disk.files_put_of_ne own] at present
      exact filed.only id present
  · refine filed.ordered.imp_of_mem ?_
    intro first second held heldToo before earlier later
    rw [kept (same.path_ne_of_mem held), kept (same.path_ne_of_mem heldToo)]
    exact before earlier later
  · intro text member earlier later old new
    rw [kept (same.path_ne_of_mem member)] at old
    rw [stamp, Disk.files_put_self] at new
    cases new
    exact filed.clock _ _ old
  · intro path time stamped
    by_cases own : path = shelf.path
    · rw [own, stamp, Disk.files_put_self] at stamped
      cases stamped
      exact Nat.lt_succ_self _
    · rw [kept own] at stamped
      exact Nat.lt_succ_of_lt (filed.clock path time stamped)

theorem push {disk : Disk Path} (filed : Filed disk shelf) (data : Bytes) :
    Filed disk (shelf.push data) :=
  ⟨filed.only, filed.ordered, filed.latest, filed.clock⟩

theorem of_push {disk : Disk Path} {data : Bytes} (filed : Filed disk (shelf.push data)) :
    Filed disk shelf :=
  ⟨filed.only, filed.ordered, filed.latest, filed.clock⟩

theorem renameActive (filed : Filed world.disk shelf) (same : Matches world shelf) :
    Filed world.renameActive.disk shelf.rename := by
  have target : world.renameActive.disk = world.disk.rename shelf.path (.backup shelf.active.1) := by
    simp only [World.renameActive, same.path, same.id]
  have moved : (world.disk.rename shelf.path (.backup shelf.active.1)).files
      (.backup shelf.active.1) = world.disk.files shelf.path :=
    Disk.files_rename_target _ _
  have notTarget {text : Uuid × Bytes} (member : text ∈ shelf.rotated) :
      Path.backup text.1 ≠ .backup shelf.active.1 := by
    intro equal
    exact same.id_ne_of_mem member (Path.backup.inj equal)
  have kept {text : Uuid × Bytes} (member : text ∈ shelf.rotated) :
      stamp (world.disk.rename shelf.path (.backup shelf.active.1)) (.backup text.1) =
        stamp world.disk (.backup text.1) :=
    stamp_of_files (Disk.files_rename_of_ne (notTarget member) (same.path_ne_of_mem member))
  rw [target]
  refine ⟨?_, ?_, ?_, ?_⟩
  · intro id present
    by_cases own : id = shelf.active.1
    · exact .inr ⟨rfl, own⟩
    · refine .inl ?_
      have elsewhere : Path.backup id ≠ .backup shelf.active.1 := by
        intro equal
        exact own (Path.backup.inj equal)
      simp only [Disk.rename, elsewhere, if_false] at present
      split at present
      · contradiction
      · rcases filed.only id present with rotated | ⟨-, active⟩
        · exact rotated
        · exact absurd active own
  · refine filed.ordered.imp_of_mem ?_
    intro first second held heldToo before earlier later
    rw [kept held, kept heldToo]
    exact before earlier later
  · intro text member earlier later old new
    rw [kept member] at old
    have path : shelf.rename.path = .backup shelf.active.1 := by simp [Shelf.path, Shelf.rename]
    rw [path, stamp, moved] at new
    exact filed.latest text member earlier later old new
  · intro path time stamped
    simp only [stamp, Disk.rename] at stamped
    split at stamped
    · exact filed.clock _ _ stamped
    · split at stamped
      · contradiction
      · exact filed.clock _ _ stamped

theorem createActive (filed : Filed world.disk shelf) (renamed : shelf.renamed = true)
    (id : Uuid) :
    Filed (world.createActive id).disk (shelf.start id []) := by
  have path : shelf.path = .backup shelf.active.1 := by simp [Shelf.path, renamed]
  have kept (other : Uuid) : (world.disk.put .active []).files (.backup other) =
      world.disk.files (.backup other) :=
    Disk.files_put_of_ne (by simp)
  have stamps (other : Uuid) : stamp (world.disk.put .active []) (.backup other) =
      stamp world.disk (.backup other) :=
    stamp_of_files (kept other)
  refine ⟨?_, ?_, ?_, ?_⟩
  · intro other present
    simp only [World.createActive, kept] at present
    refine .inl ?_
    simp only [Shelf.start, Shelf.texts, List.map_append, List.map_cons, List.map_nil,
      List.mem_append, List.mem_singleton]
    rcases filed.only other present with rotated | ⟨-, active⟩
    · exact .inl rotated
    · exact .inr active
  · simp only [World.createActive, stamps]
    refine List.pairwise_append.mpr ⟨filed.ordered, List.pairwise_singleton _ _, ?_⟩
    intro text member active single
    rw [List.mem_singleton.mp single, ← path]
    exact filed.latest text member
  · intro text _ earlier later old new
    simp only [World.createActive, stamps] at old
    rw [show (shelf.start id []).path = .active from rfl, stamp, World.createActive,
      Disk.files_put_self] at new
    cases new
    exact filed.clock _ _ old
  · intro other time stamped
    by_cases own : other = .active
    · simp only [World.createActive, own, stamp, Disk.files_put_self] at stamped
      cases stamped
      exact Nat.lt_succ_self _
    · have old : stamp world.disk other = some time := by
        rw [← stamped]
        exact (stamp_of_files (Disk.files_put_of_ne own)).symm
      exact Nat.lt_succ_of_lt (filed.clock other time old)

theorem removeOldest (filed : Filed world.disk shelf) (same : Matches world shelf)
    {first : Uuid × Bytes} {rest : List (Uuid × Bytes)} (rotated : shelf.rotated = first :: rest) :
    Filed world.removeOldest.disk (shelf.drop 1) := by
  have old {path : Path} {time : Nat}
      (stamped : stamp (world.disk.remove (.backup first.1)) path = some time) :
      stamp world.disk path = some time := by
    by_cases own : path = .backup first.1
    · rw [own, stamp, Disk.files_remove_self] at stamped
      contradiction
    · rw [← stamped]
      exact (stamp_of_files (Disk.files_remove_of_ne own)).symm
  have ordered := filed.ordered
  rw [rotated, List.pairwise_cons] at ordered
  rw [same.removeOldest_eq rotated]
  refine ⟨?_, ?_, ?_, ?_⟩
  · intro id present
    by_cases own : Path.backup id = .backup first.1
    · rw [own, Disk.files_remove_self] at present
      contradiction
    · rw [Disk.files_remove_of_ne own] at present
      have different : id ≠ first.1 := by
        rintro rfl
        exact own rfl
      have kept := filed.only id present
      simpa [rotated, different, Shelf.drop] using kept
  · simp only [Shelf.drop, rotated, List.drop_succ_cons, List.drop_zero]
    refine ordered.2.imp ?_
    intro _ _ before earlier later first second
    exact before earlier later (old first) (old second)
  · intro text member earlier later first second
    have held : text ∈ shelf.rotated := List.mem_of_mem_drop member
    exact filed.latest text held earlier later (old first) (old second)
  · intro path time stamped
    exact filed.clock path time (old stamped)

end Filed

end X64dbgMcp.Audit
