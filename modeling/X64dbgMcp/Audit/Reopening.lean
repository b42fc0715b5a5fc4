import X64dbgMcp.Audit.Appending
import X64dbgMcp.Audit.Lines

/-!
# Opening what a crash left

Segments as they were written, what a directory holds while no store is open, and the
shelf that opening makes of it.
-/

namespace X64dbgMcp.Audit

open Files Text
open Ipc (Uuid)

/-- A segment as it was written: the time of its header, and its lines. -/
structure Written where
  id : Uuid
  time : UInt64
  lines : List Bytes

namespace Written

/-- The whole text of a segment: its header and its lines. -/
def text (written : Written) : Bytes :=
  headerLine written.id written.time ++ written.lines.flatten

/-- How the segment is on a shelf. -/
def shelved (written : Written) : Uuid × Bytes :=
  (written.id, written.text)

/-- One line more. -/
def push (written : Written) (line : Bytes) : Written :=
  { written with lines := written.lines ++ [line] }

theorem text_push (written : Written) (line : Bytes) :
    (written.push line).text = written.text ++ line := by
  simp [push, text]

end Written

/-! ## Prefixes of a line -/

theorem IsLine.take {line : Bytes} (isLine : IsLine line) (left : Nat) :
    newline ∉ line.take left ∨ line.take left = line := by
  rcases isLine with ⟨body, clean, rfl⟩
  by_cases whole : (body ++ [newline]).length ≤ left
  · exact .inr (List.take_of_length_le whole)
  · have within : left ≤ body.length := by
      simp only [List.length_append, List.length_singleton] at whole
      omega
    rw [List.take_append_of_le_length within]
    exact .inl fun member => clean (List.mem_of_mem_take member)

theorem complete_flatten {lines : List Bytes} (each : ∀ line ∈ lines, IsLine line)
    {text : Bytes} (complete : Complete text) : Complete (text ++ lines.flatten) := by
  induction lines generalizing text with
  | nil => simpa using complete
  | cons line rest ih =>
      rw [List.flatten_cons, ← List.append_assoc]
      refine ih ?_ ((each line List.mem_cons_self).complete text)
      intro later member
      exact each later (List.mem_cons_of_mem line member)

/-- A complete text stops after its last newline. -/
theorem Complete.tailAt_unique {front torn : Bytes} {length : Nat} (complete : Complete front)
    (clean : newline ∉ torn)
    (tail : TailAt (front ++ torn) (front ++ torn).length length) : length = front.length := by
  rcases tail with ⟨other, rest, same, rfl, free, whole⟩
  rw [List.take_length] at same
  rcases List.append_eq_append_iff.mp same with ⟨more, rfl, tornEq⟩ | ⟨more, rfl, restEq⟩
  · rcases whole with empty | ⟨before, ends⟩
    · rw [empty]
      simp [(List.append_eq_nil_iff.mp empty).1]
    · rcases List.eq_nil_or_concat more with rfl | ⟨start, last, rfl⟩
      · simp
      · rw [List.concat_eq_append, ← List.append_assoc] at ends
        have lastEq : last = newline := by simpa using (List.append_inj' ends rfl).2
        rw [tornEq, lastEq] at clean
        simp at clean
  · rcases complete with empty | ⟨before, ends⟩
    · simp [(List.append_eq_nil_iff.mp empty).1, (List.append_eq_nil_iff.mp empty).2]
    · rcases List.eq_nil_or_concat more with rfl | ⟨start, last, rfl⟩
      · simp
      · rw [List.concat_eq_append, ← List.append_assoc] at ends
        have lastEq : last = newline := by simpa using (List.append_inj' ends rfl).2
        rw [restEq, lastEq] at free
        simp at free

theorem completeTailLength_append {front torn : Bytes} (complete : Complete front)
    (clean : newline ∉ torn) :
    completeTailLength (front ++ torn) (front ++ torn).length = front.length :=
  complete.tailAt_unique clean (completeTailLength_spec _)

/-! ## Sorting the backups -/

/-- Sorting by strictly growing keys. -/
theorem insertionSort_eq_of_perm {α : Type} {key : α → Nat} {listing sorted : List α}
    (perm : listing.Perm sorted) (growing : sorted.Pairwise fun first second => key first < key second) :
    (listing.insertionSort fun first second => key first ≤ key second) = sorted := by
  have total : Std.Total fun first second : α => key first ≤ key second :=
    ⟨fun first second => Nat.le_total _ _⟩
  have trans : IsTrans α fun first second : α => key first ≤ key second :=
    ⟨fun _ _ _ => Nat.le_trans⟩
  have distinct : (sorted.map key).Nodup :=
    List.pairwise_map.mpr (growing.imp Nat.ne_of_lt)
  refine List.Perm.eq_of_pairwise ?_ (List.pairwise_insertionSort _ listing)
    (growing.imp Nat.le_of_lt) ((List.perm_insertionSort _ listing).trans perm)
  intro first second held heldToo below above
  have member : first ∈ sorted := perm.subset ((List.perm_insertionSort _ listing).subset held)
  exact List.inj_on_of_nodup_map distinct member heldToo (Nat.le_antisymm below above)

/-! ## Shelves of whole segments -/

/-- The shelf of segments that are whole. -/
def shelfOf (rotated : List Written) (active : Written) : Shelf where
  rotated := rotated.map Written.shelved
  active := active.shelved
  renamed := false

theorem shelfOf_push (rotated : List Written) (active : Written) (line : Bytes) :
    (shelfOf rotated active).push line = shelfOf rotated (active.push line) := by
  simp only [Shelf.push, shelfOf, Written.shelved, Written.text_push]
  rfl

theorem shelfOf_start (rotated : List Written) (active : Written) (id : Uuid) (text : Bytes) :
    (shelfOf rotated active).start id text =
      ⟨(rotated ++ [active]).map Written.shelved, (id, text), false⟩ := by
  simp [Shelf.start, Shelf.texts, shelfOf]

theorem shelfOf_start_header (rotated : List Written) (active : Written) (id : Uuid)
    (time : UInt64) :
    (shelfOf rotated active).start id (headerLine id time) =
      shelfOf (rotated ++ [active]) ⟨id, time, []⟩ := by
  rw [shelfOf_start]
  simp [shelfOf, Written.shelved, Written.text]

theorem shelfOf_drop (rotated : List Written) (active : Written) (count : Nat) :
    (shelfOf rotated active).drop count = shelfOf (rotated.drop count) active := by
  simp [Shelf.drop, shelfOf]

theorem ids_shelfOf (rotated : List Written) (active : Written) :
    (shelfOf rotated active).ids = (rotated ++ [active]).map Written.id := by
  simp [Shelf.ids, Shelf.texts, shelfOf, Written.shelved]

section Opening

variable (segmentIdOf : Bytes → Option Uuid)

/-- The header can be read back. -/
def Reads (id : Uuid) (time : UInt64) : Prop :=
  segmentIdOf (headerText id time) = some id

instance (id : Uuid) (time : UInt64) : Decidable (Reads segmentIdOf id time) :=
  inferInstanceAs (Decidable (_ = _))

/-- The segments hold the last lines of the history. -/
structure Sound (segments : List Written) (history : List Bytes) : Prop where
  lines : ∀ written ∈ segments, ∀ line ∈ written.lines, IsLine line
  reads : ∀ written ∈ segments, Reads segmentIdOf written.id written.time
  distinct : (segments.map Written.id).Nodup
  recent : segments.flatMap Written.lines <:+ history

variable {segmentIdOf} {segments rotated : List Written} {active : Written} {history : List Bytes}

theorem Sound.suffix {fewer : List Written} (sound : Sound segmentIdOf segments history)
    (later : fewer <:+ segments) : Sound segmentIdOf fewer history := by
  refine ⟨?_, ?_, ?_, ?_⟩
  · intro written member
    exact sound.lines written (later.subset member)
  · intro written member
    exact sound.reads written (later.subset member)
  · exact sound.distinct.sublist (later.sublist.map _)
  · rcases later with ⟨dropped, rfl⟩
    refine List.IsSuffix.trans ?_ sound.recent
    rw [List.flatMap_append]
    exact List.suffix_append _ _

theorem Sound.drop (sound : Sound segmentIdOf (rotated ++ [active]) history) (count : Nat) :
    Sound segmentIdOf (rotated.drop count ++ [active]) history := by
  apply sound.suffix
  rcases List.drop_suffix count rotated with ⟨dropped, equal⟩
  exact ⟨dropped, by rw [← List.append_assoc, equal]⟩

/-- A new segment has no lines yet. -/
theorem Sound.start (sound : Sound segmentIdOf segments history) {id : Uuid} {time : UInt64}
    (fresh : id ∉ segments.map Written.id) (reads : Reads segmentIdOf id time) :
    Sound segmentIdOf (segments ++ [⟨id, time, []⟩]) history := by
  refine ⟨?_, ?_, ?_, ?_⟩
  · intro written member
    rcases List.mem_append.mp member with old | new
    · exact sound.lines written old
    · cases List.mem_singleton.mp new
      exact List.forall_mem_nil _
  · intro written member
    rcases List.mem_append.mp member with old | new
    · exact sound.reads written old
    · cases List.mem_singleton.mp new
      exact reads
  · rw [List.map_append]
    refine List.nodup_append.mpr ⟨sound.distinct, List.nodup_singleton _, ?_⟩
    rintro old member _ new rfl
    rw [List.mem_singleton.mp new] at member
    exact fresh member
  · simpa using sound.recent

/-- The active segment ends with the last line of the history. -/
theorem Sound.push (sound : Sound segmentIdOf (rotated ++ [active]) history) {line : Bytes}
    (isLine : IsLine line) :
    Sound segmentIdOf (rotated ++ [active.push line]) (history ++ [line]) := by
  refine ⟨?_, ?_, ?_, ?_⟩
  · intro written member
    rcases List.mem_append.mp member with old | new
    · exact sound.lines written (List.mem_append_left _ old)
    · cases List.mem_singleton.mp new
      intro other held
      rcases List.mem_append.mp held with earlier | last
      · exact sound.lines active (by simp) other earlier
      · cases List.mem_singleton.mp last
        exact isLine
  · intro written member
    rcases List.mem_append.mp member with old | new
    · exact sound.reads written (List.mem_append_left _ old)
    · cases List.mem_singleton.mp new
      exact sound.reads active (by simp)
  · have distinct := sound.distinct
    simpa [Written.push] using distinct
  · rcases sound.recent with ⟨dropped, rfl⟩
    refine ⟨dropped, ?_⟩
    simp [Written.push]

/-! ## A directory without a store -/

/-- The bytes of the active file up to its last newline. -/
def frontText (front : Option Written) : Bytes :=
  front.elim [] Written.text

/-- The backups in order, and the active file: at most one segment, and a part of a
line. -/
structure Directory (disk : Disk Path) (backups : List Written) (front : Option Written)
    (torn : Bytes) : Prop where
  contents : ∀ written ∈ backups, disk.content (.backup written.id) = some written.text
  only : ∀ id, (disk.files (.backup id)).isSome = true → id ∈ backups.map Written.id
  ordered : backups.Pairwise fun first second =>
    ∀ earlier later, stamp disk (.backup first.id) = some earlier →
      stamp disk (.backup second.id) = some later → earlier < later
  active : (disk.content .active).getD [] = frontText front ++ torn
  clean : newline ∉ torn
  clock : ∀ path time, stamp disk path = some time → time < disk.clock

theorem Keeps.directory {world : World} {backups : List Written} {front : Option Written}
    {torn : Bytes} {active : Uuid × Bytes} {recorded count : Nat}
    (keeps : Keeps True world ⟨backups.map Written.shelved, active, false⟩ recorded count)
    (split : active.2 = frontText front ++ torn) (clean : newline ∉ torn) :
    Directory world.disk backups front torn := by
  have filed := keeps.filed trivial
  refine ⟨?_, ?_, List.pairwise_map.mp filed.ordered, ?_, clean, filed.clock⟩
  · intro written member
    exact keeps.same.backups written.shelved (List.mem_map_of_mem member)
  · intro id present
    rcases filed.only id present with held | ⟨renamed, -⟩
    · simpa [Written.shelved] using held
    · contradiction
  · rw [← split]
    exact congrArg (·.getD []) keeps.same.front

theorem Keeps.directory_renamed {world : World} {backups : List Written} {active : Written}
    {recorded count : Nat} (keeps : Keeps True world (shelfOf backups active).rename recorded count) :
    Directory world.disk (backups ++ [active]) none [] := by
  have filed := keeps.filed trivial
  refine ⟨?_, ?_, ?_, ?_, List.not_mem_nil, filed.clock⟩
  · intro written member
    rcases List.mem_append.mp member with old | new
    · exact keeps.same.backups written.shelved (List.mem_map_of_mem old)
    · cases List.mem_singleton.mp new
      exact keeps.same.front
  · intro id present
    rcases filed.only id present with held | ⟨-, rfl⟩
    · rw [List.map_append]
      refine List.mem_append_left _ ?_
      simpa [Shelf.rename, shelfOf, Written.shelved] using held
    · simp [Shelf.rename, shelfOf, Written.shelved]
  · refine List.pairwise_append.mpr
      ⟨List.pairwise_map.mp filed.ordered, List.pairwise_singleton _ _, ?_⟩
    intro written member _ new
    rw [List.mem_singleton.mp new]
    exact filed.latest written.shelved (List.mem_map_of_mem member)
  · have none : world.disk.files .active = none := keeps.same.free rfl
    simp [Disk.content, none, frontText]

/-- The listing of a directory has the backups in any order. -/
def Listed (disk : Disk Path) (listing : List Uuid) : Prop :=
  listing.Nodup ∧ ∀ id, id ∈ listing ↔ (disk.files (.backup id)).isSome = true

namespace Directory

variable {disk : Disk Path} {backups : List Written} {front : Option Written} {torn : Bytes}

theorem stamp_put {bytes : Bytes} (id : Uuid) :
    stamp (disk.put .active bytes) (.backup id) = stamp disk (.backup id) :=
  Filed.stamp_of_files (Disk.files_put_of_ne (by simp))

theorem content_put {bytes : Bytes} (id : Uuid) :
    (disk.put .active bytes).content (.backup id) = disk.content (.backup id) :=
  Disk.content_of_files (Disk.files_put_of_ne (by simp))

theorem only_put (directory : Directory disk backups front torn) {bytes : Bytes} (id : Uuid)
    (present : ((disk.put .active bytes).files (.backup id)).isSome = true) :
    id ∈ backups.map Written.id := by
  rw [Disk.files_put_of_ne (by simp)] at present
  exact directory.only id present

theorem clock_put (directory : Directory disk backups front torn) {bytes : Bytes} {path : Path}
    {time : Nat} (stamped : stamp (disk.put .active bytes) path = some time) :
    time < (disk.put .active bytes).clock := by
  by_cases own : path = .active
  · rw [own, stamp, Disk.files_put_self] at stamped
    cases stamped
    exact Nat.lt_succ_self _
  · rw [Filed.stamp_of_files (Disk.files_put_of_ne own)] at stamped
    exact Nat.lt_succ_of_lt (directory.clock path time stamped)

/-- The active file gets another content. -/
theorem put (directory : Directory disk backups front torn) {bytes rest : Bytes}
    {other : Option Written} (split : bytes = frontText other ++ rest) (clean : newline ∉ rest) :
    Directory (disk.put .active bytes) backups other rest := by
  refine ⟨?_, fun id => directory.only_put id, ?_, ?_, clean, fun _ _ => directory.clock_put⟩
  · intro written member
    rw [content_put]
    exact directory.contents written member
  · simp only [stamp_put]
    exact directory.ordered
  · rw [Disk.content_put_self, ← split]
    rfl

/-- What is written last is the latest. -/
theorem filed (directory : Directory disk backups front torn) (id : Uuid) (bytes : Bytes) :
    Filed (disk.put .active bytes) ⟨backups.map Written.shelved, (id, bytes), false⟩ := by
  refine ⟨?_, ?_, ?_, fun _ _ => directory.clock_put⟩
  · intro other present
    rw [List.map_map]
    exact .inl (directory.only_put other present)
  · refine List.pairwise_map.mpr ?_
    simp only [stamp_put]
    exact directory.ordered
  · intro text _ earlier later old new
    rw [stamp_put] at old
    change stamp (disk.put .active bytes) .active = some later at new
    rw [stamp, Disk.files_put_self] at new
    cases new
    exact directory.clock _ _ old

theorem isSome_of_mem (directory : Directory disk backups front torn) {written : Written}
    (member : written ∈ backups) :
    ∃ entry, disk.files (.backup written.id) = some entry ∧ entry.content = written.text :=
  Option.map_eq_some_iff.mp (directory.contents written member)

theorem mem_listing_iff (directory : Directory disk backups front torn) {listing : List Uuid}
    (listed : Listed disk listing) (id : Uuid) : id ∈ listing ↔ id ∈ backups.map Written.id := by
  rw [listed.2]
  constructor
  · exact directory.only id
  · intro member
    rcases List.mem_map.mp member with ⟨written, held, rfl⟩
    rcases directory.isSome_of_mem held with ⟨entry, found, -⟩
    rw [found]
    rfl

/-- Sorting the listing by modification times gives the backups back. -/
theorem sorted_listing (directory : Directory disk backups front torn) {listing : List Uuid}
    (listed : Listed disk listing) (distinct : (backups.map Written.id).Nodup) :
    (listing.insertionSort fun first second => modifiedKey disk first ≤ modifiedKey disk second) =
      backups.map Written.id := by
  apply insertionSort_eq_of_perm
  · exact (List.perm_ext_iff_of_nodup listed.1 distinct).mpr (directory.mem_listing_iff listed)
  · refine List.pairwise_map.mpr (directory.ordered.imp_of_mem ?_)
    intro first second held heldToo before
    rcases directory.isSome_of_mem held with ⟨entry, found, -⟩
    rcases directory.isSome_of_mem heldToo with ⟨other, foundToo, -⟩
    have order := before entry.modified other.modified (by simp [stamp, found])
      (by simp [stamp, foundToo])
    simpa [modifiedKey, found, foundToo] using order

theorem map_backupSegment (directory : Directory disk backups front torn) :
    (backups.map Written.id).map (backupSegment disk) =
      (backups.map Written.shelved).map backupOf := by
  rw [List.map_map, List.map_map]
  apply List.map_congr_left
  intro written member
  simp [backupSegment, backupOf, Written.shelved, directory.contents written member]

end Directory

theorem Listed.put {disk : Disk Path} {listing : List Uuid} (listed : Listed disk listing)
    (bytes : Bytes) : Listed (disk.put .active bytes) listing := by
  refine ⟨listed.1, ?_⟩
  intro id
  rw [Disk.files_put_of_ne (by simp)]
  exact listed.2 id

theorem complete_frontText {front : Option Written}
    (lines : ∀ written ∈ front.toList, ∀ line ∈ written.lines, IsLine line) :
    Complete (frontText front) := by
  cases front with
  | none => exact .inl rfl
  | some active =>
      exact complete_flatten (lines active (by simp)) ((isLine_headerLine _ _).complete [])

/-! ## The steps of opening -/

variable (segmentIdOf) in
/-- No store is open, and the directory holds the last lines of the history. -/
def Down (disk : Disk Path) (history : List Bytes) : Prop :=
  ∃ backups front torn, Directory disk backups front torn ∧
    Sound segmentIdOf (backups ++ front.toList) history

variable (segmentIdOf) in
/-- The open store holds the last lines of the history. -/
def Running (world : World) (history : List Bytes) : Prop :=
  ∃ rotated active,
    Keeps True world (shelfOf rotated active) active.text.length world.store.backups ∧
      Sound segmentIdOf (rotated ++ [active]) history ∧
      rotated.length ≤ world.store.backups

/-- The machine stops between two lines. -/
theorem Keeps.down {world : World} {recorded count : Nat}
    (keeps : Keeps True world (shelfOf rotated active) recorded count)
    (sound : Sound segmentIdOf (rotated ++ [active]) history) :
    Down segmentIdOf world.disk history := by
  refine ⟨rotated, some active, [], ?_, sound⟩
  exact Keeps.directory keeps (List.append_nil _).symm List.not_mem_nil

/-- Every fault stops the machine. -/
def Crashing (fault : Option (Fault Site)) : Prop :=
  ∀ hit, fault = some hit → hit.cut = .crashes

variable {fault : Option (Fault Site)}

theorem Crashing.ended {α : Type} {site : Site} {cut : Cut} {left : Nat}
    (crashing : Crashing (some ⟨site, cut, left⟩)) : (cut.ended : Ended α) = .crashed := by
  cases crashing _ rfl
  rfl

theorem prune_running {world target : World} {segments : List Segment} {ended : Ended Unit}
    {count : Nat} (crashing : Crashing fault) (current : segments.length = rotated.length)
    (keeps : Keeps True world (shelfOf rotated active) active.text.length count)
    (sound : Sound segmentIdOf (rotated ++ [active]) history)
    (ran : prune 0 segments fault world = (ended, target)) :
    (ended = .crashed ∧ Down segmentIdOf target.disk history) ∨
      (ended = .returned () ∧ Running segmentIdOf target history) := by
  have length : (shelfOf rotated active).rotated.length = rotated.length := by simp [shelfOf]
  rcases prune_spec keeps (current.trans length.symm) ran with
    ⟨index, cut, left, rfl, -, rfl, pruned⟩ | ⟨-, rfl, pruned⟩
  · rw [shelfOf_drop] at pruned
    exact .inl ⟨crashing.ended, pruned.down (sound.drop index)⟩
  · rw [shelfOf_drop, length] at pruned
    refine .inr ⟨rfl, rotated.drop (rotated.length - count), active, ?_, sound.drop _, ?_⟩
    · rw [pruned.backups]
      exact pruned
    · rw [pruned.backups, List.length_drop]
      omega

/-- What recovering the active file leaves to the store. -/
theorem recoverActive_spec {disk recovered : Disk Path} {backups : List Written}
    {front : Option Written} {torn : Bytes} {listing : List Uuid} {ended : Ended (Nat × Nat)}
    (directory : Directory disk backups front torn) (listed : Listed disk listing)
    (lines : ∀ written ∈ front.toList, ∀ line ∈ written.lines, IsLine line)
    (ran : recoverActive fault disk = (ended, recovered)) :
    (∃ site cut left, fault = some ⟨site, cut, left⟩ ∧ ended = cut.ended ∧
        Directory recovered backups front torn) ∨
      (∃ original before, ended = .returned (original, (frontText front).length) ∧
        recovered = before.put .active (frontText front) ∧
        Directory before backups front torn ∧ Listed before listing) := by
  simp only [recoverActive] at ran
  rcases Program.step_bind_eq rfl ran with ⟨cut, left, rfl, rfl, rfl⟩ | ⟨-, ran⟩
  · exact .inl ⟨_, cut, left, rfl, rfl, directory⟩
  have opened : ∃ before entry, (if (disk.files .active).isNone then disk.put .active [] else disk)
        = before ∧ before.files .active = some entry ∧ entry.content = frontText front ++ torn ∧
      Directory before backups front torn ∧ Listed before listing := by
    have active := directory.active
    cases found : disk.files .active with
    | none =>
        simp only [Disk.content, found, Option.map_none, Option.getD_none] at active
        exact ⟨_, _, rfl, Disk.files_put_self, active, directory.put active directory.clean,
          listed.put []⟩
    | some entry =>
        simp only [Disk.content, found, Option.map_some, Option.getD_some] at active
        exact ⟨disk, entry, rfl, found, active, directory, listed⟩
  rcases opened with ⟨before, entry, beforeEq, found, content, directory, listed⟩
  rw [beforeEq, Program.bind_of_returned rfl] at ran
  have contentEq : (before.content .active).getD [] = frontText front ++ torn := by
    simp [Disk.content, found, content]
  have valid := completeTailLength_append (complete_frontText lines) directory.clean
  rw [contentEq, valid] at ran
  rcases Program.step_bind_eq rfl ran with ⟨cut, left, rfl, rfl, rfl⟩ | ⟨-, ran⟩
  · exact .inl ⟨_, cut, left, rfl, rfl, directory⟩
  · cases ran
    refine .inr ⟨_, before, rfl, ?_, directory, listed⟩
    simp only [Disk.change, found, content, Disk.resize_append]

/-- The identifier in the header of the active file, or a new one. -/
def frontId (front : Option Written) (newId : Uuid) : Uuid :=
  front.elim newId Written.id

theorem segmentIdOf_frontText {front : Option Written} {newId : Uuid}
    (blank : segmentIdOf [] = none)
    (reads : ∀ written ∈ front.toList, Reads segmentIdOf written.id written.time) :
    (segmentIdOf (((frontText front).take (min (frontText front).length 1024)).takeWhile
      (· != newline))).getD newId = frontId front newId := by
  cases front with
  | none => simp [frontText, frontId, blank]
  | some active =>
      simp only [frontText, Option.elim_some, Written.text, firstLine_headerLine]
      rw [reads active (by simp)]
      rfl

/-- The store of a directory that was cut after its last complete line. -/
theorem keeps_storeOf {disk : Disk Path} {backups : List Written} {front : Option Written}
    {torn : Bytes} {listing : List Uuid} {newId : Uuid} (count rotateBytes original : Nat)
    (directory : Directory disk backups front torn) (listed : Listed disk listing)
    (sound : Sound segmentIdOf (backups ++ front.toList) history)
    (blank : segmentIdOf [] = none) (fresh : newId ∉ listing) :
    Keeps True
      ⟨storeOf segmentIdOf (disk.put .active (frontText front)) listing newId count rotateBytes
          original (frontText front).length,
        disk.put .active (frontText front)⟩
      ⟨backups.map Written.shelved, (frontId front newId, frontText front), false⟩
      (frontText front).length count := by
  have cut := directory.put (List.append_nil (frontText front)).symm List.not_mem_nil
  have distinct : (backups.map Written.id).Nodup :=
    sound.distinct.sublist ((List.sublist_append_left _ _).map _)
  have reads : ∀ written ∈ front.toList, Reads segmentIdOf written.id written.time := by
    intro written member
    exact sound.reads written (List.mem_append_right _ member)
  refine ⟨⟨?_, ?_, rfl, rfl, ?_, Disk.content_put_self, nofun, ?_⟩,
    fun _ => directory.filed _ _, rfl, rfl⟩
  · simp only [storeOf, cut.sorted_listing (listed.put _) distinct, cut.map_backupSegment]
  · simp only [storeOf, Disk.content_put_self, Option.getD_some]
    exact segmentIdOf_frontText blank reads
  · intro text member
    rcases List.mem_map.mp member with ⟨written, held, rfl⟩
    exact cut.contents written held
  · have ids : (Shelf.mk (backups.map Written.shelved) (frontId front newId, frontText front)
        false).ids = backups.map Written.id ++ [frontId front newId] := by
      simp [Shelf.ids, Shelf.texts, Written.shelved]
    rw [ids]
    cases front with
    | none =>
        refine List.nodup_append.mpr ⟨distinct, List.nodup_singleton _, ?_⟩
        rintro old member _ new rfl
        rw [List.mem_singleton.mp new] at member
        exact fresh ((directory.mem_listing_iff listed newId).mpr member)
    | some active => simpa [frontId] using sound.distinct

/-- An empty segment gets its header, and the oldest segments go. -/
theorem prepare_running {world target : World} {backups : List Written} {front : Option Written}
    {newId : Uuid} {time : UInt64} {count : Nat} {ended : Ended Unit} (crashing : Crashing fault)
    (keeps : Keeps True world
      ⟨backups.map Written.shelved, (frontId front newId, frontText front), false⟩
      (frontText front).length count)
    (sound : Sound segmentIdOf (backups ++ front.toList) history)
    (fresh : newId ∉ backups.map Written.id) (reads : Reads segmentIdOf newId time)
    (ran : prepare time fault world = (ended, target)) :
    (ended = .crashed ∧ Down segmentIdOf target.disk history) ∨
      (ended = .returned () ∧ Running segmentIdOf target history) := by
  have current : world.store.rotated.length = backups.length := by
    rw [keeps.same.length_rotated, List.length_map]
  simp only [prepare] at ran
  rw [Program.bind_of_returned rfl, keeps.active] at ran
  cases front with
  | some active =>
      have headed : (frontText (some active)).length ≠ 0 := by
        have positive := length_headerLine_pos active.id active.time
        simp only [frontText, Option.elim_some, Written.text, List.length_append]
        omega
      rw [if_neg headed] at ran
      exact prune_running crashing current keeps sound ran
  | none =>
      have started : Sound segmentIdOf (backups ++ [⟨newId, time, []⟩]) history := by
        rw [Option.toList_none, List.append_nil] at sound
        exact sound.start fresh reads
      have pushed : (Shelf.mk (backups.map Written.shelved) (newId, []) false).push
          (headerLine newId time) = shelfOf backups ⟨newId, time, []⟩ := by
        simp [Shelf.push, shelfOf, Written.shelved, Written.text]
      have empty : (frontText none).length = 0 := rfl
      rw [if_pos empty] at ran
      rcases writeHeader_spec keeps ran with ⟨cut, left, rfl, rfl, kept⟩ |
        ⟨cut, left, rfl, rfl, kept⟩ | ⟨-, -, middle, ran, kept⟩
      · refine .inl ⟨crashing.ended, ?_⟩
        rcases (isLine_headerLine newId time).take left with torn | whole
        · exact ⟨backups, none, _, kept.directory rfl torn, sound⟩
        · change Keeps True target (Shelf.push _ ((headerLine newId time).take left)) 0 count at kept
          rw [whole] at kept
          exact Keeps.down (pushed ▸ kept) started
      · exact .inl ⟨crashing.ended, Keeps.down (pushed ▸ kept) started⟩
      · have kept : Keeps True middle (shelfOf backups ⟨newId, time, []⟩)
            (headerLine newId time).length count := pushed ▸ kept
        have whole : (headerLine newId time).length = (Written.mk newId time []).text.length := by
          simp [Written.text]
        rw [whole] at kept
        exact prune_running crashing current kept started ran

/-- Opening brings the last lines of the history back, unless the machine stops again. -/
theorem openStore_spec {disk target : Disk Path} {listing : List Uuid} {newId : Uuid}
    {time : UInt64} {count rotateBytes : Nat} {ended : Ended Store} (crashing : Crashing fault)
    (blank : segmentIdOf [] = none) (down : Down segmentIdOf disk history)
    (listed : Listed disk listing) (fresh : newId ∉ listing)
    (reads : Reads segmentIdOf newId time)
    (ran : openStore segmentIdOf listing newId time count rotateBytes fault disk =
      (ended, target)) :
    (ended = .crashed ∧ Down segmentIdOf target history) ∨
      ∃ store, ended = .returned store ∧ Running segmentIdOf ⟨store, target⟩ history := by
  rcases down with ⟨backups, front, torn, directory, sound⟩
  have lines : ∀ written ∈ front.toList, ∀ line ∈ written.lines, IsLine line := by
    intro written member
    exact sound.lines written (List.mem_append_right _ member)
  simp only [openStore] at ran
  rcases recovery : recoverActive fault disk with ⟨result, recovered⟩
  rw [recovery] at ran
  rcases recoverActive_spec directory listed lines recovery with
    ⟨site, cut, left, rfl, rfl, directory⟩ | ⟨original, before, rfl, rfl, directory, listed⟩
  · rw [crashing.ended] at ran
    cases ran
    exact .inl ⟨rfl, backups, front, torn, directory, sound⟩
  · have keeps := keeps_storeOf count rotateBytes original directory listed sound blank fresh
    have freshToo : newId ∉ backups.map Written.id := by
      rwa [← directory.mem_listing_iff listed newId]
    simp only at ran
    split at ran
    · rename_i world prepared
      cases ran
      rcases prepare_running crashing keeps sound freshToo reads prepared with
        ⟨endedEq, -⟩ | ⟨-, running⟩
      · contradiction
      · exact .inr ⟨_, rfl, running⟩
    · rename_i world prepared
      rcases prepare_running crashing keeps sound freshToo reads prepared with
        ⟨endedEq, -⟩ | ⟨endedEq, -⟩ <;> contradiction
    · rename_i world prepared
      cases ran
      rcases prepare_running crashing keeps sound freshToo reads prepared with
        ⟨-, down⟩ | ⟨endedEq, -⟩
      · exact .inl ⟨rfl, down⟩
      · contradiction

end Opening

end X64dbgMcp.Audit
