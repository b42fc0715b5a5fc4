import Mathlib.Logic.Function.Basic
import Mathlib.Data.List.Basic

/-!
# Files

A disk is a partial map from paths to files.  Renaming and removing are atomic and
leave the modification time of a file alone; a change of the content stamps it with a
clock that grows with each change.  Paths are of any type.
-/

namespace X64dbgMcp.Files

/-- The content of a file. -/
abbrev Bytes := List UInt8

/-- A file: its content and when it was changed. -/
structure Entry where
  content : Bytes
  modified : Nat

/-- The files by their paths, and a clock. -/
structure Disk (π : Type) where
  files : π → Option Entry
  clock : Nat

namespace Disk

variable {π : Type} [DecidableEq π]

/-- No file at all. -/
def empty : Disk π :=
  ⟨fun _ => none, 0⟩

/-- What a file holds. -/
def content (disk : Disk π) (path : π) : Option Bytes :=
  (disk.files path).map Entry.content

/-- Give a file its content now. -/
def put (disk : Disk π) (path : π) (content : Bytes) : Disk π where
  files := Function.update disk.files path (some ⟨content, disk.clock⟩)
  clock := disk.clock + 1

/-- Change the content of a file that is there. -/
def change (disk : Disk π) (path : π) (edit : Bytes → Bytes) : Disk π :=
  match disk.files path with
  | none => disk
  | some entry => disk.put path (edit entry.content)

/-- Write over the bytes from a position on. -/
def overwrite (position : Nat) (data content : Bytes) : Bytes :=
  content.take position ++ data ++ content.drop (position + data.length)

/-- Cut a content, or fill it up with zeros. -/
def resize (length : Nat) (content : Bytes) : Bytes :=
  content.take length ++ List.replicate (length - content.length) 0

/-- Rename a file over whatever the target was. -/
def rename (disk : Disk π) (source target : π) : Disk π :=
  { disk with
    files := fun path =>
      if path = target then disk.files source
      else if path = source then none
      else disk.files path }

/-- Remove a file. -/
def remove (disk : Disk π) (path : π) : Disk π :=
  { disk with files := Function.update disk.files path none }

variable {disk : Disk π} {path other : π} {bytes : Bytes}

theorem files_put_self : (disk.put path bytes).files path = some ⟨bytes, disk.clock⟩ :=
  Function.update_self _ _ _

theorem files_put_of_ne (different : other ≠ path) :
    (disk.put path bytes).files other = disk.files other :=
  Function.update_of_ne different _ _

theorem files_change_of_ne {edit : Bytes → Bytes} (different : other ≠ path) :
    (disk.change path edit).files other = disk.files other := by
  simp only [change]
  split
  · rfl
  · exact files_put_of_ne different

theorem files_change_self {edit : Bytes → Bytes} {entry : Entry}
    (found : disk.files path = some entry) :
    (disk.change path edit).files path = some ⟨edit entry.content, disk.clock⟩ := by
  simp only [change, found]
  exact files_put_self

theorem files_remove_self : (disk.remove path).files path = none :=
  Function.update_self _ _ _

theorem files_remove_of_ne (different : other ≠ path) :
    (disk.remove path).files other = disk.files other :=
  Function.update_of_ne different _ _

theorem files_rename_target (source target : π) :
    (disk.rename source target).files target = disk.files source := by
  simp [rename]

theorem files_rename_source {source target : π} (different : source ≠ target) :
    (disk.rename source target).files source = none := by
  simp [rename, different]

theorem files_rename_of_ne {source target : π} (notTarget : other ≠ target)
    (notSource : other ≠ source) : (disk.rename source target).files other = disk.files other := by
  simp [rename, notTarget, notSource]

omit [DecidableEq π] in
theorem content_of_files {second : Disk π} (same : disk.files path = second.files other) :
    disk.content path = second.content other := by
  simp only [content, same]

theorem content_change_self {edit : Bytes → Bytes} (found : disk.content path = some bytes) :
    (disk.change path edit).content path = some (edit bytes) := by
  rcases Option.map_eq_some_iff.mp found with ⟨entry, files, rfl⟩
  simp only [content, files_change_self files, Option.map_some]

theorem content_put_self : (disk.put path bytes).content path = some bytes := by
  simp only [content, files_put_self, Option.map_some]

/-- Writing at the end appends. -/
theorem overwrite_length (data content : Bytes) :
    overwrite content.length data content = content ++ data := by
  simp [overwrite, List.drop_eq_nil_of_le]

/-- Cutting back what was appended. -/
theorem resize_append (content data : Bytes) : resize content.length (content ++ data) = content := by
  simp [resize]

end Disk

end X64dbgMcp.Files
