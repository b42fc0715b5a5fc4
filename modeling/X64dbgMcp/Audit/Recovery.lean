import X64dbgMcp.Audit.Reopening
import X64dbgMcp.Transition.Execution

/-!
# Runs with crashes

A server opens its store, appends and is stopped at any step; the next one opens what
is left.  The lines that the segments then hold are the last lines of the run.
-/

namespace X64dbgMcp.Audit

open Files Text Transition
open Ipc (Uuid)

/-- A directory, and its store while a server runs. -/
structure Node where
  disk : Disk Path
  store : Option Store

/-- Each step may be cut short by a crash. -/
inductive Event where
  | openStore (listing : List Uuid) (newId : Uuid) (time : UInt64) (backups rotateBytes : Nat)
      (crash : Option (Site × Nat))
  | append (line : Bytes) (id : Uuid) (time : UInt64) (crash : Option (Site × Nat))
  | crash

/-- What a run of the machine tells of a step. -/
inductive Report where
  | opened
  | appended (line : Bytes)
  /-- The machine stopped while it appended the line. -/
  | stopped (line : Bytes)
  | crashed
  | failed
  deriving DecidableEq

/-- The place of a crash as a fault. -/
def crashing (crash : Option (Site × Nat)) : Option (Fault Site) :=
  crash.map fun hit => ⟨hit.1, .crashes, hit.2⟩

/-- An empty directory. -/
def Node.start : Node :=
  ⟨Disk.empty, none⟩

section Runs

variable (segmentIdOf : Bytes → Option Uuid)

/-- Identifiers are new. -/
def nodeNext : Step Node Event Report := fun node event =>
  match node.store, event with
  | none, .openStore listing newId time backups rotateBytes crash =>
      if newId ∈ listing then none
      else
        match openStore segmentIdOf listing newId time backups rotateBytes (crashing crash)
            node.disk with
        | (.returned store, disk) => some (.opened, ⟨disk, some store⟩)
        | (.failed, disk) => some (.failed, ⟨disk, none⟩)
        | (.crashed, disk) => some (.crashed, ⟨disk, none⟩)
  | some store, .append line id time crash =>
      if id ∈ store.segments.map Segment.id then none
      else
        match append line id time (crashing crash) ⟨store, node.disk⟩ with
        | (.returned (), world) => some (.appended line, ⟨world.disk, some world.store⟩)
        | (.failed, world) => some (.failed, ⟨world.disk, some world.store⟩)
        | (.crashed, world) => some (.stopped line, ⟨world.disk, none⟩)
  | some _, .crash => some (.crashed, ⟨node.disk, none⟩)
  | _, _ => none

/-- The listing is that of the directory, a line is one line, and the header of a
new segment can be read back. -/
def Admissible (node : Node) : Event → Prop
  | .openStore listing newId time _ _ _ => Listed node.disk listing ∧ Reads segmentIdOf newId time
  | .append line id time _ => IsLine line ∧ Reads segmentIdOf id time
  | .crash => True

/-- The lines of a run: those appended, and of those in progress at a crash some. -/
inductive History : List Report → List Bytes → Prop where
  | start : History [] []
  | appended {reports : List Report} {lines : List Bytes} (line : Bytes)
      (before : History reports lines) : History (reports ++ [.appended line]) (lines ++ [line])
  | lost {reports : List Report} {lines : List Bytes} (line : Bytes)
      (before : History reports lines) : History (reports ++ [.stopped line]) lines
  | saved {reports : List Report} {lines : List Bytes} (line : Bytes)
      (before : History reports lines) : History (reports ++ [.stopped line]) (lines ++ [line])
  | opened {reports : List Report} {lines : List Bytes} (before : History reports lines) :
      History (reports ++ [.opened]) lines
  | crashed {reports : List Report} {lines : List Bytes} (before : History reports lines) :
      History (reports ++ [.crashed]) lines

/-- The segment has its header and whole lines, and its length is that of its file. -/
structure Holds (disk : Disk Path) (segment : Segment) (written : Written) : Prop where
  id : segment.id = written.id
  content : disk.content segment.path = some written.text
  length : segment.length = written.text.length
  lines : ∀ line ∈ written.lines, IsLine line

/-- The segments hold the last of the lines. -/
def Retains (disk : Disk Path) (store : Store) (lines : List Bytes) : Prop :=
  ∃ kept : List Written,
    List.Forall₂ (Holds disk) store.segments kept ∧ kept.flatMap Written.lines <:+ lines

variable {segmentIdOf} {rotated : List Written} {active : Written} {history : List Bytes}

theorem crashing_crashing (crash : Option (Site × Nat)) : Crashing (crashing crash) := by
  intro hit found
  rcases Option.map_eq_some_iff.mp found with ⟨_, -, rfl⟩
  rfl

/-! ## One append -/

section Append

variable {line : Bytes} {id : Uuid} {time : UInt64} {fault : Option (Fault Site)}
  {ended : Ended Unit} {after : Shelf} {length count : Nat} {world target : World}

theorem roomFor_shelfOf {store : Store} (line : Bytes)
    (sound : Sound segmentIdOf (rotated ++ [active]) history)
    (fresh : id ∉ (rotated ++ [active]).map Written.id) (reads : Reads segmentIdOf id time)
    (bounded : rotated.length ≤ store.backups) :
    ∃ behind front, (shelfOf rotated active).roomFor store line id (headerLine id time) =
        shelfOf behind front ∧
      Sound segmentIdOf (behind ++ [front]) history ∧ behind.length ≤ store.backups := by
  simp only [Shelf.roomFor]
  split
  · rw [shelfOf_start_header, shelfOf_drop]
    refine ⟨_, _, rfl, (sound.start fresh reads).drop _, ?_⟩
    simp only [List.length_drop, List.length_append, List.length_singleton, Shelf.excess, shelfOf,
      List.length_map]
    omega
  · exact ⟨rotated, active, rfl, sound, bounded⟩

/-- A rotation that is cut short leaves whole segments and at most a part of a header. -/
theorem Rotated.down
    (turned : Rotated (shelfOf rotated active) id (headerLine id time) count fault ended after length)
    (crashing : Crashing fault) (stopped : ended ≠ .returned ())
    (sound : Sound segmentIdOf (rotated ++ [active]) history)
    (fresh : id ∉ (rotated ++ [active]).map Written.id) (reads : Reads segmentIdOf id time)
    (keeps : Keeps True target after length count) :
    ended = .crashed ∧ Down segmentIdOf target.disk history := by
  have started := sound.start fresh reads
  cases turned with
  | unmoved => exact ⟨crashing.ended, keeps.down sound⟩
  | renamed =>
      refine ⟨crashing.ended, rotated ++ [active], none, [], keeps.directory_renamed, ?_⟩
      rw [Option.toList_none, List.append_nil]
      exact sound
  | torn cut left =>
      refine ⟨crashing.ended, ?_⟩
      rcases (isLine_headerLine id time).take left with torn | whole
      · rw [shelfOf_start] at keeps
        exact ⟨rotated ++ [active], none, _, keeps.directory rfl torn, by simpa using sound⟩
      · rw [whole, shelfOf_start_header] at keeps
        exact keeps.down started
  | unsynced =>
      rw [shelfOf_start_header] at keeps
      exact ⟨crashing.ended, keeps.down started⟩
  | pruning =>
      rw [shelfOf_start_header, shelfOf_drop] at keeps
      exact ⟨crashing.ended, keeps.down (started.drop _)⟩
  | rotated => exact absurd rfl stopped

/-- An append adds its line, or the machine stops before or after it did. -/
theorem append_running (running : Running segmentIdOf world history) (isLine : IsLine line)
    (fresh : id ∉ world.store.segments.map Segment.id) (reads : Reads segmentIdOf id time)
    (crashing : Crashing fault) (ran : append line id time fault world = (ended, target)) :
    (ended = .returned () ∧ Running segmentIdOf target (history ++ [line])) ∨
      (ended = .crashed ∧ (Down segmentIdOf target.disk history ∨
        Down segmentIdOf target.disk (history ++ [line]))) := by
  rcases running with ⟨rotated, active, keeps, sound, bounded⟩
  have freshToo : id ∉ (shelfOf rotated active).ids := by
    rwa [← keeps.same.ids]
  rcases append_spec keeps freshToo ran with ⟨after, length, appended, kept⟩
  rw [ids_shelfOf] at freshToo
  rcases roomFor_shelfOf line sound freshToo reads bounded with
    ⟨behind, front, room, soundToo, boundedToo⟩
  cases appended with
  | rotating _ stopped turned =>
      rcases turned.down crashing stopped sound freshToo reads kept with ⟨rfl, down⟩
      exact .inr ⟨rfl, .inl down⟩
  | placing =>
      rw [room] at kept
      exact .inr ⟨crashing.ended, .inl (kept.down soundToo)⟩
  | restored => cases crashing _ rfl
  | torn left =>
      rw [room] at kept
      refine .inr ⟨rfl, ?_⟩
      rcases isLine.take left with torn | whole
      · exact .inl ⟨behind, some front, _, kept.directory rfl torn, soundToo⟩
      · rw [whole, shelfOf_push] at kept
        exact .inr (kept.down (soundToo.push isLine))
  | unsynced =>
      rw [room, shelfOf_push] at kept
      exact .inr ⟨rfl, .inr (kept.down (soundToo.push isLine))⟩
  | appended =>
      rw [room, shelfOf_push] at kept
      refine .inl ⟨rfl, behind, front.push line, ?_, soundToo.push isLine, ?_⟩
      · rw [kept.backups]
        exact kept
      · rw [kept.backups]
        exact boundedToo

end Append

/-! ## Runs -/

theorem down_empty : Down segmentIdOf Disk.empty [] := by
  refine ⟨[], none, [], ⟨?_, ?_, List.Pairwise.nil, rfl, List.not_mem_nil, ?_⟩, ?_⟩
  · exact List.forall_mem_nil _
  · intro id present
    contradiction
  · intro path time stamped
    contradiction
  · exact ⟨List.forall_mem_nil _, List.forall_mem_nil _, List.nodup_nil, List.nil_suffix⟩

/-- The open store retains the last lines. -/
theorem Running.retains {store : Store} {disk : Disk Path}
    (running : Running segmentIdOf ⟨store, disk⟩ history) :
    Retains disk store history ∧ store.segments.length ≤ store.backups + 1 := by
  rcases running with ⟨rotated, active, keeps, sound, bounded⟩
  have rotatedEq : store.rotated = (rotated.map Written.shelved).map backupOf := keeps.same.rotated
  constructor
  · refine ⟨rotated ++ [active], ?_, sound.recent⟩
    refine List.rel_append ?_ (.cons ?_ .nil)
    · rw [rotatedEq, List.map_map, List.forall₂_map_left_iff, List.forall₂_same]
      intro written member
      exact ⟨rfl, keeps.same.backups _ (List.mem_map_of_mem member), rfl,
        sound.lines written (List.mem_append_left _ member)⟩
    · refine ⟨keeps.same.id, ?_, keeps.active, sound.lines active (by simp)⟩
      have path : store.active.path = .active := keeps.same.path
      rw [path]
      exact keeps.same.front
  · simp only [Store.segments, List.length_append, List.length_singleton, rotatedEq,
      List.length_map]
    exact Nat.succ_le_succ bounded

variable (segmentIdOf) in
/-- What every run keeps. -/
def NodeInvariant (reports : List Report) (node : Node) : Prop :=
  .failed ∉ reports ∧ ∃ lines, History reports lines ∧
    match node.store with
    | none => Down segmentIdOf node.disk lines
    | some store => Running segmentIdOf ⟨store, node.disk⟩ lines

theorem NodeInvariant.step (blank : segmentIdOf [] = none) {reports : List Report}
    {node target : Node} {event : Event} {report : Report}
    (invariant : NodeInvariant segmentIdOf reports node)
    (admissible : Admissible segmentIdOf node event)
    (stepped : nodeNext segmentIdOf node event = some (report, target)) :
    NodeInvariant segmentIdOf (reports ++ [report]) target := by
  rcases invariant with ⟨sound, lines, recorded, state⟩
  have succeeds {report : Report} (other : report ≠ .failed) : .failed ∉ reports ++ [report] := by
    rw [List.mem_append, List.mem_singleton]
    rintro (member | rfl)
    · exact sound member
    · exact other rfl
  simp only [nodeNext] at stepped
  split at stepped
  · rename_i listing newId time backups rotateBytes crash closed
    rw [closed] at state
    rcases admissible with ⟨listed, reads⟩
    split at stepped
    · contradiction
    rename_i fresh
    rcases opening : openStore segmentIdOf listing newId time backups rotateBytes (crashing crash)
      node.disk with ⟨ended, disk⟩
    rw [opening] at stepped
    rcases openStore_spec (crashing_crashing crash) blank state listed fresh reads opening with
      ⟨rfl, down⟩ | ⟨store, rfl, running⟩
    · cases stepped
      exact ⟨succeeds nofun, lines, .crashed recorded, down⟩
    · cases stepped
      exact ⟨succeeds nofun, lines, .opened recorded, running⟩
  · rename_i store line id time crash open_
    rw [open_] at state
    rcases admissible with ⟨isLine, reads⟩
    split at stepped
    · contradiction
    rename_i fresh
    rcases appending : append line id time (crashing crash) ⟨store, node.disk⟩ with ⟨ended, world⟩
    rw [appending] at stepped
    rcases append_running state isLine fresh reads (crashing_crashing crash) appending with
      ⟨rfl, running⟩ | ⟨rfl, down⟩
    · cases stepped
      exact ⟨succeeds nofun, _, .appended line recorded, running⟩
    · cases stepped
      refine ⟨succeeds nofun, ?_⟩
      rcases down with lost | saved
      · exact ⟨lines, .lost line recorded, lost⟩
      · exact ⟨_, .saved line recorded, saved⟩
  · rename_i store open_
    rw [open_] at state
    cases stepped
    rcases state with ⟨rotated, active, keeps, whole, -⟩
    exact ⟨succeeds nofun, lines, .crashed recorded, keeps.down whole⟩
  · contradiction

theorem nodeInvariant_of_run (blank : segmentIdOf [] = none) {events : List Event}
    {reports : List Report} {node : Node}
    (admissible : Along (nodeNext segmentIdOf) (Admissible segmentIdOf) Node.start events)
    (run : execute (nodeNext segmentIdOf) Node.start events = some (reports, node)) :
    NodeInvariant segmentIdOf reports node :=
  execute_history (NodeInvariant segmentIdOf)
    (fun _ _ _ _ _ invariant admissible stepped => invariant.step blank admissible stepped) []
    ⟨List.not_mem_nil, [], .start, down_empty⟩ admissible run

/-- In every run, with a crash at any step of any append or opening: no opening and no
append fails, an open store has at most one segment more than its backups, each
segment has its header and whole lines and its recorded length, and the lines of the
segments are the last of those appended and of at most one in progress at each crash. -/
theorem audit_survives_crashes (blank : segmentIdOf [] = none) {events : List Event}
    {reports : List Report} {node : Node}
    (admissible : Along (nodeNext segmentIdOf) (Admissible segmentIdOf) Node.start events)
    (run : execute (nodeNext segmentIdOf) Node.start events = some (reports, node)) :
    .failed ∉ reports ∧
      (∀ store, node.store = some store →
        store.segments.length ≤ store.backups + 1 ∧
          ∃ lines, History reports lines ∧ Retains node.disk store lines) ∧
      ∀ content : Bytes,
        TailAt content content.length (completeTailLength content content.length) := by
  rcases nodeInvariant_of_run blank admissible run with ⟨sound, lines, recorded, state⟩
  refine ⟨sound, ?_, completeTailLength_spec⟩
  intro store open_
  rw [open_] at state
  rcases Running.retains state with ⟨retains, bounded⟩
  exact ⟨bounded, lines, recorded, retains⟩

/-- An open store knows the listing of its directory. -/
theorem Running.listed {store : Store} {disk : Disk Path}
    (running : Running segmentIdOf ⟨store, disk⟩ history) :
    Listed disk (store.rotated.map Segment.id) := by
  rcases running with ⟨rotated, active, keeps, sound, -⟩
  have ids : store.rotated.map Segment.id = rotated.map Written.id := by
    rw [keeps.same.rotated]
    simp [shelfOf, backupOf, Written.shelved]
  have directory : Directory disk rotated (some active) [] :=
    Keeps.directory keeps (List.append_nil _).symm List.not_mem_nil
  rw [ids]
  refine ⟨sound.distinct.sublist ((List.sublist_append_left _ _).map _), ?_⟩
  intro id
  constructor
  · intro member
    rcases List.mem_map.mp member with ⟨written, held, rfl⟩
    rcases directory.isSome_of_mem held with ⟨entry, found, -⟩
    rw [found]
    rfl
  · exact directory.only id

end Runs

/-! ## A crash after a rotation -/

/-- The identifier at its place in the headers of the program. -/
def segmentIdAt (text : Bytes) : Option Uuid :=
  if text.length < 68 then none
  else
    some (BitVec.ofNat 128 (((text.drop 32).take 36).foldl
      (fun value byte =>
        if byte = 0x2d then value
        else value * 16 + (byte.toNat - if byte ≤ 0x39 then 0x30 else 0x57)) 0))

/-- A long line, and one for which the segment has no room. -/
def rotatedEvents : List Event :=
  [.openStore [] 1 5 1 300 none, .append (List.replicate 299 0x78 ++ [newline]) 2 6 none,
    .append [0x79, newline] 2 7 none]

/-- The machine stops, and the next server appends. -/
def reopenedEvents : List Event :=
  [.crash, .openStore [1] 3 8 1 300 none, .append [0x7a, newline] 4 9 none]

theorem along_rotatedEvents :
    Along (nodeNext segmentIdAt) (Admissible segmentIdAt) Node.start rotatedEvents := by
  refine ⟨⟨⟨List.nodup_nil, ?_⟩, by decide +kernel⟩, fun _ _ _ => ⟨⟨?_, by decide +kernel⟩,
    fun _ _ _ => ⟨⟨?_, by decide +kernel⟩, fun _ _ _ => trivial⟩⟩⟩
  · intro id
    exact iff_of_false List.not_mem_nil Bool.false_ne_true
  · exact ⟨List.replicate 299 0x78, by decide, rfl⟩
  · exact ⟨[0x79], by decide, rfl⟩

theorem audit_survives_crashes_reopened :
    ∃ reports node store lines,
      execute (nodeNext segmentIdAt) Node.start (rotatedEvents ++ reopenedEvents) =
          some (reports, node) ∧
        node.store = some store ∧ store.segments.length ≤ store.backups + 1 ∧
        History reports lines ∧ Retains node.disk store lines := by
  have first : ((execute (nodeNext segmentIdAt) Node.start rotatedEvents).any fun result =>
      result.2.store.any fun store => store.rotated.map Segment.id = [1]) = true := by
    decide +kernel
  have second : ((execute (nodeNext segmentIdAt) Node.start
      (rotatedEvents ++ reopenedEvents)).any fun result => result.2.store.isSome) = true := by
    decide +kernel
  rcases (Option.any_eq_true _ _).mp first with ⟨⟨earlier, disk, holds⟩, toMiddle, rotated⟩
  rcases (Option.any_eq_true _ _).mp rotated with ⟨held, opened, ids⟩
  cases opened
  rcases (Option.any_eq_true _ _).mp second with ⟨⟨reports, node⟩, run, reopened⟩
  rcases Option.isSome_iff_exists.mp reopened with ⟨store, open_⟩
  rcases nodeInvariant_of_run rfl along_rotatedEvents toMiddle with ⟨-, lines, -, state⟩
  have listed : Listed disk [1] := by
    rw [← of_decide_eq_true ids]
    exact Running.listed state
  have onward : Along (nodeNext segmentIdAt) (Admissible segmentIdAt) ⟨disk, some held⟩
      reopenedEvents := by
    refine ⟨trivial, ?_⟩
    rintro report down ⟨⟩
    exact ⟨⟨listed, by decide +kernel⟩, fun _ _ _ =>
      ⟨⟨⟨[0x7a], by decide, rfl⟩, by decide +kernel⟩, fun _ _ _ => trivial⟩⟩
  rcases audit_survives_crashes rfl (Along.append toMiddle along_rotatedEvents onward) run with
    ⟨-, retained, -⟩
  rcases retained store open_ with ⟨bounded, lines, recorded, retains⟩
  exact ⟨reports, node, store, lines, run, open_, bounded, recorded, retains⟩

end X64dbgMcp.Audit
