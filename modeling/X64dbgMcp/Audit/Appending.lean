import X64dbgMcp.Audit.Shelf

/-!
# What an append does

The specification of each program of the store on the shelf behind it: where a
fault leaves the shelf, and which length is then recorded for the active segment.
-/

namespace X64dbgMcp.Audit

open Files Text
open Ipc (Uuid)

/-- The world keeps the shelf, with this length recorded for the active segment.  A
strict world has no other backups, and its files are in order. -/
structure Keeps (strict : Prop) (world : World) (shelf : Shelf) (recorded backups : Nat) :
    Prop where
  same : Matches world shelf
  filed : strict → Filed world.disk shelf
  active : world.store.active.length = recorded
  backups : world.store.backups = backups

namespace Keeps

variable {strict : Prop} {world : World} {shelf : Shelf} {recorded backups : Nat}

theorem writeFile (keeps : Keeps strict world shelf recorded backups) (data : Bytes) :
    Keeps strict (world.writeFile data) (shelf.push data) recorded backups :=
  ⟨keeps.same.writeFile data, fun demanded => ((keeps.filed demanded).change keeps.same _).push data,
    keeps.active, keeps.backups⟩

theorem restore {data : Bytes} (keeps : Keeps strict world (shelf.push data) recorded backups) :
    Keeps strict ((world.setLength shelf.active.2.length).seek shelf.active.2.length) shelf recorded
      backups :=
  ⟨keeps.same.restore, fun demanded => ((keeps.filed demanded).change keeps.same _).of_push,
    keeps.active, keeps.backups⟩

theorem setActiveLength (keeps : Keeps strict world shelf recorded backups) (length : Nat) :
    Keeps strict (world.setActiveLength length) shelf length backups :=
  ⟨keeps.same.setActiveLength length, keeps.filed, rfl, keeps.backups⟩

theorem countLine (keeps : Keeps strict world shelf recorded backups) (line : Bytes) :
    Keeps strict (world.countLine line) shelf (recorded + line.length) backups := by
  refine ⟨keeps.same.countLine line, ?_, ?_, ?_⟩
  · simp only [World.countLine]
    split <;> exact keeps.filed
  · simp only [World.countLine, World.setActiveLength, keeps.active]
  · simp only [World.countLine]
    split <;> exact keeps.backups

theorem renameActive (keeps : Keeps strict world shelf recorded backups) :
    Keeps strict world.renameActive shelf.rename recorded backups :=
  ⟨keeps.same.renameActive, fun demanded => (keeps.filed demanded).renameActive keeps.same,
    keeps.active, keeps.backups⟩

theorem createActive (keeps : Keeps strict world shelf shelf.active.2.length backups)
    (renamed : shelf.renamed = true) {id : Uuid} (fresh : id ∉ shelf.ids) :
    Keeps strict (world.createActive id) (shelf.start id []) 0 backups :=
  ⟨keeps.same.createActive keeps.active renamed fresh,
    fun demanded => (keeps.filed demanded).createActive renamed id, rfl, keeps.backups⟩

theorem removeOldest (keeps : Keeps strict world shelf recorded backups) {first : Uuid × Bytes}
    {rest : List (Uuid × Bytes)} (rotated : shelf.rotated = first :: rest) :
    Keeps strict world.removeOldest (shelf.drop 1) recorded backups := by
  refine ⟨keeps.same.removeOldest rotated,
    fun demanded => (keeps.filed demanded).removeOldest keeps.same rotated, ?_, ?_⟩
  · simp only [World.removeOldest, keeps.same.segments_cons rotated]
    exact keeps.active
  · simp only [World.removeOldest, keeps.same.segments_cons rotated]
    exact keeps.backups

end Keeps

variable {strict : Prop} {world target : World} {shelf : Shelf} {recorded backups : Nat}
  {fault : Option (Fault Site)} {ended : Ended Unit}

/-- A header is written to an empty segment, and the program goes on. -/
theorem writeHeader_spec {α : Type} {next : Unit → Action α} {ended : Ended α} {time : UInt64}
    (keeps : Keeps strict world shelf 0 backups)
    (ran : (writeHeader time >>= next) fault world = (ended, target)) :
    (∃ cut left, fault = some ⟨.headerWrite, cut, left⟩ ∧ ended = cut.ended ∧
        Keeps strict target (shelf.push ((headerLine shelf.active.1 time).take left)) 0 backups) ∨
      (∃ cut left, fault = some ⟨.headerSync, cut, left⟩ ∧ ended = cut.ended ∧
        Keeps strict target (shelf.push (headerLine shelf.active.1 time)) 0 backups) ∨
      (Spared fault .headerWrite ∧ Spared fault .headerSync ∧
        ∃ middle, next () fault middle = (ended, target) ∧
          Keeps strict middle (shelf.push (headerLine shelf.active.1 time))
            (headerLine shelf.active.1 time).length backups) := by
  have id : world.store.active.id = shelf.active.1 := keeps.same.id
  simp only [writeHeader, Program.bind_assoc] at ran
  rw [Program.bind_of_returned rfl, id] at ran
  rcases Program.step_bind_eq rfl ran with ⟨cut, left, rfl, rfl, rfl⟩ | ⟨written, ran⟩
  · exact .inl ⟨cut, left, rfl, rfl, keeps.writeFile _⟩
  · rcases Program.step_bind_eq rfl ran with ⟨cut, left, rfl, rfl, rfl⟩ | ⟨synced, ran⟩
    · exact .inr (.inl ⟨cut, left, rfl, rfl, keeps.writeFile _⟩)
    · rw [Program.bind_of_returned rfl] at ran
      exact .inr (.inr ⟨written, synced, _, ran, (keeps.writeFile _).setActiveLength _⟩)

/-- The oldest segments go while there are more than the backups. -/
theorem prune_spec {index : Nat} {segments : List Segment}
    (keeps : Keeps strict world shelf recorded backups)
    (current : segments.length = shelf.rotated.length)
    (ran : prune index segments fault world = (ended, target)) :
    (∃ count cut left, fault = some ⟨.remove (index + count), cut, left⟩ ∧
        count < shelf.rotated.length - backups ∧ ended = cut.ended ∧
        Keeps strict target (shelf.drop count) recorded backups) ∨
      ((∀ count, count < shelf.rotated.length - backups → Spared fault (.remove (index + count))) ∧
        ended = .returned () ∧
        Keeps strict target (shelf.drop (shelf.rotated.length - backups)) recorded backups) := by
  induction segments generalizing index world shelf with
  | nil =>
      cases ran
      have none : shelf.rotated.length - backups = 0 := by simp [← current]
      refine .inr ⟨?_, rfl, ?_⟩
      · intro count below
        omega
      · rw [none]
        exact keeps
  | cons segment rest ih =>
      simp only [prune] at ran
      rw [Program.bind_of_returned rfl, keeps.backups] at ran
      rcases List.length_eq_succ_iff.mp current.symm with ⟨first, others, rotated, othersLength⟩
      split at ran
      · rename_i more
        have positive : 0 < shelf.rotated.length - backups := by
          rw [List.length_cons] at current
          omega
        rcases Program.step_bind_eq (keeps.same.canRemove rotated.symm) ran with
          ⟨cut, left, rfl, rfl, rfl⟩ | ⟨spared, ran⟩
        · exact .inl ⟨0, cut, left, rfl, positive, rfl, keeps⟩
        · have shorter : (shelf.drop 1).rotated.length = shelf.rotated.length - 1 := by
            simp [Shelf.drop]
          rcases ih (keeps.removeOldest rotated.symm) (by rw [shorter, ← current]; rfl) ran with
            ⟨count, cut, left, rfl, below, rfl, kept⟩ | ⟨rest_spared, rfl, kept⟩
          · rw [shorter] at below
            rw [Shelf.drop_drop] at kept
            refine .inl ⟨1 + count, cut, left, ?_, ?_, rfl, kept⟩
            · rw [Nat.add_assoc]
            · omega
          · rw [shorter, Shelf.drop_drop] at kept
            have total : 1 + (shelf.rotated.length - 1 - backups) =
                shelf.rotated.length - backups := by omega
            rw [total] at kept
            refine .inr ⟨?_, rfl, kept⟩
            intro count below
            cases count with
            | zero => exact spared
            | succ count =>
                rw [shorter] at rest_spared
                have later := rest_spared count (by omega)
                rwa [Nat.add_assoc, Nat.add_comm 1 count] at later
      · rename_i enough
        cases ran
        have none : shelf.rotated.length - backups = 0 := by
          rw [List.length_cons] at current
          omega
        refine .inr ⟨?_, rfl, ?_⟩
        · intro count below
          omega
        · rw [none]
          exact keeps

/-- How many segments a new one drives out. -/
def Shelf.excess (shelf : Shelf) (backups : Nat) : Nat :=
  shelf.rotated.length + 1 - backups

/-- The shelf after a rotation, and the length recorded for its active segment. -/
inductive Rotated (shelf : Shelf) (id : Uuid) (header : Bytes) (backups : Nat) :
    Option (Fault Site) → Ended Unit → Shelf → Nat → Prop where
  | unmoved {site : Site} (cut : Cut) (left : Nat) (early : site = .rotationSync ∨ site = .rename) :
      Rotated shelf id header backups (some ⟨site, cut, left⟩) cut.ended shelf shelf.active.2.length
  | renamed (cut : Cut) (left : Nat) :
      Rotated shelf id header backups (some ⟨.createNew, cut, left⟩) cut.ended shelf.rename
        shelf.active.2.length
  | torn (cut : Cut) (left : Nat) :
      Rotated shelf id header backups (some ⟨.headerWrite, cut, left⟩) cut.ended
        (shelf.start id (header.take left)) 0
  | unsynced (cut : Cut) (left : Nat) :
      Rotated shelf id header backups (some ⟨.headerSync, cut, left⟩) cut.ended
        (shelf.start id header) 0
  | pruning {index : Nat} (cut : Cut) (left : Nat) (more : index < shelf.excess backups) :
      Rotated shelf id header backups (some ⟨.remove index, cut, left⟩) cut.ended
        ((shelf.start id header).drop index) header.length
  | rotated {fault : Option (Fault Site)} (sync : Spared fault .rotationSync)
      (rename : Spared fault .rename) (create : Spared fault .createNew)
      (write : Spared fault .headerWrite) (headerSync : Spared fault .headerSync)
      (remove : ∀ index, index < shelf.excess backups → Spared fault (.remove index)) :
      Rotated shelf id header backups fault (.returned ())
        ((shelf.start id header).drop (shelf.excess backups)) header.length

theorem rotate_spec {id : Uuid} {time : UInt64}
    (keeps : Keeps strict world shelf shelf.active.2.length backups) (fresh : id ∉ shelf.ids)
    (ran : rotate id time fault world = (ended, target)) :
    ∃ after length, Rotated shelf id (headerLine id time) backups fault ended after length ∧
      Keeps strict target after length backups := by
  simp only [rotate] at ran
  rcases Program.step_bind_eq rfl ran with ⟨cut, left, rfl, rfl, rfl⟩ | ⟨sync, ran⟩
  · exact ⟨_, _, .unmoved cut left (.inl rfl), keeps⟩
  rcases Program.step_bind_eq keeps.same.canRename ran with ⟨cut, left, rfl, rfl, rfl⟩ | ⟨rename, ran⟩
  · exact ⟨_, _, .unmoved cut left (.inr rfl), keeps⟩
  have moved := keeps.renameActive
  rcases Program.step_bind_eq (moved.same.canCreate rfl) ran with
    ⟨cut, left, rfl, rfl, rfl⟩ | ⟨create, ran⟩
  · exact ⟨_, _, .renamed cut left, moved⟩
  have opened : Keeps strict (world.renameActive.createActive id) (shelf.start id []) 0 backups :=
    moved.createActive rfl fresh
  rcases writeHeader_spec opened ran with ⟨cut, left, rfl, rfl, kept⟩ | ⟨cut, left, rfl, rfl, kept⟩ |
    ⟨write, headerSync, middle, ran, kept⟩
  · rw [Shelf.start_push] at kept
    exact ⟨_, _, .torn cut left, kept⟩
  · rw [Shelf.start_push] at kept
    exact ⟨_, _, .unsynced cut left, kept⟩
  have kept : Keeps strict middle (shelf.start id (headerLine id time)) (headerLine id time).length
      backups := by
    rw [Shelf.start_push] at kept
    exact kept
  have excess : (shelf.start id (headerLine id time)).rotated.length - backups =
      shelf.excess backups := by
    simp [Shelf.start, Shelf.texts, Shelf.excess]
  rw [Program.bind_of_returned rfl] at ran
  rcases prune_spec kept kept.same.length_rotated ran with
    ⟨count, cut, left, rfl, more, rfl, pruned⟩ | ⟨remove, rfl, pruned⟩
  · rw [Nat.zero_add]
    rw [excess] at more
    exact ⟨_, _, .pruning cut left more, pruned⟩
  · simp only [excess, Nat.zero_add] at remove pruned
    exact ⟨_, _, .rotated sync rename create write headerSync remove, pruned⟩

/-- A line that cannot be written whole is taken back, unless the machine stops. -/
theorem writeLine_spec {line : Bytes} {start : Nat} (keeps : Keeps strict world shelf recorded backups)
    (atEnd : start = shelf.active.2.length)
    (ran : writeLine line start fault world = (ended, target)) :
    (∃ site left, (site = .lineWrite ∨ site = .lineSync) ∧ fault = some ⟨site, .fails, left⟩ ∧
        ended = .failed ∧ Keeps strict target shelf recorded backups) ∨
      (∃ left, fault = some ⟨.lineWrite, .crashes, left⟩ ∧ ended = .crashed ∧
        Keeps strict target (shelf.push (line.take left)) recorded backups) ∨
      (∃ left, fault = some ⟨.lineSync, .crashes, left⟩ ∧ ended = .crashed ∧
        Keeps strict target (shelf.push line) recorded backups) ∨
      (Spared fault .lineWrite ∧ Spared fault .lineSync ∧ ended = .returned () ∧
        Keeps strict target (shelf.push line) recorded backups) := by
  subst atEnd
  simp only [writeLine] at ran
  rcases Program.orElse_eq ran with ⟨wrote, notFailed⟩ | ⟨middle, wrote, restored⟩
  · rcases Program.step_bind_eq rfl wrote with ⟨cut, left, rfl, rfl, rfl⟩ | ⟨written, wrote⟩
    · cases cut with
      | fails => exact absurd rfl notFailed
      | crashes => exact .inr (.inl ⟨left, rfl, rfl, keeps.writeFile _⟩)
    · rcases Program.step_eq wrote with ⟨cut, left, rfl, rfl, rfl⟩ | ⟨refused, -, -⟩ |
        ⟨synced, -, rfl, rfl⟩
      · cases cut with
        | fails => exact absurd rfl notFailed
        | crashes => exact .inr (.inr (.inl ⟨left, rfl, rfl, keeps.writeFile _⟩))
      · contradiction
      · exact .inr (.inr (.inr ⟨written, synced, rfl, keeps.writeFile _⟩))
  · -- The fault is spent, so the file is restored whole.
    have back {site : Site} {left : Nat} {data : Bytes}
        (faultEq : fault = some ⟨site, .fails, left⟩)
        (elsewhere : site = .lineWrite ∨ site = .lineSync)
        (torn : Keeps strict middle (shelf.push data) recorded backups) :
        ended = .failed ∧ Keeps strict target shelf recorded backups := by
      have spared : Spared fault .restoreLength ∧ Spared fault .restorePosition := by
        rw [faultEq]
        rcases elsewhere with rfl | rfl <;>
          exact ⟨spared_of_ne (by decide), spared_of_ne (by decide)⟩
      rcases Program.step_bind_eq rfl restored with ⟨cut, left, here, -⟩ | ⟨-, restored⟩
      · exact absurd here (spared.1 cut left)
      rcases Program.step_bind_eq rfl restored with ⟨cut, left, here, -⟩ | ⟨-, restored⟩
      · exact absurd here (spared.2 cut left)
      cases restored
      exact ⟨rfl, torn.restore⟩
    rcases Program.step_bind_eq rfl wrote with ⟨cut, left, rfl, endedEq, rfl⟩ | ⟨-, wrote⟩
    · cases cut with
      | fails => exact .inl ⟨_, left, .inl rfl, rfl, back rfl (.inl rfl) (keeps.writeFile _)⟩
      | crashes => contradiction
    · rcases Program.step_eq wrote with ⟨cut, left, rfl, endedEq, rfl⟩ | ⟨refused, -, -⟩ |
        ⟨-, -, endedEq, -⟩
      · cases cut with
        | fails => exact .inl ⟨_, left, .inr rfl, rfl, back rfl (.inr rfl) (keeps.writeFile _)⟩
        | crashes => contradiction
      · contradiction
      · contradiction

/-- The shelf that takes the line. -/
def Shelf.roomFor (shelf : Shelf) (store : Store) (line : Bytes) (id : Uuid) (header : Bytes) :
    Shelf :=
  if store.rotates line then (shelf.start id header).drop (shelf.excess store.backups) else shelf

/-- The shelf after an append, and the length recorded for its active segment. -/
inductive Appended (store : Store) (shelf : Shelf) (line : Bytes) (id : Uuid) (header : Bytes) :
    Option (Fault Site) → Ended Unit → Shelf → Nat → Prop where
  /-- The rotation is cut short. -/
  | rotating {fault : Option (Fault Site)} {ended : Ended Unit} {after : Shelf} {length : Nat}
      (due : store.rotates line = true) (stopped : ended ≠ .returned ())
      (rotated : Rotated shelf id header store.backups fault ended after length) :
      Appended store shelf line id header fault ended after length
  | placing (cut : Cut) (left : Nat) :
      Appended store shelf line id header (some ⟨.position, cut, left⟩) cut.ended
        (shelf.roomFor store line id header)
        (shelf.roomFor store line id header).active.2.length
  | restored {site : Site} (left : Nat) (late : site = .lineWrite ∨ site = .lineSync) :
      Appended store shelf line id header (some ⟨site, .fails, left⟩) .failed
        (shelf.roomFor store line id header)
        (shelf.roomFor store line id header).active.2.length
  | torn (left : Nat) :
      Appended store shelf line id header (some ⟨.lineWrite, .crashes, left⟩) .crashed
        ((shelf.roomFor store line id header).push (line.take left))
        (shelf.roomFor store line id header).active.2.length
  | unsynced (left : Nat) :
      Appended store shelf line id header (some ⟨.lineSync, .crashes, left⟩) .crashed
        ((shelf.roomFor store line id header).push line)
        (shelf.roomFor store line id header).active.2.length
  | appended {fault : Option (Fault Site)}
      (room : store.rotates line = true →
        Rotated shelf id header store.backups fault (.returned ())
          (shelf.roomFor store line id header)
          (shelf.roomFor store line id header).active.2.length)
      (position : Spared fault .position) (write : Spared fault .lineWrite)
      (sync : Spared fault .lineSync) :
      Appended store shelf line id header fault (.returned ())
        ((shelf.roomFor store line id header).push line)
        ((shelf.roomFor store line id header).push line).active.2.length

theorem makeRoom_spec {line : Bytes} {id : Uuid} {time : UInt64}
    (keeps : Keeps strict world shelf shelf.active.2.length world.store.backups) (fresh : id ∉ shelf.ids)
    (ran : makeRoom line id time fault world = (ended, target)) :
    (world.store.rotates line = true ∧ ended ≠ .returned () ∧ ∃ after length,
        Rotated shelf id (headerLine id time) world.store.backups fault ended after length ∧
          Keeps strict target after length world.store.backups) ∨
      (ended = .returned () ∧
        Keeps strict target (shelf.roomFor world.store line id (headerLine id time))
          (shelf.roomFor world.store line id (headerLine id time)).active.2.length
          world.store.backups ∧
        (world.store.rotates line = true →
          Rotated shelf id (headerLine id time) world.store.backups fault (.returned ())
            (shelf.roomFor world.store line id (headerLine id time))
            (shelf.roomFor world.store line id (headerLine id time)).active.2.length)) := by
  simp only [makeRoom] at ran
  rw [Program.bind_of_returned rfl] at ran
  split at ran
  · rename_i due
    rcases rotate_spec keeps fresh ran with ⟨after, length, rotated, kept⟩
    by_cases stopped : ended = .returned ()
    · subst stopped
      have room : after = shelf.roomFor world.store line id (headerLine id time) ∧
          length = (shelf.roomFor world.store line id (headerLine id time)).active.2.length := by
        simp only [Shelf.roomFor, due, if_true]
        generalize endedEq : Ended.returned () = stopped at rotated
        cases rotated with
        | rotated => exact ⟨rfl, rfl⟩
        | unmoved cut => cases cut <;> contradiction
        | renamed cut => cases cut <;> contradiction
        | torn cut => cases cut <;> contradiction
        | unsynced cut => cases cut <;> contradiction
        | pruning cut => cases cut <;> contradiction
      rcases room with ⟨rfl, rfl⟩
      exact .inr ⟨rfl, kept, fun _ => rotated⟩
    · exact .inl ⟨due, stopped, after, length, rotated, kept⟩
  · rename_i stays
    cases ran
    refine .inr ⟨rfl, ?_, fun due => absurd due stays⟩
    simp only [Shelf.roomFor, stays]
    exact keeps

theorem append_spec {line : Bytes} {id : Uuid} {time : UInt64}
    (keeps : Keeps strict world shelf shelf.active.2.length world.store.backups) (fresh : id ∉ shelf.ids)
    (ran : append line id time fault world = (ended, target)) :
    ∃ after length, Appended world.store shelf line id (headerLine id time) fault ended after length ∧
      Keeps strict target after length world.store.backups := by
  simp only [append] at ran
  rcases Program.bind_eq ran with ⟨_, middle, made, ran⟩ | ⟨made, rfl⟩ | ⟨made, rfl⟩
  · rcases makeRoom_spec keeps fresh made with ⟨-, stopped, -⟩ | ⟨-, kept, room⟩
    · exact absurd rfl stopped
    simp only [placeLine] at ran
    rcases Program.step_bind_eq rfl ran with ⟨cut, left, rfl, rfl, rfl⟩ | ⟨position, ran⟩
    · exact ⟨_, _, .placing cut left, kept⟩
    rw [Program.bind_of_returned rfl] at ran
    have atEnd : middle.store.file.position =
        (shelf.roomFor world.store line id (headerLine id time)).active.2.length := by
      rw [kept.same.file]
    rcases Program.bind_eq ran with ⟨_, written, wrote, ran⟩ | ⟨wrote, rfl⟩ | ⟨wrote, rfl⟩
    · cases ran
      rcases writeLine_spec kept atEnd wrote with ⟨_, _, -, -, endedEq, -⟩ | ⟨_, -, endedEq, -⟩ |
        ⟨_, -, endedEq, -⟩ | ⟨write, sync, -, placed⟩
      · contradiction
      · contradiction
      · contradiction
      · refine ⟨_, _, .appended room position write sync, ?_⟩
        have counted := placed.countLine line
        simpa only [Shelf.push, List.length_append] using counted
    · rcases writeLine_spec kept atEnd wrote with ⟨site, left, late, rfl, -, back⟩ |
        ⟨_, -, endedEq, -⟩ | ⟨_, -, endedEq, -⟩ | ⟨-, -, endedEq, -⟩
      · exact ⟨_, _, .restored left late, back⟩
      · contradiction
      · contradiction
      · contradiction
    · rcases writeLine_spec kept atEnd wrote with ⟨_, _, -, -, endedEq, -⟩ | ⟨left, rfl, -, torn⟩ |
        ⟨left, rfl, -, whole⟩ | ⟨-, -, endedEq, -⟩
      · contradiction
      · exact ⟨_, _, .torn left, torn⟩
      · exact ⟨_, _, .unsynced left, whole⟩
      · contradiction
  · rcases makeRoom_spec keeps fresh made with ⟨due, stopped, after, length, rotated, kept⟩ |
      ⟨returned, -⟩
    · exact ⟨after, length, .rotating due (by simp) rotated, kept⟩
    · contradiction
  · rcases makeRoom_spec keeps fresh made with ⟨due, stopped, after, length, rotated, kept⟩ |
      ⟨returned, -⟩
    · exact ⟨after, length, .rotating due (by simp) rotated, kept⟩
    · contradiction

end X64dbgMcp.Audit
