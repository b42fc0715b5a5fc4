import Mathlib.Data.List.Range

/-!
# Results that come page by page

The results of a query lie at positions below a total; a position holds no item or
some.  A page has the items of a stretch of positions and the request for the next
page, if there is one.  Whoever follows the requests gets every item once, in the
order of the positions, as soon as each page starts where its request says, makes
progress, and ends the results only at the total.
-/

namespace X64dbgMcp.Collection

universe u v w x

variable {α : Type u} {σ : Type v} {ε : Type w} {π : Type x}

/-- The items at the positions from one up to another. -/
def stretch (pick : Nat → List α) (first last : Nat) : List α :=
  (List.range' first (last - first)).flatMap pick

@[simp]
theorem stretch_self (pick : Nat → List α) (position : Nat) : stretch pick position position = [] := by
  simp [stretch]

theorem stretch_append (pick : Nat → List α) {first middle last : Nat} (before : first ≤ middle)
    (after : middle ≤ last) :
    stretch pick first middle ++ stretch pick middle last = stretch pick first last := by
  have joined : List.range' first (middle - first) ++ List.range' middle (last - middle) =
      List.range' first (last - first) := by
    have second : middle = first + (middle - first) := by omega
    have sum : last - first = (middle - first) + (last - middle) := by omega
    rw [sum, ← List.range'_append_1, ← second]
  rw [stretch, stretch, stretch, ← List.flatMap_append, joined]

theorem stretch_succ (pick : Nat → List α) {first last : Nat} (before : first ≤ last) :
    stretch pick first (last + 1) = stretch pick first last ++ pick last := by
  rw [← stretch_append pick before (Nat.le_succ last)]
  congr 1
  simp [stretch]

theorem stretch_congr {pick other : Nat → List α} {first last : Nat}
    (same : ∀ position, first ≤ position → position < last → pick position = other position) :
    stretch pick first last = stretch other first last := by
  apply List.flatMap_congr
  intro position member
  rw [List.mem_range'_1] at member
  exact same position member.1 (by omega)

theorem map_stretch {β : Type*} (change : α → β) (pick : Nat → List α) (first last : Nat) :
    (stretch pick first last).map change =
      stretch (fun position => (pick position).map change) first last := by
  rw [stretch, stretch, List.map_flatMap]

/-- Positions counted from an origin. -/
theorem stretch_add (pick : Nat → List α) (origin first last : Nat) :
    stretch (fun position => pick (origin + position)) first last =
      stretch pick (origin + first) (origin + last) := by
  have size : origin + last - (origin + first) = last - first := by omega
  rw [stretch, stretch, size, ← List.map_add_range', List.flatMap_map]

/-- Positions that hold at most one item. -/
theorem stretch_zero_eq_filter (accept : Nat → Bool) (item : Nat → α) (total : Nat) :
    stretch (fun position => if accept position then [item position] else []) 0 total =
      ((List.range total).filter accept).map item := by
  rw [stretch, Nat.sub_zero, ← List.range_eq_range']
  induction List.range total with
  | nil => rfl
  | cons position rest ih =>
      by_cases accepted : accept position = true <;> simp [accepted, ih]

/-- One page: its items, and the request for the next one. -/
structure Page (α : Type u) (σ : Type v) where
  items : List α
  next : Option σ

/-- All pages from a request on, when the last page is one of the first `pages`. -/
def follow (ask : σ → Option (π × Option σ)) : Nat → σ → Option (List π)
  | 0, _ => none
  | pages + 1, request =>
      match ask request with
      | none => none
      | some (page, none) => some [page]
      | some (page, some following) => (follow ask pages following).map (page :: ·)

/-- The items of all pages from a request on. -/
def collect (ask : σ → Option (Page α σ)) (pages : Nat) (request : σ) : Option (List α) :=
  (follow (fun request => (ask request).map fun page => (page.items, page.next)) pages request).map
    List.flatten

/-- A page that starts at `first`: it is the last one, or the next request is a
proper one that starts further on, where this page ends. -/
inductive Covers (pick : Nat → List α) (total : Nat) (position : σ → Nat) (proper : σ → Prop)
    (first : Nat) : Page α σ → Prop
  | last : Covers pick total position proper first ⟨stretch pick first total, none⟩
  | more {following : σ} (isProper : proper following) (progress : first < position following)
      (within : position following ≤ total) :
      Covers pick total position proper first
        ⟨stretch pick first (position following), some following⟩

theorem Covers.of_next {pick : Nat → List α} {total first : Nat} {position : σ → Nat}
    {proper : σ → Prop} {items : List α} {following : σ} (isProper : proper following)
    (progress : first < position following) (within : position following ≤ total)
    (stretches : items = stretch pick first (position following)) :
    Covers pick total position proper first ⟨items, some following⟩ := by
  rw [stretches]
  exact .more isProper progress within

/-- Pages that each cover a stretch have all items from the first request on. -/
theorem follow_of_covers {ask : σ → Option (π × Option σ)} {items : π → List α} {note : π → Prop}
    {pick : Nat → List α} {total : Nat} {position : σ → Nat} {proper : σ → Prop}
    (serves : ∀ request, proper request → position request ≤ total →
      ∃ page next, ask request = some (page, next) ∧ note page ∧
        Covers pick total position proper (position request) ⟨items page, next⟩)
    {request : σ} (isProper : proper request) (within : position request ≤ total) {pages : Nat}
    (enough : total - position request < pages) :
    ∃ all, follow ask pages request = some all ∧ (∀ page ∈ all, note page) ∧
      all.flatMap items = stretch pick (position request) total := by
  induction pages generalizing request with
  | zero => omega
  | succ pages ih =>
      rcases serves request isProper within with ⟨page, next, answered, noted, covers⟩
      generalize found : items page = held at covers
      cases covers with
      | last => exact ⟨[page], by simp [follow, answered], by simpa using noted, by simp [found]⟩
      | @more following followingProper progress followingWithin =>
          rcases ih followingProper followingWithin (by omega) with ⟨rest, followed, notes, all⟩
          refine ⟨page :: rest, by simp [follow, answered, followed], ?_, ?_⟩
          · exact List.forall_mem_cons.mpr ⟨noted, notes⟩
          · rw [List.flatMap_cons, found, all,
              stretch_append pick (Nat.le_of_lt progress) followingWithin]

theorem collect_of_covers {ask : σ → Option (Page α σ)} {pick : Nat → List α} {total : Nat}
    {position : σ → Nat} {proper : σ → Prop}
    (serves : ∀ request, proper request → position request ≤ total →
      ∃ page, ask request = some page ∧
        Covers pick total position proper (position request) page)
    {request : σ} (isProper : proper request) (within : position request ≤ total) {pages : Nat}
    (enough : total - position request < pages) :
    collect ask pages request = some (stretch pick (position request) total) := by
  have served : ∀ request, proper request → position request ≤ total →
      ∃ items next, (ask request).map (fun page => (page.items, page.next)) = some (items, next) ∧
        True ∧ Covers pick total position proper (position request) ⟨id items, next⟩ := by
    intro request isProper within
    rcases serves request isProper within with ⟨page, answered, covers⟩
    exact ⟨page.items, page.next, by rw [answered, Option.map_some], trivial, covers⟩
  rcases follow_of_covers served isProper within enough with ⟨all, followed, -, items⟩
  rw [collect, followed, Option.map_some, List.flatten_eq_flatMap, items]

/-- The loop of a page: position after position, `remaining` of them at most, until
`limit` items are out.  The result has the position where the loop stops. -/
def scan (judge : Nat → Except ε (List α)) (limit : Nat) :
    Nat → Nat → List α → Except ε (List α × Nat)
  | 0, position, items => .ok (items, position)
  | remaining + 1, position, items =>
      if items.length < limit then
        match judge position with
        | .error reason => .error reason
        | .ok found => scan judge limit remaining (position + 1) (items ++ found)
      else .ok (items, position)

/-- A loop that meets no error stops at the end or with a full page. -/
theorem scan_spec {judge : Nat → Except ε (List α)} {pick : Nat → List α} {limit : Nat}
    (remaining position : Nat) (items : List α)
    (judged : ∀ index, position ≤ index → index < position + remaining →
      judge index = .ok (pick index)) :
    ∃ stop, position ≤ stop ∧ stop ≤ position + remaining ∧
      (items.length < limit → 0 < remaining → position < stop) ∧
      scan judge limit remaining position items =
        .ok (items ++ stretch pick position stop, stop) ∧
      (stop < position + remaining → limit ≤ (items ++ stretch pick position stop).length) := by
  induction remaining generalizing position items with
  | zero =>
      exact ⟨position, le_rfl, le_rfl, by omega, by simp [scan], by omega⟩
  | succ remaining ih =>
      by_cases room : items.length < limit
      · rcases ih (position + 1) (items ++ pick position)
          (fun index low high => judged index (by omega) (by omega)) with
          ⟨stop, low, high, -, scanned, full⟩
        have first : stretch pick position stop =
            pick position ++ stretch pick (position + 1) stop := by
          rw [← stretch_append pick (Nat.le_succ position) low, stretch_succ pick le_rfl,
            stretch_self, List.nil_append]
        refine ⟨stop, by omega, by omega, fun _ _ => by omega, ?_, ?_⟩
        · rw [scan, if_pos room, judged position le_rfl (by omega), first, ← List.append_assoc]
          exact scanned
        · rw [first, ← List.append_assoc]
          intro short
          exact full (by omega)
      · refine ⟨position, le_rfl, by omega, fun less => absurd less room, ?_, ?_⟩
        · simp [scan, room]
        · rw [stretch_self, List.append_nil]
          exact fun _ => Nat.le_of_not_lt room

end X64dbgMcp.Collection
