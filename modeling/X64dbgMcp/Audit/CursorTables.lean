import X64dbgMcp.Audit.Reader

/-!
# The tables of cursors

Cursors are forgotten in the order in which they were given, so that a cursor outlives
the one that it follows.
-/

namespace X64dbgMcp.Audit

open Ipc (Uuid)

namespace Cursors

/-- Live cursors are those of the order, and a successor comes after its source. -/
structure Ordered (issued : List Uuid) (cursors : Cursors) : Prop where
  distinct : cursors.cursorOrder.Nodup
  live : ∀ id, (cursors.cursors id).isSome = true ↔ id ∈ cursors.cursorOrder
  known : ∀ id ∈ cursors.cursorOrder, id ∈ issued
  later : ∀ source limit budget id, cursors.successors source limit budget = some id →
    [source, id].Sublist cursors.cursorOrder

/-- Known cursors are kept or forgotten, and their successors with them. -/
structure Retires (issued : List Uuid) (before after : Cursors) : Prop where
  kept : ∀ id ∈ issued, after.cursors id = none ∨ after.cursors id = before.cursors id
  successor : ∀ source limit budget id, before.successors source limit budget = some id →
    after.cursors source = none ∨ after.successors source limit budget = some id

/-- Nothing is added. -/
structure Thins (before after : Cursors) : Prop where
  kept : ∀ id, after.cursors id = none ∨ after.cursors id = before.cursors id
  successor : ∀ source limit budget id, before.successors source limit budget = some id →
    after.cursors source = none ∨ after.successors source limit budget = some id
  fewer : ∀ source limit budget id, after.successors source limit budget = some id →
    before.successors source limit budget = some id

variable {issued : List Uuid} {cursors before middle after : Cursors}

theorem ordered_empty : Ordered [] empty := by
  refine ⟨List.nodup_nil, ?_, List.forall_mem_nil _, nofun⟩
  intro id
  exact iff_of_false Bool.false_ne_true List.not_mem_nil

theorem Ordered.more {more : List Uuid} (ordered : Ordered issued cursors) (kept : issued ⊆ more) :
    Ordered more cursors :=
  ⟨ordered.distinct, ordered.live, fun id member => kept (ordered.known id member), ordered.later⟩

theorem Retires.refl : Retires issued cursors cursors :=
  ⟨fun _ _ => .inr rfl, fun _ _ _ _ => .inr⟩

theorem Retires.trans {more : List Uuid} (first : Retires issued before middle)
    (second : Retires more middle after) (kept : issued ⊆ more)
    (known : ∀ source limit budget id, before.successors source limit budget = some id →
      source ∈ issued) : Retires issued before after := by
  constructor
  · intro id member
    rcases second.kept id (kept member) with gone | same
    · exact .inl gone
    · rcases first.kept id member with gone | sameToo
      · exact .inl (same.trans gone)
      · exact .inr (same.trans sameToo)
  · intro source limit budget id found
    have member := kept (known source limit budget id found)
    rcases first.successor source limit budget id found with gone | held
    · rcases second.kept source member with goneToo | same
      · exact .inl goneToo
      · exact .inl (same.trans gone)
    · exact second.successor source limit budget id held

theorem Thins.trans (first : Thins before middle) (second : Thins middle after) :
    Thins before after := by
  refine ⟨?_, ?_, ?_⟩
  · intro id
    rcases second.kept id with gone | same
    · exact .inl gone
    · rw [same]
      exact first.kept id
  · intro source limit budget id found
    rcases first.successor source limit budget id found with gone | held
    · rcases second.kept source with goneToo | same
      · exact .inl goneToo
      · exact .inl (same.trans gone)
    · exact second.successor source limit budget id held
  · intro source limit budget id found
    exact first.fewer source limit budget id (second.fewer source limit budget id found)

/-! ## Forgetting -/

/-- The first cursor of the order is forgotten. -/
theorem Ordered.expire {expired : Uuid} {rest : List Uuid}
    (ordered : Ordered issued { cursors with cursorOrder := expired :: rest }) :
    Ordered issued { cursors.expire expired with cursorOrder := rest } ∧
      Thins cursors (cursors.expire expired) := by
  have distinct := List.nodup_cons.mp ordered.distinct
  have split {source id : Uuid} (sub : [source, id].Sublist (expired :: rest)) :
      source = expired ∨ [source, id].Sublist rest := by
    rcases List.sublist_cons_iff.mp sub with behind | ⟨tail, same, -⟩
    · exact .inr behind
    · exact .inl (List.cons.inj same).1
  constructor
  · refine ⟨distinct.2, ?_, ?_, ?_⟩
    · intro id
      by_cases own : id = expired
      · subst own
        simp only [Cursors.expire, Function.update_self]
        exact iff_of_false Bool.false_ne_true distinct.1
      · simp only [Cursors.expire, Function.update_of_ne own]
        rw [ordered.live id, List.mem_cons]
        exact or_iff_right own
    · intro id member
      exact ordered.known id (List.mem_cons_of_mem expired member)
    · intro source limit budget id found
      rcases Option.filter_eq_some_iff.mp found with ⟨held, others⟩
      rcases of_decide_eq_true others with ⟨other, -⟩
      rcases split (ordered.later source limit budget id held) with own | behind
      · exact absurd own other
      · exact behind
  · refine ⟨?_, ?_, ?_⟩
    · intro id
      by_cases own : id = expired
      · subst own
        exact .inl (Function.update_self _ _ _)
      · exact .inr (Function.update_of_ne own _ _)
    · intro source limit budget id found
      rcases split (ordered.later source limit budget id found) with rfl | behind
      · exact .inl (Function.update_self _ _ _)
      · have members := behind.subset
        have first : source ≠ expired := by
          rintro rfl
          exact distinct.1 (members List.mem_cons_self)
        have second : id ≠ expired := by
          rintro rfl
          exact distinct.1 (members (by simp))
        exact .inr (Option.filter_eq_some_iff.mpr ⟨found, decide_eq_true ⟨first, second⟩⟩)
    · intro source limit budget id found
      exact (Option.filter_eq_some_iff.mp found).1

/-- Dropping the oldest cursors keeps the newest. -/
theorem Ordered.evict {order : List Uuid}
    (ordered : Ordered issued { cursors with cursorOrder := order }) :
    Ordered issued (evict order cursors) ∧ Thins cursors (evict order cursors) ∧
      ∀ front last, order = front ++ [last] →
        (evict order cursors).cursors last = cursors.cursors last := by
  induction order generalizing cursors with
  | nil => exact ⟨ordered, ⟨fun _ => .inr rfl, fun _ _ _ _ => .inr, fun _ _ _ _ => id⟩, by simp⟩
  | cons expired rest ih =>
      simp only [Cursors.evict]
      split
      · rename_i full
        rcases ordered.expire with ⟨orderedRest, thins⟩
        rcases ih orderedRest with ⟨orderedAfter, thinsAfter, kept⟩
        refine ⟨orderedAfter, thins.trans thinsAfter, ?_⟩
        intro front last same
        cases front with
        | nil =>
            cases same
            exact absurd full (by decide)
        | cons head tail =>
            rcases List.cons.inj same with ⟨rfl, restEq⟩
            rw [kept tail last restEq]
            refine Function.update_of_ne ?_ _ _
            rintro rfl
            apply (List.nodup_cons.mp ordered.distinct).1
            rw [restEq]
            simp
      · exact ⟨ordered, ⟨fun _ => .inr rfl, fun _ _ _ _ => .inr, fun _ _ _ _ => id⟩,
          fun _ _ _ => rfl⟩

/-! ## Adding -/

section Adding

variable {source : Option Uuid} {limit budget : Nat} {newId : Uuid} {cursor : Cursor}

theorem Ordered.add (ordered : Ordered issued cursors) (fresh : newId ∉ issued)
    (live : ∀ origin, source = some origin → origin ∈ cursors.cursorOrder) :
    Ordered (newId :: issued) (cursors.add source limit budget newId cursor) := by
  have unknown : newId ∉ cursors.cursorOrder := fun member => fresh (ordered.known newId member)
  refine ⟨?_, ?_, ?_, ?_⟩
  · refine List.nodup_append.mpr ⟨ordered.distinct, List.nodup_singleton _, ?_⟩
    rintro old member _ new rfl
    rw [List.mem_singleton.mp new] at member
    exact unknown member
  · intro id
    simp only [Cursors.add, List.mem_append, List.mem_singleton]
    by_cases own : id = newId
    · subst own
      simp
    · rw [Function.update_of_ne own, ordered.live id, or_iff_left own]
  · intro id member
    rcases List.mem_append.mp member with old | new
    · exact List.mem_cons_of_mem newId (ordered.known id old)
    · rw [List.mem_singleton.mp new]
      exact List.mem_cons_self
  · intro origin records bytes id found
    simp only [Cursors.add] at found
    split at found
    · rename_i here
      cases found
      exact (List.singleton_sublist.mpr (live origin here.1)).append (List.Sublist.refl _)
    · exact (ordered.later origin records bytes id found).trans (List.sublist_append_left _ _)

theorem retires_add (fresh : newId ∉ issued)
    (absent : ∀ origin, source = some origin → cursors.successors origin limit budget = none) :
    Retires issued cursors (cursors.add source limit budget newId cursor) := by
  constructor
  · intro id member
    refine .inr (Function.update_of_ne ?_ _ _)
    rintro rfl
    exact fresh member
  · intro origin records bytes id found
    refine .inr ?_
    simp only [Cursors.add]
    split
    · rename_i here
      rcases here with ⟨from_, rfl, rfl⟩
      rw [absent origin from_] at found
      contradiction
    · exact found

theorem Ordered.insert (ordered : Ordered issued cursors) (fresh : newId ∉ issued)
    (live : ∀ origin, source = some origin → origin ∈ cursors.cursorOrder) :
    Ordered (newId :: issued) (cursors.insert source limit budget newId cursor) ∧
      Thins (cursors.add source limit budget newId cursor)
        (cursors.insert source limit budget newId cursor) ∧
      (cursors.insert source limit budget newId cursor).cursors newId = some cursor := by
  rcases @Ordered.evict (newId :: issued) (cursors.add source limit budget newId cursor)
    (cursors.cursorOrder ++ [newId]) (ordered.add fresh live) with ⟨orderedAfter, thins, kept⟩
  refine ⟨orderedAfter, thins, ?_⟩
  exact (kept cursors.cursorOrder newId rfl).trans (Function.update_self _ _ _)

theorem Retires.thins (retires : Retires issued before middle) (thins : Thins middle after) :
    Retires issued before after := by
  constructor
  · intro id member
    rcases thins.kept id with gone | same
    · exact .inl gone
    · rw [same]
      exact retires.kept id member
  · intro origin records bytes id found
    rcases retires.successor origin records bytes id found with gone | held
    · rcases thins.kept origin with goneToo | same
      · exact .inl goneToo
      · exact .inl (same.trans gone)
    · exact thins.successor origin records bytes id held

/-- A live cursor has its successors alive. -/
theorem Ordered.existing_eq (ordered : Ordered issued cursors) :
    cursors.existing source limit budget =
      source.bind fun origin => cursors.successors origin limit budget := by
  rw [Cursors.existing]
  cases found : source.bind fun origin => cursors.successors origin limit budget with
  | none => rfl
  | some id =>
      rcases Option.bind_eq_some_iff.mp found with ⟨origin, -, held⟩
      have sub := ordered.later origin limit budget id held
      exact Option.filter_eq_some_iff.mpr ⟨rfl, (ordered.live id).mpr (sub.subset (by simp))⟩

end Adding

end Cursors

end X64dbgMcp.Audit
