/-
Free places on a thread. The place that is used first is known, and each free place names
the next one, or none if it is the last. Key tables and item pools keep their free places
this way. The thread is read here as the list of its places, so taking the first place and
putting one in front are what they are for lists.
-/

import Mathlib.Data.List.Nodup
import Mathlib.Data.List.Perm.Subperm

namespace Allotment

/-- The places on the thread from a head on are these, in this order. A free place is one for which
`next?` answers what it names. -/
def Threaded {Place : Type} (next? : Place → Option (Option Place)) :
    Option Place → List Place → Prop
  | head, [] => head = none
  | head, place :: rest => head = some place ∧ ∃ next, next? place = some next ∧
      Threaded next? next rest

namespace Threaded

variable {Place : Type} {next? : Place → Option (Option Place)} {head : Option Place}
  {places : List Place}

/-- A thread does not notice what happens to other places. -/
theorem congr (threaded : Threaded next? head places) {later : Place → Option (Option Place)}
    (same : ∀ place ∈ places, later place = next? place) : Threaded later head places := by
  induction places generalizing head with
  | nil => exact threaded
  | cons place rest inductionHypothesis =>
    obtain ⟨first, next, names, following⟩ := threaded
    refine ⟨first, next, (same place List.mem_cons_self).trans names, ?_⟩
    exact inductionHypothesis following fun other member =>
      same other (List.mem_cons_of_mem _ member)

/-- Every place on a thread is free. -/
theorem free (threaded : Threaded next? head places) (place : Place) (member : place ∈ places) :
    ∃ next, next? place = some next := by
  induction places generalizing head with
  | nil => cases member
  | cons first rest inductionHypothesis =>
    obtain ⟨_, next, names, following⟩ := threaded
    rcases List.mem_cons.mp member with rfl | later
    · exact ⟨next, names⟩
    · exact inductionHypothesis following later

/-- The head and the links leave no choice of the places on the thread. -/
theorem unique {others : List Place} (threaded : Threaded next? head places)
    (also : Threaded next? head others) : places = others := by
  induction places generalizing head others with
  | nil =>
    cases others with
    | nil => rfl
    | cons other rest => exact nomatch threaded.symm.trans also.1
  | cons place rest inductionHypothesis =>
    obtain ⟨first, next, names, following⟩ := threaded
    cases others with
    | nil => exact nomatch first.symm.trans also
    | cons other remaining =>
      obtain ⟨same, link, linked, continued⟩ := also
      cases first.symm.trans same
      cases names.symm.trans linked
      rw [inductionHypothesis following continued]

/-- Places in a row that each name the one after it are on a thread. -/
theorem range' (next? : Nat → Option (Option Nat)) (start count : Nat)
    (row : ∀ place, start ≤ place → place < start + count →
      next? place = some (if place + 1 < start + count then some (place + 1) else none)) :
    Threaded next? (if 0 < count then some start else none) (List.range' start count) := by
  induction count generalizing start with
  | zero => rfl
  | succ count inductionHypothesis =>
    refine ⟨rfl, _, row start (Nat.le_refl _) (by omega), ?_⟩
    have rest := inductionHypothesis (start + 1) fun place from_ below => by
      rw [row place (by omega) (by omega), Nat.succ_add_eq_add_succ]
    simpa only [Nat.add_lt_add_iff_left, Nat.lt_add_left_iff_pos] using rest

end Threaded

/-- Items at different places below a bound are not more than the bound. -/
theorem length_le_of_places {Item : Type} (items : List Item) (place : Item → Nat) (bound : Nat)
    (distinct : (items.map place).Nodup) (below : ∀ item ∈ items, place item < bound) :
    items.length ≤ bound := by
  have inside : items.map place ⊆ List.range bound := by
    intro number member
    obtain ⟨item, itemMember, rfl⟩ := List.mem_map.mp member
    exact List.mem_range.mpr (below item itemMember)
  have least := (distinct.subperm inside).length_le
  rwa [List.length_map, List.length_range] at least

end Allotment
