/-
A bag is a list whose order nobody relies on: taking an item out moves the last
item into its place, so no other item moves.
-/

import Allotment.Outcome.Fault

namespace Allotment.Bag

variable {α : Type}

/-- Takes the item at a place out of a bag; the last item fills the gap. -/
def take (items : List α) (index : Nat) : Except Fault (α × List α) :=
  match items[index]?, items.getLast? with
  | some item, some last => .ok (item, (items.set index last).dropLast)
  | _, _ => .error (.takePastEnd index items.length)

/-- Taking fails exactly past the end. -/
theorem take_eq_error_iff (items : List α) (index : Nat) :
    take items index = .error (.takePastEnd index items.length) ↔ items.length ≤ index := by
  unfold take
  by_cases inside : index < items.length
  · have filled : items ≠ [] := List.ne_nil_of_length_pos (by omega)
    rw [List.getElem?_eq_getElem inside, List.getLast?_eq_some_getLast filled]
    exact ⟨nofun, fun past => absurd inside (by omega)⟩
  · rw [List.getElem?_eq_none (by omega)]
    exact ⟨fun _ => by omega, fun _ => rfl⟩

/-- Moving the last item into a gap leaves the same items, in another order. -/
theorem cons_set_perm (front : List α) (index : Nat) (last : α) (inside : index < front.length) :
    (front[index] :: front.set index last).Perm (front ++ [last]) := by
  have parts : front = front.take index ++ front[index] :: front.drop (index + 1) := by
    rw [List.getElem_cons_drop inside, List.take_append_drop]
  calc
    (front[index] :: front.set index last).Perm
        (front[index] :: last :: (front.take index ++ front.drop (index + 1))) := by
      rw [List.set_eq_take_append_cons_drop, if_pos inside]
      exact List.perm_middle.cons _
    _ |>.Perm (last :: front[index] :: (front.take index ++ front.drop (index + 1))) :=
      List.Perm.swap _ _ _
    _ |>.Perm (last :: front) := by
      refine List.Perm.cons _ ?_
      conv => rhs; rw [parts]
      exact List.perm_middle.symm
    _ |>.Perm (front ++ [last]) := (List.perm_append_singleton _ _).symm

/-- Taking an item out leaves the others, in some order. -/
theorem take_perm (items rest : List α) (index : Nat) (item : α)
    (taken : take items index = .ok (item, rest)) : (item :: rest).Perm items := by
  unfold take at taken
  split at taken
  · next first last found lastFound =>
    obtain ⟨front, rfl⟩ := List.getLast?_eq_some_iff.mp lastFound
    injection taken with taken
    injection taken with sameItem sameRest
    subst sameItem sameRest
    obtain ⟨inside, atIndex⟩ := List.getElem?_eq_some_iff.mp found
    by_cases inFront : index < front.length
    · rw [List.set_append_left _ _ inFront, List.dropLast_concat, ← atIndex,
        List.getElem_append_left inFront]
      exact cons_set_perm front index last inFront
    · have atEnd : index = front.length := by
        rw [List.length_append, List.length_singleton] at inside
        omega
      subst atEnd
      rw [List.set_append_right _ _ (Nat.le_refl _), Nat.sub_self, List.set_cons_zero,
        List.dropLast_concat, ← atIndex, List.getElem_concat_length rfl]
      exact (List.perm_append_singleton _ _).symm
  · exact nomatch taken

/-- What lies inside a bag can be taken out. -/
theorem exists_take (items : List α) (index : Nat) (inside : index < items.length) :
    ∃ left, take items index = .ok (items[index], left) ∧ (items[index] :: left).Perm items := by
  have filled : items ≠ [] := List.ne_nil_of_length_pos (Nat.zero_lt_of_lt inside)
  have taken : take items index =
      .ok (items[index], (items.set index (items.getLast filled)).dropLast) := by
    rw [take, List.getElem?_eq_getElem inside, List.getLast?_eq_some_getLast filled]
  exact ⟨_, taken, take_perm _ _ _ _ taken⟩

end Allotment.Bag
