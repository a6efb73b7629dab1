/-
The figures on released blocks. A census lists how many blocks of each size wait, in
ascending order of the sizes and without sizes of which none waits. The totals that are
computed from it are the number of the blocks and of their words, as long as the words
can be counted in 64 bits.
-/

import Allotment.Backend.Usage
import Mathlib.Data.List.Basic

namespace Allotment

/-! ### Checked sums -/

/-- Numbers that are added up by a checked addition give their sum, if it is below the limit. -/
theorem foldlM_eq_ok {α : Type} (add : Nat → α → Except Fault Nat) (value : α → Nat)
    (adds : ∀ sum item, sum + value item < sizeLimit → add sum item = .ok (sum + value item))
    (items : List α) (start : Nat) (fits : start + (items.map value).sum < sizeLimit) :
    items.foldlM add start = .ok (start + (items.map value).sum) := by
  induction items generalizing start with
  | nil => rfl
  | cons item rest inductionHypothesis =>
    rw [List.map_cons, List.sum_cons, ← Nat.add_assoc] at fits ⊢
    rw [List.foldlM_cons, adds start item (Nat.lt_of_le_of_lt (Nat.le_add_right _ _) fits)]
    exact inductionHypothesis _ fits

namespace Usage

variable (usage : Usage)

theorem freeBlocks_eq_ok (fits : (usage.freeClasses.map (·.blocks)).sum < sizeLimit) :
    usage.freeBlocks = .ok (usage.freeClasses.map (·.blocks)).sum := by
  have folded := foldlM_eq_ok addSizes id addSizes_eq_ok (usage.freeClasses.map (·.blocks)) 0
  rw [List.map_id, Nat.zero_add] at folded
  exact folded fits

theorem freeWords_eq_ok
    (fits : (usage.freeClasses.map fun counted => counted.size * counted.blocks).sum <
      sizeLimit) :
    usage.freeWords =
      .ok (usage.freeClasses.map fun counted => counted.size * counted.blocks).sum := by
  have folded := foldlM_eq_ok
    (fun sum (counted : FreeClass) => do
      let words ← multiplySizes counted.size counted.blocks
      addSizes sum words)
    (fun counted => counted.size * counted.blocks) ?_ usage.freeClasses 0
  · rw [Nat.zero_add] at folded
    exact folded fits
  · intro sum counted below
    rw [multiplySizes_eq_ok _ _ (Nat.lt_of_le_of_lt (Nat.le_add_left _ _) below)]
    exact addSizes_eq_ok _ _ below

end Usage

namespace FreeClass

/-! ### One more block -/

section Tally

variable (size : Nat) (classes : List FreeClass)

/-- The classes of other sizes stay as they are. -/
theorem mem_tally_other (counted : FreeClass) (other : counted.size ≠ size) :
    counted ∈ tally size classes ↔ counted ∈ classes := by
  have different : ∀ blocks, counted ≠ ⟨size, blocks⟩ :=
    fun blocks equal => other (congrArg FreeClass.size equal)
  induction classes with
  | nil => simp [tally, different]
  | cons head rest inductionHypothesis =>
    unfold tally
    split
    · simp [different]
    split
    · next same =>
      have notHead : counted ≠ head := fun equal => other (by rw [equal, same])
      simp [different, notHead]
    · simp [inductionHypothesis]

theorem ascending_tally
    (ascending : classes.Pairwise fun first second => first.size < second.size) :
    (tally size classes).Pairwise fun first second => first.size < second.size := by
  induction classes with
  | nil => exact List.pairwise_singleton _ _
  | cons head rest inductionHypothesis =>
    obtain ⟨least, others⟩ := List.pairwise_cons.mp ascending
    unfold tally
    split
    · next smaller =>
      refine List.pairwise_cons.mpr ⟨fun later member => ?_, ascending⟩
      rcases List.mem_cons.mp member with rfl | older
      · exact smaller
      · exact Nat.lt_trans smaller (least later older)
    split
    · next same =>
      exact List.pairwise_cons.mpr ⟨fun later member => same ▸ least later member, others⟩
    · next notSmaller different =>
      refine List.pairwise_cons.mpr ⟨fun later member => ?_, inductionHypothesis others⟩
      by_cases own : later.size = size
      · omega
      · exact least later ((mem_tally_other size rest later own).mp member)

/-- The class of the block's own size counts one block more than before. -/
theorem mem_tally_self
    (ascending : classes.Pairwise fun first second => first.size < second.size)
    (before : Nat) (known : ∀ blocks, ⟨size, blocks⟩ ∈ classes ↔ 0 < blocks ∧ before = blocks)
    (blocks : Nat) : ⟨size, blocks⟩ ∈ tally size classes ↔ before + 1 = blocks := by
  -- A list without a class of the size says that no block of it was counted before.
  have nothing : (∀ counted ∈ classes, counted.size ≠ size) → before = 0 := by
    intro absent
    by_contra some
    exact absent _ ((known before).mpr ⟨Nat.pos_of_ne_zero some, rfl⟩) rfl
  induction classes with
  | nil => simp [tally, nothing nofun, eq_comm]
  | cons head rest inductionHypothesis =>
    obtain ⟨least, others⟩ := List.pairwise_cons.mp ascending
    have behind : size ≤ head.size → ∀ counted ∈ rest, counted.size ≠ size :=
      fun below counted member => Nat.ne_of_gt (Nat.lt_of_le_of_lt below (least counted member))
    unfold tally
    split
    · next smaller =>
      have absent : ∀ counted ∈ head :: rest, counted.size ≠ size :=
        List.forall_mem_cons.mpr ⟨Nat.ne_of_gt smaller, behind (Nat.le_of_lt smaller)⟩
      have missing : (⟨size, blocks⟩ : FreeClass) ∉ head :: rest :=
        fun member => absent _ member rfl
      rw [nothing absent, List.mem_cons, or_iff_left missing, FreeClass.mk.injEq]
      exact ⟨fun equal => equal.2.symm, fun equal => ⟨rfl, equal.symm⟩⟩
    split
    · next same =>
      have missing : (⟨size, blocks⟩ : FreeClass) ∉ rest :=
        fun member => behind (Nat.le_of_eq same) _ member rfl
      have earlier : before = head.blocks := ((known head.blocks).mp (by simp [same])).2
      rw [earlier, List.mem_cons, or_iff_left missing, FreeClass.mk.injEq]
      exact ⟨fun equal => equal.2.symm, fun equal => ⟨rfl, equal.symm⟩⟩
    · next notSmaller different =>
      have elsewhere : ∀ blocks, (⟨size, blocks⟩ : FreeClass) ≠ head :=
        fun blocks equal => different (congrArg FreeClass.size equal)
      simp only [List.mem_cons, elsewhere, false_or] at known ⊢
      refine inductionHypothesis others known fun absent => nothing fun counted member => ?_
      rcases List.mem_cons.mp member with rfl | later
      · exact Ne.symm different
      · exact absent counted later

/-- Counting a block adds its value to the values of all blocks, where blocks of one size have
the same value. -/
theorem sum_tally (value : Nat → Nat) :
    ((tally size classes).map fun counted => value counted.size * counted.blocks).sum =
      value size + (classes.map fun counted => value counted.size * counted.blocks).sum := by
  induction classes with
  | nil => simp [tally]
  | cons head rest inductionHypothesis =>
    unfold tally
    split
    · simp
    split
    · next same =>
      simp only [List.map_cons, List.sum_cons, same, Nat.mul_succ]
      omega
    · simp only [List.map_cons, List.sum_cons, inductionHypothesis]
      omega

end Tally

/-! ### All blocks -/

section Census

variable (free : FreeBlocks)

theorem ascending_census :
    (census free).Pairwise fun first second => first.size < second.size := by
  induction free with
  | nil => exact List.Pairwise.nil
  | cons block rest inductionHypothesis =>
    exact ascending_tally block.size _ inductionHypothesis

/-- The classes of a census are the sizes of which a block waits, each with the number of its
blocks. -/
theorem mem_census_iff (size blocks : Nat) :
    ⟨size, blocks⟩ ∈ census free ↔ 0 < blocks ∧ (free.ofSize size).length = blocks := by
  induction free generalizing blocks with
  | nil =>
    refine ⟨nofun, ?_⟩
    rintro ⟨positive, rfl⟩
    exact absurd positive (Nat.lt_irrefl 0)
  | cons block rest inductionHypothesis =>
    by_cases same : block.size = size
    · subst same
      rw [FreeBlocks.ofSize_cons_self, List.length_cons]
      refine (mem_tally_self _ _ (ascending_census rest) _ inductionHypothesis blocks).trans ?_
      exact ⟨fun equal => ⟨by omega, equal⟩, fun parts => parts.2⟩
    · rw [FreeBlocks.ofSize_cons_other block rest size same]
      exact (mem_tally_other _ _ _ (Ne.symm same)).trans (inductionHypothesis blocks)

theorem sum_census (value : Nat → Nat) :
    ((census free).map fun counted => value counted.size * counted.blocks).sum =
      (free.map fun block => value block.size).sum := by
  induction free with
  | nil => rfl
  | cons block rest inductionHypothesis =>
    rw [List.map_cons, List.sum_cons, ← inductionHypothesis]
    exact sum_tally block.size _ value

/-- The classes count every block once. -/
theorem sum_blocks_census : ((census free).map (·.blocks)).sum = free.length := by
  have counted := sum_census free fun _ => 1
  simp only [Nat.one_mul] at counted
  calc
    ((census free).map (·.blocks)).sum = (free.map fun _ => 1).sum := counted
    _ = free.length := by simp

/-- The classes count the words of every block. -/
theorem sum_words_census :
    ((census free).map fun counted => counted.size * counted.blocks).sum =
      (free.map (·.size)).sum :=
  sum_census free id

end Census

end FreeClass

end Allotment
