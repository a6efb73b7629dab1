/-
The blocks that a run carved out of its arena since the last reset. The history of a run
does not tell a carved block from a reused one, so here the run keeps the sizes of the
blocks it carved, told by the words that the arena counts as carved.

A carved block is on loan or waits from then on. So the carved blocks are, size by size,
those of the history, and since a block is carved only where none of its size waits, there
are as many of each size as ever were on loan at the same time.
-/

import Allotment.Proofs.Lending.Demand
import Allotment.Proofs.Segregated.CheckedCalls

namespace Allotment

/-- The size of the block that was carved between two states of an arena, if there was one: the
arena counts so many more words as carved. -/
def Arena.carvedBetween (before after : Arena) : List Nat :=
  if before.carvedWords < after.carvedWords then [after.carvedWords - before.carvedWords] else []

namespace SegregatedAllocator

/-! ### Runs that keep what they carved -/

/-- The sizes of the blocks carved since the last reset, the latest first, after one more
command. -/
def carvings (deeds : History) (before after : SegregatedAllocator) (sizes : List Nat) :
    List Nat :=
  if .cleared ∈ deeds then [] else before.arena.carvedBetween after.arena ++ sizes

/-- A run with the sizes of the blocks that it carved since the last reset, the latest first. -/
inductive CarvingRun (config : Config) (Permits : History → Command → Prop) :
    History → List Nat → SegregatedAllocator → Prop
  | start (allocator : SegregatedAllocator) (created : create config = .ok allocator) :
    CarvingRun config Permits [] [] allocator
  | step (history deeds : History) (sizes : List Nat) (before after : SegregatedAllocator)
    (command : Command) (events : List Event)
    (run : CarvingRun config Permits history sizes before) (permitted : Permits history command)
    (performed : before.perform command = .done deeds after events) :
    CarvingRun config Permits (deeds ++ history) (carvings deeds before after sizes) after

section Run

variable {config : Config} {Permits : History → Command → Prop} {history : History}
  {sizes : List Nat} {allocator : SegregatedAllocator}

theorem CarvingRun.run (carving : CarvingRun config Permits history sizes allocator) :
    Run config Permits history allocator := by
  induction carving with
  | start allocator created => exact .start allocator created
  | step history deeds sizes before after command events run permitted performed
      inductionHypothesis =>
    exact inductionHypothesis.step history deeds before after command events permitted performed

/-- Every run can keep what it carves. -/
theorem Run.exists_carvings (run : Run config Permits history allocator) :
    ∃ sizes, CarvingRun config Permits history sizes allocator := by
  induction run with
  | start allocator created => exact ⟨[], .start allocator created⟩
  | step history deeds before after command events run permitted performed inductionHypothesis =>
    obtain ⟨sizes, carving⟩ := inductionHypothesis
    exact ⟨_, carving.step history deeds sizes before after command events permitted performed⟩

/-- A block that comes back was on loan. -/
theorem mem_loans_of_returned {next : SegregatedAllocator}
    (run : Run config (Proper config) history allocator) (command : Command)
    (events : List Event) (block : Block) (proper : Proper config history command)
    (performed : allocator.perform command = .done [.returned block] next events) :
    block ∈ history.loans := by
  rcases proper_of_returned command events block proper performed with tracked | onLoan
  · cases allocator.change_of_perform command _ next events performed with
    | returned handle size positive carved lending recorded =>
      obtain ⟨book, found⟩ := exists_book run tracked
      have latest := (recorded_of_run run tracked).latest book found handle size
      exact history.mem_loans_of_latest? _ (latest.mp (recorded book found))
  · exact onLoan

end Run

/-! ### What becomes of a carved block -/

section Carve

variable {history deeds : History} {sizes : List Nat} {before after : SegregatedAllocator}

theorem carvings_of_same (kept : .cleared ∉ deeds)
    (same : after.arena.carvedWords = before.arena.carvedWords) :
    carvings deeds before after sizes = sizes := by
  rw [carvings, if_neg kept, Arena.carvedBetween, if_neg (by omega), List.nil_append]

theorem carvings_of_more (kept : .cleared ∉ deeds) (size : Nat) (positive : 0 < size)
    (more : after.arena.carvedWords = before.arena.carvedWords + size) :
    carvings deeds before after sizes = size :: sizes := by
  rw [carvings, if_neg kept, Arena.carvedBetween, if_pos (by omega), more,
    Nat.add_sub_cancel_left, List.singleton_append]

/-- The carved blocks are those on loan and those that wait, and of each size there are as many as
ever were on loan at the same time. -/
structure Balanced (history : History) (sizes : List Nat) (allocator : SegregatedAllocator) :
    Prop where
  all : sizes.Perm ((history.loans ++ history.shelf).map (·.size))
  words : allocator.arena.carvedWords = sizes.sum
  peak : ∀ size, sizes.count size = history.peakOf size
  small : ∀ size ∈ sizes, 0 < size ∧ size ≤ allocator.config.maxRequestWords

namespace Balanced

theorem empty (allocator : SegregatedAllocator) (nothing : allocator.arena.carvedWords = 0)
    (history : History) (restarted : history = [] ∨ ∃ earlier, history = .cleared :: earlier) :
    Balanced history [] allocator := by
  rcases restarted with rfl | ⟨earlier, rfl⟩
  · exact ⟨.nil, nothing, fun _ => rfl, nofun⟩
  · exact ⟨.nil, nothing, fun _ => rfl, nofun⟩

theorem count_eq (balanced : Balanced history sizes before) (size : Nat) :
    sizes.count size = history.onLoan size + history.waiting size :=
  (balanced.all.count_eq size).trans (history.count_size_all size)

/-- While fewer blocks of a size are on loan than ever were, one of them waits. -/
theorem exists_waiting (balanced : Balanced history sizes before) (size : Nat)
    (less : history.onLoan size < history.peakOf size) :
    ∃ handle, ⟨handle, size⟩ ∈ history.shelf := by
  by_contra none
  have nothing := (history.waiting_eq_zero_iff size).mpr (not_exists.mp none)
  have count := balanced.count_eq size
  rw [balanced.peak size] at count
  omega

/-- Only sizes within the limits have a peak. -/
theorem limits (balanced : Balanced history sizes before) (size : Nat)
    (some : 0 < history.peakOf size) : 0 < size ∧ size ≤ before.config.maxRequestWords := by
  rw [← balanced.peak size] at some
  exact balanced.small size (List.count_pos_iff.mp some)

/-- A block that is only moved changes neither what was carved nor the peaks. -/
theorem moved (balanced : Balanced history sizes before) (deed : Deed) (kept : deed ≠ .cleared)
    (moved : (History.loans (deed :: history) ++ History.shelf (deed :: history)).Perm
      (history.loans ++ history.shelf))
    (words : after.arena.carvedWords = before.arena.carvedWords)
    (config : after.config = before.config) :
    Balanced (deed :: history) (carvings [deed] before after sizes) after := by
  rw [carvings_of_same (fun member => kept (List.mem_singleton.mp member).symm) words]
  have all := balanced.all.trans (moved.symm.map _)
  refine ⟨all, words.trans balanced.words, fun size => ?_, config ▸ balanced.small⟩
  have onLoan := all.count_eq size
  rw [History.count_size_all] at onLoan
  have earlier := balanced.peak size
  rw [history.peakOf_cons size deed kept]
  omega

/-- A block is carved only where none of its size waits, so it raises the peak of its size. -/
theorem carve (balanced : Balanced history sizes before) (block : Block)
    (positive : 0 < block.size) (small : block.size ≤ before.config.maxRequestWords)
    (absent : ∀ handle, ⟨handle, block.size⟩ ∉ history.shelf)
    (words : after.arena.carvedWords = before.arena.carvedWords + block.size)
    (config : after.config = before.config) :
    Balanced (.lent block :: history) (carvings [.lent block] before after sizes) after := by
  rw [carvings_of_more (by simp) block.size positive words]
  have shelf : History.shelf (.lent block :: history) = history.shelf :=
    List.erase_of_not_mem (absent block.handle)
  refine ⟨?_, ?_, fun size => ?_, ?_⟩
  · rw [shelf]
    exact balanced.all.cons block.size
  · rw [words, balanced.words, List.sum_cons, Nat.add_comm]
  · rw [history.peakOf_cons size (.lent block) nofun]
    have earlier := balanced.peak size
    have all := balanced.count_eq size
    by_cases same : block.size = size
    · subst same
      rw [List.count_cons_self, History.onLoan_lent_self]
      have none := (history.waiting_eq_zero_iff block.size).mpr absent
      omega
    · rw [List.count_cons_of_ne same, History.onLoan_lent_other history block size same]
      omega
  · rw [config]
    exact List.forall_mem_cons.mpr ⟨⟨positive, small⟩, balanced.small⟩

/-- Every change keeps the balance, where only blocks on loan come back. -/
theorem change (balanced : Balanced history sizes before) (shelved : before.free = history.shelf)
    (counted : before.arena.Counted) (change : Change before deeds after)
    (returns : ∀ block, deeds = [.returned block] → block ∈ history.loans) :
    Balanced (deeds ++ history) (carvings deeds before after sizes) after := by
  cases change with
  | nothing =>
    rw [carvings_of_same List.not_mem_nil rfl]
    exact balanced
  | written handle size patch stored overwrites =>
    obtain ⟨_, same⟩ := counted.store overwrites
    rw [carvings_of_same List.not_mem_nil same]
    exact ⟨balanced.all, same.trans balanced.words, balanced.peak, balanced.small⟩
  | reused handle size left positive small taken =>
    obtain ⟨waiting, _⟩ := FreeBlocks.take?_eq_some size _ left handle taken
    rw [shelved] at waiting
    exact balanced.moved (.lent ⟨handle, size⟩) nofun (history.perm_of_lent _ waiting) rfl rfl
  | carved memory handle size grown events positive small absent obtained =>
    obtain ⟨_, more⟩ := counted.obtain memory size handle events positive obtained
    have missing := FreeBlocks.not_mem_of_take?_eq_none size _ absent
    rw [shelved] at missing
    exact balanced.carve ⟨handle, size⟩ positive small missing more rfl
  | returned handle size positive carved lending recorded =>
    have onLoan := returns ⟨handle, size⟩ rfl
    exact balanced.moved (.returned ⟨handle, size⟩) nofun (history.perm_of_returned _ onLoan)
      rfl rfl
  | cleared => exact Balanced.empty _ rfl _ (Or.inr ⟨history, rfl⟩)

end Balanced

end Carve

/-- What a run carved is balanced with its history. -/
theorem balanced_of_run {config : Config} {history : History} {sizes : List Nat}
    {allocator : SegregatedAllocator}
    (carving : CarvingRun config (Proper config) history sizes allocator) :
    Balanced history sizes allocator := by
  induction carving with
  | start allocator created =>
    obtain ⟨_, rfl⟩ := configured_of_create config allocator created
    exact Balanced.empty _ rfl [] (Or.inl rfl)
  | step history deeds sizes before after command events carving proper performed
      inductionHypothesis =>
    have run := carving.run
    refine inductionHypothesis.change (free_eq_shelf run) (counted_of_run run).arena
      (before.change_of_perform command deeds after events performed) fun block equal => ?_
    subst equal
    exact mem_loans_of_returned run command events block proper performed

end SegregatedAllocator

end Allotment
