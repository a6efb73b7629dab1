/-
The arena of a segregated allocator grows with the peak demand only. Of each size as many
blocks were carved as ever were on loan at the same time, so the carved words are known from
the peaks alone.

A client that stays below the peaks of the past is served from the released blocks: while
fewer blocks of a size are on loan than ever were, one of them waits, whatever happened to the
other sizes. So nothing is carved for it, and no request fails, even if no more memory is to
be had.
-/

import Allotment.Proofs.Segregated.Carvings

namespace Allotment

namespace SegregatedAllocator

/-! ### Going on from a state -/

/-- The deeds and the states that permitted commands lead to from a state on. -/
inductive Onward (Permits : History → Command → Prop) (history : History)
    (start : SegregatedAllocator) : History → SegregatedAllocator → Prop
  | stay : Onward Permits history start [] start
  | step (newer deeds : History) (before after : SegregatedAllocator) (command : Command)
    (events : List Event) (onward : Onward Permits history start newer before)
    (permitted : Permits (newer ++ history) command)
    (performed : before.perform command = .done deeds after events) :
    Onward Permits history start (deeds ++ newer) after

section Spare

variable {config : Config} {history deeds newer : History} {sizes : List Nat}
  {allocator before after : SegregatedAllocator}

/-- A change that raises no peak does not make the arena grow. -/
theorem grows_not_of_peak (balanced : Balanced history sizes before)
    (shelved : before.free = history.shelf) (counted : before.arena.Counted)
    (kept : .cleared ∉ deeds) (change : Change before deeds after)
    (peaks : ∀ size, History.peakOf (deeds ++ history) size ≤ history.peakOf size) :
    after.arena.carvedWords = before.arena.carvedWords ∧
      after.arena.chunks.size = before.arena.chunks.size := by
  cases change with
  | nothing => exact ⟨rfl, rfl⟩
  | written handle size patch stored overwrites =>
    exact ⟨(counted.store overwrites).2, Arena.size_chunks_store overwrites⟩
  | reused handle size left positive small taken => exact ⟨rfl, rfl⟩
  | carved memory handle size grown events positive small absent obtained =>
    have less : history.onLoan size < history.peakOf size := by
      have lent := History.onLoan_le_peakOf (.lent ⟨handle, size⟩ :: history) size
      rw [history.onLoan_lent_self ⟨handle, size⟩] at lent
      exact Nat.le_trans lent (peaks size)
    obtain ⟨waiting, member⟩ := balanced.exists_waiting size less
    rw [← shelved] at member
    exact absurd member (FreeBlocks.not_mem_of_take?_eq_none size _ absent waiting)
  | returned handle size positive carved lending recorded => exact ⟨rfl, rfl⟩
  | cleared => exact absurd List.mem_cons_self kept

/-- Commands that raise no peak make the arena carve nothing. -/
theorem carves_nothing (carving : CarvingRun config (Proper config) history sizes allocator)
    (onward : Onward (Proper config) history allocator newer after) (kept : .cleared ∉ newer)
    (peaks : ∀ size, History.peakOf (newer ++ history) size ≤ history.peakOf size) :
    CarvingRun config (Proper config) (newer ++ history) sizes after ∧
      after.arena.carvedWords = allocator.arena.carvedWords ∧
      after.arena.chunks.size = allocator.arena.chunks.size := by
  induction onward with
  | stay => exact ⟨carving, rfl, rfl⟩
  | step newer deeds before after command events onward proper performed inductionHypothesis =>
    obtain ⟨keptNow, keptBefore⟩ := not_or.mp (mt List.mem_append.mpr kept)
    simp only [List.append_assoc] at peaks ⊢
    have risen := fun size => History.peakOf_le_append (newer ++ history) size deeds keptNow
    obtain ⟨so, words, chunks⟩ :=
      inductionHypothesis keptBefore fun size => Nat.le_trans (risen size) (peaks size)
    obtain ⟨sameWords, sameChunks⟩ := grows_not_of_peak (balanced_of_run so)
      (free_eq_shelf so.run) (counted_of_run so.run).arena keptNow
      (before.change_of_perform command deeds after events performed) fun size =>
        Nat.le_trans (peaks size) (history.peakOf_le_append size newer keptBefore)
    have unchanged : carvings deeds before after sizes = sizes :=
      carvings_of_same keptNow sameWords
    refine ⟨?_, sameWords.trans words, sameChunks.trans chunks⟩
    rw [← unchanged]
    exact so.step _ deeds sizes before after command events proper performed

/-- While fewer blocks of a size are on loan than ever were, a request for one is granted. -/
theorem granted_of_onLoan_lt (carving : CarvingRun config (Proper config) history sizes allocator)
    (memory : Memory) (size : Nat) (less : history.onLoan size < history.peakOf size) :
    ∃ handle next, allocator.allocate memory size = .granted handle next ∧
      allocator.tryAllocate memory size = .granted handle next := by
  have balanced := balanced_of_run carving
  obtain ⟨positive, small⟩ := balanced.limits size (Nat.zero_lt_of_lt less)
  have waiting := balanced.exists_waiting size less
  rw [← free_eq_shelf carving.run] at waiting
  obtain ⟨handle, _, next, _, granted⟩ :=
    allocator.granted_of_waiting memory size positive small waiting
  exact ⟨handle, next, granted⟩

end Spare

/-! ### The peak demand -/

/-- In every state of a run as many blocks of each size were carved since the last reset as ever
were on loan at the same time since then, and the carved words are the sum of these peaks. What
goes on from there without a reset and without raising a peak carves nothing and adds no chunk,
and whatever memory there is, every request that keeps below its peak is granted, which raises no
peak either. -/
theorem grows_with_peak_demand (config : Config) (history : History)
    (allocator : SegregatedAllocator) (run : Run config (Proper config) history allocator) :
    (∃ sizes, CarvingRun config (Proper config) history sizes allocator) ∧
    (∀ sizes, CarvingRun config (Proper config) history sizes allocator →
      ∀ size, sizes.count size = history.peakOf size) ∧
    (∀ size, config.maxRequestWords < size → history.peakOf size = 0) ∧
    allocator.arena.carvedWords =
      ∑ size ∈ Finset.range (config.maxRequestWords + 1), size * history.peakOf size ∧
    ∀ newer later, Onward (Proper config) history allocator newer later → .cleared ∉ newer →
      (∀ size, History.peakOf (newer ++ history) size ≤ history.peakOf size) →
      (∀ sizes, CarvingRun config (Proper config) history sizes allocator →
        CarvingRun config (Proper config) (newer ++ history) sizes later) ∧
      later.arena.carvedWords = allocator.arena.carvedWords ∧
      later.arena.chunks.size = allocator.arena.chunks.size ∧
      ∀ memory size, History.onLoan (newer ++ history) size < history.peakOf size →
        ∃ handle next, later.allocate memory size = .granted handle next ∧
          later.tryAllocate memory size = .granted handle next ∧
          ∀ other, History.peakOf (.lent ⟨handle, size⟩ :: newer ++ history) other ≤
            history.peakOf other := by
  obtain ⟨sizes, carving⟩ := run.exists_carvings
  have balanced := balanced_of_run carving
  have limit : allocator.config.maxRequestWords = config.maxRequestWords :=
    congrArg Config.maxRequestWords (configured_of_run run).settings
  refine ⟨⟨sizes, carving⟩, fun _ other => (balanced_of_run other).peak, fun size large => ?_, ?_,
    fun newer later onward kept peaks => ?_⟩
  · by_contra some
    have within := (balanced.limits size (Nat.pos_of_ne_zero some)).2
    omega
  · rw [balanced.words, sum_eq_sum_mul_count sizes config.maxRequestWords fun size member =>
      limit ▸ (balanced.small size member).2]
    exact Finset.sum_congr rfl fun size _ => by rw [balanced.peak size]
  · obtain ⟨so, words, chunks⟩ := carves_nothing carving onward kept peaks
    refine ⟨fun _ other => (carves_nothing other onward kept peaks).1, words, chunks,
      fun memory size less => ?_⟩
    obtain ⟨handle, next, granted, checked⟩ := granted_of_onLoan_lt so memory size
      (Nat.lt_of_lt_of_le less (history.peakOf_le_append size newer kept))
    refine ⟨handle, next, granted, checked, fun other => ?_⟩
    exact History.peakOf_lent_le _ ⟨handle, size⟩ other history.peakOf peaks less

/-- The chunk budget and the memory are used up. A block of three words and one of one word came
back; the first one is lent again, and then a request for the other one is granted. -/
theorem granted_without_memory :
    ∃ (config : Config) (history newer : History) (allocator later : SegregatedAllocator),
      Run config (Proper config) history allocator ∧
        config.maxChunks = some allocator.arena.chunks.size ∧ allocator.arena.carvedWords = 4 ∧
        history.peakOf 1 = 1 ∧ history.peakOf 3 = 1 ∧
        newer = [.lent ⟨⟨0, 0, 0⟩, 3⟩] ∧ later.arena.carvedWords = 4 ∧
        ∃ handle next, later.allocate .exhausted 1 =
          .granted handle next := by
  have created : Run { chunkWords := 4, maxChunks := some 1 }
    (Proper { chunkWords := 4, maxChunks := some 1 }) [] (fresh _) := .start _ rfl
  have first := created.step _ _ _ _ (.allocate .addressable 3) _ trivial rfl
  have second := first.step _ _ _ _ (.allocate .addressable 1) _ trivial rfl
  have returned := second.step _ _ _ _ (.deallocate ⟨0, 0, 0⟩ 3) _ (Or.inr (by decide)) rfl
  have both := returned.step _ _ _ _ (.deallocate ⟨0, 3, 0⟩ 1) _ (Or.inr (by decide)) rfl
  obtain ⟨_, _, _, carved, going⟩ := grows_with_peak_demand _ _ _ both
  obtain ⟨_, words, _, granted⟩ := going _ _
    (Onward.stay.step _ _ _ _ (.tryAllocate .exhausted 3) _ trivial rfl)
    (by decide +kernel) fun size => History.peakOf_lent_le _ ⟨⟨0, 0, 0⟩, 3⟩ size _
      (fun _ => Nat.le_refl _) Nat.zero_lt_one
  obtain ⟨handle, next, served, _⟩ := granted .exhausted 1 (by decide +kernel)
  exact ⟨_, _, _, _, _, both, rfl, carved.trans (by decide +kernel), rfl, rfl, rfl,
    words.trans (carved.trans (by decide +kernel)), handle, next, served⟩

end SegregatedAllocator

end Allotment
