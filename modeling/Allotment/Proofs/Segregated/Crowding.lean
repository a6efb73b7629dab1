/-
More chunks than 32 bits can number. A handle keeps the number of its chunk in 32 bits, and
nothing stops an arena without a chunk budget from growing further. The chunk after the last
numbered one goes by the number zero again, so its first block gets a handle of the first
chunk.

A crowd brings that about with chunks of two words: one word is lent, and then two words as
often as there are to be chunks. Each loan takes one more chunk, because the newest one never
has two words left. Only one word of the first chunk is ever handed out, so a loan of two words
that is named as one of the first chunk names words that nobody carved.

Which runs, sessions and checkers a crowd is driven through differs. The induction over its
loans is the same and stands here once.
-/

import Allotment.Proofs.Segregated.Soundness
import Allotment.Proofs.Lending.Resets

namespace Allotment

/-! ### The loans of a crowd -/

namespace History

/-- The size of the loan that takes the chunk with a number. -/
def crowdSize (number : Nat) : Nat :=
  if number = 0 then 1 else 2

/-- The loan that takes the chunk with a number. -/
def crowdLoan (number : Nat) : Block :=
  ⟨⟨number.toUInt32, 0, 0⟩, crowdSize number⟩

/-- The loans that take so many chunks. -/
def crowd : Nat → History
  | 0 => []
  | number + 1 => .lent (crowdLoan number) :: crowd number

theorem crowdSize_of_pos (number : Nat) (positive : 0 < number) : crowdSize number = 2 :=
  if_neg (Nat.ne_of_gt positive)

theorem crowdSize_pos (number : Nat) : 0 < crowdSize number := by
  unfold crowdSize
  split <;> decide

theorem crowdSize_le (number : Nat) : crowdSize number ≤ 2 := by
  unfold crowdSize
  split <;> decide

/-- A crowd resets nothing. -/
theorem resets_crowd (chunks : Nat) : (crowd chunks).resets = 0 := by
  induction chunks with
  | zero => rfl
  | succ number inductionHypothesis =>
    rw [crowd, resets_cons, inductionHypothesis]
    rfl

/-- A crowd returns nothing. -/
theorem shelf_crowd (chunks : Nat) : (crowd chunks).shelf = [] := by
  induction chunks with
  | zero => rfl
  | succ number inductionHypothesis =>
    rw [crowd, shelf, inductionHypothesis, List.erase_nil]

theorem first_lent_crowd (number : Nat) :
    .lent ⟨⟨0, 0, 0⟩, 1⟩ ∈ (crowd (number + 1)).current := by
  induction number with
  | zero => exact List.mem_cons_self
  | succ number inductionHypothesis => exact List.mem_cons_of_mem _ inductionHypothesis

/-- The first loan of a crowd stays on loan. -/
theorem first_mem_loans_crowd (number : Nat) :
    ⟨⟨0, 0, 0⟩, 1⟩ ∈ (crowd (number + 1)).loans := by
  have lent := mem_of_lent _ _ (first_lent_crowd number)
  rwa [shelf_crowd, List.append_nil] at lent

/-- The loan of one more chunk than there are numbers is named after the first chunk. -/
theorem crowdLoan_past_numbers : crowdLoan (2 ^ 32) = ⟨⟨0, 0, 0⟩, 2⟩ := by
  rw [crowdLoan, crowdSize_of_pos _ (by decide)]
  rfl

end History

/-! ### One more chunk -/

namespace Arena

variable (arena : Arena) (size : Nat)

/-- The arena after it grew by one chunk for a request and handed out the first block of it. -/
def expanded : Arena :=
  (arena.grown size).carved ⟨arena.chunkSizeFor size, #[]⟩ size

/-- A request that takes one more chunk is served from the front of it, and the handle names the
chunk by what 32 bits keep of its number. -/
theorem obtain_expanded (memory : Memory) (positive : 0 < size) (full : ¬ arena.HasRoom size)
    (unspent : ¬ arena.BudgetSpent) (supplied : arena.Supplied memory size) :
    arena.obtain memory size =
      .done (.ok ⟨arena.chunks.size.toUInt32, 0, arena.epoch⟩) (arena.expanded size)
        [arena.grewEvent size] := by
  rcases arena.obtain_outcomes memory size positive with ⟨newest, found, fits, _⟩ | ⟨_, spent, _⟩ |
    ⟨_, _, denied, _⟩ | ⟨_, _, _, newest, found, _, granted⟩
  · exact absurd ⟨newest, found, fits⟩ full
  · exact absurd spent unspent
  · exact absurd supplied denied
  · rw [back?_grown] at found
    cases found
    have index : (arena.grown size).chunks.size - 1 = arena.chunks.size := by
      rw [grown, Array.size_push, Nat.add_sub_cancel]
    have start : arena.alignment.roundUp 0 = 0 :=
      arena.alignment.roundUp_of_dvd 0 (Nat.dvd_zero _)
    have handle : (arena.grown size).nextHandle ⟨arena.chunkSizeFor size, #[]⟩ =
        ⟨arena.chunks.size.toUInt32, 0, arena.epoch⟩ := by
      unfold nextHandle
      rw [index]
      exact congrArg (Handle.mk _ ·.toUInt32 _) start
    rw [granted, handle]
    rfl

theorem size_chunks_expanded : (arena.expanded size).chunks.size = arena.chunks.size + 1 := by
  rw [expanded, size_chunks_carved, grown, Array.size_push]

theorem back?_expanded :
    (arena.expanded size).chunks.back? =
      some (Chunk.extend ⟨arena.chunkSizeFor size, #[]⟩ arena.alignment size) :=
  (arena.grown size).back?_carved _ size (arena.back?_grown size)

/-- The older chunks stay as they are. -/
theorem getElem?_expanded (index : Nat) (older : index < arena.chunks.size) :
    (arena.expanded size).chunks[index]? = arena.chunks[index]? := by
  have other : index ≠ (arena.grown size).chunks.size - 1 := by
    rw [grown, Array.size_push, Nat.add_sub_cancel]
    exact Nat.ne_of_lt older
  rw [expanded, getElem?_carved_other _ _ _ _ other, grown, Array.getElem?_push_lt older,
    Array.getElem?_eq_getElem older]

end Arena

/-! ### The state that a crowd leaves -/

namespace SegregatedAllocator

open History (crowd crowdLoan crowdSize crowdSize_of_pos crowdSize_pos crowdSize_le)

/-- A crowd took so many chunks of two words. One word of the first chunk is handed out, the newest
chunk has no room for the next loan, and nothing came back. -/
structure Crowded (chunks : Nat) (allocator : SegregatedAllocator) : Prop where
  limit : allocator.config.maxRequestWords = 2
  chunkWords : allocator.arena.chunkWords = 2
  unlimited : allocator.arena.maxChunks = none
  alignment : allocator.arena.alignment = .word
  epoch : allocator.arena.epoch = 0
  count : allocator.arena.chunks.size = chunks
  first : ∀ chunk, allocator.arena.chunks[0]? = some chunk → chunk.used = 1
  full : ¬ allocator.arena.HasRoom (crowdSize chunks)
  free : allocator.free = []

namespace Crowded

variable {chunks : Nat} {allocator : SegregatedAllocator}

theorem fresh (tracked : Bool) :
    Crowded 0 (fresh { chunkWords := 2, trackLoans := tracked }) where
  limit := rfl
  chunkWords := rfl
  unlimited := rfl
  alignment := rfl
  epoch := rfl
  count := rfl
  first _ found := nomatch found
  full := fun ⟨_, found, _⟩ => nomatch found
  free := rfl

/-- No two words of the first chunk were handed out. -/
theorem contains_first (crowded : Crowded chunks allocator) :
    allocator.arena.contains ⟨0, 0, 0⟩ 2 = false := by
  refine Bool.eq_false_iff.mpr fun carved => ?_
  obtain ⟨_, _, chunk, found, inside⟩ := (Arena.contains_iff _ _ _).mp carved
  rw [crowded.first chunk found] at inside
  exact absurd inside (by decide)

theorem words?_first (crowded : Crowded chunks allocator) :
    allocator.words? ⟨0, 0, 0⟩ 2 = none := by
  have absent := (allocator.arena.words?_isSome ⟨0, 0, 0⟩ 2).trans crowded.contains_first
  exact Option.not_isSome_iff_eq_none.mp (Bool.eq_false_iff.mp absent)

/-- A write to the first two words of the first chunk goes nowhere. -/
theorem store_first (crowded : Crowded chunks allocator) (patch : Patch) :
    Allocator.store allocator ⟨0, 0, 0⟩ 2 patch = allocator := by
  have absent := (allocator.arena.store?_isSome ⟨0, 0, 0⟩ 2 patch).trans crowded.contains_first
  have nowhere := Option.not_isSome_iff_eq_none.mp (Bool.eq_false_iff.mp absent)
  have unwritten : allocator.store? ⟨0, 0, 0⟩ 2 patch = none := by
    rw [store?, nowhere, Option.map_none]
  show (allocator.store? ⟨0, 0, 0⟩ 2 patch).getD allocator = allocator
  rw [unwritten, Option.getD_none]

/-- A release of the first two words of the first chunk is a fault. -/
theorem deallocate_first (crowded : Crowded chunks allocator) :
    allocator.deallocate ⟨0, 0, 0⟩ 2 = .fault (.notCarved ⟨0, 0, 0⟩ 2 0) [] := by
  rw [deallocate, if_neg (by decide), if_pos crowded.contains_first, crowded.epoch]

/-- Words that are overwritten do not change how much room there is. -/
theorem store (crowded : Crowded chunks allocator) (handle : Handle) (size : Nat)
    (patch : Patch) : Crowded chunks (Allocator.store allocator handle size patch) := by
  show Crowded chunks ((allocator.store? handle size patch).getD allocator)
  rw [SegregatedAllocator.store?]
  cases written : allocator.arena.store? handle size patch with
  | none => exact crowded
  | some stored =>
    obtain ⟨chunkWords, maxChunks, alignment, _⟩ := Arena.settings_of_store written
    refine ⟨crowded.limit, chunkWords.trans crowded.chunkWords, maxChunks.trans crowded.unlimited,
      alignment.trans crowded.alignment, (Arena.epoch_store written).trans crowded.epoch,
      (Arena.size_chunks_store written).trans crowded.count, fun chunk found => ?_,
      fun room => crowded.full (Arena.hasRoom_of_store written _ room), crowded.free⟩
    obtain ⟨older, olderFound, _, used⟩ := Arena.exists_chunk_of_store written 0 chunk found
    exact used.trans (crowded.first older olderFound)

theorem chunkSizeFor_eq (crowded : Crowded chunks allocator) (number : Nat) :
    allocator.arena.chunkSizeFor (crowdSize number) = 2 := by
  rw [Arena.chunkSizeFor, crowded.chunkWords, Nat.max_eq_left (crowdSize_le number)]

/-- The chunk that the next loan takes has two words, of which the loan is handed out. -/
theorem exists_newest_expanded (crowded : Crowded chunks allocator) :
    ∃ newest, (allocator.arena.expanded (crowdSize chunks)).chunks.back? = some newest ∧
      newest.used = crowdSize chunks ∧ newest.capacity = 2 := by
  refine ⟨_, allocator.arena.back?_expanded _, ?_, crowded.chunkSizeFor_eq chunks⟩
  rw [Chunk.used_extend, crowded.alignment, Alignment.roundUp_word]
  exact Nat.zero_add _

/-- A loan of the next size leaves a crowd of one more chunk. -/
theorem expanded (crowded : Crowded chunks allocator) (block : Block) :
    Crowded (chunks + 1)
      ({ allocator with arena := allocator.arena.expanded (crowdSize chunks) }.lend block) where
  limit := crowded.limit
  chunkWords := crowded.chunkWords
  unlimited := crowded.unlimited
  alignment := crowded.alignment
  epoch := crowded.epoch
  count := (allocator.arena.size_chunks_expanded _).trans (congrArg (· + 1) crowded.count)
  first chunk found := by
    cases chunks with
    | zero =>
      obtain ⟨newest, last, used, _⟩ := crowded.exists_newest_expanded
      rw [Array.back?_eq_getElem?, Arena.size_chunks_expanded, crowded.count] at last
      cases last.symm.trans found
      exact used
    | succ number =>
      have older : 0 < allocator.arena.chunks.size := crowded.count ▸ number.succ_pos
      exact crowded.first chunk ((allocator.arena.getElem?_expanded _ 0 older).symm.trans found)
  full := by
    rintro ⟨newest, found, fits⟩
    obtain ⟨_, last, used, capacity⟩ := crowded.exists_newest_expanded
    cases last.symm.trans found
    change Alignment.roundUp allocator.arena.alignment newest.used + _ ≤ newest.capacity at fits
    rw [crowded.alignment, Alignment.roundUp_word, used, capacity,
      crowdSize_of_pos _ chunks.succ_pos] at fits
    have positive := crowdSize_pos chunks
    omega
  free := crowded.free

/-- The next loan takes one more chunk and is named after it, by what 32 bits keep of its number. -/
theorem allocate_eq (crowded : Crowded chunks allocator) (memory : Memory)
    (words : memory.grantsWords 2 = true) (entry : memory.grantsEntry chunks = true) :
    allocator.allocate memory (crowdSize chunks) =
      .done (.ok (crowdLoan chunks).handle)
        ({ allocator with arena := allocator.arena.expanded (crowdSize chunks) }.lend
          (crowdLoan chunks)) [allocator.arena.grewEvent (crowdSize chunks)] := by
  have positive := crowdSize_pos chunks
  have small : ¬ allocator.config.maxRequestWords < crowdSize chunks :=
    crowded.limit ▸ Nat.not_lt.mpr (crowdSize_le chunks)
  have unspent : ¬ allocator.arena.BudgetSpent := by
    rintro ⟨limit, limited, _⟩
    cases limited.symm.trans crowded.unlimited
  have supplied : allocator.arena.Supplied memory (crowdSize chunks) := by
    rw [Arena.Supplied, crowded.chunkSizeFor_eq, crowded.count]
    exact ⟨words, entry⟩
  have obtained := allocator.arena.obtain_expanded _ memory positive crowded.full unspent supplied
  rw [crowded.count, crowded.epoch] at obtained
  rw [SegregatedAllocator.allocate, if_neg (Nat.ne_of_gt positive), if_neg small, crowded.free]
  simp only [FreeBlocks.take?, obtained]
  rfl

/-- Once the numbers are used up, the next loan is named as the first two words of the first
chunk. -/
theorem allocate_past_numbers (crowded : Crowded (2 ^ 32) allocator) :
    ∃ after events, Crowded (2 ^ 32 + 1) after ∧
      allocator.allocate .addressable 2 = .done (.ok ⟨0, 0, 0⟩) after events := by
  have granted := crowded.allocate_eq .addressable rfl (by decide)
  rw [crowdSize_of_pos _ (by decide), History.crowdLoan_past_numbers] at granted
  refine ⟨_, _, ?_, granted⟩
  exact crowdSize_of_pos (2 ^ 32) (by decide) ▸ crowded.expanded ⟨⟨0, 0, 0⟩, 2⟩

end Crowded

/-! ### A crowd drives a run -/

/-- What holds of a new allocator and is kept by every loan of a crowd holds of some crowd of any
size that is asked for, one chunk past the numbers included. The induction is on the chunks. -/
theorem exists_crowded (reached : Nat → SegregatedAllocator → Prop) (tracked : Bool)
    (start : reached 0 (fresh { chunkWords := 2, trackLoans := tracked }))
    (step : ∀ chunks before after events, Crowded chunks before → Crowded (chunks + 1) after →
      reached chunks before → before.allocate .addressable (crowdSize chunks) =
        .done (.ok (crowdLoan chunks).handle) after events → reached (chunks + 1) after)
    (chunks : Nat) (few : chunks ≤ 2 ^ 32 + 1) :
    ∃ allocator, Crowded chunks allocator ∧ reached chunks allocator := by
  induction chunks with
  | zero => exact ⟨_, .fresh tracked, start⟩
  | succ number inductionHypothesis =>
    obtain ⟨before, crowded, reaches⟩ := inductionHypothesis (Nat.le_of_succ_le few)
    -- The list of chunks has room for many more entries than 32 bits can number.
    have entry : Memory.addressable.grantsEntry number = true :=
      decide_eq_true (Nat.lt_of_lt_of_le few (by decide))
    have later := crowded.expanded (crowdLoan number)
    exact ⟨_, later, step number before _ _ crowded later reaches
      (crowded.allocate_eq .addressable rfl entry)⟩

/-- A crowd is the history of a run, whatever else the run may do. -/
theorem exists_crowded_run (Permits : History → Command → Prop)
    (permits : ∀ history memory size, Permits history (.allocate memory size)) (tracked : Bool)
    (chunks : Nat) (few : chunks ≤ 2 ^ 32 + 1) :
    ∃ allocator, Crowded chunks allocator ∧
      Run { chunkWords := 2, trackLoans := tracked } Permits (crowd chunks) allocator :=
  exists_crowded
    (fun chunks allocator =>
      Run { chunkWords := 2, trackLoans := tracked } Permits (crowd chunks) allocator)
    tracked (.start _ rfl) (fun _ _ _ _ _ _ run granted =>
      run.step _ _ _ _ _ _ (permits _ _ _) (perform_allocate granted)) chunks few

end SegregatedAllocator

end Allotment
