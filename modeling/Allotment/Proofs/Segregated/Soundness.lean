/-
What every run of the segregated allocator keeps. The list of released blocks is the
shelf of the history, whatever happened. The record of loans and the counter agree
with the history as long as every chunk has a number that fits into a handle; then
the blocks on loan and the blocks that wait share no word, and all of them are carved.

The invariant is preserved by each kind of change. A reused block moves from the shelf
to the loans and a returned one moves back, so what is apart stays apart; only a block
that is carved is new, and it lies behind everything that was handed out.
-/

import Allotment.Proofs.Lending.Books
import Allotment.Proofs.Segregated.Run

namespace Allotment

namespace SegregatedAllocator

/-! ### What the configuration fixes -/

/-- The allocator keeps to a configuration that keeps the rules. -/
structure Configured (config : Config) (allocator : SegregatedAllocator) : Prop where
  settings : allocator.config = config
  valid : config.validate = .ok ()
  recorded : allocator.loans.isSome = config.trackLoans
  chunkWords : allocator.arena.chunkWords = config.chunkWords
  maxChunks : allocator.arena.maxChunks = config.maxChunks
  alignment : allocator.arena.alignment = config.alignment
  capacity : ∀ chunk ∈ allocator.arena.chunks, chunk.capacity = config.chunkWords
  budget : ∀ limit ∈ config.maxChunks, allocator.arena.chunks.size ≤ limit

theorem configured_of_create (config : Config) (allocator : SegregatedAllocator)
    (created : create config = .ok allocator) :
    Configured config allocator ∧ allocator = fresh config := by
  unfold create at created
  cases valid : config.validate with
  | error cause =>
    rw [valid] at created
    cases created
  | ok _ =>
    rw [valid] at created
    cases created
    refine ⟨⟨rfl, valid, ?_, rfl, rfl, rfl, fun _ member => absurd member (Array.not_mem_empty _),
      fun _ _ => Nat.zero_le _⟩, rfl⟩
    show (if config.trackLoans then some [] else none : Option LoanBook).isSome = _
    cases config.trackLoans <;> rfl

theorem chunkWords_le (config : Config) (valid : config.validate = .ok ()) :
    config.chunkWords ≤ fieldLimit := by
  unfold Config.validate at valid
  split at valid
  · cases valid
  split at valid
  · cases valid
  next _ notLarge => exact Nat.le_of_not_lt notLarge

theorem maxChunks_le (config : Config) (valid : config.validate = .ok ()) (limit : Nat)
    (limited : config.maxChunks = some limit) : limit ≤ fieldLimit := by
  by_contra large
  have outside : limit = 0 ∨ fieldLimit < limit := Or.inr (Nat.lt_of_not_le large)
  unfold Config.validate at valid
  simp only [limited, if_pos outside] at valid
  split at valid
  · cases valid
  split at valid
  · cases valid
  split at valid
  · cases valid
  · cases valid

/-- The offsets in a chunk are small enough for handles. -/
theorem Configured.capacity_le {config : Config} {allocator : SegregatedAllocator}
    (configured : Configured config allocator) :
    ∀ chunk ∈ allocator.arena.chunks, chunk.capacity ≤ fieldLimit := by
  intro chunk member
  rw [configured.capacity chunk member]
  exact chunkWords_le config configured.valid

/-- A chunk budget is less than the numbers that fit into a handle. -/
theorem Configured.size_chunks_lt {config : Config} {allocator : SegregatedAllocator}
    (configured : Configured config allocator) (limit : Nat)
    (limited : config.maxChunks = some limit) : allocator.arena.chunks.size < 2 ^ 32 := by
  have most := configured.budget limit limited
  have small := maxChunks_le config configured.valid limit limited
  exact Nat.lt_of_le_of_lt (Nat.le_trans most small) (by decide)

/-- A chunk budget keeps the numbers of chunks small enough for handles. -/
theorem Configured.chunksNamed {config : Config} {allocator : SegregatedAllocator}
    (configured : Configured config allocator)
    (unlimited : config.maxChunks = none → allocator.arena.ChunksNamed) :
    allocator.arena.ChunksNamed := by
  cases limited : config.maxChunks with
  | none => exact unlimited limited
  | some limit => exact Nat.le_of_lt (configured.size_chunks_lt limit limited)

section Change

variable {config : Config} {before after : SegregatedAllocator} {deeds : History}

theorem configured_of_change (configured : Configured config before)
    (change : Change before deeds after) : Configured config after := by
  obtain ⟨same, valid, recorded, chunkWords, maxChunks, alignment, capacity, budget⟩ :=
    configured
  cases change with
  | nothing =>
    exact ⟨same, valid, recorded, chunkWords, maxChunks, alignment, capacity, budget⟩
  | written handle size patch stored overwrites =>
    obtain ⟨sameWords, sameBudget, sameAlignment, ofOlder⟩ := Arena.settings_of_store overwrites
    have count := Arena.size_chunks_store overwrites
    refine ⟨same, valid, recorded, sameWords.trans chunkWords, sameBudget.trans maxChunks,
      sameAlignment.trans alignment, fun chunk member => ?_,
      fun limit limited => count ▸ budget limit limited⟩
    obtain ⟨older, olderMember, equal⟩ := ofOlder chunk member
    exact equal.trans (capacity older olderMember)
  | reused handle size left positive small taken =>
    exact ⟨same, valid, Option.isSome_map.trans recorded, chunkWords, maxChunks, alignment,
      capacity, budget⟩
  | carved memory handle size grown events positive small absent obtained =>
    have settled := Arena.settled_of_obtain memory _ size handle grown events positive obtained
    refine ⟨same, valid, Option.isSome_map.trans recorded, settled.chunkWords.trans chunkWords,
      settled.maxChunks.trans maxChunks, settled.alignment.trans alignment,
      fun chunk member => ?_, fun limit limited => ?_⟩
    · rcases settled.capacity chunk member with equal | ⟨older, olderMember, equal⟩
      · rw [equal, Arena.chunkSizeFor, chunkWords]
        rw [same] at small
        exact Nat.max_eq_left small
      · exact equal.trans (capacity older olderMember)
    · rcases settled.most with most | ⟨unspent, count⟩
      · exact Nat.le_trans most (budget limit limited)
      · have room : ¬ limit ≤ before.arena.chunks.size :=
          fun full => unspent ⟨limit, maxChunks ▸ limited, full⟩
        show grown.chunks.size ≤ limit
        rw [count]
        exact Nat.lt_of_not_le room
  | returned handle size positive carved lending isLoan =>
    exact ⟨same, valid, Option.isSome_map.trans recorded, chunkWords, maxChunks, alignment,
      capacity, budget⟩
  | cleared =>
    exact ⟨same, valid, Option.isSome_map.trans recorded, chunkWords, maxChunks, alignment,
      fun _ member => absurd member (Array.not_mem_empty _), fun _ _ => Nat.zero_le _⟩

/-- A block that is carved is handed out, where the chunks have numbers that fit. -/
theorem handsOut_of_carved (configured : Configured config before) (memory : Memory)
    (handle : Handle) (size : Nat) (grown : Arena) (events : List Event) (positive : 0 < size)
    (small : size ≤ before.config.maxRequestWords) (absent : before.free.take? size = none)
    (obtained : before.arena.obtain memory size = .done (.ok handle) grown events)
    (named : grown.ChunksNamed) : before.arena.HandsOut size handle grown := by
  have settled := configured_of_change configured
    (.carved memory handle size grown events positive small absent obtained)
  exact Arena.handsOut_of_obtain memory _ size handle grown events positive named
    settled.capacity_le obtained

/-- The released blocks stay the shelf of the history. -/
theorem free_of_change {history : History} (shelved : before.free = history.shelf)
    (change : Change before deeds after) : after.free = History.shelf (deeds ++ history) := by
  cases change with
  | nothing => exact shelved
  | written handle size patch stored overwrites => exact shelved
  | reused handle size left positive small taken =>
    obtain ⟨_, rest⟩ := FreeBlocks.take?_eq_some size _ left handle taken
    show left = history.shelf.erase _
    rw [rest, shelved]
  | carved memory handle size grown events positive small absent obtained =>
    have missing := FreeBlocks.not_mem_of_take?_eq_none size _ absent handle
    show before.free = history.shelf.erase _
    rw [← shelved, List.erase_of_not_mem missing]
  | returned handle size positive carved lending isLoan =>
    exact congrArg (⟨handle, size⟩ :: ·) shelved
  | cleared => rfl

end Change

/-- Where a block of the size waits, a request within the limits is granted from the released
blocks, checked or not and whatever memory there is. -/
theorem granted_of_waiting (allocator : SegregatedAllocator) (memory : Memory) (size : Nat)
    (positive : 0 < size) (small : size ≤ allocator.config.maxRequestWords)
    (waiting : ∃ handle, ⟨handle, size⟩ ∈ allocator.free) :
    ∃ handle left next, allocator.free.take? size = some (handle, left) ∧
      allocator.allocate memory size = .granted handle next ∧
      allocator.tryAllocate memory size = .granted handle next := by
  obtain ⟨some, member⟩ := waiting
  cases taken : allocator.free.take? size with
  | none => exact absurd member (FreeBlocks.not_mem_of_take?_eq_none size _ taken some)
  | some entry =>
    have granted : allocator.allocate memory size =
        .granted entry.1 ({ allocator with free := entry.2 }.lend ⟨entry.1, size⟩) := by
      rw [allocate, if_neg (Nat.ne_of_gt positive), if_neg (Nat.not_lt.mpr small)]
      simp only [taken]
    exact ⟨entry.1, entry.2, _, rfl, granted,
      (allocator.tryAllocate_eq_allocate memory size positive small).trans granted⟩

/-! ### Runs -/

section Run

variable {config : Config} {Permits : History → Command → Prop} {history : History}
  {allocator : SegregatedAllocator}

theorem configured_of_run (run : Run config Permits history allocator) :
    Configured config allocator := by
  induction run with
  | start allocator created => exact (configured_of_create config allocator created).1
  | step history deeds before after command events run permitted performed inductionHypothesis =>
    exact configured_of_change inductionHypothesis
      (before.change_of_perform command deeds after events performed)

/-- In every run the released blocks are the ones that the history shelves, in its order. -/
theorem free_eq_shelf (run : Run config Permits history allocator) :
    allocator.free = history.shelf := by
  induction run with
  | start allocator created =>
    obtain ⟨_, rfl⟩ := configured_of_create config allocator created
    rfl
  | step history deeds before after command events run permitted performed inductionHypothesis =>
    exact free_of_change inductionHypothesis
      (before.change_of_perform command deeds after events performed)

end Run

/-! ### The invariant -/

/-- The allocator agrees with the history about the loans, and the blocks on loan and the blocks
that wait are carved and share no word. -/
structure Sound (history : History) (allocator : SegregatedAllocator) : Prop where
  apart : (history.loans ++ history.shelf).Pairwise Block.Apart
  carved : ∀ block ∈ history.loans ++ history.shelf,
    allocator.arena.contains block.handle block.size = true
  book : ∀ book ∈ allocator.loans, book = history.loans
  live : allocator.live = history.loans.length

namespace Sound

variable {history : History} {allocator : SegregatedAllocator}

theorem positive (sound : Sound history allocator) (block : Block)
    (member : block ∈ history.loans ++ history.shelf) : 0 < block.size :=
  ((Arena.contains_iff _ _ _).mp (sound.carved block member)).2.1

/-- No handle occurs twice among the blocks on loan and the blocks that wait. -/
theorem nodup_handles (sound : Sound history allocator) :
    ((history.loans ++ history.shelf).map (·.handle)).Nodup :=
  Block.nodup_handles sound.apart sound.positive

theorem nodup_loans (sound : Sound history allocator) :
    (history.loans.map (·.handle)).Nodup := by
  have distinct := sound.nodup_handles
  rw [List.map_append] at distinct
  exact distinct.of_append_left

/-- A block that waits has another handle than every block on loan. -/
theorem handle_ne (sound : Sound history allocator) (loan waiting : Block)
    (onLoan : loan ∈ history.loans) (shelved : waiting ∈ history.shelf) :
    loan.handle ≠ waiting.handle := by
  have distinct := sound.nodup_handles
  rw [List.map_append, List.nodup_append] at distinct
  exact distinct.2.2 _ (List.mem_map_of_mem onLoan) _ (List.mem_map_of_mem shelved)

/-- Every block on loan and every block that waits is of the current epoch. -/
theorem current (sound : Sound history allocator) (block : Block)
    (member : block ∈ history.loans ++ history.shelf) :
    block.handle.epoch = allocator.arena.epoch :=
  ((Arena.contains_iff _ _ _).mp (sound.carved block member)).1

theorem fresh (config : Config) : Sound [] (fresh config) where
  apart := List.Pairwise.nil
  carved := nofun
  book := by
    intro book member
    have empty : (if config.trackLoans then some [] else none) = some book := member
    cases tracked : config.trackLoans with
    | false =>
      rw [tracked] at empty
      cases empty
    | true =>
      rw [tracked] at empty
      cases empty
      rfl
  live := rfl

theorem cleared (history : History) (allocator : SegregatedAllocator) :
    Sound (.cleared :: history) allocator.cleared where
  apart := List.Pairwise.nil
  carved := nofun
  book := by
    intro book member
    obtain ⟨_, _, rfl⟩ := Option.map_eq_some_iff.mp member
    rfl
  live := rfl

/-- A loan of a handle that is not on loan is recorded as the latest one. -/
theorem book_lend (sound : Sound history allocator) (block : Block)
    (unused : ∀ other ∈ history.loans, other.handle ≠ block.handle) :
    ∀ book ∈ allocator.loans.map (·.record block), book = block :: history.loans := by
  intro book member
  obtain ⟨earlier, found, rfl⟩ := Option.map_eq_some_iff.mp member
  have same := sound.book earlier found
  subst same
  exact LoanBook.record_eq_cons _ block unused

theorem written (sound : Sound history allocator) {handle : Handle} {size : Nat} {patch : Patch}
    {stored : Arena} (overwrites : allocator.arena.store? handle size patch = some stored) :
    Sound history { allocator with arena := stored } where
  apart := sound.apart
  carved block member := Arena.contains_store overwrites _ _ (sound.carved block member)
  book := sound.book
  live := sound.live

/-- A reused block only moves from the shelf to the loans. -/
theorem reused (sound : Sound history allocator) (block : Block) (left : FreeBlocks)
    (waiting : block ∈ history.shelf) :
    Sound (.lent block :: history) ({ allocator with free := left }.lend block) := by
  have moved := history.perm_of_lent block waiting
  constructor
  · exact (moved.pairwise_iff Block.Apart.symm).mpr sound.apart
  · exact fun other member => sound.carved other (moved.mem_iff.mp member)
  · exact sound.book_lend block fun other onLoan => sound.handle_ne other block onLoan waiting
  · exact congrArg (· + 1) sound.live

/-- A block that is handed out is apart from all others. -/
theorem handedOut (sound : Sound history allocator) (block : Block) (carved : Arena)
    (handed : allocator.arena.HandsOut block.size block.handle carved) :
    Sound (.lent block :: history) ({ allocator with arena := carved }.lend block) := by
  have positive : 0 < block.size := ((Arena.contains_iff _ _ _).mp handed.contains).2.1
  have separate : ∀ other ∈ history.loans ++ history.shelf, block.Apart other :=
    fun other member => handed.apart other (sound.carved other member)
  have unused : ∀ other ∈ history.loans ++ history.shelf, other.handle ≠ block.handle :=
    fun other member same =>
      (separate other member).handle_ne positive (sound.positive other member) same.symm
  have unshelved : block ∉ history.shelf :=
    fun waiting => unused block (List.mem_append_right _ waiting) rfl
  have shelf : History.shelf (.lent block :: history) = history.shelf :=
    List.erase_of_not_mem unshelved
  constructor
  · rw [shelf]
    exact List.pairwise_cons.mpr ⟨separate, sound.apart⟩
  · rw [shelf]
    intro other member
    rcases List.mem_cons.mp member with rfl | older
    · exact handed.contains
    · exact handed.extension.contains _ _ (sound.carved other older)
  · exact sound.book_lend block fun other onLoan => unused other (List.mem_append_left _ onLoan)
  · exact congrArg (· + 1) sound.live

/-- A returned block only moves from the loans to the shelf. -/
theorem returned (sound : Sound history allocator) (block : Block)
    (onLoan : block ∈ history.loans) :
    Sound (.returned block :: history)
      (allocator.shelve block (allocator.loans.map fun book => book.erase block.handle)) := by
  have moved := history.perm_of_returned block onLoan
  constructor
  · exact (moved.pairwise_iff Block.Apart.symm).mpr sound.apart
  · exact fun other member => sound.carved other (moved.mem_iff.mp member)
  · intro book member
    obtain ⟨earlier, found, rfl⟩ := Option.map_eq_some_iff.mp member
    have same := sound.book earlier found
    subst same
    exact LoanBook.erase_eq_erase _ sound.nodup_loans block onLoan
  · show allocator.live - 1 = (history.loans.erase block).length
    rw [sound.live, List.length_erase_of_mem onLoan]

/-- A block on loan meets what a release of it demands. -/
theorem admits_release (sound : Sound history allocator) (block : Block)
    (onLoan : block ∈ history.loans) :
    0 < block.size ∧ allocator.arena.contains block.handle block.size = true ∧
      0 < allocator.live := by
  have member := List.mem_append_left history.shelf onLoan
  refine ⟨sound.positive block member, sound.carved block member, ?_⟩
  rw [sound.live]
  exact List.length_pos_of_mem onLoan

/-- A recorded loan is a loan of the history. -/
theorem mem_loans (sound : Sound history allocator) (book : LoanBook)
    (found : allocator.loans = some book) (handle : Handle) (size : Nat)
    (recorded : book.size? handle = some size) : ⟨handle, size⟩ ∈ history.loans := by
  have same := sound.book book found
  subst same
  exact LoanBook.mem_of_size? _ handle size recorded

/-- A release of a recorded loan at its size is carried out. -/
theorem deallocate_eq (sound : Sound history allocator) (book : LoanBook)
    (found : allocator.loans = some book) (handle : Handle) (size : Nat)
    (recorded : book.size? handle = some size) :
    allocator.deallocate handle size =
      .done () (allocator.shelve ⟨handle, size⟩
        (allocator.loans.map fun book => book.erase handle)) [] := by
  obtain ⟨positive, carved, lending⟩ :=
    sound.admits_release ⟨handle, size⟩ (sound.mem_loans book found handle size recorded)
  refine allocator.deallocate_eq_done handle size positive carved lending fun other member => ?_
  cases found.symm.trans member
  exact recorded

end Sound

/-! ### Preservation -/

section Preservation

variable {config : Config} {before after : SegregatedAllocator} {deeds history : History}

/-- A change that leaves chunks with numbers that fit was made where they fit, unless it was a
reset. -/
theorem chunksNamed_of_change (named : after.arena.ChunksNamed)
    (change : Change before deeds after) : before.arena.ChunksNamed ∨ deeds = [.cleared] := by
  cases change with
  | nothing => exact Or.inl named
  | written handle size patch stored overwrites =>
    refine Or.inl ?_
    rw [Arena.ChunksNamed, ← Arena.size_chunks_store overwrites]
    exact named
  | reused handle size left positive small taken => exact Or.inl named
  | carved memory handle size grown events positive small absent obtained =>
    have settled := Arena.settled_of_obtain memory _ size handle grown events positive obtained
    exact Or.inl (Nat.le_trans settled.least named)
  | returned handle size positive carved lending isLoan => exact Or.inl named
  | cleared => exact Or.inr rfl

theorem sound_of_change (configured : Configured config before)
    (shelved : before.free = history.shelf) (sound : Sound history before)
    (named : after.arena.ChunksNamed) (change : Change before deeds after)
    (proper : ∀ block, deeds = [.returned block] →
      config.trackLoans = true ∨ block ∈ history.loans) :
    Sound (deeds ++ history) after := by
  cases change with
  | nothing => exact sound
  | written handle size patch stored overwrites => exact sound.written overwrites
  | reused handle size left positive small taken =>
    obtain ⟨waiting, _⟩ := FreeBlocks.take?_eq_some size _ left handle taken
    rw [shelved] at waiting
    exact sound.reused ⟨handle, size⟩ left waiting
  | carved memory handle size grown events positive small absent obtained =>
    exact sound.handedOut ⟨handle, size⟩ grown (handsOut_of_carved configured memory handle size
      grown events positive small absent obtained named)
  | returned handle size positive carved lending isLoan =>
    refine sound.returned ⟨handle, size⟩ ?_
    rcases proper ⟨handle, size⟩ rfl with tracked | onLoan
    · have recorded : before.loans.isSome = true := configured.recorded.trans tracked
      obtain ⟨book, found⟩ := Option.isSome_iff_exists.mp recorded
      exact sound.mem_loans book found handle size (isLoan book found)
    · exact onLoan
  | cleared => exact Sound.cleared history before

/-- A block that came back was named in the command. -/
theorem proper_of_returned (command : Command) (events : List Event) (block : Block)
    (proper : Proper config history command)
    (performed : before.perform command = .done [.returned block] after events) :
    config.trackLoans = true ∨ block ∈ history.loans := by
  have accomplishes := before.accomplishes_of_perform command _ after events performed
    (.returned block) List.mem_cons_self
  cases command with
  | allocate memory size => exact nomatch accomplishes
  | tryAllocate memory size => exact nomatch accomplishes
  | deallocate handle size =>
    cases accomplishes
    exact proper
  | tryDeallocate handle size =>
    cases accomplishes
    exact proper
  | write handle size patch => cases accomplishes
  | reset => cases accomplishes
  | tryReset => cases accomplishes

/-- Every run that ends with chunks whose numbers fit is sound. -/
theorem sound_of_run (run : Run config (Proper config) history after)
    (named : after.arena.ChunksNamed) : Sound history after := by
  induction run with
  | start allocator created =>
    obtain ⟨_, rfl⟩ := configured_of_create config allocator created
    exact Sound.fresh config
  | step history deeds before after command events run proper performed inductionHypothesis =>
    have change := before.change_of_perform command deeds after events performed
    rcases chunksNamed_of_change named change with namedBefore | rfl
    · refine sound_of_change (configured_of_run run) (free_eq_shelf run)
        (inductionHypothesis namedBefore) named change fun block equal => ?_
      subst equal
      exact proper_of_returned command events block proper performed
    · cases change
      exact Sound.cleared history before

end Preservation

end SegregatedAllocator

end Allotment
