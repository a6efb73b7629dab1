/-
When a segregated allocator has no block to lend, and what a block costs that it lends. A
request needs one more chunk if no block of its size waits and the newest chunk has no room
for it. Only such a request can be refused: because the chunk budget is spent, or because the
memory does not give a chunk, neither the words of one nor one more entry in the list of chunks
being certain. It is refused in the middle of things, after the released blocks were searched,
and still nothing has changed. Granted, it adds one chunk, and any other request adds none.

All of this holds in every state that a run leads to, whatever the client did before.
-/

import Allotment.Proofs.Segregated.Soundness

namespace Allotment

namespace SegregatedAllocator

/-- A request of the size needs one more chunk: no block of the size waits, and the newest chunk,
if there is one, has no room for it. -/
def NeedsChunk (allocator : SegregatedAllocator) (size : Nat) : Prop :=
  allocator.free.ofSize size = [] ∧ ¬ allocator.arena.HasRoom size

instance (allocator : SegregatedAllocator) (size : Nat) : Decidable (allocator.NeedsChunk size) :=
  inferInstanceAs (Decidable (_ ∧ _))

namespace Configured

variable {config : Config} {allocator : SegregatedAllocator}

/-- The budget is spent when there are as many chunks as it allows. -/
theorem budgetSpent_iff (configured : Configured config allocator) :
    allocator.arena.BudgetSpent ↔ config.maxChunks = some allocator.arena.chunks.size := by
  rw [Arena.BudgetSpent, configured.maxChunks]
  constructor
  · rintro ⟨limit, limited, full⟩
    rw [Option.mem_def.mp limited, Nat.le_antisymm full (configured.budget limit limited)]
  · exact fun spent => ⟨_, spent, Nat.le_refl _⟩

/-- The chunk for a request within the limits is a usual one. -/
theorem chunkSizeFor_eq (configured : Configured config allocator) (size : Nat)
    (small : size ≤ config.chunkWords) : allocator.arena.chunkSizeFor size = config.chunkWords := by
  rw [Arena.chunkSizeFor, configured.chunkWords]
  exact Nat.max_eq_left small

/-- What a request within the limits comes to: it is granted out of what is there, refused over the
budget, refused by the memory, or granted with one more chunk. -/
theorem allocate_outcomes (configured : Configured config allocator) (memory : Memory) (size : Nat)
    (positive : 0 < size) (small : size ≤ config.chunkWords) :
    (¬ allocator.NeedsChunk size ∧ ∃ handle next,
      allocator.allocate memory size = .granted handle next ∧
        next.arena.chunks.size = allocator.arena.chunks.size) ∨
    (allocator.NeedsChunk size ∧ config.maxChunks = some allocator.arena.chunks.size ∧
      allocator.allocate memory size =
        .refused (.capacityExceeded size allocator.arena.capacityWords) allocator) ∨
    (allocator.NeedsChunk size ∧ config.maxChunks ≠ some allocator.arena.chunks.size ∧
      ¬ allocator.arena.Supplied memory size ∧
      allocator.allocate memory size = .refused (.outOfMemory config.chunkWords) allocator) ∨
    (allocator.NeedsChunk size ∧ config.maxChunks ≠ some allocator.arena.chunks.size ∧
      allocator.arena.Supplied memory size ∧ ∃ handle next,
        allocator.allocate memory size =
          .done (.ok handle) next [allocator.arena.grewEvent size] ∧
        next.arena.chunks.size = allocator.arena.chunks.size + 1) := by
  have within : ¬ allocator.config.maxRequestWords < size := by
    rw [configured.settings]
    exact Nat.not_lt.mpr small
  rw [allocate, if_neg (Nat.ne_of_gt positive), if_neg within, Ne, ← configured.budgetSpent_iff,
    ← configured.chunkSizeFor_eq size small]
  cases taken : allocator.free.take? size with
  | some entry =>
    refine Or.inl ⟨fun needs => ?_, _, _, rfl, rfl⟩
    rw [(FreeBlocks.take?_eq_none_iff size _).mpr needs.1] at taken
    cases taken
  | none =>
    have absent := (FreeBlocks.take?_eq_none_iff size _).mp taken
    rcases allocator.arena.obtain_outcomes memory size positive with
      ⟨newest, found, fits, granted⟩ | ⟨full, spent, refused⟩ | ⟨full, unspent, denied, refused⟩ |
      ⟨full, unspent, supplied, newest, found, _, granted⟩
    · refine Or.inl ⟨fun needs => needs.2 ⟨newest, found, fits⟩, allocator.arena.nextHandle newest,
        { allocator with arena := allocator.arena.carved newest size }.lend
          ⟨allocator.arena.nextHandle newest, size⟩, ?_, ?_⟩
      · simp only [granted]
      · exact allocator.arena.size_chunks_carved newest size
    · exact Or.inr (Or.inl ⟨⟨absent, full⟩, spent, by simp only [refused]⟩)
    · exact Or.inr (Or.inr (Or.inl ⟨⟨absent, full⟩, unspent, denied, by simp only [refused]⟩))
    · refine Or.inr (Or.inr (Or.inr ⟨⟨absent, full⟩, unspent, supplied,
        (allocator.arena.grown size).nextHandle newest,
        { allocator with arena := (allocator.arena.grown size).carved newest size }.lend
          ⟨(allocator.arena.grown size).nextHandle newest, size⟩, ?_, ?_⟩))
      · simp only [granted]
      · exact ((allocator.arena.grown size).size_chunks_carved newest size).trans
          (Array.size_push _)

end Configured

end SegregatedAllocator

end Allotment
