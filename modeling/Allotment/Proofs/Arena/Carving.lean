/-
What an arena does when it hands out a block. It grows by at most one chunk, and the
chunks it has keep the words they hold, so every range that was handed out before
still reads as it did. The new block lies behind everything that was handed out from
its chunk and reads as zeros.

The number of the chunk and the offset are cut to 32 bits in the handle. Nothing is
lost by that as long as the chunks have numbers that fit and are not too large; both
are premises here, and the configuration rules give the second.
-/

import Allotment.Arena.Growth
import Allotment.Proofs.Block.Ranges
import Allotment.Proofs.Block.Sharing

namespace Allotment

namespace Arena

/-! ### Ranges that were handed out -/

/-- Every chunk has a number that fits into a handle. -/
def ChunksNamed (arena : Arena) : Prop :=
  arena.chunks.size ≤ 2 ^ 32

instance (arena : Arena) : Decidable arena.ChunksNamed :=
  inferInstanceAs (Decidable (_ ≤ _))

/-- A range was handed out exactly when it is a range of the used part of a chunk, under the
current epoch. -/
theorem contains_iff (arena : Arena) (handle : Handle) (size : Nat) :
    arena.contains handle size = true ↔
      handle.epoch = arena.epoch ∧ 0 < size ∧
        ∃ chunk, arena.chunks[handle.chunk.toNat]? = some chunk ∧
          handle.offset.toNat + size ≤ chunk.used := by
  unfold contains chunkOf?
  by_cases epoch : handle.epoch = arena.epoch
  · rw [if_pos epoch]
    cases arena.chunks[handle.chunk.toNat]? with
    | none =>
      constructor
      · nofun
      · rintro ⟨_, _, _, absent, _⟩
        cases absent
    | some chunk =>
      simp only [Chunk.Contains, epoch, true_and, Option.some.injEq, exists_eq_left']
      exact decide_eq_true_iff
  · rw [if_neg epoch]
    exact ⟨nofun, fun carved => absurd carved.1 epoch⟩

/-- The first words of a range that was handed out were handed out. -/
theorem contains_of_le (arena : Arena) (handle : Handle) (size count : Nat)
    (carved : arena.contains handle size = true) (positive : 0 < count) (less : count ≤ size) :
    arena.contains handle count = true := by
  obtain ⟨epoch, _, chunk, found, inside⟩ := (contains_iff _ _ _).mp carved
  exact (contains_iff _ _ _).mpr
    ⟨epoch, positive, chunk, found, Nat.le_trans (Nat.add_le_add_left less _) inside⟩

/-- The words of a range that was handed out are those of its chunk. -/
theorem words?_of_chunk (arena : Arena) (handle : Handle) (size : Nat) (chunk : Chunk)
    (epoch : handle.epoch = arena.epoch) (positive : 0 < size)
    (found : arena.chunks[handle.chunk.toNat]? = some chunk)
    (inside : handle.offset.toNat + size ≤ chunk.used) :
    arena.words? handle size = some (readRange chunk.data handle.offset.toNat size) := by
  rw [words?, chunkOf?, if_pos epoch, found, Option.bind_some, Chunk.words?,
    if_pos ⟨positive, inside⟩]

/-- The words of a range are as many as its size says. -/
theorem length_of_words? (arena : Arena) (handle : Handle) (size : Nat) (words : List Word)
    (found : arena.words? handle size = some words) : words.length = size := by
  obtain ⟨chunk, _, read⟩ := Option.bind_eq_some_iff.mp found
  exact chunk.length_of_words? handle.offset.toNat size words read

/-- A range that was handed out has its words. -/
theorem exists_words (arena : Arena) (handle : Handle) (size : Nat)
    (carved : arena.contains handle size = true) :
    ∃ words, arena.words? handle size = some words ∧ words.length = size := by
  obtain ⟨words, found⟩ :=
    Option.isSome_iff_exists.mp ((arena.words?_isSome handle size).trans carved)
  exact ⟨words, found, arena.length_of_words? handle size words found⟩

/-! ### An arena that only gained words -/

/-- The later arena has all the words of the earlier one where they were. -/
structure Extends (before after : Arena) : Prop where
  epoch : after.epoch = before.epoch
  chunks : ∀ (index : Nat) (chunk : Chunk), before.chunks[index]? = some chunk →
    ∃ (later : Chunk) (added : Array Word),
      after.chunks[index]? = some later ∧ later.data = chunk.data ++ added

namespace Extends

variable {before between after : Arena}

theorem refl (arena : Arena) : arena.Extends arena where
  epoch := rfl
  chunks _ chunk found := ⟨chunk, #[], found, Array.append_empty.symm⟩

theorem trans (first : before.Extends between) (second : between.Extends after) :
    before.Extends after where
  epoch := second.epoch.trans first.epoch
  chunks index chunk found := by
    obtain ⟨middle, added, middleFound, middleData⟩ := first.chunks index chunk found
    obtain ⟨later, more, laterFound, laterData⟩ := second.chunks index middle middleFound
    exact ⟨later, added ++ more, laterFound, by rw [laterData, middleData, Array.append_assoc]⟩

theorem contains (extension : before.Extends after) (handle : Handle) (size : Nat)
    (carved : before.contains handle size = true) : after.contains handle size = true := by
  rw [contains_iff] at carved ⊢
  obtain ⟨epoch, positive, chunk, found, inside⟩ := carved
  obtain ⟨later, added, laterFound, laterData⟩ := extension.chunks _ chunk found
  refine ⟨epoch.trans extension.epoch.symm, positive, later, laterFound, ?_⟩
  rw [Chunk.used, laterData, Array.size_append]
  exact Nat.le_trans inside (Nat.le_add_right _ _)

theorem words? (extension : before.Extends after) (handle : Handle) (size : Nat)
    (carved : before.contains handle size = true) :
    after.words? handle size = before.words? handle size := by
  obtain ⟨epoch, positive, chunk, found, inside⟩ := (contains_iff _ _ _).mp carved
  obtain ⟨later, added, laterFound, laterData⟩ := extension.chunks _ chunk found
  have insideLater : handle.offset.toNat + size ≤ later.used := by
    rw [Chunk.used, laterData, Array.size_append]
    exact Nat.le_trans inside (Nat.le_add_right _ _)
  rw [words?_of_chunk after handle size later (epoch.trans extension.epoch.symm) positive
      laterFound insideLater,
    words?_of_chunk before handle size chunk epoch positive found inside, laterData]
  exact congrArg some (readRange_append_left chunk.data added _ size inside)

end Extends

/-! ### Growing by a chunk -/

/-- The arena after it grew by one chunk for a request. -/
def grown (arena : Arena) (size : Nat) : Arena :=
  { arena with chunks := arena.chunks.push ⟨arena.chunkSizeFor size, #[]⟩ }

theorem extends_grown (arena : Arena) (size : Nat) : arena.Extends (arena.grown size) where
  epoch := rfl
  chunks index chunk found := by
    obtain ⟨inside, _⟩ := Array.getElem?_eq_some_iff.mp found
    refine ⟨chunk, #[], ?_, Array.append_empty.symm⟩
    rw [grown, Array.getElem?_push_lt inside, ← Array.getElem?_eq_getElem inside, found]

theorem back?_grown (arena : Arena) (size : Nat) :
    (arena.grown size).chunks.back? = some ⟨arena.chunkSizeFor size, #[]⟩ :=
  Array.back?_push

/-- A new chunk has room for the request it was made for. -/
theorem hasRoom_grown (arena : Arena) (size : Nat) : (arena.grown size).HasRoom size := by
  refine ⟨_, arena.back?_grown size, ?_⟩
  have start : arena.alignment.roundUp 0 = 0 :=
    arena.alignment.roundUp_of_dvd 0 (Nat.dvd_zero _)
  show arena.alignment.roundUp 0 + size ≤ arena.chunkSizeFor size
  rw [start, Nat.zero_add]
  exact Nat.le_max_right _ _

/-- There is memory for the chunk that makes room for a request: for its words, and for its entry
in the list of chunks. -/
def Supplied (memory : Memory) (arena : Arena) (size : Nat) : Prop :=
  memory.grantsWords (arena.chunkSizeFor size) = true ∧
    memory.grantsEntry arena.chunks.size = true

/-- What making room can do: nothing, a refusal that leaves the arena, or one more chunk. -/
theorem ensure_cases (memory : Memory) (arena : Arena) (size : Nat) :
    (arena.HasRoom size ∧ arena.ensure memory size = .granted () arena) ∨
    (¬ arena.HasRoom size ∧ arena.BudgetSpent ∧
      arena.ensure memory size =
        .refused (.capacityExceeded size arena.capacityWords) arena) ∨
    (¬ arena.HasRoom size ∧ ¬ arena.BudgetSpent ∧
      ¬ arena.Supplied memory size ∧
      arena.ensure memory size = .refused (.outOfMemory (arena.chunkSizeFor size)) arena) ∨
    (¬ arena.HasRoom size ∧ ¬ arena.BudgetSpent ∧
      arena.Supplied memory size ∧
      arena.ensure memory size = .done (.ok ()) (arena.grown size) [arena.grewEvent size]) := by
  unfold ensure Chunk.create
  by_cases room : arena.HasRoom size
  · exact Or.inl ⟨room, if_pos room⟩
  · rw [if_neg room]
    by_cases spent : arena.BudgetSpent
    · exact Or.inr (Or.inl ⟨room, spent, if_pos spent⟩)
    · rw [if_neg spent]
      cases words : memory.grantsWords (arena.chunkSizeFor size) with
      | false =>
        have short : ¬ arena.Supplied memory size :=
          fun supplied => Bool.noConfusion (words.symm.trans supplied.1)
        exact Or.inr (Or.inr (Or.inl ⟨room, spent, short, rfl⟩))
      | true =>
        by_cases entry : memory.grantsEntry arena.chunks.size = true
        · exact Or.inr (Or.inr (Or.inr ⟨room, spent, ⟨words, entry⟩, if_pos entry⟩))
        · exact Or.inr (Or.inr (Or.inl
            ⟨room, spent, fun supplied => entry supplied.2, if_neg entry⟩))

/-! ### Handing out a block -/

/-- The handle of the next block that is carved from the newest chunk. -/
def nextHandle (arena : Arena) (newest : Chunk) : Handle :=
  ⟨(arena.chunks.size - 1).toUInt32, (arena.alignment.roundUp newest.used).toUInt32,
    arena.epoch⟩

/-- The arena after a block was carved from the newest chunk. -/
def carved (arena : Arena) (newest : Chunk) (size : Nat) : Arena :=
  { arena with
    chunks := arena.chunks.setIfInBounds (arena.chunks.size - 1)
      (newest.extend arena.alignment size)
    carvedWords := arena.carvedWords + size }

@[simp] theorem size_chunks_carved (arena : Arena) (newest : Chunk) (size : Nat) :
    (arena.carved newest size).chunks.size = arena.chunks.size :=
  Array.size_setIfInBounds

theorem carve_eq (arena : Arena) (newest : Chunk) (size : Nat) (positive : 0 < size)
    (found : arena.chunks.back? = some newest) (fits : newest.Fits arena.alignment size) :
    arena.carve size = .done (arena.nextHandle newest) (arena.carved newest size) [] := by
  rw [carve, if_neg (by omega), found]
  simp only [Chunk.carve?, if_pos fits]
  rfl

/-- What a request for a block comes to. Where the newest chunk has room, the block is carved from
it. Otherwise the request is refused, because the budget is spent or there is no memory, and the
arena is as it was; or else the block is the first one of one more chunk. -/
theorem obtain_outcomes (memory : Memory) (arena : Arena) (size : Nat) (positive : 0 < size) :
    (∃ newest, arena.chunks.back? = some newest ∧ newest.Fits arena.alignment size ∧
      arena.obtain memory size =
        .granted (arena.nextHandle newest) (arena.carved newest size)) ∨
    (¬ arena.HasRoom size ∧ arena.BudgetSpent ∧
      arena.obtain memory size =
        .refused (.capacityExceeded size arena.capacityWords) arena) ∨
    (¬ arena.HasRoom size ∧ ¬ arena.BudgetSpent ∧
      ¬ arena.Supplied memory size ∧
      arena.obtain memory size = .refused (.outOfMemory (arena.chunkSizeFor size)) arena) ∨
    (¬ arena.HasRoom size ∧ ¬ arena.BudgetSpent ∧
      arena.Supplied memory size ∧
      ∃ newest, (arena.grown size).chunks.back? = some newest ∧
        newest.Fits arena.alignment size ∧
        arena.obtain memory size =
          .done (.ok ((arena.grown size).nextHandle newest)) ((arena.grown size).carved newest size)
            [arena.grewEvent size]) := by
  unfold obtain
  rcases arena.ensure_cases memory size with ⟨room, equal⟩ | ⟨full, spent, equal⟩ |
    ⟨full, unspent, denied, equal⟩ | ⟨full, unspent, supplied, equal⟩
  · obtain ⟨newest, found, fits⟩ := room
    refine Or.inl ⟨newest, found, fits, ?_⟩
    rw [equal, Step.andThen, Step.after_nil, carve_eq arena newest size positive found fits]
    rfl
  · exact Or.inr (Or.inl ⟨full, spent, by rw [equal, Step.andThen, Step.after_nil]⟩)
  · exact Or.inr (Or.inr (Or.inl
      ⟨full, unspent, denied, by rw [equal, Step.andThen, Step.after_nil]⟩))
  · obtain ⟨newest, found, fits⟩ := arena.hasRoom_grown size
    refine Or.inr (Or.inr (Or.inr ⟨full, unspent, supplied, newest, found, fits, ?_⟩))
    rw [equal, Step.andThen, carve_eq _ newest size positive found fits]
    rfl

/-- A request is granted, or refused with the arena as it was. There is no third outcome. -/
theorem obtain_cases (memory : Memory) (arena : Arena) (size : Nat) (positive : 0 < size) :
    (∃ cause, arena.obtain memory size = .refused cause arena) ∨
    ∃ handle after events, arena.obtain memory size = .done (.ok handle) after events := by
  rcases arena.obtain_outcomes memory size positive with ⟨_, _, _, granted⟩ | ⟨_, _, refused⟩ |
    ⟨_, _, _, refused⟩ | ⟨_, _, _, _, _, _, granted⟩
  · exact Or.inr ⟨_, _, _, granted⟩
  · exact Or.inl ⟨_, refused⟩
  · exact Or.inl ⟨_, refused⟩
  · exact Or.inr ⟨_, _, _, granted⟩

/-- A block that is obtained is carved from the newest chunk, after growing where that had no room
for it. -/
theorem obtain_granted (memory : Memory) (arena : Arena) (size : Nat) (handle : Handle)
    (after : Arena) (events : List Event) (positive : 0 < size)
    (obtained : arena.obtain memory size = .done (.ok handle) after events) :
    ∃ base newest,
      (base = arena ∨
        (¬ arena.HasRoom size ∧ ¬ arena.BudgetSpent ∧ base = arena.grown size)) ∧
      base.chunks.back? = some newest ∧ newest.Fits base.alignment size ∧
      handle = base.nextHandle newest ∧ after = base.carved newest size := by
  rcases arena.obtain_outcomes memory size positive with ⟨newest, found, fits, granted⟩ |
    ⟨_, _, refused⟩ | ⟨_, _, _, refused⟩ | ⟨full, unspent, _, newest, found, fits, granted⟩
  · rw [granted] at obtained
    cases obtained
    exact ⟨arena, newest, Or.inl rfl, found, fits, rfl, rfl⟩
  · rw [refused] at obtained
    cases obtained
  · rw [refused] at obtained
    cases obtained
  · rw [granted] at obtained
    cases obtained
    exact ⟨arena.grown size, newest, Or.inr ⟨full, unspent, rfl⟩, found, fits, rfl, rfl⟩

/-! ### The newest chunk -/

section Newest

variable (arena : Arena) (newest : Chunk) (size : Nat)

/-- The newest chunk is the one with the last number. -/
theorem getElem?_newest (found : arena.chunks.back? = some newest) :
    arena.chunks[arena.chunks.size - 1]? = some newest := by
  rw [← Array.back?_eq_getElem?]
  exact found

theorem size_chunks_pos (found : arena.chunks.back? = some newest) :
    arena.chunks.size - 1 < arena.chunks.size :=
  (Array.getElem?_eq_some_iff.mp (arena.getElem?_newest newest found)).1

theorem getElem?_carved_newest (found : arena.chunks.back? = some newest) :
    (arena.carved newest size).chunks[arena.chunks.size - 1]? =
      some (newest.extend arena.alignment size) :=
  Array.getElem?_setIfInBounds_self_of_lt (arena.size_chunks_pos newest found)

theorem back?_carved (found : arena.chunks.back? = some newest) :
    (arena.carved newest size).chunks.back? = some (newest.extend arena.alignment size) := by
  rw [Array.back?_eq_getElem?, size_chunks_carved]
  exact arena.getElem?_carved_newest newest size found

theorem getElem?_carved_other (index : Nat) (other : index ≠ arena.chunks.size - 1) :
    (arena.carved newest size).chunks[index]? = arena.chunks[index]? :=
  Array.getElem?_setIfInBounds_ne (Ne.symm other)

theorem extends_carved (found : arena.chunks.back? = some newest) :
    arena.Extends (arena.carved newest size) where
  epoch := rfl
  chunks index chunk present := by
    by_cases last : index = arena.chunks.size - 1
    · subst last
      rw [getElem?_newest arena newest found] at present
      cases present
      exact ⟨_, _, arena.getElem?_carved_newest newest size found, rfl⟩
    · exact ⟨chunk, #[], (arena.getElem?_carved_other newest size index last).trans present,
        Array.append_empty.symm⟩

/-- A place in the newest chunk is not cut short in a handle. -/
theorem toNat_nextHandle (named : arena.ChunksNamed)
    (found : arena.chunks.back? = some newest) (positive : 0 < size)
    (fits : newest.Fits arena.alignment size) (small : newest.capacity ≤ fieldLimit) :
    (arena.nextHandle newest).chunk.toNat = arena.chunks.size - 1 ∧
      (arena.nextHandle newest).offset.toNat = arena.alignment.roundUp newest.used := by
  have room : arena.alignment.roundUp newest.used + size ≤ newest.capacity := fits
  have inside := arena.size_chunks_pos newest found
  have limit : arena.chunks.size ≤ 2 ^ 32 := named
  unfold fieldLimit at small
  have number : arena.chunks.size - 1 < UInt32.size := by show _ < 2 ^ 32; omega
  have place : arena.alignment.roundUp newest.used < UInt32.size := by show _ < 2 ^ 32; omega
  exact ⟨UInt32.toNat_ofNat_of_lt' number, UInt32.toNat_ofNat_of_lt' place⟩

end Newest

/-! ### The new block -/

/-- An arena handed out a block: it kept the words it had, and the block is a range of zeros
that shares no word with a range handed out before. -/
structure HandsOut (before : Arena) (size : Nat) (handle : Handle) (after : Arena) : Prop where
  extension : before.Extends after
  contains : after.contains handle size = true
  words : after.words? handle size = some (List.replicate size 0)
  apart : ∀ other : Block, before.contains other.handle other.size = true →
    Block.Apart ⟨handle, size⟩ other

/-- Carving from the newest chunk hands out a block. -/
theorem handsOut_carved (arena : Arena) (newest : Chunk) (size : Nat) (named : arena.ChunksNamed)
    (found : arena.chunks.back? = some newest) (positive : 0 < size)
    (fits : newest.Fits arena.alignment size) (small : newest.capacity ≤ fieldLimit) :
    arena.HandsOut size (arena.nextHandle newest) (arena.carved newest size) := by
  obtain ⟨chunkNumber, offset⟩ :=
    arena.toNat_nextHandle newest size named found positive fits small
  have padded := arena.alignment.le_roundUp newest.used
  have chunk : (arena.carved newest size).chunks[(arena.nextHandle newest).chunk.toNat]? =
      some (newest.extend arena.alignment size) := by
    rw [chunkNumber]
    exact arena.getElem?_carved_newest newest size found
  have inside : (arena.nextHandle newest).offset.toNat + size ≤
      (newest.extend arena.alignment size).used := by
    rw [offset]
    exact Nat.le_of_eq (Chunk.used_extend newest arena.alignment size).symm
  constructor
  · exact arena.extends_carved newest size found
  · exact (contains_iff _ _ _).mpr ⟨rfl, positive, _, chunk, inside⟩
  · rw [words?_of_chunk _ _ _ _ rfl positive chunk inside, offset]
    refine congrArg some (readRange_append_replicate _ _ _ _ _ padded ?_)
    show arena.alignment.roundUp newest.used + size ≤
      newest.used + (arena.alignment.roundUp newest.used + size - newest.used)
    omega
  · intro other carved
    obtain ⟨_, _, holder, holderFound, holderInside⟩ := (contains_iff _ _ _).mp carved
    by_cases same : (arena.nextHandle newest).chunk = other.handle.chunk
    · -- In the same chunk the other block ends before the padding of the new one.
      rw [← same, chunkNumber, getElem?_newest arena newest found] at holderFound
      cases holderFound
      exact Block.apart_of_end_le (by show _ ≤ (arena.nextHandle newest).offset.toNat; omega)
    · exact Block.apart_of_chunk_ne same

/-- What becomes of an arena besides its words when it hands out a block: it has the settings it
had, and at most one more chunk, within its budget and of the size for the request. -/
structure Settled (before : Arena) (size : Nat) (after : Arena) : Prop where
  chunkWords : after.chunkWords = before.chunkWords
  maxChunks : after.maxChunks = before.maxChunks
  alignment : after.alignment = before.alignment
  least : before.chunks.size ≤ after.chunks.size
  most : after.chunks.size ≤ before.chunks.size ∨
    (¬ before.BudgetSpent ∧ after.chunks.size = before.chunks.size + 1)
  capacity : ∀ chunk ∈ after.chunks, chunk.capacity = before.chunkSizeFor size ∨
    ∃ older ∈ before.chunks, chunk.capacity = older.capacity

theorem settled_of_obtain (memory : Memory) (before : Arena) (size : Nat) (handle : Handle)
    (after : Arena) (events : List Event) (positive : 0 < size)
    (obtained : before.obtain memory size = .done (.ok handle) after events) :
    before.Settled size after := by
  obtain ⟨base, newest, origin, found, _, rfl, rfl⟩ :=
    obtain_granted memory before size handle after events positive obtained
  have grew : before.Settled size base := by
    rcases origin with rfl | ⟨_, unspent, rfl⟩
    · exact ⟨rfl, rfl, rfl, Nat.le_refl _, Or.inl (Nat.le_refl _),
        fun chunk member => Or.inr ⟨chunk, member, rfl⟩⟩
    · refine ⟨rfl, rfl, rfl, ?_, Or.inr ⟨unspent, Array.size_push _⟩,
        fun chunk member => ?_⟩
      · exact (Array.size_push _).symm ▸ Nat.le_succ _
      · rcases Array.mem_push.mp member with older | rfl
        · exact Or.inr ⟨chunk, older, rfl⟩
        · exact Or.inl rfl
  have count := base.size_chunks_carved newest size
  refine ⟨grew.chunkWords, grew.maxChunks, grew.alignment, count ▸ grew.least,
    count ▸ grew.most, fun chunk member => ?_⟩
  rcases Array.mem_or_eq_of_mem_setIfInBounds member with kept | rfl
  · exact grew.capacity chunk kept
  · rw [Chunk.capacity_extend]
    exact grew.capacity newest (Array.mem_of_getElem? (base.getElem?_newest newest found))

/-- A block that is obtained is handed out, whether the arena grew for it or not. -/
theorem handsOut_of_obtain (memory : Memory) (before : Arena) (size : Nat) (handle : Handle)
    (after : Arena) (events : List Event) (positive : 0 < size) (named : after.ChunksNamed)
    (small : ∀ chunk ∈ after.chunks, chunk.capacity ≤ fieldLimit)
    (obtained : before.obtain memory size = .done (.ok handle) after events) :
    before.HandsOut size handle after := by
  obtain ⟨base, newest, origin, found, fits, rfl, rfl⟩ :=
    obtain_granted memory before size handle after events positive obtained
  have capacity : newest.capacity ≤ fieldLimit := by
    refine small (newest.extend base.alignment size) ?_
    exact Array.mem_of_getElem? (base.getElem?_carved_newest newest size found)
  have handed := base.handsOut_carved newest size
    (by rwa [ChunksNamed, size_chunks_carved] at named) found positive fits capacity
  have grew : before.Extends base := by
    rcases origin with rfl | ⟨_, _, rfl⟩
    · exact Extends.refl _
    · exact before.extends_grown size
  exact ⟨grew.trans handed.extension, handed.contains, handed.words,
    fun other carved => handed.apart other (grew.contains _ _ carved)⟩

/-- A block that is obtained bears the current epoch, and the words from before stay, also where
its place does not fit into a handle. -/
theorem extends_of_obtain (memory : Memory) (before : Arena) (size : Nat) (handle : Handle)
    (after : Arena) (events : List Event) (positive : 0 < size)
    (obtained : before.obtain memory size = .done (.ok handle) after events) :
    before.Extends after ∧ handle.epoch = before.epoch := by
  obtain ⟨base, newest, origin, found, _, rfl, rfl⟩ :=
    obtain_granted memory before size handle after events positive obtained
  have carved := base.extends_carved newest size found
  rcases origin with rfl | ⟨_, _, rfl⟩
  · exact ⟨carved, rfl⟩
  · exact ⟨(before.extends_grown size).trans carved, rfl⟩

end Arena

end Allotment
