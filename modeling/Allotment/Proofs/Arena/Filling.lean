/-
An arena on its own, without the checks of the allocator around it. Its chunks may be of no
words at all, a request may be larger than they are, and under two-word alignment a chunk may
end in the middle of a unit; what was made room for need not be carved, or not in full.

Making room and carving are two calls. The first one leaves the newest chunk with room behind
its padding, and what the second one needs is exactly that. So the state between the two
remembers how many words were made room for, next to the ranges that were carved since the
last reset.
-/

import Allotment.Proofs.Arena.Counting

namespace Allotment

namespace Arena

/-! ### Making room -/

section Room

variable {memory : Memory} {arena next : Arena} {size : Nat} {events : List Event}

theorem HasRoom.of_le (room : arena.HasRoom size) {fewer : Nat} (less : fewer ≤ size) :
    arena.HasRoom fewer := by
  obtain ⟨newest, found, fits⟩ := room
  exact ⟨newest, found, Nat.le_trans (Nat.add_le_add_left less _) fits⟩

theorem ensure_of_room (memory : Memory) (room : arena.HasRoom size) :
    arena.ensure memory size = .granted () arena :=
  if_pos room

/-- Room is refused with the arena as it was, or made: by nothing where there is room, and
otherwise by one more chunk. -/
theorem ensure_outcomes (memory : Memory) (arena : Arena) (size : Nat) :
    (∃ cause, arena.ensure memory size = .refused cause arena) ∨
      ∃ next events, arena.ensure memory size = .done (.ok ()) next events ∧
        (arena.HasRoom size ∧ next = arena ∨ ¬ arena.HasRoom size ∧ next = arena.grown size) := by
  rcases arena.ensure_cases memory size with ⟨room, made⟩ | ⟨_, _, refused⟩ |
    ⟨_, _, _, refused⟩ | ⟨full, _, _, made⟩
  · exact Or.inr ⟨_, _, made, Or.inl ⟨room, rfl⟩⟩
  · exact Or.inl ⟨_, refused⟩
  · exact Or.inl ⟨_, refused⟩
  · exact Or.inr ⟨_, _, made, Or.inr ⟨full, rfl⟩⟩

theorem ensure_granted (done : arena.ensure memory size = .done (.ok ()) next events) :
    arena.HasRoom size ∧ next = arena ∨ ¬ arena.HasRoom size ∧ next = arena.grown size := by
  rcases arena.ensure_outcomes memory size with ⟨_, refused⟩ | ⟨_, _, made, grew⟩
  · rw [refused] at done
    cases done
  · rw [made] at done
    cases done
    exact grew

theorem eq_of_ensure_refused {cause : Refusal}
    (done : arena.ensure memory size = .done (.error cause) next events) : next = arena := by
  rcases arena.ensure_outcomes memory size with ⟨_, refused⟩ | ⟨_, _, made, _⟩
  · rw [refused] at done
    cases done
    rfl
  · rw [made] at done
    cases done

/-- Room that was made is there. -/
theorem hasRoom_of_ensure (done : arena.ensure memory size = .done (.ok ()) next events) :
    next.HasRoom size := by
  rcases ensure_granted done with ⟨room, rfl⟩ | ⟨_, rfl⟩
  · exact room
  · exact arena.hasRoom_grown size

end Room

/-! ### Calls in order -/

/-- How an arena came to be as it is, when a block is carved only right after room was made for
as many words or more. With it go the words that the call before made room for, if it did, and
the ranges that were carved since the last reset, the latest first. -/
inductive Filling (chunkWords : Nat) (maxChunks : Option Nat) (alignment : Alignment) :
    Option Nat → List Block → Arena → Prop
  | start : Filling chunkWords maxChunks alignment none [] (empty chunkWords maxChunks alignment)
  | ensured (assured : Option Nat) (blocks : List Block) (arena next : Arena) (memory : Memory)
    (size : Nat) (events : List Event)
    (filling : Filling chunkWords maxChunks alignment assured blocks arena)
    (small : size ≤ fieldLimit)
    (done : arena.ensure memory size = .done (.ok ()) next events) :
    Filling chunkWords maxChunks alignment (some size) blocks next
  | refused (assured : Option Nat) (blocks : List Block) (arena next : Arena) (memory : Memory)
    (size : Nat) (cause : Refusal) (events : List Event)
    (filling : Filling chunkWords maxChunks alignment assured blocks arena)
    (done : arena.ensure memory size = .done (.error cause) next events) :
    Filling chunkWords maxChunks alignment none blocks next
  | carved (room : Nat) (blocks : List Block) (arena next : Arena) (size : Nat)
    (handle : Handle) (events : List Event)
    (filling : Filling chunkWords maxChunks alignment (some room) blocks arena)
    (positive : 0 < size) (less : size ≤ room)
    (done : arena.carve size = .done handle next events) :
    Filling chunkWords maxChunks alignment none (⟨handle, size⟩ :: blocks) next
  | reset (assured : Option Nat) (blocks : List Block) (arena : Arena)
    (filling : Filling chunkWords maxChunks alignment assured blocks arena) :
    Filling chunkWords maxChunks alignment none [] arena.reset

/-- What calls in order keep. The places of the ranges are those in the handles only while the
chunks have numbers that fit into them. -/
structure Filled (chunkWords : Nat) (alignment : Alignment) (assured : Option Nat)
    (blocks : List Block) (arena : Arena) : Prop where
  sized : arena.chunkWords = chunkWords
  aligned : arena.alignment = alignment
  capacity : ∀ chunk ∈ arena.chunks, chunk.capacity ≤ fieldLimit
  counted : arena.Counted
  words : arena.carvedWords = (blocks.map (·.size)).sum
  room : ∀ size ∈ assured, arena.HasRoom size
  apart : arena.ChunksNamed → blocks.Pairwise Block.Apart
  placed : arena.ChunksNamed → ∀ block ∈ blocks,
    arena.contains block.handle block.size = true ∧
      alignment.words ∣ block.handle.offset.toNat

namespace Filled

variable {chunkWords : Nat} {alignment : Alignment} {assured : Option Nat} {blocks : List Block}
  {arena next : Arena}

/-- Without chunks there is nothing to keep. -/
theorem of_no_chunks (sized : arena.chunkWords = chunkWords)
    (aligned : arena.alignment = alignment) (none : arena.chunks = #[])
    (nothing : arena.carvedWords = 0) :
    Filled chunkWords alignment .none [] arena where
  sized := sized
  aligned := aligned
  capacity chunk member := by
    rw [none] at member
    exact absurd member (Array.not_mem_empty chunk)
  counted := arena.counted_of_no_chunks none nothing
  words := nothing
  room _ member := absurd member (Option.not_mem_none _)
  apart _ := .nil
  placed _ _ member := absurd member List.not_mem_nil

/-- What the call before made room for may be forgotten. -/
theorem unassured (filled : Filled chunkWords alignment assured blocks arena) :
    Filled chunkWords alignment none blocks arena :=
  { filled with room := fun _ member => absurd member (Option.not_mem_none _) }

/-- One more chunk makes room for the request it was made for. -/
theorem grown (filled : Filled chunkWords alignment assured blocks arena)
    (within : chunkWords ≤ fieldLimit) (size : Nat) (small : size ≤ fieldLimit) :
    Filled chunkWords alignment (some size) blocks (arena.grown size) := by
  have fewer : (arena.grown size).ChunksNamed → arena.ChunksNamed := by
    intro named
    have count : (arena.grown size).chunks.size = arena.chunks.size + 1 := Array.size_push _
    rw [ChunksNamed, count] at named
    exact Nat.le_of_succ_le named
  refine ⟨filled.sized, filled.aligned, fun chunk member => ?_,
    filled.counted.grown size, filled.words, fun _ same => ?_,
    fun named => filled.apart (fewer named), fun named block member => ?_⟩
  · rcases Array.mem_push.mp member with older | rfl
    · exact filled.capacity chunk older
    · exact Nat.max_le.mpr ⟨filled.sized ▸ within, small⟩
  · cases same
    exact arena.hasRoom_grown size
  · obtain ⟨inside, aligned⟩ := filled.placed (fewer named) block member
    exact ⟨(arena.extends_grown size).contains _ _ inside, aligned⟩

/-- Making room, whether or not the arena grew for it. -/
theorem ensured (filled : Filled chunkWords alignment assured blocks arena)
    (within : chunkWords ≤ fieldLimit) {memory : Memory} {size : Nat} {events : List Event}
    (small : size ≤ fieldLimit)
    (done : arena.ensure memory size = .done (.ok ()) next events) :
    Filled chunkWords alignment (some size) blocks next := by
  rcases ensure_granted done with ⟨room, rfl⟩ | ⟨_, rfl⟩
  · refine { filled with room := fun _ same => ?_ }
    cases same
    exact room
  · exact filled.grown within size small

/-- Carving into room that is there is done. The block comes at a place that blocks may begin at,
behind all others of its chunk, and has its words. -/
theorem carve (filled : Filled chunkWords alignment assured blocks arena) {size : Nat}
    (positive : 0 < size) (room : arena.HasRoom size) :
    ∃ handle next, arena.carve size = .done handle next [] ∧
      Filled chunkWords alignment none (⟨handle, size⟩ :: blocks) next ∧
      next.chunks.size = arena.chunks.size := by
  obtain ⟨newest, found, fits⟩ := room
  have member := Array.mem_of_getElem? (arena.getElem?_newest newest found)
  have small := filled.capacity newest member
  refine ⟨_, _, carve_eq arena newest size positive found fits, ⟨filled.sized,
    filled.aligned, fun chunk present => ?_, filled.counted.carve newest size found fits, ?_,
    fun _ absent => absurd absent (Option.not_mem_none _), fun named => ?_,
    fun named block present => ?_⟩, arena.size_chunks_carved newest size⟩
  · rcases Array.mem_or_eq_of_mem_setIfInBounds present with kept | rfl
    · exact filled.capacity chunk kept
    · exact small
  · rw [List.map_cons, List.sum_cons, ← filled.words, Nat.add_comm]
    rfl
  all_goals
    replace named : arena.ChunksNamed := by
      rwa [ChunksNamed, arena.size_chunks_carved newest size] at named
    have lent := arena.handsOut_carved newest size named found positive fits small
  · exact List.pairwise_cons.mpr
      ⟨fun other among => lent.apart other (filled.placed named other among).1,
        filled.apart named⟩
  · rcases List.mem_cons.mp present with rfl | among
    · refine ⟨lent.contains, ?_⟩
      rw [(arena.toNat_nextHandle newest size named found positive fits small).2,
        ← filled.aligned]
      exact arena.alignment.words_dvd_roundUp newest.used
    · obtain ⟨inside, aligned⟩ := filled.placed named block among
      exact ⟨lent.extension.contains _ _ inside, aligned⟩

end Filled

theorem filled_of_filling {chunkWords : Nat} {maxChunks : Option Nat} {alignment : Alignment}
    (within : chunkWords ≤ fieldLimit) {assured : Option Nat} {blocks : List Block}
    {arena : Arena} (filling : Filling chunkWords maxChunks alignment assured blocks arena) :
    Filled chunkWords alignment assured blocks arena := by
  induction filling with
  | start => exact .of_no_chunks rfl rfl rfl rfl
  | ensured _ _ _ _ _ _ _ _ small done inductionHypothesis =>
    exact inductionHypothesis.ensured within small done
  | refused _ _ _ _ _ _ _ _ _ done inductionHypothesis =>
    rw [eq_of_ensure_refused done]
    exact inductionHypothesis.unassured
  | carved _ _ _ _ _ _ _ _ positive less done inductionHypothesis =>
    obtain ⟨_, _, carved, filled, _⟩ := inductionHypothesis.carve positive
      ((inductionHypothesis.room _ rfl).of_le less)
    rw [done] at carved
    cases carved
    exact filled
  | reset _ _ _ _ inductionHypothesis =>
    exact .of_no_chunks inductionHypothesis.sized inductionHypothesis.aligned rfl rfl

/-- Whatever the size of the chunks, the budget and the alignment, and whatever was made room
for, carved and reset before: the carved words are counted, no chunk is in use beyond its
capacity, and the ranges carved since the last reset begin where blocks may, share no word and
have their words. Making room is refused with the arena as it was, or done: by nothing where the
words fit, and otherwise by one more chunk of the usual size or the size of the request, and
then it takes nothing more to do it again. And right after room was made for some words, carving
as many or fewer is done, for a range that begins where blocks may, shares no word with the
others and has its words. -/
theorem room_is_there_to_carve (chunkWords : Nat) (maxChunks : Option Nat)
    (alignment : Alignment) (assured : Option Nat) (blocks : List Block) (arena : Arena)
    (within : chunkWords ≤ fieldLimit)
    (filling : Filling chunkWords maxChunks alignment assured blocks arena)
    (named : arena.ChunksNamed) :
    arena.carvedWords = (blocks.map (·.size)).sum ∧
      (∀ chunk ∈ arena.chunks, chunk.used ≤ chunk.capacity) ∧
      blocks.Pairwise Block.Apart ∧
      (∀ block ∈ blocks, alignment.words ∣ block.handle.offset.toNat ∧
        ∃ words, arena.words? block.handle block.size = some words ∧
          words.length = block.size) ∧
      (∀ memory size, (∃ cause, arena.ensure memory size = .refused cause arena) ∨
        ∃ next events, arena.ensure memory size = .done (.ok ()) next events ∧
          (arena.HasRoom size ∧ next = arena ∨
            ¬ arena.HasRoom size ∧ next =
              { arena with chunks := arena.chunks.push ⟨max chunkWords size, #[]⟩ }) ∧
          ∀ later, next.ensure later size = .granted () next) ∧
      ∀ room ∈ assured, ∀ size, 0 < size → size ≤ room →
        ∃ handle next, arena.carve size = .done handle next [] ∧
          alignment.words ∣ handle.offset.toNat ∧
          (∀ block ∈ blocks, Block.Apart ⟨handle, size⟩ block) ∧
          ∃ words, next.words? handle size = some words ∧ words.length = size := by
  have filled := filled_of_filling within filling
  refine ⟨filled.words, filled.counted.used, filled.apart named, fun block member => ?_,
    fun memory size => ?_, fun room promised size positive less => ?_⟩
  · obtain ⟨inside, aligned⟩ := filled.placed named block member
    exact ⟨aligned, arena.exists_words _ _ inside⟩
  · rw [← filled.sized]
    refine (arena.ensure_outcomes memory size).imp_right fun ⟨next, events, done, grew⟩ => ?_
    exact ⟨next, events, done, grew, fun later => ensure_of_room later (hasRoom_of_ensure done)⟩
  · obtain ⟨handle, next, done, carved, count⟩ :=
      filled.carve positive ((filled.room room promised).of_le less)
    have stillNamed : next.ChunksNamed := by
      rwa [ChunksNamed, count]
    obtain ⟨inside, aligned⟩ := carved.placed stillNamed ⟨handle, size⟩ List.mem_cons_self
    exact ⟨handle, next, done, aligned,
      fun _ member => List.rel_of_pairwise_cons (carved.apart stillNamed) member,
      next.exists_words handle size inside⟩

/-- Chunks of three words, at most two of them, and blocks at even words. The first chunk is full
to its odd end. The second one is made for five words, of which one is carved; so four more are
refused, and three have room. -/
theorem room_after_odd_end :
    ∃ (blocks : List Block) (arena : Arena),
      Filling 3 (some 2) .doubleWord (some 3) blocks arena ∧ arena.ChunksNamed ∧
        ¬ arena.HasRoom 4 ∧ blocks = [⟨⟨1, 0, 1⟩, 1⟩, ⟨⟨0, 0, 1⟩, 3⟩] ∧ arena.carvedWords = 4 ∧
        arena.chunks.toList.map (·.capacity) = [3, 5] ∧
        ∃ handle next, arena.carve 3 = .done handle next [] := by
  have reset : Filling 3 (some 2) .doubleWord none [] _ := .reset _ _ _ .start
  have first := Filling.ensured _ _ _ _ .addressable 2 _ reset (by decide) rfl
  have again := Filling.ensured _ _ _ _ .addressable 3 _ first (by decide) rfl
  have three := Filling.carved _ _ _ _ 3 _ _ again (by decide) (by decide) rfl
  have second := Filling.ensured _ _ _ _ .addressable 5 _ three (by decide) rfl
  have one := Filling.carved _ _ _ _ 1 _ _ second (by decide) (by decide) rfl
  have refused := Filling.refused _ _ _ _ .addressable 4 _ _ one rfl
  have last := Filling.ensured _ _ _ _ .addressable 3 _ refused (by decide) rfl
  obtain ⟨count, _, _, _, _, carves⟩ :=
    room_is_there_to_carve _ _ _ _ _ _ (by decide) last (by decide)
  obtain ⟨handle, next, done, _⟩ := carves 3 rfl 3 (by decide) (by decide)
  exact ⟨_, _, last, by decide, by decide, rfl, count, rfl, handle, next, done⟩

end Arena

end Allotment
