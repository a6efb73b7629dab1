/-
What a write from across the boundary reaches. A caller names a block and a number of words,
and the words go to the range of that size from the start of the block, whether the block is
that long or not. A system allocator keeps every block by itself and refuses a range that is
longer. An arena only asks whether the range was carved, so a range that is longer than its
block runs on into the blocks that lie behind it in the chunk.

A block on loan is therefore described position by position: it changes exactly where the
range covers it. Blocks on loan share no word, so a range within its own block covers no other.
-/

import Allotment.Proofs.Boundary.Courses

namespace Allotment

/-- The words of a block after the range of a size from a handle on was overwritten: those that
the range covers are new, and the others are as before. -/
def Block.overwritten (block : Block) (handle : Handle) (size : Nat) (patch : Patch)
    (words : List Word) : List Word :=
  words.mapIdx fun position word =>
    let place := block.handle.offset.toNat + position
    if handle.chunk = block.handle.chunk ∧ handle.offset.toNat ≤ place ∧
        place < handle.offset.toNat + size then
      (patch (place - handle.offset.toNat)).getD word
    else word

namespace Block

variable (block : Block) (handle : Handle) (size : Nat) (patch : Patch) (words : List Word)

/-- A range in another chunk covers no word of a block. -/
theorem overwritten_of_chunk_ne (different : handle.chunk ≠ block.handle.chunk) :
    block.overwritten handle size patch words = words := by
  refine List.ext_getElem? fun position => ?_
  rw [overwritten, List.getElem?_mapIdx]
  cases words[position]? with
  | none => rfl
  | some word => exact congrArg some (if_neg fun covers => different covers.1)

/-- A range of no words covers no word of a block. -/
theorem overwritten_zero : block.overwritten handle 0 patch words = words := by
  refine List.ext_getElem? fun position => ?_
  rw [overwritten, List.getElem?_mapIdx]
  cases words[position]? with
  | none => rfl
  | some word => exact congrArg some (if_neg fun covers => by omega)

/-- A range that was overwritten in the words of a chunk, as a block of the chunk shows it. -/
theorem readRange_patchRange_chunk (chunkWords : Array Word)
    (same : handle.chunk = block.handle.chunk) :
    readRange (patchRange chunkWords handle.offset.toNat size patch) block.handle.offset.toNat
        block.size =
      block.overwritten handle size patch
        (readRange chunkWords block.handle.offset.toNat block.size) := by
  rw [readRange_patchRange, overwritten]
  refine congrArg (List.mapIdx · _) (funext fun position => funext fun word => ?_)
  simp only [same, true_and]

end Block

/-- A block that was carved shows what was overwritten of it. -/
theorem Arena.words?_store_overwritten {arena stored : Arena} {handle : Handle} {size : Nat}
    {patch : Patch} (written : arena.store? handle size patch = some stored) (block : Block)
    (carved : arena.contains block.handle block.size = true) :
    stored.words? block.handle block.size =
      (arena.words? block.handle block.size).map (block.overwritten handle size patch) := by
  obtain ⟨epoch, positive, chunk, found, inside⟩ := (contains_iff _ _ _).mp carved
  rw [words?_store written _ _ chunk epoch positive found inside,
    words?_of_chunk _ _ _ chunk epoch positive found inside, Option.map_some]
  by_cases same : handle.chunk = block.handle.chunk
  · rw [if_pos (congrArg UInt32.toNat same), block.readRange_patchRange_chunk handle size patch
      chunk.data same]
  · rw [if_neg (mt UInt32.toNat_inj.mp same),
      block.overwritten_of_chunk_ne handle size patch _ same]

/-- A block of a system allocator shows what was overwritten of it. -/
theorem SystemAllocator.words?_store_overwritten {allocator stored : SystemAllocator}
    {handle : Handle} {size : Nat} {patch : Patch}
    (written : allocator.store? handle size patch = some stored) (block : Block)
    (words : Array Word) (held : allocator.blockOf? block.handle = some words)
    (inside : block.size ≤ words.size) :
    stored.words? block.handle block.size =
      (allocator.words? block.handle block.size).map (block.overwritten handle size patch) := by
  obtain ⟨before, found, _, _⟩ := store?_eq_some_iff.mp written
  have blocks := blockOf?_store written
  rw [words?_of_block allocator _ _ words held inside, Option.map_some]
  by_cases same : block.handle = handle
  · rw [← same, held, Option.some_inj] at found
    subst found
    have offset := ((blockOf?_eq_some_iff _ _ _).mp held).1
    have patched : stored.blockOf? block.handle = some (patchRange words 0 size patch) := by
      rw [blocks, if_pos same]
      exact ⟨words, same ▸ held, rfl⟩
    have shown := block.readRange_patchRange_chunk block.handle size patch words rfl
    rw [offset] at shown
    rw [words?_of_block stored _ _ _ patched (by rwa [size_patchRange]), ← same]
    exact congrArg some shown
  · have kept : stored.blockOf? block.handle = some words := by
      rw [blocks, if_neg same]
      exact held
    have different : handle.chunk ≠ block.handle.chunk :=
      fun equal => same (eq_of_chunk_eq held found equal.symm)
    rw [words?_of_block stored _ _ words kept inside,
      block.overwritten_of_chunk_ne handle size patch _ different]

namespace BuiltAllocator

/-- The range from a handle on is of carved words of an arena, whichever blocks they belong to. -/
def Carved : BuiltAllocator → Handle → Nat → Prop
  | arena allocator, handle, size => allocator.arena.contains handle size = true
  | system _, _, _ => False

variable {allocator stored : BuiltAllocator} {loans : List Block}

/-- A range from a block on loan on is overwritten if it lies in the block, and in an arena also
if it was carved. -/
theorem Lends.exists_store?_iff (lends : allocator.Lends loans) (named : allocator.Named)
    (block : Block) (member : block ∈ loans) (size : Nat) (patch : Patch) (words : size ≠ 0) :
    (∃ stored, Allocator.store? allocator block.handle size patch = some stored) ↔
      size ≤ block.size ∨ allocator.Carved block.handle size := by
  rw [← Option.isSome_iff_exists, isSome_store?]
  cases allocator with
  | arena allocator =>
    have carved := SegregatedAllocator.Lends.carved lends named block member
    show (allocator.arena.words? block.handle size).isSome = true ↔ _
    rw [Arena.words?_isSome]
    exact ⟨Or.inr, fun either => either.elim
      (allocator.arena.contains_of_le _ _ size carved (Nat.pos_of_ne_zero words)) id⟩
  | system allocator =>
    obtain ⟨content, held, sized⟩ := (SystemAllocator.Sound.held lends block).mp member
    show (allocator.words? block.handle size).isSome = true ↔ _
    rw [SystemAllocator.words?, held, Option.bind_some, ← sized]
    by_cases inside : size ≤ content.size
    · simp [inside]
    · simp [inside, Carved]

/-- Every block on loan can be read. -/
theorem Lends.exists_words? (lends : allocator.Lends loans) (named : allocator.Named)
    (block : Block) (member : block ∈ loans) :
    ∃ words, Allocator.words? allocator block.handle block.size = some words := by
  cases allocator with
  | arena allocator =>
    have carved := SegregatedAllocator.Lends.carved lends named block member
    obtain ⟨words, found, _⟩ := allocator.arena.exists_words block.handle block.size carved
    exact ⟨words, found⟩
  | system allocator =>
    obtain ⟨content, held, sized⟩ := (SystemAllocator.Sound.held lends block).mp member
    exact ⟨_, allocator.words?_of_block block.handle block.size content held
      (Nat.le_of_eq sized.symm)⟩

/-- Every block on loan shows what was overwritten of it. -/
theorem Lends.words?_store (lends : allocator.Lends loans) (named : allocator.Named)
    (handle : Handle) (size : Nat) (patch : Patch)
    (overwrites : Allocator.store? allocator handle size patch = some stored) (block : Block)
    (member : block ∈ loans) :
    Allocator.words? stored block.handle block.size =
      (Allocator.words? allocator block.handle block.size).map
        (block.overwritten handle size patch) := by
  cases allocator with
  | arena allocator =>
    obtain ⟨next, written, rfl⟩ := Option.map_eq_some_iff.mp overwrites
    obtain ⟨carvedArena, overwritesArena, rfl⟩ := Option.map_eq_some_iff.mp written
    exact Arena.words?_store_overwritten overwritesArena block
      (SegregatedAllocator.Lends.carved lends named block member)
  | system allocator =>
    obtain ⟨next, written, rfl⟩ := Option.map_eq_some_iff.mp overwrites
    obtain ⟨content, held, sized⟩ := (SystemAllocator.Sound.held lends block).mp member
    exact SystemAllocator.words?_store_overwritten written block content held
      (Nat.le_of_eq sized.symm)

/-- A write within a block on loan shows in no other one. -/
theorem Lends.undisturbed (lends : allocator.Lends loans) (named : allocator.Named)
    (block : Block) (member : block ∈ loans) (size : Nat) (patch : Patch)
    (inside : size ≤ block.size)
    (overwrites : Allocator.store? allocator block.handle size patch = some stored)
    (other : Block) (otherMember : other ∈ loans) (different : other ≠ block) :
    Allocator.words? stored other.handle other.size =
      Allocator.words? allocator other.handle other.size := by
  have remains : other ∈ loans.erase block := (List.mem_erase_of_ne different).mpr otherMember
  cases allocator with
  | arena allocator =>
    obtain ⟨next, written, rfl⟩ := Option.map_eq_some_iff.mp overwrites
    obtain ⟨_, undisturbed, _⟩ :=
      SegregatedAllocator.Lends.written lends named block size patch member inside
    have kept := undisturbed other remains
    rwa [Allocator.store, show Allocator.store? allocator block.handle size patch = some next
      from written, Option.getD_some] at kept
  | system allocator =>
    obtain ⟨next, written, rfl⟩ := Option.map_eq_some_iff.mp overwrites
    obtain ⟨_, undisturbed, _⟩ :=
      SystemAllocator.Sound.written lends block size patch member inside
    have kept := undisturbed other remains
    rwa [Allocator.store, show Allocator.store? allocator block.handle size patch = some next
      from written, Option.getD_some] at kept

end BuiltAllocator

namespace Session

/-- The words of a block under a key. -/
def words? (session : Session) (key : UInt64) (block : Block) : Option (List Word) :=
  (session.table.get? key).bind fun allocator =>
    Allocator.words? allocator block.handle block.size

/-- The words of a block under a key that has an allocator. -/
theorem words?_of_get? {session : Session} {key : UInt64} {allocator : BuiltAllocator}
    (found : session.table.get? key = some allocator) (block : Block) :
    session.words? key block = Allocator.words? allocator block.handle block.size := by
  rw [words?, found, Option.bind_some]

section Write

variable {transcript : Transcript} {session : Session} {key : UInt64} {allocator : BuiltAllocator}

/-- A write of no words does nothing; one that the allocator refuses does nothing either; and any
other one changes the allocator under the key. -/
theorem Isolated.perform_write_cases {relates : Life → BuiltAllocator → Prop}
    (isolated : Isolated relates transcript session)
    (found : session.table.get? key = some allocator) (memory : Memory)
    (reference : BlockReference) (source : Nat → Word) (size : Nat) :
    (size = 0 ∧ session.perform memory (.onAllocator key (.write reference (some source) size)) =
      (session, .bare .ok, [])) ∨
    (size ≠ 0 ∧ Allocator.store? allocator reference.handle size (some ∘ source) = none ∧
      session.perform memory (.onAllocator key (.write reference (some source) size)) =
        (session, .bare .foreignBlock, [])) ∨
    (size ≠ 0 ∧ ∃ stored table,
      Allocator.store? allocator reference.handle size (some ∘ source) = some stored ∧
      session.table.Updates key stored table ∧
      session.perform memory (.onAllocator key (.write reference (some source) size)) =
        ({ session with table := table }, .bare .ok, [])) := by
  by_cases none : size = 0
  · exact Or.inl ⟨none, perform_onAllocator_early session memory key _ _ (if_pos none)⟩
  have complete : (Request.write reference (some source) size).early? = Option.none := by
    rw [Request.early?, if_neg none]
    rfl
  have performed := perform_onAllocator_complete session memory key _ complete
  have served : serve memory key (.write reference (some source) size) session.table =
      ((Request.write reference (some source) size).serve memory allocator).within
        (session.table.update key) := by
    rw [serve, found]
  have patched : (fun position => (some source).map (· position)) = some ∘ source := rfl
  cases overwrites : Allocator.store? allocator reference.handle size (some ∘ source) with
  | none =>
    refine Or.inr (Or.inl ⟨none, rfl, performed.trans (isolated.withTable_eq _ _ _ _ ?_)⟩)
    rw [served, Request.serve, patched, overwrites, Step.within, KeyTable.update_same found]
  | some stored =>
    refine Or.inr (Or.inr ⟨none, stored, _, rfl, KeyTable.updates_update found stored,
      performed.trans (isolated.withTable_eq _ _ _ _ ?_)⟩)
    rw [served, Request.serve, patched, overwrites, Step.within]

/-- Every block on loan can be read under its key. -/
theorem Isolated.exists_words? (isolated : Isolated LendsAsTold transcript session)
    (named : session.Named) {life : Life} (lives : transcript.life? key = some life)
    (loan : Block) (member : loan ∈ life.loans) :
    ∃ words, session.words? key loan = some words := by
  obtain ⟨allocator, found, lends⟩ := (lives ▸ isolated.follows key).exists_related
  rw [words?_of_get? found]
  exact BuiltAllocator.Lends.exists_words? lends (named.get? key allocator found) loan member

/-- What the blocks on loan show after the allocator under one key was written to: under that key
what was overwritten of them, under the other keys what they showed before. If the range lies in
its block, no other block shows it. -/
theorem Isolated.words?_written (isolated : Isolated LendsAsTold transcript session)
    (named : session.Named) (found : session.table.get? key = some allocator) {life : Life}
    (lives : transcript.life? key = some life) (lends : allocator.Lends life.loans)
    (block : Block) (onLoan : block ∈ life.loans) (size : Nat) (patch : Patch)
    {stored : BuiltAllocator} {table : KeyTable BuiltAllocator}
    (overwrites : Allocator.store? allocator block.handle size patch = some stored)
    (updates : session.table.Updates key stored table) (other : UInt64) (otherLife : Life)
    (otherLives : transcript.life? other = some otherLife) (loan : Block)
    (member : loan ∈ otherLife.loans) :
    (∃ words, session.words? other loan = some words ∧
      Session.words? { session with table := table } other loan = some (if other = key then
        loan.overwritten block.handle size patch words else words)) ∧
    (size ≤ block.size → (other, loan) ≠ (key, block) →
      Session.words? { session with table := table } other loan =
        session.words? other loan) := by
  have namedThere := named.get? key allocator found
  obtain ⟨words, read⟩ := isolated.exists_words? named otherLives loan member
  by_cases equal : other = key
  · subst equal
    cases lives.symm.trans otherLives
    have image : Session.words? { session with table := table } other loan =
        Allocator.words? stored loan.handle loan.size := words?_of_get? updates.self loan
    rw [image, words?_of_get? found]
    rw [words?_of_get? found] at read
    refine ⟨⟨words, read, ?_⟩, fun inside different => ?_⟩
    · rw [BuiltAllocator.Lends.words?_store lends namedThere _ size _ overwrites loan member,
        read, if_pos rfl, Option.map_some]
    · exact BuiltAllocator.Lends.undisturbed lends namedThere block onLoan size _ inside
        overwrites loan member fun same => different (by rw [same])
  · have kept : Session.words? { session with table := table } other loan =
        session.words? other loan := by
      rw [words?, words?, updates.other other equal]
    refine ⟨⟨words, read, ?_⟩, fun _ _ => kept⟩
    rw [kept, if_neg equal, read]

end Write

/-- A write through a block on loan, of any number of words, where no arena ever had more than 2^32
chunks. It is accepted if it lies within the
block, and in an arena also if the range from the block on was carved; a refused write changes
nothing. An accepted one changes exactly the words that the range covers, in blocks under the
same key alone; and if it lies within its block, no other block on loan changes. -/
theorem write_reaches_its_range (chunks : Nat) (transcript : Transcript) (session : Session)
    (course : Course chunks transcript session)
    (few : max chunks session.mostChunks ≤ 2 ^ 32) (memory : Memory)
    (key : UInt64) (life : Life) (lives : transcript.life? key = some life) (block : Block)
    (onLoan : block ∈ life.loans) (reference : BlockReference)
    (names : reference.handle = block.handle) (source : Nat → Word) (size : Nat) (next : Session)
    (reply : Reply) (events : List Event)
    (performed : session.perform memory
      (.onAllocator key (.write reference (some source) size)) = (next, reply, events)) :
    ∃ allocator, session.table.get? key = some allocator ∧
      (reply.status = .ok ↔ size ≤ block.size ∨ allocator.Carved block.handle size) ∧
      (reply.status ≠ .ok → next = session ∧ reply = .bare .foreignBlock ∧ events = []) ∧
      ∀ other otherLife, transcript.life? other = some otherLife → ∀ loan ∈ otherLife.loans,
        (reply.status = .ok → ∃ words, session.words? other loan = some words ∧
          next.words? other loan = some (if other = key then
            loan.overwritten block.handle size (some ∘ source) words else words)) ∧
        (size ≤ block.size → (other, loan) ≠ (key, block) →
          next.words? other loan = session.words? other loan) := by
  obtain ⟨fewBefore, fewNow⟩ := Nat.max_le.mp few
  have isolated := isolated_of_course chunks transcript session course fewBefore
  have named := session.named_of_mostChunks_le fewNow
  obtain ⟨allocator, found, lends⟩ := (lives ▸ isolated.follows key).exists_related
  have accepted := BuiltAllocator.Lends.exists_store?_iff lends (named.get? key allocator found)
    block onLoan size (some ∘ source)
  refine ⟨allocator, found, ?_⟩
  rcases isolated.perform_write_cases found memory reference source size with
    ⟨rfl, same⟩ | ⟨positive, refused, same⟩ | ⟨positive, stored, table, overwrites, updates, same⟩
  · -- No words: nothing changes, and the range covers nothing.
    rw [same] at performed
    cases performed
    refine ⟨⟨fun _ => Or.inl (Nat.zero_le _), fun _ => rfl⟩, fun other => absurd rfl other,
      fun other otherLife otherLives loan member => ⟨fun _ => ?_, fun _ _ => rfl⟩⟩
    obtain ⟨words, read⟩ := isolated.exists_words? named otherLives loan member
    refine ⟨words, read, ?_⟩
    rw [Block.overwritten_zero, ite_self, read]
  · rw [same] at performed
    cases performed
    rw [names] at refused
    refine ⟨⟨nofun, fun covered => ?_⟩, fun _ => ⟨rfl, rfl, rfl⟩,
      fun other otherLife otherLives loan member => ⟨nofun, fun _ _ => rfl⟩⟩
    obtain ⟨stored, overwrites⟩ := (accepted positive).mpr covered
    rw [refused] at overwrites
    cases overwrites
  · rw [same] at performed
    cases performed
    rw [names] at overwrites
    have covered := (accepted positive).mp ⟨stored, overwrites⟩
    refine ⟨⟨fun _ => covered, fun _ => rfl⟩, fun other => absurd rfl other,
      fun other otherLife otherLives loan member => ?_⟩
    obtain ⟨shown, undisturbed⟩ := isolated.words?_written named found lives lends block onLoan
      size _ overwrites updates other otherLife otherLives loan member
    exact ⟨fun _ => shown, undisturbed⟩

/-! ### Two blocks in one chunk -/

/-- One arena, with two blocks of four words on loan, one behind the other. -/
def twoBlocks : Session :=
  let arena : SegregatedAllocator :=
    ⟨{ chunkWords := 16, trackLoans := true },
      ⟨#[⟨16, #[0, 0, 0, 0, 0, 0, 0, 0]⟩], 16, none, .word, 8, 0⟩, [], 2,
      some [⟨⟨0, 4, 0⟩, 4⟩, ⟨⟨0, 0, 0⟩, 4⟩]⟩
  ⟨⟨#[.occupied 0 (.arena arena)], none, 1⟩, false, ""⟩

theorem course_twoBlocks : ∃ chunks transcript life, Course chunks transcript twoBlocks ∧
    max chunks twoBlocks.mostChunks ≤ 2 ^ 32 ∧ transcript.life? 0 = some life ∧
      life.loans = [⟨⟨0, 4, 0⟩, 4⟩, ⟨⟨0, 0, 0⟩, 4⟩] := by
  have opened : Course 0 [] Session.empty := .start
  have arena := opened.call _ _ _ .addressable (.createArena 16 .given)
  have first := arena.call _ _ _ .addressable (.onAllocator 0 (.allocate 4 .given))
  have second := first.call _ _ _ .addressable (.onAllocator 0 (.allocate 4 .given))
  exact ⟨_, _, _, second, by decide, rfl, by decide⟩

/-- Four new words in the first block do not show in the second one. -/
theorem write_reaches_the_first_block :
    (twoBlocks.perform .addressable
        (.onAllocator 0 (.write ⟨0, 0⟩ (some fun _ => 7) 4))).1.words? 0 ⟨⟨0, 0, 0⟩, 4⟩ =
      some [7, 7, 7, 7] ∧
    (twoBlocks.perform .addressable
        (.onAllocator 0 (.write ⟨0, 0⟩ (some fun _ => 7) 4))).1.words? 0 ⟨⟨0, 4, 0⟩, 4⟩ =
      twoBlocks.words? 0 ⟨⟨0, 4, 0⟩, 4⟩ := by
  obtain ⟨chunks, transcript, life, course, few, lives, loans⟩ := course_twoBlocks
  obtain ⟨_, _, _, _, reached⟩ := write_reaches_its_range chunks transcript _ course few
    .addressable 0 life lives ⟨⟨0, 0, 0⟩, 4⟩ (by rw [loans]; decide) ⟨0, 0⟩ (by decide)
    (fun _ => 7) 4 _ _ _ rfl
  refine ⟨by decide, ?_⟩
  exact (reached 0 life lives ⟨⟨0, 4, 0⟩, 4⟩ (by rw [loans]; decide)).2 (by decide) (by decide)

/-- Eight new words in the first block, which has four: the call succeeds, and the second block has
the last four of them. -/
theorem write_overruns_its_block :
    (∃ chunks transcript life, Course chunks transcript twoBlocks ∧
      max chunks twoBlocks.mostChunks ≤ 2 ^ 32 ∧ transcript.life? 0 = some life ∧
      life.loans = [⟨⟨0, 4, 0⟩, 4⟩, ⟨⟨0, 0, 0⟩, 4⟩]) ∧
    twoBlocks.words? 0 ⟨⟨0, 4, 0⟩, 4⟩ = some [0, 0, 0, 0] ∧
    ∃ next, twoBlocks.perform .addressable (.onAllocator 0
        (.write ⟨0, 0⟩ (some fun position => position.toUInt32 + 1) 8)) = (next, .bare .ok, []) ∧
      next.words? 0 ⟨⟨0, 4, 0⟩, 4⟩ = some [5, 6, 7, 8] :=
  ⟨course_twoBlocks, by decide, _, rfl, by decide⟩

end Session

end Allotment
