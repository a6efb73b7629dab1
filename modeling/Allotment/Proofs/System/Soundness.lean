/-
What every state of the system allocator keeps: the blocks in its slots are the blocks on
loan, each at its size; every slot that is ready for use is empty and ready once; and the
totals are those of the loans. A slot whose generations ran out is empty too, but it is
never ready again, so no bound on the number of releases is needed.
-/

import Allotment.Backend.System
import Allotment.Proofs.Block.Ranges
import Allotment.Proofs.Block.Sharing
import Allotment.Proofs.Threading

namespace Allotment

namespace SystemAllocator

/-! ### Blocks in slots -/

section Slots

variable (allocator : SystemAllocator)

/-- A handle has a block exactly when its slot holds one, in its generation. -/
theorem blockOf?_eq_some_iff (handle : Handle) (words : Array Word) :
    allocator.blockOf? handle = some words ↔
      handle.offset = 0 ∧
        allocator.slots[handle.chunk.toNat]? = some ⟨handle.epoch, some words⟩ := by
  unfold blockOf? slotOf?
  by_cases offset : handle.offset = 0
  · rw [if_neg (not_not_intro offset)]
    cases found : allocator.slots[handle.chunk.toNat]? with
    | none => simp
    | some slot =>
      obtain ⟨generation, block⟩ := slot
      by_cases current : generation = handle.epoch
      · simp [Option.filter, current, offset]
      · simp [Option.filter, current]
  · rw [if_pos offset]
    simp [offset]

/-- What a slot is filled with is the block of its handle, and of no other one. -/
theorem blockOf?_setIfInBounds (index : UInt32) (slot : Slot) (freeSlots : List UInt32)
    (live liveWords : Nat) (inside : index.toNat < allocator.slots.size) (handle : Handle)
    (words : Array Word) :
    blockOf? ⟨allocator.slots.setIfInBounds index.toNat slot, freeSlots, live, liveWords⟩ handle =
        some words ↔
      if handle.chunk = index then
        handle.offset = 0 ∧ slot = ⟨handle.epoch, some words⟩
      else allocator.blockOf? handle = some words := by
  rw [blockOf?_eq_some_iff, blockOf?_eq_some_iff]
  by_cases same : handle.chunk = index
  · subst same
    rw [if_pos rfl, Array.getElem?_setIfInBounds_self_of_lt inside, Option.some_inj]
  · have different : index.toNat ≠ handle.chunk.toNat :=
      fun equal => same (UInt32.toNat_inj.mp equal).symm
    rw [if_neg same, Array.getElem?_setIfInBounds_ne different]

/-- A slot holds a block for one handle only. -/
theorem eq_of_chunk_eq {allocator : SystemAllocator} {first second : Handle}
    {words others : Array Word} (held : allocator.blockOf? first = some words)
    (found : allocator.blockOf? second = some others) (same : first.chunk = second.chunk) :
    first = second := by
  obtain ⟨firstOffset, firstSlot⟩ := (blockOf?_eq_some_iff _ _ _).mp held
  obtain ⟨secondOffset, secondSlot⟩ := (blockOf?_eq_some_iff _ _ _).mp found
  rw [same, secondSlot, Option.some_inj] at firstSlot
  exact Handle.SamePlace.eq ⟨same, firstOffset.trans secondOffset.symm⟩
    (Slot.mk.inj firstSlot).1.symm

end Slots

/-! ### The invariant -/

/-- The allocator has exactly the given blocks on loan. -/
structure Sound (allocator : SystemAllocator) (loans : List Block) : Prop where
  distinct : (loans.map (·.handle)).Nodup
  held : ∀ block : Block, block ∈ loans ↔
    ∃ words, allocator.blockOf? block.handle = some words ∧ words.size = block.size
  ready : allocator.freeSlots.Nodup
  emptied : ∀ index ∈ allocator.freeSlots,
    ∃ generation, allocator.slots[index.toNat]? = some ⟨generation, none⟩
  named : allocator.slots.size ≤ 2 ^ 32
  live : allocator.live = loans.length
  liveWords : allocator.liveWords = (loans.map (·.size)).sum

theorem sound_empty : Sound empty [] where
  distinct := List.nodup_nil
  held block := by
    refine ⟨nofun, ?_⟩
    rintro ⟨words, found, _⟩
    have slot := ((blockOf?_eq_some_iff _ _ _).mp found).2
    cases slot
  ready := List.nodup_nil
  emptied := nofun
  named := Nat.zero_le _
  live := rfl
  liveWords := rfl

section Places

variable {allocator : SystemAllocator} {loans : List Block} (sound : Sound allocator loans)

include sound

/-- Every block on loan has a slot of its own. -/
theorem Sound.nodup_places : (loans.map fun block => block.handle.chunk.toNat).Nodup := by
  refine sound.distinct.of_map.map_on fun first firstMember second secondMember same => ?_
  obtain ⟨_, held, _⟩ := (sound.held first).mp firstMember
  obtain ⟨_, found, _⟩ := (sound.held second).mp secondMember
  exact Block.eq_of_handle_eq sound.distinct firstMember secondMember
    (eq_of_chunk_eq held found (UInt32.toNat_inj.mp same))

theorem Sound.place_lt (block : Block) (member : block ∈ loans) :
    block.handle.chunk.toNat < allocator.slots.size := by
  obtain ⟨_, held, _⟩ := (sound.held block).mp member
  exact (Array.getElem?_eq_some_iff.mp ((blockOf?_eq_some_iff _ _ _).mp held).2).1

theorem Sound.live_le : allocator.live ≤ allocator.slots.size := by
  rw [sound.live]
  exact length_le_of_places loans _ _ sound.nodup_places sound.place_lt

end Places

/-! ### Lending -/

/-- A block of zeros is under a handle that had none, and every other handle has the block it
had. -/
structure HandsOut (before : SystemAllocator) (size : Nat) (handle : Handle)
    (after : SystemAllocator) : Prop where
  unused : before.blockOf? handle = none
  blocks : ∀ (other : Handle) (words : Array Word), after.blockOf? other = some words ↔
    if other = handle then words = Array.replicate size 0
    else before.blockOf? other = some words
  live : after.live = before.live + 1
  liveWords : after.liveWords = before.liveWords + size

section Lending

variable {before after : SystemAllocator} {loans : List Block}

/-- A handle with a block that is handed out names no other block on loan. -/
theorem HandsOut.not_mem {size : Nat} {handle : Handle} (handed : before.HandsOut size handle after)
    (sound : Sound before loans) : ∀ block ∈ loans, block.handle ≠ handle := by
  intro block member same
  obtain ⟨words, found, _⟩ := (sound.held block).mp member
  rw [same, handed.unused] at found
  cases found

theorem Sound.lend (sound : Sound before loans) {size : Nat} {handle : Handle}
    (handed : before.HandsOut size handle after) (ready : after.freeSlots.Nodup)
    (emptied : ∀ index ∈ after.freeSlots,
      ∃ generation, after.slots[index.toNat]? = some ⟨generation, none⟩)
    (named : after.slots.size ≤ 2 ^ 32) : Sound after (⟨handle, size⟩ :: loans) := by
  have unused := handed.not_mem sound
  refine ⟨?_, fun block => ?_, ready, emptied, named, ?_, ?_⟩
  · rw [List.map_cons, List.nodup_cons]
    refine ⟨fun repeated => ?_, sound.distinct⟩
    obtain ⟨block, member, same⟩ := List.mem_map.mp repeated
    exact unused block member same
  · simp only [handed.blocks]
    by_cases same : block.handle = handle
    · simp only [if_pos same, exists_eq_left, Array.size_replicate]
      constructor
      · intro member
        rcases List.mem_cons.mp member with rfl | older
        · rfl
        · exact absurd same (unused block older)
      · intro size
        obtain ⟨_, _⟩ := block
        cases same
        cases size
        exact List.mem_cons_self
    · simp only [if_neg same, ← sound.held]
      exact ⟨fun member => (List.mem_cons.mp member).resolve_left fun equal => same (by rw [equal]),
        List.mem_cons_of_mem _⟩
  · rw [handed.live, sound.live, List.length_cons]
  · rw [handed.liveWords, sound.liveWords, List.map_cons, List.sum_cons, Nat.add_comm]

end Lending

/-- The allocator after a block of zeros was put into a slot that was ready. -/
def reused (allocator : SystemAllocator) (index generation : UInt32) (rest : List UInt32)
    (size : Nat) : SystemAllocator :=
  ({ allocator with freeSlots := rest }.fill index.toNat
    ⟨generation, some (Array.replicate size 0)⟩).counted size

/-- The allocator after a block of zeros was put into a new slot. -/
def added (allocator : SystemAllocator) (size : Nat) : SystemAllocator :=
  { allocator with slots := allocator.slots.push ⟨0, some (Array.replicate size 0)⟩ }.counted size

section Slots

variable (allocator : SystemAllocator) (size : Nat)

/-- A slot that held no block and is filled with zeros hands them out. -/
theorem handsOut_of_slot {before after : SystemAllocator} {size : Nat} {index generation : UInt32}
    (vacant : ∀ (handle : Handle) (words : Array Word), handle.chunk = index →
      before.blockOf? handle ≠ some words)
    (filled : after.slots[index.toNat]? = some ⟨generation, some (Array.replicate size 0)⟩)
    (others : ∀ other : UInt32, other ≠ index →
      after.slots[other.toNat]? = before.slots[other.toNat]?)
    (live : after.live = before.live + 1) (liveWords : after.liveWords = before.liveWords + size) :
    before.HandsOut size ⟨index, 0, generation⟩ after := by
  have found : after.blockOf? ⟨index, 0, generation⟩ = some (Array.replicate size 0) :=
    (blockOf?_eq_some_iff _ _ _).mpr ⟨rfl, filled⟩
  refine ⟨Option.eq_none_iff_forall_ne_some.mpr fun words => vacant _ words rfl,
    fun other words => ?_, live, liveWords⟩
  by_cases equal : other = ⟨index, 0, generation⟩
  · rw [if_pos equal, equal, found, Option.some_inj, eq_comm]
  rw [if_neg equal]
  by_cases same : other.chunk = index
  · exact ⟨fun held => absurd (eq_of_chunk_eq held found same) equal,
      fun held => absurd held (vacant other words same)⟩
  · rw [blockOf?_eq_some_iff, blockOf?_eq_some_iff, others _ same]

theorem handsOut_reused (index generation : UInt32) (rest : List UInt32)
    (found : allocator.slots[index.toNat]? = some ⟨generation, none⟩) :
    allocator.HandsOut size ⟨index, 0, generation⟩
      (allocator.reused index generation rest size) := by
  obtain ⟨inside, _⟩ := Array.getElem?_eq_some_iff.mp found
  refine handsOut_of_slot (fun handle words same held => ?_)
    (Array.getElem?_setIfInBounds_self_of_lt inside) (fun other different => ?_) rfl rfl
  · obtain ⟨_, slot⟩ := (blockOf?_eq_some_iff _ _ _).mp held
    rw [same, found] at slot
    cases slot
  · exact Array.getElem?_setIfInBounds_ne (mt UInt32.toNat_inj.mp different.symm)

theorem handsOut_added (room : ¬ fieldLimit < allocator.slots.size) :
    allocator.HandsOut size ⟨allocator.slots.size.toUInt32, 0, 0⟩ (allocator.added size) := by
  have number : allocator.slots.size.toUInt32.toNat = allocator.slots.size :=
    UInt32.toNat_ofNat_of_lt' (Nat.lt_succ_of_le (Nat.le_of_not_lt room))
  refine handsOut_of_slot (fun handle words same held => ?_) ?_ (fun other different => ?_) rfl rfl
  · obtain ⟨_, slot⟩ := (blockOf?_eq_some_iff _ _ _).mp held
    rw [same, number, Array.getElem?_eq_none (Nat.le_refl _)] at slot
    cases slot
  · show (allocator.slots.push _)[_]? = _
    rw [number, Array.getElem?_push_size]
  · have elsewhere := mt UInt32.toNat_inj.mp different
    rw [number] at elsewhere
    show (allocator.slots.push _)[_]? = _
    rw [Array.getElem?_push, if_neg elsewhere]

end Slots

section Refusals

variable (allocator next : SystemAllocator) (size : Nat) (cause : Refusal) (events : List Event)

/-- A refused request changed nothing. -/
theorem allocate_refused (memory : Memory)
    (refused : allocator.allocate memory size = .done (.error cause) next events) :
    next = allocator ∧ events = [] := by
  unfold allocate at refused
  split at refused
  · cases refused
    exact ⟨rfl, rfl⟩
  split at refused
  · cases refused
    exact ⟨rfl, rfl⟩
  split at refused
  · split at refused <;> cases refused
  · split at refused
    · cases refused
      exact ⟨rfl, rfl⟩
    · cases refused

/-- A refused release changed nothing either. -/
theorem tryDeallocate_refused (handle : Handle)
    (refused : allocator.tryDeallocate handle size = .done (.error cause) next events) :
    next = allocator ∧ events = [] := by
  unfold tryDeallocate at refused
  split at refused
  · cases refused
    exact ⟨rfl, rfl⟩
  · obtain ⟨_, _, mismatch⟩ := (Step.mapAnswer_eq_done_iff _ _ _ _ _).mp refused
    cases mismatch

end Refusals

section Lending

variable {allocator : SystemAllocator} {loans : List Block}

/-- A request is refused and changes nothing, or its block goes into the first slot that is
ready, or into a new slot if none is. -/
theorem Sound.allocate_cases (sound : Sound allocator loans) (memory : Memory) (size : Nat) :
    (∃ cause, allocator.allocate memory size = .refused cause allocator) ∨
    (∃ index rest generation, allocator.freeSlots = index :: rest ∧
      allocator.slots[index.toNat]? = some ⟨generation, none⟩ ∧
      allocator.allocate memory size =
        .granted ⟨index, 0, generation⟩ (allocator.reused index generation rest size)) ∨
    (allocator.freeSlots = [] ∧ ¬ fieldLimit < allocator.slots.size ∧
      allocator.allocate memory size =
        .granted ⟨allocator.slots.size.toUInt32, 0, 0⟩ (allocator.added size)) := by
  unfold SystemAllocator.allocate
  by_cases none : size = 0
  · exact Or.inl ⟨_, if_pos none⟩
  rw [if_neg none]
  by_cases denied : memory.grantsWords size = false
  · exact Or.inl ⟨_, if_pos denied⟩
  rw [if_neg denied]
  cases waiting : allocator.freeSlots with
  | cons index rest =>
    obtain ⟨generation, found⟩ := sound.emptied index (waiting ▸ List.mem_cons_self)
    simp only [found]
    exact Or.inr (Or.inl ⟨index, rest, generation, rfl, found, rfl⟩)
  | nil =>
    by_cases full : fieldLimit < allocator.slots.size
    · exact Or.inl ⟨_, if_pos full⟩
    · exact Or.inr (Or.inr ⟨rfl, full, by simp only [if_neg full, added, waiting]⟩)

/-- A request is refused and changes nothing, or a block is handed out and the allocator is sound
with it on loan. There is no third outcome. -/
theorem Sound.allocate (sound : Sound allocator loans) (memory : Memory) (size : Nat) :
    (∃ cause, allocator.allocate memory size = .refused cause allocator) ∨
    ∃ handle after, allocator.allocate memory size = .granted handle after ∧
      allocator.HandsOut size handle after ∧ Sound after (⟨handle, size⟩ :: loans) := by
  rcases sound.allocate_cases memory size with refused |
    ⟨index, rest, generation, waiting, found, granted⟩ | ⟨waiting, room, granted⟩
  · exact Or.inl refused
  · have distinct := sound.ready
    rw [waiting, List.nodup_cons] at distinct
    have handed := allocator.handsOut_reused size index generation rest found
    refine Or.inr ⟨_, _, granted, handed, sound.lend handed distinct.2 ?_ ?_⟩
    · intro other member
      obtain ⟨later, otherFound⟩ :=
        sound.emptied other (waiting ▸ List.mem_cons_of_mem _ member)
      have different : index ≠ other := fun same => distinct.1 (same ▸ member)
      exact ⟨later, (Array.getElem?_setIfInBounds_ne
        (mt UInt32.toNat_inj.mp different)).trans otherFound⟩
    · exact (Array.size_setIfInBounds).symm ▸ sound.named
  · have handed := allocator.handsOut_added size room
    refine Or.inr ⟨_, _, granted, handed, sound.lend handed sound.ready ?_ ?_⟩
    · intro other member
      have none : other ∈ allocator.freeSlots := member
      rw [waiting] at none
      cases none
    · show (allocator.slots.push _).size ≤ 2 ^ 32
      rw [Array.size_push]
      exact Nat.succ_le_succ (Nat.le_of_not_lt room)

end Lending

/-! ### Taking back -/

section Returning

variable {allocator : SystemAllocator} {loans : List Block}

/-- The words on loan are those of one block and those of the others. -/
theorem Sound.liveWords_eq (sound : Sound allocator loans) (block : Block)
    (member : block ∈ loans) :
    allocator.liveWords = block.size + ((loans.erase block).map (·.size)).sum := by
  have split := List.Perm.sum_nat ((List.perm_cons_erase member).map (·.size))
  rw [sound.liveWords, split, List.map_cons, List.sum_cons]

/-- A slot that is ready holds no block. -/
theorem Sound.not_ready (sound : Sound allocator loans) (handle : Handle) (words : Array Word)
    (found : allocator.blockOf? handle = some words) : handle.chunk ∉ allocator.freeSlots := by
  intro ready
  obtain ⟨generation, slot⟩ := sound.emptied _ ready
  rw [((blockOf?_eq_some_iff _ _ _).mp found).2] at slot
  cases slot

/-- The slots that are ready stay empty when the slot of a block changes. -/
theorem Sound.emptied_elsewhere (sound : Sound allocator loans) (handle : Handle)
    (words : Array Word) (found : allocator.blockOf? handle = some words) (slot : Slot)
    (index : UInt32) (ready : index ∈ allocator.freeSlots) : ∃ generation,
      (allocator.slots.setIfInBounds handle.chunk.toNat slot)[index.toNat]? =
        some ⟨generation, none⟩ := by
  obtain ⟨generation, empty⟩ := sound.emptied index ready
  have different : handle.chunk ≠ index :=
    fun same => sound.not_ready handle words found (same ▸ ready)
  exact ⟨generation,
    (Array.getElem?_setIfInBounds_ne (mt UInt32.toNat_inj.mp different)).trans empty⟩

/-- The allocator after the block of a handle left its slot. -/
def without (allocator : SystemAllocator) (handle : Handle) (size : Nat) : SystemAllocator where
  slots := allocator.slots.setIfInBounds handle.chunk.toNat ⟨handle.epoch + 1, none⟩
  freeSlots := allocator.recycled handle
  live := allocator.live - 1
  liveWords := allocator.liveWords - size

/-- The other handles have the blocks they had. -/
theorem blockOf?_without (handle : Handle) (size : Nat) (words : Array Word)
    (found : allocator.blockOf? handle = some words) (other : Handle) (others : Array Word) :
    (allocator.without handle size).blockOf? other = some others ↔
      other ≠ handle ∧ allocator.blockOf? other = some others := by
  obtain ⟨offset, slot⟩ := (blockOf?_eq_some_iff _ _ _).mp found
  obtain ⟨inside, _⟩ := Array.getElem?_eq_some_iff.mp slot
  refine (allocator.blockOf?_setIfInBounds _ _ _ _ _ inside other others).trans ?_
  by_cases same : other.chunk = handle.chunk
  · rw [if_pos same]
    constructor
    · rintro ⟨_, equal⟩
      exact nomatch (Slot.mk.inj equal).2
    · rintro ⟨different, held⟩
      exact absurd (eq_of_chunk_eq held found same) different
  · have different : other ≠ handle := fun equal => same (by rw [equal])
    rw [if_neg same]
    exact ⟨fun held => ⟨different, held⟩, fun parts => parts.2⟩

theorem Sound.without (sound : Sound allocator loans) (handle : Handle) (size : Nat)
    (words : Array Word) (found : allocator.blockOf? handle = some words)
    (sized : words.size = size) :
    Sound (allocator.without handle size) (loans.erase ⟨handle, size⟩) := by
  have member : ⟨handle, size⟩ ∈ loans := (sound.held _).mpr ⟨words, found, sized⟩
  have notReady := sound.not_ready handle words found
  obtain ⟨inside, _⟩ :=
    Array.getElem?_eq_some_iff.mp ((blockOf?_eq_some_iff _ _ _).mp found).2
  refine ⟨sound.distinct.sublist (List.erase_sublist.map _), fun block => ?_, ?_,
    fun index ready => ?_, ?_, ?_, ?_⟩
  · rw [(List.Nodup.of_map _ sound.distinct).mem_erase_iff, sound.held]
    simp only [blockOf?_without handle size words found]
    constructor
    · rintro ⟨different, others, held, equal⟩
      refine ⟨others, ⟨fun same => different ?_, held⟩, equal⟩
      obtain ⟨_, count⟩ := block
      cases same
      rw [found, Option.some_inj] at held
      subst held
      exact congrArg (Block.mk _) (equal.symm.trans sized)
    · rintro ⟨others, ⟨different, held⟩, equal⟩
      exact ⟨fun same => different (by rw [same]), others, held, equal⟩
  · show (allocator.recycled handle).Nodup
    unfold recycled
    split
    · exact sound.ready
    · exact List.nodup_cons.mpr ⟨notReady, sound.ready⟩
  · have cases : index = handle.chunk ∨ index ∈ allocator.freeSlots := by
      have recycled : index ∈ allocator.recycled handle := ready
      unfold SystemAllocator.recycled at recycled
      split at recycled
      · exact Or.inr recycled
      · exact List.mem_cons.mp recycled
    rcases cases with rfl | older
    · exact ⟨_, Array.getElem?_setIfInBounds_self_of_lt inside⟩
    · exact sound.emptied_elsewhere handle words found _ index older
  · exact (Array.size_setIfInBounds).symm ▸ sound.named
  · show allocator.live - 1 = _
    rw [sound.live, List.length_erase_of_mem member]
  · show allocator.liveWords - size = _
    rw [sound.liveWords_eq _ member, Nat.add_sub_cancel_left]

/-- A block on loan can be released. -/
theorem Sound.release (sound : Sound allocator loans) (handle : Handle) (words : Array Word)
    (found : allocator.blockOf? handle = some words) :
    allocator.release handle =
      .done (some words.size) (allocator.without handle words.size) [] := by
  have member : ⟨handle, words.size⟩ ∈ loans := (sound.held _).mpr ⟨words, found, rfl⟩
  have enough : ¬ (allocator.live = 0 ∨ allocator.liveWords < words.size) := by
    rw [sound.live, sound.liveWords_eq _ member, not_or, Nat.not_lt]
    exact ⟨Nat.ne_of_gt (List.length_pos_of_mem member), Nat.le_add_right _ _⟩
  rw [SystemAllocator.release, found]
  exact if_neg enough

/-- An unchecked release of a block on loan at its size takes it back. -/
theorem Sound.deallocate_eq (sound : Sound allocator loans) (handle : Handle) (size : Nat)
    (words : Array Word) (found : allocator.blockOf? handle = some words)
    (sized : words.size = size) :
    allocator.deallocate handle size = .done () (allocator.without handle size) [] := by
  subst sized
  rw [SystemAllocator.deallocate, sound.release handle words found, Step.andThen]
  show (if words.size = words.size then _ else _ : Step SystemAllocator Unit).after [] = _
  rw [if_pos rfl]
  rfl

/-- A checked release is refused and changes nothing, or it takes back a block on loan at its
size. There is no third outcome. -/
theorem Sound.tryDeallocate (sound : Sound allocator loans) (handle : Handle) (size : Nat) :
    (∃ cause, allocator.tryDeallocate handle size = .refused cause allocator) ∨
    ∃ words, allocator.blockOf? handle = some words ∧ words.size = size ∧
      allocator.tryDeallocate handle size = .granted () (allocator.without handle size) := by
  unfold SystemAllocator.tryDeallocate
  cases check : allocator.checkRelease handle size with
  | error cause => exact Or.inl ⟨cause, rfl⟩
  | ok _ =>
    unfold checkRelease at check
    split at check
    · cases check
    split at check
    · cases check
    split at check
    · cases check
    split at check
    · cases check
    · next words found =>
      by_cases sized : words.size = size
      · refine Or.inr ⟨words, found, sized, ?_⟩
        subst sized
        rw [sound.release handle words found]
        rfl
      · rw [if_neg sized] at check
        cases check

end Returning

/-! ### Reading and writing -/

section Storing

variable {allocator stored : SystemAllocator} {loans : List Block} {handle : Handle} {size : Nat}
  {patch : Patch}

theorem store?_eq_some_iff :
    allocator.store? handle size patch = some stored ↔
      ∃ words, allocator.blockOf? handle = some words ∧ size ≤ words.size ∧
        allocator.fill handle.chunk.toNat
          ⟨handle.epoch, some (patchRange words 0 size patch)⟩ = stored := by
  unfold store?
  cases allocator.blockOf? handle with
  | none => simp
  | some words =>
    by_cases inside : size ≤ words.size
    · simp [inside]
    · simp [inside]

/-- The block of the handle is overwritten, and no other one. -/
theorem blockOf?_store (written : allocator.store? handle size patch = some stored)
    (other : Handle) (others : Array Word) :
    stored.blockOf? other = some others ↔
      if other = handle then
        ∃ words, allocator.blockOf? handle = some words ∧ patchRange words 0 size patch = others
      else allocator.blockOf? other = some others := by
  obtain ⟨words, found, _, rfl⟩ := store?_eq_some_iff.mp written
  obtain ⟨offset, slot⟩ := (blockOf?_eq_some_iff _ _ _).mp found
  obtain ⟨inside, _⟩ := Array.getElem?_eq_some_iff.mp slot
  refine (allocator.blockOf?_setIfInBounds _ _ _ _ _ inside other others).trans ?_
  by_cases equal : other = handle
  · subst equal
    simp [offset, found]
  rw [if_neg equal]
  by_cases same : other.chunk = handle.chunk
  · rw [if_pos same]
    constructor
    · rintro ⟨otherOffset, overwritten⟩
      exact absurd (Handle.SamePlace.eq ⟨same, otherOffset.trans offset.symm⟩
        (Slot.mk.inj overwritten).1.symm) equal
    · intro held
      exact absurd (eq_of_chunk_eq held found same) equal
  · rw [if_neg same]

theorem Sound.store (sound : Sound allocator loans)
    (written : allocator.store? handle size patch = some stored) : Sound stored loans := by
  have blocks := blockOf?_store written
  obtain ⟨words, found, _, rfl⟩ := store?_eq_some_iff.mp written
  refine ⟨sound.distinct, fun block => ?_, sound.ready, ?_, ?_, sound.live, sound.liveWords⟩
  · simp only [sound.held, blocks]
    by_cases same : block.handle = handle
    · simp [same, found, size_patchRange]
    · simp [same]
  · exact sound.emptied_elsewhere handle words found _
  · exact (Array.size_setIfInBounds).symm ▸ sound.named

end Storing

end SystemAllocator

end Allotment
