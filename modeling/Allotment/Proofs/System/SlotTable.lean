/-
The slots of the system allocator over a whole run. No handle is lent twice, so what came
back stays back, and a handle reads exactly while it is on loan. As long as no slot ran out
of generations, each slot either has a block on loan or is ready, and there are as many
slots as there ever were blocks on loan at the same time.

A slot is ready exactly when it is empty because the slots are counted: those of the blocks
on loan and those that are ready are different ones, and together they are all.
-/

import Allotment.Proofs.Lending.Tally
import Allotment.Proofs.System.ReleaseCheck

namespace Allotment

namespace SystemAllocator

/-! ### Every handle is lent once -/

/-- Nothing had happened to a handle that a block is lent under. -/
theorem Chronicled.latest?_of_granted {history : History} {before after : SystemAllocator}
    (chronicled : Chronicled history before) (memory : Memory) (size : Nat) (handle : Handle)
    (events : List Event)
    (granted : before.allocate memory size = .done (.ok handle) after events) :
    history.latest? handle = none := by
  obtain ⟨_, handed, usedUp, _⟩ := chronicled.handsOut memory size handle events granted
  have found : after.blockOf? handle = some (Array.replicate size 0) := by
    rw [handed.blocks, if_pos rfl]
  have unused := not_usedUp_of_block after handle _ found
  rw [usedUp] at unused
  exact chronicled.latest?_eq_none handle handed.unused unused

theorem unrepeated_of_run {history : History} {allocator : SystemAllocator}
    (run : Run history allocator) : history.Unrepeated := by
  induction run with
  | start => trivial
  | lent history before after memory size handle events run granted inductionHypothesis =>
    exact ⟨inductionHypothesis,
      (chronicled_of_run run).latest?_of_granted memory size handle events granted⟩
  | declined history before after memory size cause events run refused inductionHypothesis =>
    exact inductionHypothesis
  | returned history before after handle size events run granted inductionHypothesis =>
    exact inductionHypothesis
  | rejected history before after handle size cause events run refused inductionHypothesis =>
    exact inductionHypothesis
  | released history before after handle size events run done inductionHypothesis =>
    exact inductionHypothesis
  | written history before after handle size patch run stored inductionHypothesis =>
    exact inductionHypothesis

/-! ### Handles without a block -/

section Reading

variable {allocator : SystemAllocator} {loans : List Block}

/-- A handle reads at the sizes up to that of its loan. -/
theorem Sound.words?_isSome_iff (sound : Sound allocator loans) (handle : Handle) (size : Nat) :
    (allocator.words? handle size).isSome ↔
      ∃ issued, ⟨handle, issued⟩ ∈ loans ∧ size ≤ issued := by
  simp only [sound.held]
  unfold words?
  cases allocator.blockOf? handle with
  | none => simp
  | some words =>
    by_cases inside : size ≤ words.size
    · simp [inside]
    · simp [inside]

/-- A handle without a block cannot be read, written or released. -/
theorem Sound.dead (sound : Sound allocator loans) (handle : Handle)
    (unheld : allocator.blockOf? handle = none) (size : Nat) :
    allocator.words? handle size = none ∧
    (∀ patch, allocator.store? handle size patch = none) ∧
    (∀ next events, allocator.tryDeallocate handle size ≠ .done (.ok ()) next events) ∧
    ∀ next events, allocator.deallocate handle size ≠ .done () next events := by
  refine ⟨?_, fun patch => ?_, fun next events granted => ?_, fun next events done => ?_⟩
  · rw [words?, unheld, Option.bind_none]
  · rw [store?, unheld, Option.bind_none]
  · rcases sound.tryDeallocate handle size with ⟨cause, refused⟩ | ⟨words, found, _⟩
    · rw [refused] at granted
      cases granted
    · rw [unheld] at found
      cases found
  · obtain ⟨words, found, _⟩ := deallocate_eq_done sound handle size events done
    rw [unheld] at found
    cases found

end Reading

/-! ### Slots that are counted -/

section Counting

variable {allocator : SystemAllocator} {loans : List Block}

/-- The slots of the blocks on loan, and those that are ready. -/
def places (allocator : SystemAllocator) (loans : List Block) : List Nat :=
  loans.map (fun block => block.handle.chunk.toNat) ++ allocator.freeSlots.map (·.toNat)

theorem Sound.nodup_all_places (sound : Sound allocator loans) :
    (allocator.places loans).Nodup := by
  refine sound.nodup_places.append
    (sound.ready.map fun first second same => UInt32.toNat_inj.mp same) ?_
  intro place lent ready
  obtain ⟨block, member, rfl⟩ := List.mem_map.mp lent
  obtain ⟨index, waiting, same⟩ := List.mem_map.mp ready
  obtain ⟨words, found, _⟩ := (sound.held block).mp member
  exact sound.not_ready block.handle words found (UInt32.toNat_inj.mp same ▸ waiting)

/-- If each slot is counted, all places are slots of blocks on loan or ready ones. -/
theorem Sound.places_perm (sound : Sound allocator loans)
    (counted : allocator.slots.size = allocator.live + allocator.freeSlots.length) :
    (allocator.places loans).Perm (List.range allocator.slots.size) := by
  have inside : allocator.places loans ⊆ List.range allocator.slots.size := by
    intro place member
    rw [List.mem_range]
    rcases List.mem_append.mp member with lent | ready
    · obtain ⟨block, blockMember, rfl⟩ := List.mem_map.mp lent
      exact sound.place_lt block blockMember
    · obtain ⟨index, waiting, rfl⟩ := List.mem_map.mp ready
      obtain ⟨_, found⟩ := sound.emptied index waiting
      exact (Array.getElem?_eq_some_iff.mp found).1
  have all : (allocator.places loans).length = allocator.slots.size := by
    rw [places, List.length_append, List.length_map, List.length_map, counted, sound.live]
  refine (sound.nodup_all_places.subperm inside).perm_of_length_le (Nat.le_of_eq ?_)
  rw [List.length_range, all]

/-- If each slot is counted, the ready slots are the empty ones. -/
theorem Sound.ready_iff (sound : Sound allocator loans)
    (counted : allocator.slots.size = allocator.live + allocator.freeSlots.length)
    (place : Nat) : place ∈ allocator.freeSlots.map (·.toNat) ↔
      ∃ generation, allocator.slots[place]? = some ⟨generation, none⟩ := by
  constructor
  · intro ready
    obtain ⟨index, waiting, rfl⟩ := List.mem_map.mp ready
    exact sound.emptied index waiting
  · rintro ⟨generation, vacant⟩
    obtain ⟨inside, _⟩ := Array.getElem?_eq_some_iff.mp vacant
    have member : place ∈ allocator.places loans :=
      (sound.places_perm counted).mem_iff.mpr (List.mem_range.mpr inside)
    refine (List.mem_append.mp member).resolve_left fun lent => ?_
    obtain ⟨block, blockMember, rfl⟩ := List.mem_map.mp lent
    obtain ⟨words, found, _⟩ := (sound.held block).mp blockMember
    rw [((blockOf?_eq_some_iff _ _ _).mp found).2] at vacant
    cases vacant

end Counting

/-! ### As many slots as blocks at one time -/

/-- Every slot has a block on loan or is ready, and there are no more slots than there were blocks
on loan at the same time. -/
structure Tallied (history : History) (allocator : SystemAllocator) : Prop where
  counted : allocator.slots.size = allocator.live + allocator.freeSlots.length
  peak : allocator.slots.size = history.peak

section Tally

variable {history : History} {before after : SystemAllocator}

/-- A slot that had not run out of generations before it changed leaves an allocator in which no
other one did. -/
theorem Unretired.of_setIfInBounds {index : Nat} {old slot : Slot} (unretired : after.Unretired)
    (slots : after.slots = before.slots.setIfInBounds index slot)
    (found : before.slots[index]? = some old) (fit : old ≠ ⟨0, none⟩) : before.Unretired := by
  intro other member
  obtain ⟨place, placed⟩ := Array.mem_iff_getElem?.mp member
  by_cases same : index = place
  · subst same
    rw [found, Option.some_inj] at placed
    exact placed ▸ fit
  · have kept : after.slots[place]? = some other := by
      rw [slots, Array.getElem?_setIfInBounds_ne same, placed]
    exact unretired other (Array.mem_of_getElem? kept)

/-- Lending takes a slot that is ready, or adds one if none is. -/
theorem Tallied.allocate (chronicled : Chronicled history before)
    (tallied : before.Unretired → Tallied history before) (memory : Memory) (size : Nat)
    (handle : Handle) (events : List Event)
    (granted : before.allocate memory size = .done (.ok handle) after events)
    (unretired : after.Unretired) : Tallied (.lent ⟨handle, size⟩ :: history) after := by
  have live : before.live = history.loans.length := chronicled.sound.live
  rcases chronicled.sound.allocate_cases memory size with ⟨cause, refused⟩ |
    ⟨index, rest, generation, waiting, found, reuses⟩ | ⟨waiting, room, adds⟩
  · rw [refused] at granted
    cases granted
  · rw [reuses] at granted
    cases granted
    have started := chronicled.started index (waiting ▸ List.mem_cons_self) _ found
    obtain ⟨counted, peak⟩ := tallied (unretired.of_setIfInBounds rfl found
      fun equal => started (Slot.mk.inj equal).1)
    have slots : (before.reused index generation rest size).slots.size = before.slots.size :=
      Array.size_setIfInBounds
    rw [waiting, List.length_cons] at counted
    constructor
    · show (before.reused index generation rest size).slots.size = before.live + 1 + rest.length
      omega
    · show _ = max history.peak (history.loans.length + 1)
      omega
  · rw [adds] at granted
    cases granted
    obtain ⟨counted, peak⟩ :=
      tallied fun slot member => unretired slot (Array.mem_push_of_mem _ member)
    have slots : (before.added size).slots.size = before.slots.size + 1 := Array.size_push _
    rw [waiting, List.length_nil] at counted
    constructor
    · show (before.added size).slots.size = before.live + 1 + before.freeSlots.length
      rw [waiting, List.length_nil]
      omega
    · show _ = max history.peak (history.loans.length + 1)
      omega

/-- The slot of a block that comes back is ready, unless its generations ran out. -/
theorem Tallied.without (chronicled : Chronicled history before)
    (tallied : before.Unretired → Tallied history before) (handle : Handle) (size : Nat)
    (words : Array Word) (found : before.blockOf? handle = some words) (sized : words.size = size)
    (unretired : (before.without handle size).Unretired) :
    Tallied (.returned ⟨handle, size⟩ :: history) (before.without handle size) := by
  have slot := ((blockOf?_eq_some_iff _ _ _).mp found).2
  have member : ⟨handle, size⟩ ∈ history.loans :=
    (chronicled.sound.held _).mpr ⟨words, found, sized⟩
  have lending := List.length_pos_of_mem member
  have live : before.live = history.loans.length := chronicled.sound.live
  obtain ⟨counted, peak⟩ := tallied (unretired.of_setIfInBounds rfl slot
    fun equal => nomatch (Slot.mk.inj equal).2)
  have slots : (before.without handle size).slots.size = before.slots.size :=
    Array.size_setIfInBounds
  have further : handle.epoch + 1 ≠ 0 := by
    intro exhausted
    obtain ⟨inside, _⟩ := Array.getElem?_eq_some_iff.mp slot
    have emptied : (before.without handle size).slots[handle.chunk.toNat]? =
        some ⟨handle.epoch + 1, none⟩ := Array.getElem?_setIfInBounds_self_of_lt inside
    exact unretired _ (Array.mem_of_getElem? emptied) (by rw [exhausted])
  constructor
  · show _ = before.live - 1 + (before.recycled handle).length
    rw [recycled, if_neg further, List.length_cons]
    omega
  · show _ = max history.peak (history.loans.erase ⟨handle, size⟩).length
    rw [List.length_erase_of_mem member]
    omega

theorem Tallied.store (tallied : before.Unretired → Tallied history before) (handle : Handle)
    (size : Nat) (patch : Patch) (overwrites : before.store? handle size patch = some after)
    (unretired : after.Unretired) : Tallied history after := by
  obtain ⟨words, found, _, rfl⟩ := store?_eq_some_iff.mp overwrites
  have slot := ((blockOf?_eq_some_iff _ _ _).mp found).2
  obtain ⟨counted, peak⟩ := tallied (unretired.of_setIfInBounds rfl slot
    fun equal => nomatch (Slot.mk.inj equal).2)
  have slots : (before.slots.setIfInBounds handle.chunk.toNat
      ⟨handle.epoch, some (patchRange words 0 size patch)⟩).size = before.slots.size :=
    Array.size_setIfInBounds
  exact ⟨slots.trans counted, slots.trans peak⟩

end Tally

theorem tallied_of_run {history : History} {allocator : SystemAllocator}
    (run : Run history allocator) (unretired : allocator.Unretired) :
    Tallied history allocator := by
  induction run with
  | start => exact ⟨rfl, rfl⟩
  | lent history before after memory size handle events run granted inductionHypothesis =>
    exact Tallied.allocate (chronicled_of_run run) inductionHypothesis memory size handle events
      granted unretired
  | declined history before after memory size cause events run refused inductionHypothesis =>
    obtain ⟨rfl, _⟩ := before.allocate_refused after size cause events memory refused
    exact inductionHypothesis unretired
  | returned history before after handle size events run granted inductionHypothesis =>
    have chronicled := chronicled_of_run run
    rcases chronicled.sound.tryDeallocate handle size with ⟨cause, equal⟩ |
      ⟨words, found, sized, equal⟩
    · rw [equal] at granted
      cases granted
    · rw [equal] at granted
      cases granted
      exact Tallied.without chronicled inductionHypothesis handle size words found sized unretired
  | rejected history before after handle size cause events run refused inductionHypothesis =>
    obtain ⟨rfl, _⟩ := before.tryDeallocate_refused after size cause events handle refused
    exact inductionHypothesis unretired
  | released history before after handle size events run done inductionHypothesis =>
    have chronicled := chronicled_of_run run
    obtain ⟨words, found, sized, rfl⟩ :=
      deallocate_eq_done chronicled.sound handle size events done
    exact Tallied.without chronicled inductionHypothesis handle size words found sized unretired
  | written history before after handle size patch run stored inductionHypothesis =>
    exact Tallied.store inductionHypothesis handle size patch stored unretired

/-! ### The whole table -/

/-- After every run: no handle was lent twice; a handle whose block came back can never again be
read, written or released; a handle reads and writes at the sizes up to that of its loan, and at
no other; the totals are those of the blocks on loan; and no slot is ready twice. Unless a slot
ran out of generations, the slots that are ready are the empty ones, and there are as many slots
as there ever were blocks on loan at the same time. -/
theorem slots_follow_history (history : History) (allocator : SystemAllocator)
    (run : Run history allocator) :
    history.issued.Nodup ∧
    (∀ block, .returned block ∈ history → ∀ size,
      allocator.words? block.handle size = none ∧
      (∀ patch, allocator.store? block.handle size patch = none) ∧
      (∀ next events, allocator.tryDeallocate block.handle size ≠ .done (.ok ()) next events) ∧
      ∀ next events, allocator.deallocate block.handle size ≠ .done () next events) ∧
    (∀ handle size, (allocator.words? handle size).isSome ↔
      ∃ issued, ⟨handle, issued⟩ ∈ history.loans ∧ size ≤ issued) ∧
    allocator.live = history.loans.length ∧
    allocator.liveWords = (history.loans.map (·.size)).sum ∧
    allocator.freeSlots.Nodup ∧
    (allocator.Unretired →
      (∀ place, place ∈ allocator.freeSlots.map (·.toNat) ↔
        ∃ generation, allocator.slots[place]? = some ⟨generation, none⟩) ∧
      allocator.slots.size = history.peak) := by
  have chronicled := chronicled_of_run run
  have sound := chronicled.sound
  have unrepeated := unrepeated_of_run run
  refine ⟨unrepeated.nodup_issued history chronicled.accounted, fun block member => ?_,
    sound.words?_isSome_iff, sound.live, sound.liveWords, sound.ready, fun unretired => ?_⟩
  · have latest := unrepeated.latest?_of_returned history chronicled.accounted block member
    refine sound.dead block.handle (Option.eq_none_iff_forall_ne_some.mpr fun words found => ?_)
    have lent := (chronicled.lent block.handle words.size).mpr ⟨words, found, rfl⟩
    rw [latest] at lent
    cases lent
  · have tallied := tallied_of_run run unretired
    exact ⟨sound.ready_iff tallied.counted, tallied.peak⟩

/-- Two blocks are lent, both come back, and one of the slots is lent again. -/
theorem slots_followed_after_reuse :
    ∃ (history : History) (allocator : SystemAllocator), Run history allocator ∧
      history = [.lent ⟨⟨1, 0, 1⟩, 3⟩, .returned ⟨⟨1, 0, 0⟩, 2⟩, .returned ⟨⟨0, 0, 0⟩, 4⟩,
        .lent ⟨⟨1, 0, 0⟩, 2⟩, .lent ⟨⟨0, 0, 0⟩, 4⟩] ∧
      history.issued.Nodup ∧ allocator.words? ⟨1, 0, 0⟩ 2 = none ∧
      (allocator.words? ⟨1, 0, 1⟩ 2).isSome ∧ allocator.freeSlots = [0] ∧
      allocator.slots.size = 2 ∧ history.peak = 2 := by
  have first : Run [.lent ⟨⟨0, 0, 0⟩, 4⟩] ⟨#[⟨0, some #[0, 0, 0, 0]⟩], [], 1, 4⟩ :=
    .lent _ _ _ .addressable 4 _ _ .start rfl
  have second : Run _ ⟨#[⟨0, some #[0, 0, 0, 0]⟩, ⟨0, some #[0, 0]⟩], [], 2, 6⟩ :=
    .lent _ _ _ .addressable 2 ⟨1, 0, 0⟩ _ first rfl
  have returned : Run _ ⟨#[⟨1, none⟩, ⟨0, some #[0, 0]⟩], [0], 1, 2⟩ :=
    .returned _ _ _ ⟨0, 0, 0⟩ 4 _ second rfl
  have emptied : Run _ ⟨#[⟨1, none⟩, ⟨1, none⟩], [1, 0], 0, 0⟩ :=
    .released _ _ _ ⟨1, 0, 0⟩ 2 _ returned rfl
  have again : Run _ ⟨#[⟨1, none⟩, ⟨1, some #[0, 0, 0]⟩], [0], 1, 3⟩ :=
    .lent _ _ _ .addressable 3 ⟨1, 0, 1⟩ _ emptied rfl
  obtain ⟨once, dead, reads, _⟩ := slots_follow_history _ _ again
  exact ⟨_, _, again, rfl, once, (dead ⟨⟨1, 0, 0⟩, 2⟩ (by decide) 2).1,
    (reads ⟨1, 0, 1⟩ 2).mpr ⟨3, by decide, by decide⟩, rfl, rfl, rfl⟩

end SystemAllocator

end Allotment
