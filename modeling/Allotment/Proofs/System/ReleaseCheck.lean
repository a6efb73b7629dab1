/-
The release check of the system allocator against the history of the run. The allocator
keeps no history: it compares the epoch of a handle with the generation of its slot. A slot
knows which handles it used up, those of its earlier generations, and so tells a handle that
came back from one that was never lent, with one exception. The generation of an empty
slot belongs to the block that the slot is lent for next, so the handle of that block takes
part in the check before it exists, and its release is refused as a second one.

What a slot used up only ever grows by the handle that comes back, in each of the changes
that a call can make; the invariant needs no bound on the number of releases. Only the
verdict does: a slot whose generations ran out starts over at zero and forgets them.
-/

import Allotment.Proofs.Lending.Verdict
import Allotment.Proofs.System.Lender

namespace Allotment

namespace Slot

/-- The slot used up the handle of this epoch: it is beyond it, or beyond all of them. -/
def Past (slot : Slot) (epoch : UInt32) : Prop :=
  epoch < slot.generation ∨ slot = ⟨0, none⟩

/-- A slot with a block is beyond the earlier epochs. -/
theorem past_filled_iff (generation epoch : UInt32) (words : Array Word) :
    Past ⟨generation, some words⟩ epoch ↔ epoch < generation := by
  rw [Past, or_iff_left]
  intro equal
  cases equal

/-- A slot that lost the block of an epoch is beyond that epoch and the earlier ones; if there is
no next epoch, it is beyond all of them. -/
theorem past_emptied_iff (released epoch : UInt32) :
    Past ⟨released + 1, none⟩ epoch ↔ epoch = released ∨ epoch < released := by
  simp only [Past, Slot.mk.injEq, and_true, UInt32.lt_iff_toNat_lt, ← UInt32.toNat_inj,
    UInt32.toNat_add, UInt32.toNat_one, UInt32.toNat_zero]
  have first := released.toNat_lt
  have second := epoch.toNat_lt
  omega

end Slot

/-- The handle was never lent, and it is the one that its place is lent under next: the handle of
the epoch before came back last. -/
def History.Upcoming (history : History) (handle : Handle) : Prop :=
  ¬ history.Issued handle ∧ ∃ earlier size,
    history.latest? earlier = some (.returned ⟨earlier, size⟩) ∧
      handle = { earlier with epoch := earlier.epoch + 1 }

namespace SystemAllocator

/-! ### Runs -/

/-- The histories and states that calls lead to, whatever their arguments. A call that ends in a
fault leads nowhere. -/
inductive Run : History → SystemAllocator → Prop
  | start : Run [] empty
  | lent (history : History) (before after : SystemAllocator) (memory : Memory) (size : Nat)
    (handle : Handle) (events : List Event) (run : Run history before)
    (granted : before.allocate memory size = .done (.ok handle) after events) :
    Run (.lent ⟨handle, size⟩ :: history) after
  | declined (history : History) (before after : SystemAllocator) (memory : Memory) (size : Nat)
    (cause : Refusal) (events : List Event) (run : Run history before)
    (refused : before.allocate memory size = .done (.error cause) after events) :
    Run history after
  | returned (history : History) (before after : SystemAllocator) (handle : Handle) (size : Nat)
    (events : List Event) (run : Run history before)
    (granted : before.tryDeallocate handle size = .done (.ok ()) after events) :
    Run (.returned ⟨handle, size⟩ :: history) after
  | rejected (history : History) (before after : SystemAllocator) (handle : Handle) (size : Nat)
    (cause : Refusal) (events : List Event) (run : Run history before)
    (refused : before.tryDeallocate handle size = .done (.error cause) after events) :
    Run history after
  | released (history : History) (before after : SystemAllocator) (handle : Handle) (size : Nat)
    (events : List Event) (run : Run history before)
    (done : before.deallocate handle size = .done () after events) :
    Run (.returned ⟨handle, size⟩ :: history) after
  | written (history : History) (before after : SystemAllocator) (handle : Handle) (size : Nat)
    (patch : Patch) (run : Run history before)
    (stored : before.store? handle size patch = some after) : Run history after

/-! ### Handles that are used up -/

/-- The slot of a handle used the handle up. -/
def UsedUp (allocator : SystemAllocator) (handle : Handle) : Prop :=
  handle.offset = 0 ∧
    ∃ slot, allocator.slots[handle.chunk.toNat]? = some slot ∧ slot.Past handle.epoch

section Slots

variable {before after : SystemAllocator}

/-- A handle with a block is not used up. -/
theorem not_usedUp_of_block (allocator : SystemAllocator) (handle : Handle) (words : Array Word)
    (found : allocator.blockOf? handle = some words) : ¬ allocator.UsedUp handle := by
  obtain ⟨_, slot⟩ := (blockOf?_eq_some_iff _ _ _).mp found
  rintro ⟨_, other, otherFound, past⟩
  rw [slot, Option.some_inj] at otherFound
  subst otherFound
  exact UInt32.lt_irrefl _ ((Slot.past_filled_iff _ _ _).mp past)

/-- When one slot changes, the handles of the other slots stay as used up as they were. -/
theorem usedUp_congr (index : UInt32)
    (others : ∀ other : UInt32, other ≠ index →
      after.slots[other.toNat]? = before.slots[other.toNat]?)
    (same : ∀ handle : Handle, handle.chunk = index →
      (after.UsedUp handle ↔ before.UsedUp handle)) (handle : Handle) :
    after.UsedUp handle ↔ before.UsedUp handle := by
  by_cases equal : handle.chunk = index
  · exact same handle equal
  · rw [UsedUp, UsedUp, others _ equal]

/-- The handles that a known slot used up. -/
theorem usedUp_iff_of_slot {allocator : SystemAllocator} {handle : Handle} {slot : Slot}
    (found : allocator.slots[handle.chunk.toNat]? = some slot) :
    allocator.UsedUp handle ↔ handle.offset = 0 ∧ slot.Past handle.epoch := by
  rw [UsedUp, found]
  exact and_congr_right fun _ =>
    ⟨fun ⟨_, equal, past⟩ => Option.some_inj.mp equal ▸ past, fun past => ⟨slot, rfl, past⟩⟩

end Slots

section Changes

variable (allocator : SystemAllocator)

theorem usedUp_reused (index generation : UInt32) (rest : List UInt32) (size : Nat)
    (found : allocator.slots[index.toNat]? = some ⟨generation, none⟩) (started : generation ≠ 0)
    (handle : Handle) :
    (allocator.reused index generation rest size).UsedUp handle ↔ allocator.UsedUp handle := by
  obtain ⟨inside, _⟩ := Array.getElem?_eq_some_iff.mp found
  refine usedUp_congr index (fun other different =>
    Array.getElem?_setIfInBounds_ne (mt UInt32.toNat_inj.mp different.symm)) ?_ handle
  rintro handle rfl
  have filled : (allocator.reused handle.chunk generation rest size).slots[handle.chunk.toNat]? =
      some ⟨generation, some (Array.replicate size 0)⟩ :=
    Array.getElem?_setIfInBounds_self_of_lt inside
  rw [usedUp_iff_of_slot filled, usedUp_iff_of_slot found, Slot.past_filled_iff, Slot.Past,
    or_iff_left]
  intro equal
  exact started (Slot.mk.inj equal).1

theorem usedUp_added (size : Nat) (room : ¬ fieldLimit < allocator.slots.size) (handle : Handle) :
    (allocator.added size).UsedUp handle ↔ allocator.UsedUp handle := by
  have number : allocator.slots.size.toUInt32.toNat = allocator.slots.size :=
    UInt32.toNat_ofNat_of_lt' (Nat.lt_succ_of_le (Nat.le_of_not_lt room))
  have slots : ∀ index : Nat, (allocator.added size).slots[index]? =
      if index = allocator.slots.size then some ⟨0, some (Array.replicate size 0)⟩
      else allocator.slots[index]? := fun index => Array.getElem?_push
  refine usedUp_congr allocator.slots.size.toUInt32 (fun other different => ?_) ?_ handle
  · rw [slots, if_neg fun equal => different (UInt32.toNat_inj.mp (equal.trans number.symm))]
  · intro handle same
    have place : handle.chunk.toNat = allocator.slots.size := by rw [same, number]
    have filled : (allocator.added size).slots[handle.chunk.toNat]? =
        some ⟨0, some (Array.replicate size 0)⟩ := by rw [slots, if_pos place]
    rw [usedUp_iff_of_slot filled, Slot.past_filled_iff, UsedUp, place,
      Array.getElem?_eq_none (Nat.le_refl _)]
    exact ⟨fun past => absurd past.2 (UInt32.not_lt_zero), fun past => nomatch past.2⟩

theorem usedUp_without (handle : Handle) (size : Nat) (words : Array Word)
    (found : allocator.blockOf? handle = some words) (other : Handle) :
    (allocator.without handle size).UsedUp other ↔ other = handle ∨ allocator.UsedUp other := by
  obtain ⟨offset, slot⟩ := (blockOf?_eq_some_iff _ _ _).mp found
  obtain ⟨inside, _⟩ := Array.getElem?_eq_some_iff.mp slot
  by_cases same : other.chunk = handle.chunk
  · have emptied : (allocator.without handle size).slots[other.chunk.toNat]? =
        some ⟨handle.epoch + 1, none⟩ := by
      rw [same]
      exact Array.getElem?_setIfInBounds_self_of_lt inside
    rw [← same] at slot
    rw [usedUp_iff_of_slot emptied, usedUp_iff_of_slot slot, Slot.past_filled_iff,
      Slot.past_emptied_iff, and_or_left]
    refine or_congr_left ⟨fun parts => ?_, ?_⟩
    · exact Handle.SamePlace.eq ⟨same, parts.1.trans offset.symm⟩ parts.2
    · rintro rfl
      exact ⟨offset, rfl⟩
  · have different : other ≠ handle := fun equal => same (congrArg Handle.chunk equal)
    have kept : (allocator.without handle size).slots[other.chunk.toNat]? =
        allocator.slots[other.chunk.toNat]? :=
      Array.getElem?_setIfInBounds_ne (mt UInt32.toNat_inj.mp (Ne.symm same))
    rw [UsedUp, UsedUp, kept, or_iff_right different]

theorem usedUp_store (handle : Handle) (size : Nat) (patch : Patch) (stored : SystemAllocator)
    (overwrites : allocator.store? handle size patch = some stored) (other : Handle) :
    stored.UsedUp other ↔ allocator.UsedUp other := by
  obtain ⟨words, found, _, rfl⟩ := store?_eq_some_iff.mp overwrites
  obtain ⟨_, slot⟩ := (blockOf?_eq_some_iff _ _ _).mp found
  obtain ⟨inside, _⟩ := Array.getElem?_eq_some_iff.mp slot
  refine usedUp_congr handle.chunk (fun index different =>
    Array.getElem?_setIfInBounds_ne (mt UInt32.toNat_inj.mp different.symm)) ?_ other
  intro other same
  rw [← same] at slot inside
  have filled : (allocator.fill handle.chunk.toNat ⟨handle.epoch,
      some (patchRange words 0 size patch)⟩).slots[other.chunk.toNat]? =
        some ⟨handle.epoch, some (patchRange words 0 size patch)⟩ := by
    rw [← same]
    exact Array.getElem?_setIfInBounds_self_of_lt inside
  rw [usedUp_iff_of_slot filled, usedUp_iff_of_slot slot, Slot.past_filled_iff,
    Slot.past_filled_iff]

end Changes

/-! ### The slots tell the latest deeds -/

/-- The blocks in the slots are the handles that were lent last, each at its size; the handles
that are used up are those that came back last; and a slot that is ready was in use before. -/
structure Chronicled (history : History) (allocator : SystemAllocator) : Prop where
  accounted : history.Accounted
  sound : Sound allocator history.loans
  lent : ∀ (handle : Handle) (size : Nat),
    history.latest? handle = some (.lent ⟨handle, size⟩) ↔
      ∃ words, allocator.blockOf? handle = some words ∧ words.size = size
  returned : ∀ handle : Handle,
    (∃ size, history.latest? handle = some (.returned ⟨handle, size⟩)) ↔ allocator.UsedUp handle
  started : ∀ index ∈ allocator.freeSlots, ∀ slot,
    allocator.slots[index.toNat]? = some slot → slot.generation ≠ 0

theorem chronicled_empty : Chronicled [] empty where
  accounted := trivial
  sound := sound_empty
  lent handle size := by
    refine ⟨nofun, ?_⟩
    rintro ⟨_, found, _⟩
    cases ((blockOf?_eq_some_iff _ _ _).mp found).2
  returned handle := by
    refine ⟨nofun, ?_⟩
    rintro ⟨_, _, found, _⟩
    cases found
  started := nofun

namespace Chronicled

variable {history : History} {before after : SystemAllocator}

theorem lend (chronicled : Chronicled history before) {size : Nat} {handle : Handle}
    (sound : Sound after (⟨handle, size⟩ :: history.loans))
    (handed : before.HandsOut size handle after)
    (usedUp : ∀ other, after.UsedUp other ↔ before.UsedUp other)
    (started : ∀ index ∈ after.freeSlots, ∀ slot,
      after.slots[index.toNat]? = some slot → slot.generation ≠ 0) :
    Chronicled (.lent ⟨handle, size⟩ :: history) after where
  accounted := chronicled.accounted
  sound := sound
  lent other words := by
    simp only [handed.blocks]
    by_cases same : handle = other
    · subst same
      rw [History.latest?_lent_self _ ⟨handle, size⟩]
      simp
    · rw [History.latest?_lent_other _ _ _ same, chronicled.lent]
      simp only [if_neg (Ne.symm same)]
  returned other := by
    rw [usedUp]
    by_cases same : handle = other
    · subst same
      rw [History.latest?_lent_self _ ⟨handle, size⟩]
      have found : after.blockOf? handle = some (Array.replicate size 0) := by
        rw [handed.blocks, if_pos rfl]
      have unused := not_usedUp_of_block after handle _ found
      rw [usedUp] at unused
      exact ⟨nofun, fun past => absurd past unused⟩
    · rw [History.latest?_lent_other _ _ _ same]
      exact chronicled.returned other
  started := started

/-- A block is handed out without a handle being used up, and no slot starts over. -/
theorem handsOut (chronicled : Chronicled history before) (memory : Memory) (size : Nat)
    (handle : Handle) (events : List Event)
    (granted : before.allocate memory size = .done (.ok handle) after events) :
    Sound after (⟨handle, size⟩ :: history.loans) ∧ before.HandsOut size handle after ∧
      (∀ other, after.UsedUp other ↔ before.UsedUp other) ∧
      ∀ index ∈ after.freeSlots, ∀ slot,
        after.slots[index.toNat]? = some slot → slot.generation ≠ 0 := by
  have sound := chronicled.sound
  rcases sound.allocate memory size with ⟨cause, refused⟩ | ⟨other, next, equal, handed, lent⟩
  · rw [refused] at granted
    cases granted
  rw [equal] at granted
  cases granted
  refine ⟨lent, handed, ?_⟩
  rcases sound.allocate_cases memory size with ⟨cause, refused⟩ |
    ⟨index, rest, generation, waiting, found, granted⟩ | ⟨waiting, room, granted⟩
  · rw [refused] at equal
    cases equal
  · rw [granted] at equal
    cases equal
    have first : index ∈ before.freeSlots := waiting ▸ List.mem_cons_self
    have startedFirst := chronicled.started index first _ found
    refine ⟨before.usedUp_reused index generation rest size found startedFirst, ?_⟩
    intro later ready slot slotFound
    have distinct := sound.ready
    rw [waiting, List.nodup_cons] at distinct
    have different : index ≠ later := fun same => distinct.1 (same ▸ ready)
    have kept : before.slots[later.toNat]? = some slot :=
      (Array.getElem?_setIfInBounds_ne (mt UInt32.toNat_inj.mp different)).symm.trans slotFound
    exact chronicled.started later (waiting ▸ List.mem_cons_of_mem _ ready) slot kept
  · rw [granted] at equal
    cases equal
    refine ⟨before.usedUp_added size room, ?_⟩
    intro index ready
    have none : index ∈ before.freeSlots := ready
    rw [waiting] at none
    cases none

theorem allocate (chronicled : Chronicled history before) (memory : Memory) (size : Nat)
    (handle : Handle) (events : List Event)
    (granted : before.allocate memory size = .done (.ok handle) after events) :
    Chronicled (.lent ⟨handle, size⟩ :: history) after := by
  obtain ⟨sound, handed, usedUp, started⟩ := chronicled.handsOut memory size handle events granted
  exact chronicled.lend sound handed usedUp started

theorem without (chronicled : Chronicled history before) (handle : Handle) (size : Nat)
    (words : Array Word) (found : before.blockOf? handle = some words)
    (sized : words.size = size) :
    Chronicled (.returned ⟨handle, size⟩ :: history) (before.without handle size) where
  accounted := ⟨chronicled.accounted, (chronicled.lent handle size).mpr ⟨words, found, sized⟩⟩
  sound := chronicled.sound.without handle size words found sized
  lent other count := by
    simp only [blockOf?_without handle size words found]
    by_cases same : handle = other
    · subst same
      rw [History.latest?_returned_self _ ⟨handle, size⟩]
      simp
    · rw [History.latest?_returned_other _ _ _ same, chronicled.lent]
      simp only [Ne, Ne.symm same, not_false_eq_true, true_and]
  returned other := by
    rw [usedUp_without before handle size words found]
    by_cases same : handle = other
    · subst same
      rw [History.latest?_returned_self _ ⟨handle, size⟩]
      simp
    · rw [History.latest?_returned_other _ _ _ same, chronicled.returned,
        or_iff_right (Ne.symm same)]
  started := by
    intro index ready slot slotFound
    obtain ⟨inside, _⟩ :=
      Array.getElem?_eq_some_iff.mp ((blockOf?_eq_some_iff _ _ _).mp found).2
    by_cases same : handle.chunk = index
    · subst same
      have emptied : some ⟨handle.epoch + 1, none⟩ = some slot :=
        (Array.getElem?_setIfInBounds_self_of_lt inside).symm.trans slotFound
      cases emptied
      intro exhausted
      have recycled : handle.chunk ∈ before.recycled handle := ready
      rw [SystemAllocator.recycled, if_pos exhausted] at recycled
      exact chronicled.sound.not_ready handle words found recycled
    · have kept : before.slots[index.toNat]? = some slot :=
        (Array.getElem?_setIfInBounds_ne (mt UInt32.toNat_inj.mp same)).symm.trans slotFound
      have recycled : index ∈ before.recycled handle := ready
      refine chronicled.started index ?_ slot kept
      unfold SystemAllocator.recycled at recycled
      split at recycled
      · exact recycled
      · exact (List.mem_cons.mp recycled).resolve_left (Ne.symm same)

theorem store (chronicled : Chronicled history before) (handle : Handle) (size : Nat)
    (patch : Patch) (overwrites : before.store? handle size patch = some after) :
    Chronicled history after where
  accounted := chronicled.accounted
  sound := chronicled.sound.store overwrites
  lent other count := by
    rw [chronicled.lent]
    simp only [blockOf?_store overwrites]
    by_cases same : other = handle
    · subst same
      simp [size_patchRange]
    · simp only [if_neg same]
  returned other := by
    rw [usedUp_store before handle size patch after overwrites, chronicled.returned]
  started := by
    obtain ⟨words, found, _, rfl⟩ := store?_eq_some_iff.mp overwrites
    intro index ready slot slotFound
    have different : handle.chunk ≠ index :=
      fun same => chronicled.sound.not_ready handle words found (same ▸ ready)
    exact chronicled.started index ready slot
      ((Array.getElem?_setIfInBounds_ne (mt UInt32.toNat_inj.mp different)).symm.trans slotFound)

end Chronicled

/-- A release that is done took a block back at its size. -/
theorem deallocate_eq_done {allocator next : SystemAllocator} {loans : List Block}
    (sound : Sound allocator loans) (handle : Handle) (size : Nat) (events : List Event)
    (done : allocator.deallocate handle size = .done () next events) :
    ∃ words, allocator.blockOf? handle = some words ∧ words.size = size ∧
      next = allocator.without handle size := by
  rw [deallocate] at done
  cases found : allocator.blockOf? handle with
  | none =>
    rw [release, found] at done
    cases done
  | some words =>
    rw [sound.release handle words found] at done
    by_cases sized : words.size = size
    · simp only [Step.andThen, if_pos sized] at done
      cases done
      exact ⟨words, rfl, sized, by rw [sized]⟩
    · simp only [Step.andThen, if_neg sized] at done
      cases done

theorem chronicled_of_run {history : History} {allocator : SystemAllocator}
    (run : Run history allocator) : Chronicled history allocator := by
  induction run with
  | start => exact chronicled_empty
  | lent history before after memory size handle events run granted inductionHypothesis =>
    exact inductionHypothesis.allocate memory size handle events granted
  | declined history before after memory size cause events run refused inductionHypothesis =>
    rwa [(before.allocate_refused after size cause events memory refused).1]
  | returned history before after handle size events run granted inductionHypothesis =>
    rcases inductionHypothesis.sound.tryDeallocate handle size with ⟨cause, equal⟩ |
      ⟨words, found, sized, equal⟩
    · rw [equal] at granted
      cases granted
    · rw [equal] at granted
      cases granted
      exact inductionHypothesis.without handle size words found sized
  | rejected history before after handle size cause events run refused inductionHypothesis =>
    rwa [(before.tryDeallocate_refused after size cause events handle refused).1]
  | released history before after handle size events run done inductionHypothesis =>
    obtain ⟨words, found, sized, rfl⟩ :=
      deallocate_eq_done inductionHypothesis.sound handle size events done
    exact inductionHypothesis.without handle size words found sized
  | written history before after handle size patch run stored inductionHypothesis =>
    exact inductionHypothesis.store handle size patch stored

/-! ### The verdict -/

/-- No slot ran out of generations. A slot starts with a block, so it is empty in its first
generation only after its last one. -/
def Unretired (allocator : SystemAllocator) : Prop :=
  ∀ slot ∈ allocator.slots, slot ≠ ⟨0, none⟩

section Verdict

variable {history : History} {allocator : SystemAllocator}

/-- What the check of a release of some words says, and what it found in the slots. -/
theorem checkRelease_cases (allocator : SystemAllocator) (handle : Handle) (size : Nat)
    (words : size ≠ 0) :
    (∃ block, allocator.blockOf? handle = some block ∧
      allocator.checkRelease handle size =
        if block.size = size then .ok () else .error (.sizeMismatch handle block.size size)) ∨
    (allocator.blockOf? handle = none ∧ handle.offset = 0 ∧
      (∃ slot, allocator.slots[handle.chunk.toNat]? = some slot ∧
        ¬ slot.generation < handle.epoch) ∧
      allocator.checkRelease handle size = .error (.doubleFree handle)) ∨
    ((∀ slot, allocator.slots[handle.chunk.toNat]? = some slot →
        handle.offset ≠ 0 ∨ slot.generation < handle.epoch) ∧
      allocator.checkRelease handle size = .error (.foreignHandle handle)) := by
  rw [checkRelease, if_neg words]
  cases found : allocator.slots[handle.chunk.toNat]? with
  | none => exact Or.inr (Or.inr ⟨nofun, rfl⟩)
  | some slot =>
    by_cases beyond : handle.offset ≠ 0 ∨ slot.generation < handle.epoch
    · refine Or.inr (Or.inr ⟨fun other same => ?_, if_pos beyond⟩)
      rwa [← Option.some_inj.mp same]
    · obtain ⟨offset, reached⟩ := not_or.mp beyond
      simp only [if_neg beyond]
      cases allocator.blockOf? handle with
      | none => exact Or.inr (Or.inl ⟨rfl, not_not.mp offset, ⟨slot, rfl, reached⟩, rfl⟩)
      | some block => exact Or.inl ⟨block, rfl, rfl⟩

namespace Chronicled

/-- Nothing happened to a handle that has no block and is not used up. -/
theorem latest?_eq_none (chronicled : Chronicled history allocator) (handle : Handle)
    (unheld : allocator.blockOf? handle = none) (unused : ¬ allocator.UsedUp handle) :
    history.latest? handle = none := by
  rcases history.verdict_cases handle 0 with ⟨size, lent, _⟩ | ⟨size, returned, _⟩ | ⟨none, _⟩
  · obtain ⟨words, found, _⟩ := (chronicled.lent handle size).mp lent
    rw [unheld] at found
    cases found
  · exact absurd ((chronicled.returned handle).mp ⟨size, returned⟩) unused
  · exact none

/-- Without retired slots, a handle is used up exactly when its slot left its epoch. -/
theorem usedUp_iff (unretired : allocator.Unretired) (handle : Handle) :
    allocator.UsedUp handle ↔ handle.offset = 0 ∧
      ∃ slot, allocator.slots[handle.chunk.toNat]? = some slot ∧
        handle.epoch < slot.generation := by
  refine and_congr_right fun _ => exists_congr fun slot => and_congr_right fun found => ?_
  exact or_iff_left (unretired slot (Array.mem_of_getElem? found))

/-- The handle of the block that an empty slot is lent for next is upcoming. -/
theorem upcoming_of_vacant (chronicled : Chronicled history allocator)
    (unretired : allocator.Unretired) (handle : Handle) (offset : handle.offset = 0)
    (vacant : allocator.slots[handle.chunk.toNat]? = some ⟨handle.epoch, none⟩) :
    history.Upcoming handle := by
  have unheld : allocator.blockOf? handle = none := by
    refine Option.eq_none_iff_forall_ne_some.mpr fun words found => ?_
    have slot := ((blockOf?_eq_some_iff _ _ _).mp found).2
    rw [vacant] at slot
    cases slot
  have unused : ¬ allocator.UsedUp handle := by
    rw [usedUp_iff unretired]
    rintro ⟨_, slot, found, left⟩
    rw [vacant, Option.some_inj] at found
    subst found
    exact UInt32.lt_irrefl _ left
  have started : handle.epoch ≠ 0 := by
    intro first
    rw [first] at vacant
    exact unretired _ (Array.mem_of_getElem? vacant) rfl
  have decreases : handle.epoch - 1 < handle.epoch := by
    rw [UInt32.lt_iff_toNat_lt, UInt32.toNat_sub, UInt32.toNat_one]
    have bound := handle.epoch.toNat_lt
    have positive : 0 < handle.epoch.toNat :=
      Nat.pos_of_ne_zero fun zero => started (UInt32.toNat_inj.mp zero)
    omega
  have usedBefore : allocator.UsedUp { handle with epoch := handle.epoch - 1 } :=
    (usedUp_iff unretired _).mpr ⟨offset, _, vacant, decreases⟩
  obtain ⟨size, returned⟩ := (chronicled.returned _).mpr usedBefore
  refine ⟨(History.latest?_eq_none_iff history chronicled.accounted handle).mp
    (chronicled.latest?_eq_none handle unheld unused), _, size, returned, ?_⟩
  rw [UInt32.sub_add_cancel]

/-- The slot of an upcoming handle reached its epoch. -/
theorem reached_of_upcoming (chronicled : Chronicled history allocator)
    (unretired : allocator.Unretired) (handle : Handle) (upcoming : history.Upcoming handle) :
    handle.offset = 0 ∧ ∃ slot, allocator.slots[handle.chunk.toNat]? = some slot ∧
      ¬ slot.generation < handle.epoch := by
  obtain ⟨_, earlier, size, returned, rfl⟩ := upcoming
  obtain ⟨offset, slot, found, left⟩ :=
    (usedUp_iff unretired earlier).mp ((chronicled.returned earlier).mp ⟨size, returned⟩)
  refine ⟨offset, slot, found, ?_⟩
  rw [UInt32.lt_iff_toNat_lt] at left ⊢
  rw [UInt32.toNat_add, UInt32.toNat_one]
  omega

/-- The check gives the verdict of the history, except that it takes an upcoming handle for one
that came back. -/
theorem checkRelease_eq (chronicled : Chronicled history allocator)
    (unretired : allocator.Unretired) (handle : Handle) (size : Nat) (words : size ≠ 0) :
    (history.Upcoming handle ∧
      allocator.checkRelease handle size = .error (.doubleFree handle)) ∨
    (¬ history.Upcoming handle ∧
      allocator.checkRelease handle size = history.verdict handle size) := by
  have notUpcoming : history.latest? handle ≠ none → ¬ history.Upcoming handle :=
    fun named upcoming => named
      ((History.latest?_eq_none_iff history chronicled.accounted handle).mpr upcoming.1)
  rcases allocator.checkRelease_cases handle size words with ⟨block, found, check⟩ |
    ⟨unheld, offset, ⟨⟨generation, content⟩, found, reached⟩, check⟩ | ⟨beyond, check⟩
  · have lent := (chronicled.lent handle block.size).mpr ⟨block, found, rfl⟩
    refine Or.inr ⟨notUpcoming (by rw [lent]; nofun), ?_⟩
    rw [check, History.verdict, lent]
  · by_cases left : handle.epoch < generation
    · have used := (usedUp_iff unretired handle).mpr ⟨offset, _, found, left⟩
      obtain ⟨issued, returned⟩ := (chronicled.returned handle).mpr used
      refine Or.inr ⟨notUpcoming (by rw [returned]; nofun), ?_⟩
      rw [check, History.verdict, returned]
    · have current : generation = handle.epoch :=
        UInt32.le_antisymm (UInt32.not_lt.mp left) (UInt32.not_lt.mp reached)
      subst current
      cases content with
      | none => exact Or.inl ⟨chronicled.upcoming_of_vacant unretired handle offset found, check⟩
      | some words =>
        rw [(blockOf?_eq_some_iff _ _ _).mpr ⟨offset, found⟩] at unheld
        cases unheld
  · have unheld : allocator.blockOf? handle = none := by
      refine Option.eq_none_iff_forall_ne_some.mpr fun words held => ?_
      obtain ⟨offset, found⟩ := (blockOf?_eq_some_iff _ _ _).mp held
      exact (beyond _ found).elim (fun inside => inside offset) (UInt32.lt_irrefl _)
    have unused : ¬ allocator.UsedUp handle := by
      rw [usedUp_iff unretired]
      rintro ⟨offset, slot, found, left⟩
      exact (beyond slot found).elim (fun inside => inside offset) (UInt32.lt_asymm left)
    refine Or.inr ⟨fun upcoming => ?_, ?_⟩
    · obtain ⟨offset, slot, found, reached⟩ :=
        chronicled.reached_of_upcoming unretired handle upcoming
      exact (beyond slot found).elim (fun inside => inside offset) reached
    · rw [check, History.verdict, chronicled.latest?_eq_none handle unheld unused]

end Chronicled

end Verdict

/-! ### The whole check -/

/-- A release is refused for what the check says, and then nothing changed. -/
theorem tryDeallocate_refused_iff (allocator : SystemAllocator) (handle : Handle) (size : Nat)
    (cause : Refusal) :
    allocator.tryDeallocate handle size = .refused cause allocator ↔
      allocator.checkRelease handle size = .error cause := by
  unfold tryDeallocate
  cases allocator.checkRelease handle size with
  | error other => simp
  | ok _ =>
    refine ⟨fun equal => ?_, nofun⟩
    obtain ⟨_, _, mismatch⟩ := (Step.mapAnswer_eq_done_iff _ _ _ _ _).mp equal
    cases mismatch

/-- A release that passes the check is carried out. -/
theorem Sound.tryDeallocate_accepted_iff {allocator : SystemAllocator} {loans : List Block}
    (sound : Sound allocator loans) (handle : Handle) (size : Nat) :
    (∃ next events, allocator.tryDeallocate handle size = .done (.ok ()) next events) ↔
      allocator.checkRelease handle size = .ok () := by
  rcases sound.tryDeallocate handle size with ⟨cause, refused⟩ | ⟨words, _, _, granted⟩
  · have check := (tryDeallocate_refused_iff allocator handle size cause).mp refused
    rw [refused, check]
    exact ⟨fun ⟨_, _, mismatch⟩ => (nomatch mismatch), nofun⟩
  · refine ⟨fun _ => ?_, fun _ => ⟨_, _, granted⟩⟩
    cases check : allocator.checkRelease handle size with
    | ok _ => rfl
    | error cause =>
      rw [(tryDeallocate_refused_iff allocator handle size cause).mpr check] at granted
      cases granted

/-- What a checked release of some words answers is told by the history, as long as no slot ran
out of generations: it is accepted for a block on loan at its size, refused as of a wrong size
for a block on loan at another size, refused as a second release for a handle that came back,
and refused as foreign for a handle that was never lent. The exception is the upcoming handle
of a place, which was never lent and is refused as a second release. No refusal changes
anything. -/
theorem release_told_by_history (history : History) (allocator : SystemAllocator)
    (run : Run history allocator) (unretired : allocator.Unretired) (handle : Handle) (size : Nat)
    (words : size ≠ 0) :
    ((∃ next events, allocator.tryDeallocate handle size = .done (.ok ()) next events) ↔
      history.latest? handle = some (.lent ⟨handle, size⟩)) ∧
    (∀ issued, allocator.tryDeallocate handle size =
        .refused (.sizeMismatch handle issued size) allocator ↔
      issued ≠ size ∧ history.latest? handle = some (.lent ⟨handle, issued⟩)) ∧
    (allocator.tryDeallocate handle size = .refused (.doubleFree handle) allocator ↔
      (∃ issued, history.latest? handle = some (.returned ⟨handle, issued⟩)) ∨
        history.Upcoming handle) ∧
    (allocator.tryDeallocate handle size = .refused (.foreignHandle handle) allocator ↔
      ¬ history.Issued handle ∧ ¬ history.Upcoming handle) ∧
    ∀ cause next events,
      allocator.tryDeallocate handle size = .done (.error cause) next events →
        next = allocator ∧ events = [] := by
  have chronicled := chronicled_of_run run
  have unlent := History.latest?_eq_none_iff history chronicled.accounted handle
  simp only [tryDeallocate_refused_iff, chronicled.sound.tryDeallocate_accepted_iff, ← and_assoc]
  refine ⟨?_, fun cause next events refused => ?_⟩
  · rcases chronicled.checkRelease_eq unretired handle size words with ⟨upcoming, check⟩ |
      ⟨notUpcoming, check⟩
    · simp [check, unlent.mpr upcoming.1, upcoming]
    · simp only [check, notUpcoming, History.verdict_ok_iff, History.verdict_sizeMismatch_iff,
        History.verdict_doubleFree_iff, History.verdict_foreignHandle_iff, ← unlent, or_false,
        not_false_eq_true, and_true, implies_true]
  · rcases chronicled.sound.tryDeallocate handle size with ⟨other, equal⟩ | ⟨_, _, _, equal⟩
    · rw [equal] at refused
      cases refused
      exact ⟨rfl, rfl⟩
    · rw [equal] at refused
      cases refused

/-- A slot that was lent, came back and is lent again at another size: the four verdicts. -/
theorem release_told_after_reuse :
    ∃ (history : History) (allocator : SystemAllocator), Run history allocator ∧
      allocator.Unretired ∧
      history = [.lent ⟨⟨0, 0, 1⟩, 2⟩, .returned ⟨⟨0, 0, 0⟩, 4⟩, .lent ⟨⟨0, 0, 0⟩, 4⟩] ∧
      (∃ next events, allocator.tryDeallocate ⟨0, 0, 1⟩ 2 = .done (.ok ()) next events) ∧
      allocator.tryDeallocate ⟨0, 0, 1⟩ 4 = .refused (.sizeMismatch ⟨0, 0, 1⟩ 2 4) allocator ∧
      allocator.tryDeallocate ⟨0, 0, 0⟩ 4 = .refused (.doubleFree ⟨0, 0, 0⟩) allocator ∧
      allocator.tryDeallocate ⟨1, 0, 0⟩ 4 = .refused (.foreignHandle ⟨1, 0, 0⟩) allocator := by
  have lent : Run [.lent ⟨⟨0, 0, 0⟩, 4⟩] ⟨#[⟨0, some #[0, 0, 0, 0]⟩], [], 1, 4⟩ :=
    .lent _ _ _ .addressable 4 _ _ .start rfl
  have returned : Run _ ⟨#[⟨1, none⟩], [0], 0, 0⟩ := .returned _ _ _ ⟨0, 0, 0⟩ 4 _ lent rfl
  have again : Run [.lent ⟨⟨0, 0, 1⟩, 2⟩, .returned ⟨⟨0, 0, 0⟩, 4⟩, .lent ⟨⟨0, 0, 0⟩, 4⟩]
      ⟨#[⟨1, some #[0, 0]⟩], [], 1, 2⟩ := .lent _ _ _ .addressable 2 _ _ returned rfl
  have unretired : Unretired ⟨#[⟨1, some #[0, 0]⟩], [], 1, 2⟩ := by simp [Unretired]
  have unissued : ¬ History.Issued [.lent ⟨⟨0, 0, 1⟩, 2⟩, .returned ⟨⟨0, 0, 0⟩, 4⟩,
      .lent ⟨⟨0, 0, 0⟩, 4⟩] ⟨1, 0, 0⟩ := by
    simp [History.Issued, History.current]
  have told := release_told_by_history _ _ again unretired
  refine ⟨_, _, again, unretired, rfl, (told ⟨0, 0, 1⟩ 2 (by decide)).1.mpr rfl,
    ((told ⟨0, 0, 1⟩ 4 (by decide)).2.1 2).mpr ⟨by decide, rfl⟩,
    (told ⟨0, 0, 0⟩ 4 (by decide)).2.2.1.mpr (.inl ⟨4, rfl⟩),
    (told ⟨1, 0, 0⟩ 4 (by decide)).2.2.2.1.mpr ⟨unissued, fun upcoming => ?_⟩⟩
  obtain ⟨_, _, found, _⟩ := (chronicled_of_run again).reached_of_upcoming unretired _ upcoming
  cases found

/-- A block of four words came back, and the handle that its slot is lent under next is refused
as of a second release, although it was never lent. -/
theorem upcoming_refused_as_returned :
    ∃ (history : History) (allocator : SystemAllocator), Run history allocator ∧
      allocator.Unretired ∧ ¬ history.Issued ⟨0, 0, 1⟩ ∧
      allocator.tryDeallocate ⟨0, 0, 1⟩ 4 = .refused (.doubleFree ⟨0, 0, 1⟩) allocator := by
  have lent : Run [.lent ⟨⟨0, 0, 0⟩, 4⟩] ⟨#[⟨0, some #[0, 0, 0, 0]⟩], [], 1, 4⟩ :=
    .lent _ _ _ .addressable 4 _ _ .start rfl
  have returned : Run [.returned ⟨⟨0, 0, 0⟩, 4⟩, .lent ⟨⟨0, 0, 0⟩, 4⟩] ⟨#[⟨1, none⟩], [0], 0, 0⟩ :=
    .returned _ _ _ ⟨0, 0, 0⟩ 4 _ lent rfl
  exact ⟨_, _, returned, by simp [Unretired], by simp [History.Issued, History.current], rfl⟩

end SystemAllocator

end Allotment
