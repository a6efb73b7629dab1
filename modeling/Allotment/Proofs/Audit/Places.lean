/-
The places that a leak checker knows around a system allocator. A checker notes one released
handle for each place, and strikes the note out when the place is lent again. Around an
allocator with slots this keeps the notes few: each slot is the place of one block on loan or
of one note, and no slot is both.

A slot that is lent again was empty, so it had a note, and that one is struck out; a new slot
had none. The other way round, a block on loan that comes back leaves its place to a note. So
only new slots add to the notes and the loans together, and there are as many slots as there
ever were blocks on loan at the same time.
-/

import Allotment.Proofs.Audit.Record
import Allotment.Proofs.System.SlotTable

namespace Allotment

/-! ### Places -/

namespace Handle

/-- Where the words of a handle begin: the number of the chunk or slot, and the offset in it. -/
def location (handle : Handle) : Nat × Nat :=
  (handle.chunk.toNat, handle.offset.toNat)

theorem samePlace_iff (first second : Handle) :
    first.SamePlace second ↔ first.location = second.location := by
  simp only [SamePlace, location, Prod.mk.injEq, UInt32.toNat_inj]

end Handle

/-- The places of a number of slots. -/
def slotLocations (count : Nat) : List (Nat × Nat) :=
  (List.range count).map fun index => (index, 0)

theorem mem_slotLocations (count index : Nat) :
    (index, 0) ∈ slotLocations count ↔ index < count := by
  simp [slotLocations]

theorem nodup_slotLocations (count : Nat) : (slotLocations count).Nodup :=
  List.nodup_range.map fun _ _ same => (Prod.mk.inj same).1

/-- One more slot has the next number. -/
theorem slotLocations_succ (count : Nat) :
    (slotLocations (count + 1)).Perm ((count, 0) :: slotLocations count) := by
  rw [slotLocations, List.range_succ, List.map_append]
  exact List.perm_append_singleton _ _

namespace LeakChecker

/-- Where no two notes are of one place, clearing a place takes its note away. -/
theorem map_location_clearPlace (released : List Handle) (place : Handle)
    (distinct : (released.map Handle.location).Nodup) :
    (clearPlace released place).map Handle.location =
      (released.map Handle.location).erase place.location := by
  rw [distinct.erase_eq_filter, List.filter_map, clearPlace]
  refine congrArg (List.map Handle.location) (List.filter_congr fun other _ => ?_)
  rw [Bool.eq_iff_iff, decide_eq_true_iff, Handle.samePlace_iff]
  exact bne_iff_ne.symm

/-! ### Slots -/

/-- The checker and the allocator inside lend the same blocks, and every slot is the place of one
of them or of one note. -/
structure Covers (history : History) (checker : LeakChecker SystemAllocator) : Prop where
  lends : Lends checker history.loans
  locations : (history.loans.map (·.handle.location) ++
    checker.released.map Handle.location).Perm (slotLocations checker.inner.slots.size)

namespace Covers

variable {history : History} {before after : LeakChecker SystemAllocator}

theorem sound (covers : Covers history before) : before.inner.Sound history.loans :=
  covers.lends.1

theorem nodup (covers : Covers history before) :
    (history.loans.map (·.handle.location) ++ before.released.map Handle.location).Nodup :=
  covers.locations.nodup_iff.mpr (nodup_slotLocations _)

theorem around : Covers [] (around .empty) where
  lends := lends_around _ SystemAllocator.sound_empty
  locations := .nil

/-- An empty slot is the place of a note. -/
theorem mem_released (covers : Covers history before) (index generation : UInt32)
    (found : before.inner.slots[index.toNat]? = some ⟨generation, none⟩) :
    (index.toNat, 0) ∈ before.released.map Handle.location := by
  obtain ⟨inside, _⟩ := Array.getElem?_eq_some_iff.mp found
  have known := covers.locations.mem_iff.mpr ((mem_slotLocations _ _).mpr inside)
  refine (List.mem_append.mp known).resolve_left fun lent => ?_
  obtain ⟨block, onLoan, same⟩ := List.mem_map.mp lent
  obtain ⟨words, held, _⟩ := (covers.sound.held block).mp onLoan
  have filled := ((SystemAllocator.blockOf?_eq_some_iff _ _ _).mp held).2
  rw [(Prod.mk.inj same).1, found] at filled
  cases filled

/-- The note of a slot that is lent again is struck out; a new slot has none. -/
theorem allocate (covers : Covers history before) (memory : Memory) (size : Nat)
    (handle : Handle) (events : List Event)
    (granted : before.allocate memory size = .done (.ok handle) after events) :
    Covers (.lent ⟨handle, size⟩ :: history) after := by
  have lends : Lends after (⟨handle, size⟩ :: history.loans) :=
    (Lender.lent memory before after size handle events _ covers.lends trivial granted).1
  refine ⟨lends, ?_⟩
  obtain ⟨inner, logged, found, rfl⟩ := allocate_ok memory before after size handle events granted
  have passedOn : before.inner.allocate memory size = .done (.ok handle) inner logged := found
  show ((handle.location :: history.loans.map (·.handle.location)) ++
    (clearPlace before.released handle).map Handle.location).Perm _
  rw [map_location_clearPlace _ _ covers.nodup.of_append_right]
  rcases covers.sound.allocate_cases memory size with ⟨cause, refused⟩ |
    ⟨index, rest, generation, waiting, empty, reuses⟩ | ⟨waiting, room, adds⟩
  · cases refused.symm.trans passedOn
  · cases reuses.symm.trans passedOn
    have noted := covers.mem_released index generation empty
    have sameSlots : (before.inner.reused index generation rest size).slots.size =
        before.inner.slots.size := Array.size_setIfInBounds
    show List.Perm _ (slotLocations (before.inner.reused index generation rest size).slots.size)
    rw [sameSlots]
    refine (List.perm_middle.symm.trans ?_).trans covers.locations
    exact (List.perm_cons_erase noted).symm.append_left _
  · cases adds.symm.trans passedOn
    have number : (Handle.mk before.inner.slots.size.toUInt32 0 0).location =
        (before.inner.slots.size, 0) :=
      Prod.ext (UInt32.toNat_ofNat_of_lt' (Nat.lt_succ_of_le (Nat.le_of_not_lt room))) rfl
    have unknown : (before.inner.slots.size, 0) ∉ before.released.map Handle.location := by
      intro noted
      have known := covers.locations.mem_iff.mp (List.mem_append_right _ noted)
      exact Nat.lt_irrefl _ ((mem_slotLocations _ _).mp known)
    have oneMore : (before.inner.added size).slots.size = before.inner.slots.size + 1 :=
      Array.size_push _
    show List.Perm _ (slotLocations (before.inner.added size).slots.size)
    rw [number, List.erase_of_not_mem unknown, oneMore]
    exact (covers.locations.cons _).trans (slotLocations_succ _).symm

/-- A block that comes back leaves its place to a note. -/
theorem tryDeallocate (covers : Covers history before) (handle : Handle) (size : Nat)
    (events : List Event)
    (granted : before.tryDeallocate handle size = .done (.ok ()) after events) :
    Covers (.returned ⟨handle, size⟩ :: history) after := by
  obtain ⟨onLoan, lends, _⟩ : _ ∧ Lends after (history.loans.erase ⟨handle, size⟩) ∧ _ :=
    Lender.returned before after handle size events _ covers.lends trivial granted
  refine ⟨lends, ?_⟩
  obtain ⟨_, inner, found, rfl⟩ := tryDeallocate_ok before after handle size events granted
  have passedOn : before.inner.tryDeallocate handle size = .done (.ok ()) inner events := found
  have lent : handle.location ∈ history.loans.map (·.handle.location) :=
    List.mem_map_of_mem (f := (·.handle.location)) onLoan
  have unnoted : handle.location ∉ before.released.map Handle.location :=
    fun noted => (List.nodup_append.mp covers.nodup).2.2 _ lent _ noted rfl
  show ((history.loans.erase ⟨handle, size⟩).map (·.handle.location) ++
    handle.location :: (clearPlace before.released handle).map Handle.location).Perm _
  rw [map_location_clearPlace _ _ covers.nodup.of_append_right, List.erase_of_not_mem unnoted]
  rcases covers.sound.tryDeallocate handle size with ⟨cause, refused⟩ | ⟨words, _, _, accepted⟩
  · cases refused.symm.trans passedOn
  · cases accepted.symm.trans passedOn
    have sameSlots : (before.inner.without handle size).slots.size = before.inner.slots.size :=
      Array.size_setIfInBounds
    show List.Perm _ (slotLocations (before.inner.without handle size).slots.size)
    rw [sameSlots]
    refine (List.perm_middle.trans ?_).trans covers.locations
    exact ((List.perm_cons_erase onLoan).symm.map (·.handle.location)).append_right _

end Covers

/-! ### Runs -/

section Run

variable {history : History} {checker : LeakChecker SystemAllocator}

theorem covers_of_watched (run : Watched SystemAllocator.empty history checker) :
    Covers history checker := by
  induction run with
  | start => exact .around
  | lent history before after memory size handle events run granted inductionHypothesis =>
    exact inductionHypothesis.allocate memory size handle events granted
  | declined history before after memory size cause events run refused inductionHypothesis =>
    have same : after = before :=
      Lender.declined memory before after size cause events _ inductionHypothesis.lends refused
    exact same ▸ inductionHypothesis
  | returned history before after handle size events run granted inductionHypothesis =>
    exact inductionHypothesis.tryDeallocate handle size events granted
  | rejected history before after handle size cause events run refused inductionHypothesis =>
    have same : after = before :=
      Lender.rejected before after handle size cause events _ inductionHypothesis.lends refused
    exact same ▸ inductionHypothesis

/-- The allocator inside is in a run of its own. -/
theorem run_of_watched (run : Watched SystemAllocator.empty history checker) :
    SystemAllocator.Run history checker.inner := by
  induction run with
  | start => exact .start
  | lent history before after memory size handle events run granted inductionHypothesis =>
    obtain ⟨inner, logged, found, rfl⟩ :=
      allocate_ok memory before after size handle events granted
    exact inductionHypothesis.lent _ _ inner memory size handle logged found
  | declined history before after memory size cause events run refused inductionHypothesis =>
    obtain ⟨inner, found, rfl⟩ := allocate_error memory before after size cause events refused
    exact inductionHypothesis.declined _ _ inner memory size cause events found
  | returned history before after handle size events run granted inductionHypothesis =>
    obtain ⟨_, inner, found, rfl⟩ := tryDeallocate_ok before after handle size events granted
    exact inductionHypothesis.returned _ _ inner handle size events found
  | rejected history before after handle size cause events run refused inductionHypothesis =>
    rcases tryDeallocate_error before after handle size cause events refused with
      rfl | ⟨inner, found, rfl⟩
    · exact inductionHypothesis
    · exact inductionHypothesis.rejected _ _ inner handle size cause events found

end Run

/-- Around a system allocator, after every run of calls with whatever arguments: each slot is the
place of exactly one block on record or of exactly one note of a release, and there are no other
places. So the notes and the blocks on record are as many as the slots. Unless a slot ran out of
generations, these are as many as there ever were blocks on record at the same time. -/
theorem each_slot_known_once (history : History) (checker : LeakChecker SystemAllocator)
    (run : Watched SystemAllocator.empty history checker) :
    (checker.loans.map (·.block.handle.location) ++
      checker.released.map Handle.location).Perm (slotLocations checker.inner.slots.size) ∧
    checker.released.length + checker.outstanding = checker.inner.slots.size ∧
    checker.outstanding = history.loans.length ∧
    (checker.inner.Unretired → checker.inner.slots.size = history.peak) := by
  have covers := covers_of_watched run
  have listed := covers.lends.2
  have record : (checker.loans.map (·.block.handle.location)).Perm
      (history.loans.map (·.handle.location)) := by
    have same := listed.perm.map (·.handle.location)
    rwa [List.map_map] at same
  have places := (record.append_right _).trans covers.locations
  refine ⟨places, ?_, listed.length,
    fun unretired => (SystemAllocator.tallied_of_run (run_of_watched run) unretired).peak⟩
  have count := places.length_eq
  rw [List.length_append, List.length_map, List.length_map, slotLocations, List.length_map,
    List.length_range] at count
  rw [outstanding, Nat.add_comm]
  exact count

/-- Two blocks come back, and one of their slots is lent again: of the two notes the other one is
left. -/
theorem slot_known_once_after_reuse :
    ∃ (history : History) (checker : LeakChecker SystemAllocator),
      Watched SystemAllocator.empty history checker ∧ checker.inner.Unretired ∧
        checker.released = [⟨0, 0, 0⟩] ∧ checker.outstanding = 1 ∧
        checker.released.length + checker.outstanding = checker.inner.slots.size ∧
        checker.inner.slots.size = history.peak ∧ history.peak = 2 := by
  have first : Watched SystemAllocator.empty _
      ⟨⟨#[⟨0, some #[0, 0, 0, 0]⟩], [], 1, 4⟩, [⟨⟨⟨0, 0, 0⟩, 4⟩, 0⟩], [], 1⟩ :=
    .lent _ _ _ .addressable 4 ⟨0, 0, 0⟩ _ .start rfl
  have second : Watched SystemAllocator.empty _
      ⟨⟨#[⟨0, some #[0, 0, 0, 0]⟩, ⟨0, some #[0, 0]⟩], [], 2, 6⟩,
        [⟨⟨⟨0, 0, 0⟩, 4⟩, 0⟩, ⟨⟨⟨1, 0, 0⟩, 2⟩, 1⟩], [], 2⟩ :=
    .lent _ _ _ .addressable 2 ⟨1, 0, 0⟩ _ first rfl
  have returned : Watched SystemAllocator.empty _
      ⟨⟨#[⟨1, none⟩, ⟨0, some #[0, 0]⟩], [0], 1, 2⟩, [⟨⟨⟨1, 0, 0⟩, 2⟩, 1⟩], [⟨0, 0, 0⟩], 2⟩ :=
    .returned _ _ _ ⟨0, 0, 0⟩ 4 _ second rfl
  have emptied : Watched SystemAllocator.empty _
      ⟨⟨#[⟨1, none⟩, ⟨1, none⟩], [1, 0], 0, 0⟩, [], [⟨1, 0, 0⟩, ⟨0, 0, 0⟩], 2⟩ :=
    .returned _ _ _ ⟨1, 0, 0⟩ 2 _ returned rfl
  have again : Watched SystemAllocator.empty _
      ⟨⟨#[⟨1, none⟩, ⟨1, some #[0, 0, 0]⟩], [0], 1, 3⟩, [⟨⟨⟨1, 0, 1⟩, 3⟩, 2⟩], [⟨0, 0, 0⟩], 3⟩ :=
    .lent _ _ _ .addressable 3 ⟨1, 0, 1⟩ _ emptied rfl
  have unretired : SystemAllocator.Unretired
      ⟨#[⟨1, none⟩, ⟨1, some #[0, 0, 0]⟩], [0], 1, 3⟩ := by
    simp [SystemAllocator.Unretired]
  obtain ⟨_, all, _, peak⟩ := each_slot_known_once _ _ again
  exact ⟨_, _, again, unretired, rfl, rfl, all, peak unretired, rfl⟩

end LeakChecker

end Allotment
