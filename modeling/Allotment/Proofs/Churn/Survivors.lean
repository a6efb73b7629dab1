/-
All replays of a trace agree. Each of them is the replay of a drive that keeps to the laws,
and while there is memory, and a number for one more place, none of the drives refuses a
loan. So each replay comes to its end, is left with what the trace lent and did not
release, and gives all of that back.

Where the numbers run out, the replays part: the arena issues a handle a second time and
cannot take all blocks back, and the system allocator refuses the loan.
-/

import Allotment.Proofs.Churn.ItemStores
import Allotment.Proofs.Churn.WordStores
import Allotment.Proofs.Segregated.Crowding

namespace Allotment

namespace Churn

/-- Whenever the trace asks for a loan, the allocator that its replay has come to has room for
one more. -/
def RoomThroughout {σ : Type} [Allocator σ] (HasRoom : σ → Prop) (memory : Memory)
    (trace : List Op) (allocator : σ) : Prop :=
  ∀ earlier size later, trace = earlier ++ .allocate size :: later →
    ∀ held next events, runWords memory earlier [] allocator = .done held next events →
      HasRoom next

theorem supplied_words_iff {σ : Type} [Allocator σ] (HasRoom : σ → Prop) (memory : Memory)
    (trace : List Op) (allocator : σ) :
    (Drive.words memory).Supplied HasRoom trace [] allocator ↔
      RoomThroughout HasRoom memory trace allocator := by
  simp only [Drive.Supplied, RoomThroughout, Drive.runWords_eq]

/-- A trace that asks for no more blocks than there are numbers left has numbers throughout. -/
theorem roomThroughout_arena (memory : Memory) (trace : List Op) (allocator : SegregatedAllocator)
    (few : allocator.arena.chunks.size + allocations trace ≤ 2 ^ 32) :
    RoomThroughout SegregatedAllocator.HasNumber memory trace allocator :=
  (supplied_words_iff _ _ _ _).mp
    ((Drive.measured_arena memory).supplied (2 ^ 32) trace [] allocator few)

theorem roomThroughout_system (memory : Memory) (trace : List Op) (allocator : SystemAllocator)
    (few : allocator.slots.size + allocations trace ≤ 2 ^ 32) :
    RoomThroughout SystemAllocator.HasPlace memory trace allocator := by
  have supplied := (supplied_words_iff _ _ _ _).mp
    ((Drive.measured_system memory).supplied (2 ^ 32) trace [] allocator few)
  intro earlier size later split held next events done
  exact Or.inr (supplied earlier size later split held next events done)

section Replays

variable (memory : Memory) (trace : List Op) (inRange : InRange 0 trace)
  (entries : ∀ count, memory.grantsEntry count = true)

include inRange

include entries in
theorem replayWords_arena (config : Config) (arena : SegregatedAllocator)
    (created : SegregatedAllocator.create config = .ok arena)
    (unlimited : config.maxChunks = none)
    (chunks : memory.grantsWords config.chunkWords = true)
    (sizes : ∀ size, .allocate size ∈ trace → 0 < size ∧ size ≤ config.chunkWords)
    (room : RoomThroughout SegregatedAllocator.HasNumber memory trace arena) :
    ∃ next events, replayWords memory arena trace =
      .done (allocations trace - releases trace) next events ∧ next.live = 0 := by
  obtain ⟨next, events, done, carries⟩ := (Drive.keeps_arena memory config []).replay_granted
    (Drive.grants_arena memory config [] unlimited chunks entries) trace arena
    (SegregatedAllocator.carries_of_create created) inRange sizes
    ((supplied_words_iff _ _ _ _).mpr room)
  exact ⟨next, events, (Drive.replayWords_eq _ _ _).trans done, carries.live⟩

theorem replayWords_system
    (sizes : ∀ size, .allocate size ∈ trace → 0 < size ∧ memory.grantsWords size = true)
    (room : RoomThroughout SystemAllocator.HasPlace memory trace SystemAllocator.empty) :
    ∃ next events, replayWords memory SystemAllocator.empty trace =
      .done (allocations trace - releases trace) next events ∧ next.live = 0 := by
  obtain ⟨next, events, done, sound⟩ := (Drive.keeps_system memory _ _).replay_granted
    (Drive.grants_system memory) trace SystemAllocator.empty SystemAllocator.sound_empty inRange
    sizes ((supplied_words_iff _ _ _ _).mpr room)
  exact ⟨next, events, (Drive.replayWords_eq _ _ _).trans done, sound.live⟩

include entries in
theorem replayItems_pool (config : ItemConfig) (pool : ItemPool Quad)
    (created : ItemPool.create Quad config = .ok pool)
    (cells : memory.grantsCells config.itemsPerPool = true) :
    ∃ next events, replayItems memory pool trace =
      .done (allocations trace - releases trace) next events ∧ next.live = 0 := by
  obtain ⟨next, events, done, stores⟩ :=
    (Drive.keeps_items memory config.itemsPerPool).replay_granted
      (Drive.grants_items memory _ cells entries) trace pool (ItemPool.stores_of_create created)
      inRange (fun _ _ => trivial) fun _ _ _ _ _ _ _ _ => trivial
  exact ⟨next, events, (Drive.replayItems_eq _ _ _).trans done, stores.live⟩

theorem replayPlain_ok : replayPlain trace = .ok (allocations trace - releases trace) := by
  obtain ⟨left, next, events, done, _, count⟩ := Drive.keeps_plain.run trace [] () trivial inRange
    (fun _ _ => trivial) fun _ _ _ _ _ _ _ _ => trivial
  have counted := count Drive.grants_plain
  rw [Drive.runPlain_eq] at done
  rw [replayPlain]
  cases kept : runPlain trace [] with
  | error reason =>
    rw [kept] at done
    cases done
  | ok values =>
    rw [kept] at done
    cases done
    show Except.ok left.length = _
    rw [List.length_nil, Nat.zero_add] at counted
    rw [← counted, Nat.add_sub_cancel]

end Replays

/-! ### Past the last number -/

section Crowd

variable {memory : Memory}

/-- A system allocator never has more blocks on loan than there are numbers for slots, so no
replay on a new one is left with more. -/
theorem replayWords_system_le (trace : List Op) (inRange : InRange 0 trace) :
    ∃ number next events, replayWords memory SystemAllocator.empty trace =
      .done number next events ∧ number ≤ 2 ^ 32 := by
  have keeps := Drive.keeps_system memory (fun _ => True) fun _ => True
  obtain ⟨left, between, events, done, sound, _⟩ := keeps.run trace [] SystemAllocator.empty
    SystemAllocator.sound_empty inRange (fun _ _ => trivial) fun _ _ _ _ _ _ _ _ => trivial
  obtain ⟨next, logged, given, _⟩ := keeps.giveBack left between sound
  refine ⟨left.length, next, events ++ logged, ?_, ?_⟩
  · rw [Drive.replayWords_eq, Drive.replay, done]
    show ((Drive.giveBack _ left between).mapAnswer _).after events = _
    rw [given, Step.mapAnswer, Step.after]
  · rw [← sound.live]
    exact Nat.le_trans sound.live_le sound.named

open SegregatedAllocator (Crowded)
open History (crowdLoan crowdSize)

/-- The trace of a crowd that takes so many chunks, from a number on. -/
def crowdTrace (number count : Nat) : List Op :=
  ((List.range' number count).map crowdSize).map .allocate

theorem inRange_crowdTrace (number count : Nat) : InRange 0 (crowdTrace number count) :=
  inRange_loans _ 0

theorem allocations_crowdTrace (number count : Nat) :
    allocations (crowdTrace number count) = count := by
  rw [crowdTrace, allocations_loans, List.length_map, List.length_range']

theorem releases_crowdTrace (number count : Nat) : releases (crowdTrace number count) = 0 :=
  releases_loans _

/-- Every loan of a crowd fits into a chunk. -/
theorem size_le_of_mem_crowdTrace (number count size : Nat)
    (member : .allocate size ∈ crowdTrace number count) : 0 < size ∧ size ≤ 2 := by
  obtain ⟨_, inside, equal⟩ := List.mem_map.mp member
  obtain ⟨index, _, rfl⟩ := List.mem_map.mp inside
  cases equal
  exact ⟨History.crowdSize_pos index, History.crowdSize_le index⟩

/-- A replay of a crowd holds all its loans. The induction is on the chunks that are still to be
taken, and the invariant is what the crowd has left of the arena. -/
theorem runWords_crowd (words : memory.grantsWords 2 = true)
    (entries : ∀ count, memory.grantsEntry count = true) (number count : Nat) (held : List Block)
    (allocator : SegregatedAllocator) (crowded : Crowded number allocator) :
    ∃ next events, runWords memory (crowdTrace number count) held allocator =
      .done (held ++ (List.range' number count).map crowdLoan) next events ∧
      Crowded (number + count) next := by
  induction count generalizing number held allocator with
  | zero => exact ⟨allocator, [], congrArg (Step.done · _ _) (List.append_nil held).symm, crowded⟩
  | succ count inductionHypothesis =>
    have granted := crowded.allocate_eq memory words (entries number)
    have stamped : Crowded (number + 1) (stamp _ (crowdLoan number).handle (crowdSize number)) :=
      (crowded.expanded (crowdLoan number)).store _ _ _
    obtain ⟨next, events, done, later⟩ :=
      inductionHypothesis (number + 1) (held ++ [crowdLoan number]) _ stamped
    rw [Nat.add_right_comm] at later
    refine ⟨next, [allocator.arena.grewEvent (crowdSize number)] ++ events, ?_, later⟩
    rw [crowdTrace, List.range'_succ, List.map_cons, List.map_cons, runWords]
    change (SegregatedAllocator.allocate memory allocator _).andThen _ = _
    rw [granted]
    change (runWords memory (crowdTrace (number + 1) count) (held ++ [crowdLoan number]) _).after
      _ = _
    rw [done, Step.after, List.append_assoc]
    rfl

/-- Blocks cannot all be given back if one of them is no carved memory. -/
theorem giveBack_faults (held : List Block) (allocator : SegregatedAllocator) (block : Block)
    (among : block ∈ held)
    (foreign : allocator.arena.contains block.handle block.size = false) :
    ∃ reason events, giveBack held allocator = .fault reason events := by
  induction held generalizing allocator with
  | nil => cases among
  | cons first rest inductionHypothesis =>
    rw [giveBack]
    change ∃ reason events, (allocator.deallocate first.handle first.size).andThen _ = _
    cases back : allocator.deallocate first.handle first.size with
    | fault reason events => exact ⟨reason, events, rfl⟩
    | done _ next events =>
      have same := allocator.arena_of_deallocate next first.handle first.size events back
      have other : block ≠ first := by
        rintro rfl
        cases allocator.change_of_deallocate block.handle block.size next events back with
        | returned _ _ _ carved _ _ => cases foreign.symm.trans carved
      obtain ⟨reason, logged, faults⟩ := inductionHypothesis next
        ((List.mem_cons.mp among).resolve_left other) (same ▸ foreign)
      refine ⟨reason, events ++ logged, ?_⟩
      change (giveBack rest next).after events = _
      rw [faults, Step.after]

/-- The replay of a crowd that uses up the numbers, and one more, on a new arena is a fault. -/
theorem replayWords_crowd (words : memory.grantsWords 2 = true)
    (entries : ∀ count, memory.grantsEntry count = true) (tracked : Bool) (count : Nat)
    (past : 2 ^ 32 < count) :
    ∃ reason events,
      replayWords memory (SegregatedAllocator.fresh { chunkWords := 2, trackLoans := tracked })
        (crowdTrace 0 count) = .fault reason events := by
  obtain ⟨next, events, done, crowded⟩ :=
    runWords_crowd words entries 0 count [] _ (.fresh tracked)
  have last : (⟨⟨0, 0, 0⟩, 2⟩ : Block) ∈ [] ++ (List.range' 0 count).map crowdLoan := by
    rw [← History.crowdLoan_past_numbers]
    exact List.mem_map_of_mem (List.mem_range'_1.mpr ⟨Nat.zero_le _, by rwa [Nat.zero_add]⟩)
  obtain ⟨reason, logged, faults⟩ := giveBack_faults _ next _ last crowded.contains_first
  refine ⟨reason, events ++ logged, ?_⟩
  rw [replayWords, done]
  show ((giveBack _ next).mapAnswer _).after events = _
  rw [faults]
  rfl

end Crowd

/-! ### All replays -/

/-- The replays of a trace that releases only what it holds, on a new arena without a chunk budget,
on a new system allocator, on a new item pool and on plain values, all come to an end with the same
answer: the number of blocks that the trace lends and does not release. Nothing is left on loan.
This takes requests that a chunk can hold, reservations that are granted, and numbers for the
chunks and slots that are added. -/
theorem replays_agree (memory : Memory) (config : Config) (items : ItemConfig)
    (arena : SegregatedAllocator) (pool : ItemPool Quad) (trace : List Op)
    (created : SegregatedAllocator.create config = .ok arena)
    (unlimited : config.maxChunks = none) (made : ItemPool.create Quad items = .ok pool)
    (inRange : InRange 0 trace)
    (sizes : ∀ size, .allocate size ∈ trace → 0 < size ∧ size ≤ config.chunkWords)
    (chunks : memory.grantsWords config.chunkWords = true)
    (blocks : ∀ size, .allocate size ∈ trace → memory.grantsWords size = true)
    (cells : memory.grantsCells items.itemsPerPool = true)
    (entries : ∀ count, memory.grantsEntry count = true)
    (numbers : RoomThroughout SegregatedAllocator.HasNumber memory trace arena)
    (slots : RoomThroughout SystemAllocator.HasPlace memory trace SystemAllocator.empty) :
    ∃ number, number + releases trace = allocations trace ∧
      (∃ next events, replayWords memory arena trace = .done number next events ∧
        next.live = 0) ∧
      (∃ next events, replayWords memory SystemAllocator.empty trace = .done number next events ∧
        next.live = 0) ∧
      (∃ next events, replayItems memory pool trace = .done number next events ∧
        next.live = 0) ∧
      replayPlain trace = .ok number := by
  have fewer := inRange.releases_le
  rw [Nat.zero_add] at fewer
  exact ⟨allocations trace - releases trace, Nat.sub_add_cancel fewer,
    replayWords_arena memory trace inRange entries config arena created unlimited chunks sizes
      numbers,
    replayWords_system memory trace inRange
      (fun size member => ⟨(sizes size member).1, blocks size member⟩) slots,
    replayItems_pool memory trace inRange entries items pool made cells,
    replayPlain_ok trace inRange⟩

/-- Three blocks are lent, the first is released and one of its size is lent again; a block is
released out of the middle, and two are left. -/
theorem replays_agree_after_reuse :
    let trace : List Op :=
      [.allocate 3, .allocate 2, .allocate 3, .release 0, .allocate 3, .release 1]
    ∃ arena pool, SegregatedAllocator.create { chunkWords := 4, trackLoans := true } = .ok arena ∧
      ItemPool.create Quad { itemsPerPool := 2 } = .ok pool ∧
      (∃ next events, replayWords .unlimited arena trace = .done 2 next events ∧
        next.live = 0) ∧
      (∃ next events, replayWords .unlimited SystemAllocator.empty trace =
        .done 2 next events ∧ next.live = 0) ∧
      (∃ next events, replayItems .unlimited pool trace = .done 2 next events ∧
        next.live = 0) ∧
      replayPlain trace = .ok 2 := by
  intro trace
  refine ⟨_, _, rfl, rfl, ?_⟩
  obtain ⟨number, count, agree⟩ := replays_agree .unlimited
    { chunkWords := 4, trackLoans := true } { itemsPerPool := 2 } _ _ trace rfl rfl rfl
    (by decide) (by simp [trace]) rfl (fun _ _ => rfl) rfl (fun _ => rfl)
    (roomThroughout_arena _ _ _ (by decide)) (roomThroughout_system _ _ _ (by decide))
  have two : number = 2 := by
    have counted : number + 2 = 4 := count
    omega
  rwa [two] at agree

/-- A trace of one more loan than there are numbers, every reservation granted: the replay on an
arena ends in a fault, and the one on a system allocator answers too small a number. -/
theorem replays_disagree_past_numbers :
    ∃ trace : List Op, trace = crowdTrace 0 (2 ^ 32 + 1) ∧ InRange 0 trace ∧
      (∀ size, .allocate size ∈ trace → 0 < size ∧ size ≤ 2) ∧
      allocations trace = 2 ^ 32 + 1 ∧ releases trace = 0 ∧
      (∃ arena, SegregatedAllocator.create { chunkWords := 2 } = .ok arena ∧
        ∃ reason events, replayWords .unlimited arena trace = .fault reason events) ∧
      ∃ number next events, replayWords .unlimited SystemAllocator.empty trace =
        .done number next events ∧ number ≤ 2 ^ 32 := by
  -- The number of loans is kept as a variable, so that nothing unfolds a trace of that length.
  obtain ⟨count, many⟩ : ∃ count, count = 2 ^ 32 + 1 := ⟨_, rfl⟩
  have inRange := inRange_crowdTrace 0 count
  have words : Memory.unlimited.grantsWords 2 = true := rfl
  have faults := replayWords_crowd words (fun _ => rfl) false count (many ▸ Nat.lt_succ_self _)
  exact ⟨_, congrArg _ many, inRange, size_le_of_mem_crowdTrace 0 count,
    (allocations_crowdTrace 0 count).trans many, releases_crowdTrace 0 count,
    ⟨_, rfl, faults⟩, replayWords_system_le _ inRange⟩

end Churn

end Allotment
