/-
What a replay leaves behind. It may start on an allocator that has blocks on loan and blocks
that wait, and borrow those that wait; and it may stop at any operation, when a loan is refused.
What it then holds is in the order of the bag, but it is what it was lent and has not released,
and giving it back is the rest of an ordinary run. So the loans are those from before, in their
old order, and whatever was lent is released. An arena without a chunk budget must have numbers
for the chunks that this takes.

The history of the replay is put on top of the history from before. On loan are first the held
blocks, then the old loans; on loan or waiting are the blocks from before and those that were
lent.
-/

import Allotment.Proofs.Churn.Survivors
import Allotment.Proofs.Segregated.Crowding

namespace Allotment

namespace Churn

/-! ### Operations that were carried out -/

section Plays

variable {σ : Type} [Allocator σ] {memory : Memory}

/-- Operations of a trace that were carried out, each loan granted: with what was lent and
released, the latest deed first, the blocks that are held then, and the state that is reached. -/
inductive Plays (memory : Memory) (start : σ) : List Op → History → List Block → σ → Prop
  | nothing : Plays memory start [] [] [] start
  | lent (served : List Op) (deeds : History) (held : List Block) (state next : σ) (size : Nat)
    (handle : Handle) (events : List Event) (plays : Plays memory start served deeds held state)
    (granted : Allocator.allocate memory state size = .done (.ok handle) next events) :
    Plays memory start (served ++ [.allocate size]) (.lent ⟨handle, size⟩ :: deeds)
      (held ++ [⟨handle, size⟩]) (stamp next handle size)
  | taken (served : List Op) (deeds : History) (held left : List Block) (block : Block)
    (state next : σ) (index : Nat) (events : List Event)
    (plays : Plays memory start served deeds held state)
    (inside : Bag.take held index = .ok (block, left))
    (back : Allocator.deallocate state block.handle block.size = .done () next events) :
    Plays memory start (served ++ [.release index]) (.returned block :: deeds) left next

/-- A replay goes no further: its trace is at an end, or the next loan is refused. -/
def Stops (memory : Memory) (state : σ) (rest : List Op) : Prop :=
  rest = [] ∨ ∃ size later cause events, rest = .allocate size :: later ∧
    Allocator.allocate memory state size = .done (.error cause) state events

variable {start state : σ} {served : List Op} {deeds : History} {held : List Block}

/-- A replay of more operations goes on from the state that was reached. -/
theorem Plays.runWords_append (plays : Plays memory start served deeds held state) :
    ∃ events, ∀ rest, runWords memory (served ++ rest) [] start =
      (runWords memory rest held state).after events := by
  induction plays with
  | nothing => exact ⟨[], fun rest => (Step.after_nil _).symm⟩
  | lent served deeds held state next size handle logged plays granted inductionHypothesis =>
    obtain ⟨events, continues⟩ := inductionHypothesis
    refine ⟨events ++ logged, fun rest => ?_⟩
    rw [List.append_assoc, continues, ← Step.after_after, List.singleton_append, runWords, granted]
    rfl
  | taken served deeds held left block state next index logged plays inside back
      inductionHypothesis =>
    obtain ⟨events, continues⟩ := inductionHypothesis
    refine ⟨events ++ logged, fun rest => ?_⟩
    rw [List.append_assoc, continues, ← Step.after_after, List.singleton_append, runWords, inside]
    show ((Allocator.deallocate state block.handle block.size).andThen _).after events = _
    rw [back]
    rfl

/-- What is held was lent and not released. -/
theorem Plays.length (plays : Plays memory start served deeds held state) :
    held.length + releases served = allocations served := by
  induction plays with
  | nothing => rfl
  | lent served deeds held state next size handle logged plays granted inductionHypothesis =>
    rw [allocations_append, releases_append, List.length_append]
    show held.length + 1 + releases served = allocations served + 1
    omega
  | taken served deeds held left block state next index logged plays inside back
      inductionHypothesis =>
    have count : left.length + 1 = held.length := (Bag.take_perm _ _ _ _ inside).length_eq
    rw [allocations_append, releases_append]
    show left.length + (releases served + 1) = allocations served
    omega

theorem Stops.runWords {rest : List Op} (stops : Stops memory state rest) (held : List Block) :
    ∃ events, Churn.runWords memory rest held state = .done held state events := by
  rcases stops with rfl | ⟨size, later, cause, events, rfl, refused⟩
  · exact ⟨[], rfl⟩
  · refine ⟨events ++ [], ?_⟩
    rw [Churn.runWords, refused]
    rfl

end Plays

end Churn

/-! ### An arena with released blocks -/

namespace SegregatedAllocator

open Churn

/-- A chunk budget leaves a number for one more chunk. -/
theorem Configured.hasNumber {config : Config} {allocator : SegregatedAllocator}
    (configured : Configured config allocator)
    (unlimited : config.maxChunks = none → allocator.HasNumber) : allocator.HasNumber := by
  cases limited : config.maxChunks with
  | none => exact unlimited limited
  | some limit => exact configured.size_chunks_lt limit limited

/-- The record of loans, if there is one, is what the history says. -/
theorem loans_of_run {config : Config} {history : History} {allocator : SegregatedAllocator}
    (run : Run config (Proper config) history allocator) (named : allocator.arena.ChunksNamed) :
    allocator.loans = if config.trackLoans then some history.loans else none := by
  have recorded := (configured_of_run run).recorded
  cases found : allocator.loans with
  | none =>
    rw [found] at recorded
    rw [← recorded]
    rfl
  | some book =>
    rw [found] at recorded
    rw [← recorded, (sound_of_run run named).book book found]
    rfl

/-- After some deeds on top of a history, the blocks on loan are the held ones, before those that
were on loan already, and no other block was lent or waited than before or in these deeds. -/
structure Borrows (config : Config) (before deeds : History) (held : List Block)
    (allocator : SegregatedAllocator) : Prop where
  run : Run config (Proper config) (deeds ++ before) allocator
  named : allocator.arena.ChunksNamed
  own : ∃ own, History.loans (deeds ++ before) = own ++ before.loans ∧ own.Perm held
  blocks : ∀ block,
    block ∈ History.loans (deeds ++ before) ++ History.shelf (deeds ++ before) ↔
      .lent block ∈ deeds ∨ block ∈ before.loans ++ before.shelf
  anew : ∀ block, .lent block ∈ deeds → block ∉ before.loans

namespace Borrows

variable {config : Config} {before deeds : History} {held : List Block}
  {allocator : SegregatedAllocator}

theorem nothing (run : Run config (Proper config) before allocator)
    (named : allocator.arena.ChunksNamed) : Borrows config before [] [] allocator where
  run := run
  named := named
  own := ⟨[], rfl, .refl _⟩
  blocks _ := ⟨Or.inr, fun either => either.resolve_left List.not_mem_nil⟩
  anew _ lent := absurd lent List.not_mem_nil

theorem allocate (borrows : Borrows config before deeds held allocator) (memory : Memory)
    (size : Nat) (permitted : 0 < size ∧ size ≤ config.chunkWords)
    (ready : allocator.HasNumber) :
    (∃ cause events,
      allocator.allocate memory size = .done (.error cause) allocator events) ∨
    ∃ handle next events, allocator.allocate memory size = .done (.ok handle) next events ∧
      Borrows config before (.lent ⟨handle, size⟩ :: deeds) (held ++ [⟨handle, size⟩]) next := by
  refine (borrows.run.requested memory size permitted ready).imp_right ?_
  rintro ⟨handle, next, events, granted, longer, named⟩
  obtain ⟨own, onLoan, same⟩ := borrows.own
  have loans : History.loans (.lent ⟨handle, size⟩ :: (deeds ++ before)) =
      ⟨handle, size⟩ :: own ++ before.loans := by
    rw [History.loans, onLoan, List.cons_append]
  refine ⟨handle, next, events, granted, longer, named, ⟨_, loans, ?_⟩, fun block => ?_,
    fun block lent => ?_⟩
  · exact (same.cons _).trans (List.perm_append_singleton _ _).symm
  · rw [List.cons_append, History.mem_lent_iff, borrows.blocks, List.mem_cons, Deed.lent.injEq,
      or_assoc]
  · rcases List.mem_cons.mp lent with equal | earlier
    · cases equal
      -- No handle is on loan twice, so the new block is none of the old loans.
      have distinct := (sound_of_run longer named).nodup_loans
      rw [loans] at distinct
      have absent := (List.nodup_cons.mp distinct).1
      exact fun old => absent (List.mem_map_of_mem (List.mem_append_right _ old))
    · exact borrows.anew block earlier

theorem store (borrows : Borrows config before deeds held allocator) (handle : Handle)
    (size : Nat) (patch : Patch) :
    Borrows config before deeds held (Allocator.store allocator handle size patch) := by
  obtain ⟨longer, named⟩ := borrows.run.overwritten borrows.named handle size patch
  exact { borrows with run := longer, named := named }

/-- A held block is taken back at its size. -/
theorem deallocate {block : Block} {left : List Block}
    (borrows : Borrows config before deeds held allocator) (among : (block :: left).Perm held) :
    ∃ next events, allocator.deallocate block.handle block.size = .done () next events ∧
      Borrows config before (.returned block :: deeds) left next := by
  obtain ⟨own, loans, same⟩ := borrows.own
  have mine : block ∈ own := (same.trans among.symm).mem_iff.mpr List.mem_cons_self
  have onLoan : block ∈ History.loans (deeds ++ before) :=
    loans ▸ List.mem_append_left before.loans mine
  obtain ⟨next, events, done, longer, named⟩ := borrows.run.released borrows.named block onLoan
  refine ⟨next, events, done, longer, named, ⟨own.erase block, ?_, ?_⟩, fun other => ?_,
    fun other lent => ?_⟩
  · show (History.loans (deeds ++ before)).erase block = _
    rw [loans, List.erase_append_left _ mine]
  · exact ((List.perm_cons_erase mine).symm.trans (same.trans among.symm)).cons_inv
  · rw [List.cons_append, (History.perm_of_returned _ _ onLoan).mem_iff, borrows.blocks,
      List.mem_cons, or_iff_right (show Deed.lent other ≠ .returned block from nofun)]
  · exact borrows.anew other ((List.mem_cons.mp lent).resolve_left nofun)

/-- The operations that are left are carried out, up to the end of the trace or a loan that is
refused. -/
theorem run_on {memory : Memory} {start : SegregatedAllocator} (rest : List Op)
    (served : List Op) (borrows : Borrows config before deeds held allocator)
    (plays : Plays memory start served deeds held allocator) (inRange : InRange held.length rest)
    (permitted : ∀ size, .allocate size ∈ rest → 0 < size ∧ size ≤ config.chunkWords)
    (numbers : config.maxChunks = none →
      RoomThroughout HasNumber memory (served ++ rest) start) :
    ∃ more left done kept reached, rest = more ++ left ∧
      Plays memory start (served ++ more) done kept reached ∧
      Borrows config before done kept reached ∧ Stops memory reached left := by
  induction rest generalizing served deeds held allocator with
  | nil => exact ⟨[], [], _, _, _, rfl, (List.append_nil served).symm ▸ plays, borrows, Or.inl rfl⟩
  | cons op rest inductionHypothesis =>
    have permittedRest : ∀ size, .allocate size ∈ rest → 0 < size ∧ size ≤ config.chunkWords :=
      fun size member => permitted size (List.mem_cons_of_mem _ member)
    have further : served ++ op :: rest = (served ++ [op]) ++ rest := by
      rw [List.append_assoc, List.singleton_append]
    cases op with
    | allocate size =>
      have ready : allocator.HasNumber := by
        refine (configured_of_run borrows.run).hasNumber fun unlimited => ?_
        obtain ⟨events, continues⟩ := plays.runWords_append
        have reached := continues []
        rw [List.append_nil] at reached
        exact numbers unlimited served size rest rfl _ _ _ reached
      rcases borrows.allocate memory size (permitted size List.mem_cons_self) ready with
        ⟨cause, events, refused⟩ | ⟨handle, next, events, granted, lent⟩
      · exact ⟨[], _, _, _, _, rfl, (List.append_nil served).symm ▸ plays, borrows,
          Or.inr ⟨size, rest, cause, events, rfl, refused⟩⟩
      · have longer := Plays.lent _ _ _ _ _ _ _ _ plays granted
        have length : (held ++ [(⟨handle, size⟩ : Block)]).length = held.length + 1 :=
          List.length_append
        obtain ⟨more, left, done, kept, reached, split, playsOn, result⟩ :=
          inductionHypothesis (served ++ [.allocate size]) (lent.store _ _ _) longer
            (length ▸ inRange) permittedRest (further ▸ numbers)
        refine ⟨.allocate size :: more, left, done, kept, reached, congrArg _ split, ?_, result⟩
        rwa [List.append_assoc] at playsOn
    | release index =>
      obtain ⟨inside, inRangeRest⟩ := inRange
      obtain ⟨left, taken, same⟩ := Bag.exists_take held index inside
      obtain ⟨next, events, back, returned⟩ := borrows.deallocate same
      have longer := Plays.taken _ _ _ _ _ _ _ _ _ plays taken back
      have length : left.length + 1 = held.length := same.length_eq
      obtain ⟨more, final, done, kept, reached, split, playsOn, result⟩ :=
        inductionHypothesis (served ++ [.release index]) returned longer
          (by rwa [← length] at inRangeRest) permittedRest (further ▸ numbers)
      refine ⟨.release index :: more, final, done, kept, reached, congrArg _ split, ?_, result⟩
      rwa [List.append_assoc] at playsOn

/-- What is held is given back, the first block first. -/
theorem giveBack (held : List Block) (borrows : Borrows config before deeds held allocator) :
    ∃ next events, Churn.giveBack held allocator = .done () next events ∧
      Borrows config before ((held.map .returned).reverse ++ deeds) [] next := by
  induction held generalizing deeds allocator with
  | nil => exact ⟨allocator, [], rfl, borrows⟩
  | cons block rest inductionHypothesis =>
    obtain ⟨next, events, back, returned⟩ := borrows.deallocate (.refl _)
    obtain ⟨last, logged, done, settled⟩ := inductionHypothesis returned
    refine ⟨last, events ++ logged, ?_, ?_⟩
    · show (allocator.deallocate block.handle block.size).andThen _ = _
      rw [back]
      show (Churn.giveBack rest next).after events = _
      rw [done, Step.after]
    · rwa [List.map_cons, List.reverse_cons, List.append_assoc]

/-- Once nothing is held, the loans are those from before, and the blocks that wait are those from
before and the ones that were lent. -/
theorem settled {start : SegregatedAllocator} (borrows : Borrows config before deeds [] allocator)
    (run : Run config (Proper config) before start) (named : start.arena.ChunksNamed) :
    History.loans (deeds ++ before) = before.loans ∧ allocator.live = start.live ∧
      allocator.loans = start.loans ∧
      ∀ block, block ∈ allocator.free ↔ block ∈ start.free ∨ .lent block ∈ deeds := by
  obtain ⟨own, split, same⟩ := borrows.own
  have loans : History.loans (deeds ++ before) = before.loans := by
    rw [split, List.perm_nil.mp same, List.nil_append]
  have sound := sound_of_run borrows.run borrows.named
  have soundBefore := sound_of_run run named
  refine ⟨loans, ?_, ?_, fun block => ?_⟩
  · rw [sound.live, soundBefore.live, loans]
  · rw [loans_of_run borrows.run borrows.named, loans_of_run run named, loans]
  · rw [free_eq_shelf borrows.run, free_eq_shelf run]
    have among := borrows.blocks block
    rw [loans, List.mem_append, List.mem_append] at among
    constructor
    · intro waits
      rcases among.mp (Or.inr waits) with lent | onLoan | old
      · exact Or.inr lent
      · exact absurd rfl (sound.handle_ne block block (loans ▸ onLoan) waits)
      · exact Or.inl old
    · rintro (old | lent)
      · exact (among.mpr (Or.inr (Or.inr old))).resolve_left fun onLoan =>
          soundBefore.handle_ne block block onLoan old rfl
      · exact (among.mpr (Or.inl lent)).resolve_left (borrows.anew block lent)

end Borrows

/-- A replay on an arena that is in use, with blocks on loan and blocks that wait. It carries out
the trace up to its end or to the first loan that is refused, and answers how many of its blocks
are held then; they are given back, the first one first. Whatever the budget, the alignment and
the record, the number of loans, the record of them and the loans by the history are those from
before, and of each size the blocks that wait are those from before and all that the replay was
lent. Without a budget the chunks must have numbers that fit into handles. -/
theorem replay_leaves_old_loans (memory : Memory) (config : Config) (history : History)
    (allocator : SegregatedAllocator) (trace : List Op)
    (run : Run config (Proper config) history allocator) (inRange : InRange 0 trace)
    (sizes : ∀ size, .allocate size ∈ trace → 0 < size ∧ size ≤ config.chunkWords)
    (named : config.maxChunks = none → allocator.arena.ChunksNamed)
    (numbers : config.maxChunks = none → RoomThroughout HasNumber memory trace allocator) :
    ∃ served rest deeds held between next events, trace = served ++ rest ∧
      Plays memory allocator served deeds held between ∧ Stops memory between rest ∧
      held.length + releases served = allocations served ∧
      replayWords memory allocator trace = .done held.length next events ∧
      next.live = allocator.live ∧ next.loans = allocator.loans ∧
      Run config (Proper config) ((held.map .returned).reverse ++ deeds ++ history) next ∧
      History.loans ((held.map .returned).reverse ++ deeds ++ history) = history.loans ∧
      ∀ handle size, handle ∈ next.free.ofSize size ↔
        handle ∈ allocator.free.ofSize size ∨ .lent ⟨handle, size⟩ ∈ deeds := by
  have namedNow := (configured_of_run run).chunksNamed named
  obtain ⟨served, rest, deeds, held, between, split, plays, borrows, stops⟩ :=
    (Borrows.nothing run namedNow).run_on trace [] .nothing inRange sizes numbers
  obtain ⟨next, given, back, returned⟩ := borrows.giveBack held
  obtain ⟨loans, live, book, waiting⟩ := returned.settled run namedNow
  obtain ⟨events, continues⟩ := plays.runWords_append
  obtain ⟨logged, stopped⟩ := stops.runWords held
  refine ⟨served, rest, deeds, held, between, next, events ++ logged ++ given, split, plays, stops,
    plays.length, ?_, live, book, returned.run, loans, fun handle size => ?_⟩
  · rw [replayWords, split, ← List.nil_append served, continues, stopped]
    show ((Churn.giveBack held between).mapAnswer _).after _ = _
    rw [back]
    rfl
  · have unlent : .lent ⟨handle, size⟩ ∉ (held.map Deed.returned).reverse := by
      rw [List.mem_reverse, List.mem_map]
      rintro ⟨_, _, equal⟩
      cases equal
    rw [FreeBlocks.mem_ofSize, FreeBlocks.mem_ofSize, waiting, List.mem_append,
      or_iff_right unlent]

/-- One block is on loan and one waits, of the only chunk there may be. The replay borrows the one
that waits, carves the last word, releases the borrowed block and is refused three words: it gives
the other block back, and the old loan stays. -/
theorem replay_leaves_old_loan_midway :
    ∃ (config : Config) (history : History) (allocator next : SegregatedAllocator)
      (events : List Event), config.maxChunks = some 1 ∧
      Run config (Proper config) history allocator ∧
      allocator.free = [⟨⟨0, 1, 0⟩, 2⟩] ∧ allocator.live = 1 ∧
      replayWords .addressable allocator
        [.allocate 2, .allocate 1, .release 0, .allocate 3, .allocate 1] =
          .done 1 next events ∧
      next.live = 1 ∧ next.loans = allocator.loans ∧ ⟨0, 1, 0⟩ ∈ next.free.ofSize 2 := by
  have created : Run { chunkWords := 4, maxChunks := some 1, trackLoans := true }
    (Proper { chunkWords := 4, maxChunks := some 1, trackLoans := true }) [] (fresh _) :=
    .start _ rfl
  have kept := created.step _ _ _ _ (.allocate .addressable 1) _ trivial rfl
  have second := kept.step _ _ _ _ (.allocate .addressable 2) _ trivial rfl
  have ready := second.step _ _ _ _ (.deallocate ⟨0, 1, 0⟩ 2) _ (Or.inl rfl) rfl
  obtain ⟨_, _, _, held, _, next, events, _, _, _, _, done, live, book, _, _, waiting⟩ :=
    replay_leaves_old_loans .addressable _ _ _
      [.allocate 2, .allocate 1, .release 0, .allocate 3, .allocate 1] ready
      (by decide) (by simp) nofun nofun
  have computed : Step.done 1 _ _ = Step.done held.length next events := done
  injection computed with one
  rw [← one] at done
  exact ⟨_, _, _, next, events, rfl, ready, rfl, rfl, done, live, book,
    (waiting _ _).mpr (Or.inl List.mem_cons_self)⟩

/-- Every chunk number is used up. A replay is lent two words, which are named after the first
chunk, and it cannot give them back. -/
theorem replay_faults_past_chunk_numbers :
    ∃ (allocator : SegregatedAllocator) (events : List Event),
      Run (.recording 2) (Proper (.recording 2)) (History.crowd (2 ^ 32)) allocator ∧
        InRange 0 [.allocate 2] ∧
        replayWords .addressable allocator [.allocate 2] =
          .fault (.notCarved ⟨0, 0, 0⟩ 2 0) events := by
  obtain ⟨allocator, crowded, run⟩ :=
    exists_crowded_run (Proper (.recording 2)) (fun _ _ _ => trivial) true (2 ^ 32) (Nat.le_succ _)
  obtain ⟨next, events, later, granted⟩ := crowded.allocate_past_numbers
  have lent : Allocator.allocate .addressable allocator 2 = .done (.ok ⟨0, 0, 0⟩) next events :=
    granted
  have back : Allocator.deallocate next ⟨0, 0, 0⟩ 2 = .fault (.notCarved ⟨0, 0, 0⟩ 2 0) [] :=
    later.deallocate_first
  have stamped : stamp next ⟨0, 0, 0⟩ 2 = next := later.store_first _
  have played : runWords .addressable [.allocate 2] [] allocator =
      .done [⟨⟨0, 0, 0⟩, 2⟩] next (events ++ []) := by
    rw [runWords, lent]
    show (runWords .addressable [] _ (stamp next ⟨0, 0, 0⟩ 2)).after events = _
    rw [stamped]
    rfl
  refine ⟨allocator, events ++ [] ++ [], run, ⟨⟩, ?_⟩
  rw [replayWords, played]
  show ((Churn.giveBack [⟨⟨0, 0, 0⟩, 2⟩] next).mapAnswer _).after _ = _
  rw [Churn.giveBack, back]
  rfl

end SegregatedAllocator

end Allotment
