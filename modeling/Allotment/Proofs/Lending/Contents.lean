/-
Block contents survive everything but their own writes, whatever the blocks are kept
in: an arena that records its loans, slots of the system, or either of them behind a
leak checker. In an arena this takes handles that tell the chunks apart.
-/

import Allotment.Proofs.Audit.Lender
import Allotment.Proofs.Segregated.Crowding
import Allotment.Proofs.Segregated.Lender
import Allotment.Proofs.System.Lender

namespace Allotment

/-- In every use of an arena that records its loans, of the system allocator, and of a leak
checker around either, every holding reads as it was lent with its own writes over it. What was
lent were zeros if they were asked for, if the block was carved, and always from the system. The
chunks of an arena without a budget must have numbers that fit into handles. -/
theorem contents_survive :
    (∀ (config : Config) (allocator : SegregatedAllocator),
      SegregatedAllocator.create config = .ok allocator → config.trackLoans = true →
        (∀ holdings after, Custody allocator holdings after →
          (after.config.maxChunks = none → after.arena.ChunksNamed) →
            ∀ holding ∈ holdings, holding.Kept after) ∧
        (∀ holdings after, Custody (LeakChecker.around allocator) holdings after →
          (after.inner.config.maxChunks = none → after.inner.arena.ChunksNamed) →
            ∀ holding ∈ holdings, holding.Kept after)) ∧
    (∀ holdings after, Custody SystemAllocator.empty holdings after →
      ∀ holding ∈ holdings, holding.Kept after ∧
        holding.issued = List.replicate holding.block.size 0) ∧
    (∀ holdings after, Custody (LeakChecker.around SystemAllocator.empty) holdings after →
      ∀ holding ∈ holdings, holding.Kept after ∧
        holding.issued = List.replicate holding.block.size 0) := by
  refine ⟨fun config allocator created tracked => ?_, ?_, ?_⟩
  · have lends := SegregatedAllocator.lends_of_create config allocator created tracked
    refine ⟨fun holdings after custody named => ?_, fun holdings after custody named => ?_⟩
    · exact (custody.keeps lends named).kept
    · have around := LeakChecker.lends_around allocator lends
      exact (custody.keeps around named).kept
  · intro holdings after custody holding member
    have kept := (custody.keeps SystemAllocator.sound_empty trivial).kept
    have fresh := custody.fresh (fun _ _ => rfl) holding member
    exact ⟨kept holding member, (kept holding member).zeros (Or.inr fresh)⟩
  · intro holdings after custody holding member
    have around := LeakChecker.lends_around SystemAllocator.empty SystemAllocator.sound_empty
    have kept := (custody.keeps around trivial).kept
    have fresh := custody.fresh (fun _ _ => rfl) holding member
    exact ⟨kept holding member, (kept holding member).zeros (Or.inr fresh)⟩

/-- A block that is lent, written, returned and lent again still shows the write, and a later
write to its second word shows next to it. -/
theorem contents_survive_reuse :
    ∃ (holdings : List Holding) (after : SegregatedAllocator),
      Custody (SegregatedAllocator.fresh (.recording 4)) holdings after ∧
        holdings.map (·.block) = [⟨⟨0, 0, 0⟩, 2⟩, ⟨⟨0, 2, 0⟩, 1⟩] ∧
        after.words? ⟨0, 0, 0⟩ 2 = some [7, 9] := by
  have created : Custody (SegregatedAllocator.fresh (.recording 4)) [] _ := .start
  have first := created.lent _ _ _ false .addressable 2 _ _ rfl
  have marked := first.written _ _ _ 1 (.constant 7) List.mem_cons_self (by decide)
  have second := marked.lent _ _ _ true .addressable 1 _ _ rfl
  have returned := second.returned _ _ _ ⟨0, 0, 0⟩ 2 _ rfl
  have again := returned.lent _ _ _ false .addressable 2 _ _ rfl
  have rewritten := again.written _ _ _ 2 (fun place => if place = 1 then some 9 else none)
    List.mem_cons_self (by decide)
  refine ⟨_, _, rewritten, rfl, ?_⟩
  have kept := (contents_survive.1 (.recording 4) _ rfl rfl).1 _ _ rewritten (fun _ => by decide)
    _ List.mem_cons_self
  refine kept.reads.trans ?_
  decide +kernel

/-- Every chunk number is used up, and two words are lent: the holding has no words at all. -/
theorem contents_lost_past_chunk_numbers :
    ∃ (holdings : List Holding) (after : SegregatedAllocator),
      Custody (SegregatedAllocator.fresh (.recording 2)) holdings after ∧
        (∃ holding ∈ holdings, holding.block = ⟨⟨0, 0, 0⟩, 2⟩) ∧
        after.words? ⟨0, 0, 0⟩ 2 = none := by
  obtain ⟨before, crowded, holdings, custody⟩ := SegregatedAllocator.exists_crowded
    (fun _ allocator =>
      ∃ holdings, Custody (SegregatedAllocator.fresh (.recording 2)) holdings allocator)
    true ⟨[], .start⟩
    (fun _ before after events _ _ ⟨holdings, custody⟩ granted =>
      ⟨_, custody.lent _ before after false .addressable _ _ events granted⟩)
    (2 ^ 32) (Nat.le_succ _)
  obtain ⟨after, events, later, granted⟩ := crowded.allocate_past_numbers
  have lent := custody.lent _ before after false .addressable 2 ⟨0, 0, 0⟩ events granted
  exact ⟨_, after, lent, ⟨_, List.mem_cons_self, rfl⟩, later.words?_first⟩

end Allotment
