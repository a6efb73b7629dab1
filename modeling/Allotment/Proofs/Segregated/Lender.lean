/-
The segregated allocator as a lender, where it records its loans. A reused block lies
where it lay, so no word changes; a block that is carved only adds words. A write goes
to words that are carved, and the other blocks on loan lie elsewhere.
-/

import Allotment.Proofs.Lending.Custody
import Allotment.Proofs.Segregated.Soundness

namespace Allotment

namespace SegregatedAllocator

instance : Recycler SegregatedAllocator where
  recycles allocator size := (allocator.free.take? size).isSome

/-- The allocator records its loans, and a run led to it with these blocks on loan. -/
def Lends (allocator : SegregatedAllocator) (loans : List Block) : Prop :=
  ∃ history, allocator.config.trackLoans = true ∧
    Run allocator.config (Proper allocator.config) history allocator ∧ history.loans = loans

/-- Every chunk has a number that fits into a handle. A chunk budget sees to that. -/
def Named (allocator : SegregatedAllocator) : Prop :=
  allocator.config.maxChunks = none → allocator.arena.ChunksNamed

section Change

variable {before after : SegregatedAllocator} {deeds : History}

theorem config_of_change (change : Change before deeds after) : after.config = before.config := by
  cases change <;> rfl

theorem named_of_change (change : Change before deeds after) (kept : deeds ≠ [.cleared])
    (named : Named after) : Named before := by
  intro unlimited
  have namedAfter := named ((config_of_change change).symm ▸ unlimited)
  exact (chunksNamed_of_change namedAfter change).resolve_right kept

/-- A command adds its deeds to the history. -/
theorem Lends.step {loans : List Block} (lends : Lends before loans) (command : Command)
    (events : List Event) (performed : before.perform command = .done deeds after events) :
    ∃ history, history.loans = loans ∧ Lends after (History.loans (deeds ++ history)) := by
  obtain ⟨history, tracked, run, same⟩ := lends
  have config := config_of_change (before.change_of_perform command deeds after events performed)
  refine ⟨history, same, deeds ++ history, config ▸ tracked, ?_, rfl⟩
  rw [config]
  exact run.step history deeds before after command events
    (proper_of_trackLoans tracked history command) performed

theorem Lends.configured {allocator : SegregatedAllocator} {loans : List Block}
    (lends : Lends allocator loans) : Configured allocator.config allocator := by
  obtain ⟨_, _, run, _⟩ := lends
  exact configured_of_run run

/-- An allocator that lends is sound, where the chunks have numbers that fit. -/
theorem Lends.sound {allocator : SegregatedAllocator} {loans : List Block}
    (lends : Lends allocator loans) (named : Named allocator) :
    ∃ history, history.loans = loans ∧ Sound history allocator := by
  obtain ⟨history, _, run, same⟩ := lends
  exact ⟨history, same, sound_of_run run ((configured_of_run run).chunksNamed named)⟩

theorem Lends.carved {allocator : SegregatedAllocator} {loans : List Block}
    (lends : Lends allocator loans) (named : Named allocator) (block : Block)
    (member : block ∈ loans) : allocator.arena.contains block.handle block.size = true := by
  obtain ⟨history, rfl, sound⟩ := lends.sound named
  exact sound.carved block (List.mem_append_left _ member)

end Change

/-! ### The operations -/

section Operations

variable {before after : SegregatedAllocator} {loans : List Block}

theorem Lends.lent (lends : Lends before loans) (memory : Memory) (size : Nat) (handle : Handle)
    (events : List Event) (named : Named after)
    (granted : before.allocate memory size = .done (.ok handle) after events) :
    Lends after (⟨handle, size⟩ :: loans) ∧ Undisturbed before after loans ∧
      ∃ words, after.words? handle size = some words ∧ words.length = size ∧
        (Recycler.recycles before size = false → words = List.replicate size 0) := by
  have performed := perform_allocate granted
  have change := before.change_of_perform _ _ _ _ performed
  obtain ⟨history, same, lendsAfter⟩ := lends.step _ _ performed
  have namedBefore := named_of_change change (by simp) named
  subst same
  have carvedAfter := lendsAfter.carved named ⟨handle, size⟩ List.mem_cons_self
  have readable := after.arena.exists_words handle size carvedAfter
  refine ⟨lendsAfter, ?_⟩
  cases change with
  | reused _ _ left positive small taken =>
    obtain ⟨words, found, length⟩ := readable
    refine ⟨fun _ _ => rfl, words, found, length, fun fresh => ?_⟩
    have recycled : (before.free.take? size).isSome = false := fresh
    rw [taken] at recycled
    cases recycled
  | carved memory _ _ grown logged positive small absent obtained =>
    have handed := handsOut_of_carved lends.configured memory handle size grown logged positive
      small absent obtained (lendsAfter.configured.chunksNamed named)
    refine ⟨fun block member => ?_, _, handed.words, List.length_replicate, fun _ => rfl⟩
    exact handed.extension.words? _ _ (lends.carved namedBefore block member)

theorem Lends.returned (lends : Lends before loans) (handle : Handle) (size : Nat)
    (events : List Event) (named : Named after)
    (granted : before.tryDeallocate handle size = .done (.ok ()) after events) :
    ⟨handle, size⟩ ∈ loans ∧ Lends after (loans.erase ⟨handle, size⟩) ∧
      Undisturbed before after (loans.erase ⟨handle, size⟩) := by
  have performed : before.perform (.tryDeallocate handle size) =
      .done [.returned ⟨handle, size⟩] after events :=
    (Step.mapAnswer_eq_done_iff _ _ _ _ _).mpr ⟨_, granted, rfl⟩
  have change := before.change_of_perform _ _ _ _ performed
  obtain ⟨history, same, lendsAfter⟩ := lends.step _ _ performed
  obtain ⟨earlier, equal, sound⟩ := lends.sound (named_of_change change (by simp) named)
  subst same
  cases change with
  | returned _ _ positive carved lending isLoan =>
    have configured := lends.configured
    obtain ⟨_, tracked, _, _⟩ := lends
    obtain ⟨book, found⟩ := Option.isSome_iff_exists.mp (configured.recorded.trans tracked)
    have onLoan := sound.mem_loans book found handle size (isLoan book found)
    exact ⟨equal ▸ onLoan, lendsAfter, fun _ _ => rfl⟩

/-- A write to a block on loan shows in it as an overlay and nowhere else. -/
theorem Lends.written (lends : Lends before loans) (named : Named before) (block : Block)
    (size : Nat) (patch : Patch) (member : block ∈ loans) (inside : size ≤ block.size) :
    Lends (Allocator.store before block.handle size patch) loans ∧
      Undisturbed before (Allocator.store before block.handle size patch) (loans.erase block) ∧
      (Allocator.store before block.handle size patch).words? block.handle block.size =
        (before.words? block.handle block.size).map fun words => overlay words size patch := by
  obtain ⟨earlier, equal, lendsAfter⟩ := lends.step (.write block.handle size patch) [] rfl
  obtain ⟨history, same, sound⟩ := lends.sound named
  refine ⟨equal ▸ lendsAfter, ?_⟩
  subst same
  have carved := lends.carved named block member
  have kept : Allocator.store before block.handle size patch =
      (before.store? block.handle size patch).getD before := rfl
  rw [kept, store?]
  cases overwrites : before.arena.store? block.handle size patch with
  | none =>
    have none : size = 0 := by
      by_contra some
      obtain ⟨stored, found⟩ := before.arena.exists_store?_of_contains block.handle size patch
        (before.arena.contains_of_le _ _ size carved (Nat.pos_of_ne_zero some) inside)
      rw [overwrites] at found
      cases found
    subst none
    refine ⟨fun _ _ => rfl, ?_⟩
    simp only [overlay_zero, Option.map_id', Option.map_none, Option.getD_none]
  | some stored =>
    refine ⟨fun other otherMember => ?_, Arena.words?_store_self overwrites _ carved⟩
    have onLoan := List.mem_of_mem_erase otherMember
    have apart : block.Apart other := by
      have loansApart := sound.apart.sublist (List.sublist_append_left history.loans history.shelf)
      have split := ((List.perm_cons_erase member).pairwise_iff Block.Apart.symm).mp loansApart
      exact (List.pairwise_cons.mp split).1 other otherMember
    exact Arena.words?_store_other overwrites other (lends.carved named other onLoan)
      (apart.of_le inside)

end Operations

instance : Lender SegregatedAllocator where
  Lends := Lends
  Named := Named
  named_of_allocate memory before after size answer events done named := by
    refine named_of_change (before.change_of_allocate memory size answer after events done) ?_ named
    cases answer <;> simp [lentDeeds]
  named_of_tryDeallocate before after handle size answer events done named := by
    refine named_of_change
      (before.change_of_tryDeallocate handle size answer after events done) ?_ named
    cases answer <;> simp [grantedDeeds]
  named_of_store allocator handle size patch named :=
    named_of_change (allocator.change_of_perform (.write handle size patch) _ _ _ rfl)
      (by simp) named
  distinct allocator loans lends named := by
    obtain ⟨history, rfl, sound⟩ := lends.sound named
    exact sound.nodup_loans
  lent memory before after size handle events loans lends named granted :=
    lends.lent memory size handle events named granted
  declined memory before after size cause events loans lends refused :=
    (before.allocate_refused memory size cause after events refused).1
  returned before after handle size events loans lends named granted :=
    lends.returned handle size events named granted
  rejected before after handle size cause events loans lends refused :=
    (before.tryDeallocate_refused handle size cause after events refused).1
  written allocator loans block size patch lends named member inside :=
    lends.written named block size patch member inside

/-- A new allocator that records its loans lends nothing yet. -/
theorem lends_of_create (config : Config) (allocator : SegregatedAllocator)
    (created : create config = .ok allocator) (tracked : config.trackLoans = true) :
    Lends allocator [] := by
  obtain ⟨configured, _⟩ := configured_of_create config allocator created
  refine ⟨[], configured.settings ▸ tracked, ?_, rfl⟩
  rw [configured.settings]
  exact .start allocator created

end SegregatedAllocator

end Allotment
