/-
The calls of the segregated allocator that check their arguments. Whatever a client hands
to them, they are granted or refused: what the operations underneath demand follows from
the check and from what a run keeps.

There is one exception. Without a record of loans a release passes the check if its words
were carved and do not wait at its size. That something is on loan is not part of the
check, so such a release ends in a fault when nothing is.
-/

import Allotment.Proofs.Arena.Counting
import Allotment.Proofs.Segregated.ReleaseCheck

namespace Allotment

namespace SegregatedAllocator

/-! ### Counting -/

/-- Every block on loan and every released block was carved, and it has a word at least. -/
structure Counted (allocator : SegregatedAllocator) : Prop where
  arena : allocator.arena.Counted
  blocks : allocator.live + allocator.free.length ≤ allocator.arena.carvedWords

section Count

variable {before after : SegregatedAllocator} {deeds : History}

/-- A block that goes on loan or comes back is still one block. -/
theorem counted_of_change (counted : Counted before) (change : Change before deeds after) :
    Counted after := by
  have blocks := counted.blocks
  cases change with
  | nothing => exact counted
  | written handle size patch stored overwrites =>
    obtain ⟨arena, same⟩ := counted.arena.store overwrites
    exact ⟨arena, same.symm ▸ blocks⟩
  | reused handle size left positive small taken =>
    obtain ⟨waiting, rfl⟩ := FreeBlocks.take?_eq_some size _ left handle taken
    have gone := List.length_erase_of_mem waiting
    have some := List.length_pos_of_mem waiting
    refine ⟨counted.arena, ?_⟩
    show before.live + 1 + (List.erase before.free ⟨handle, size⟩).length ≤
      before.arena.carvedWords
    omega
  | carved memory handle size grown events positive small absent obtained =>
    obtain ⟨arena, more⟩ :=
      counted.arena.obtain memory size handle events positive obtained
    refine ⟨arena, ?_⟩
    show before.live + 1 + before.free.length ≤ grown.carvedWords
    omega
  | returned handle size positive carved lending isLoan =>
    refine ⟨counted.arena, ?_⟩
    show before.live - 1 + (before.free.length + 1) ≤ before.arena.carvedWords
    omega
  | cleared => exact ⟨Arena.counted_of_no_chunks _ rfl rfl, Nat.le_refl _⟩

theorem counted_of_run {config : Config} {Permits : History → Command → Prop}
    {history : History} (run : Run config Permits history after) : Counted after := by
  induction run with
  | start allocator created =>
    obtain ⟨_, rfl⟩ := configured_of_create config allocator created
    exact ⟨Arena.counted_of_no_chunks _ rfl rfl, Nat.le_refl _⟩
  | step history deeds before after command events run permitted performed inductionHypothesis =>
    exact counted_of_change inductionHypothesis
      (before.change_of_perform command deeds after events performed)

end Count

/-! ### Releases that pass the check -/

section Release

variable (allocator : SegregatedAllocator) (handle : Handle) (size : Nat)

/-- Against a record only a loan at its size passes. -/
theorem size?_of_checkRelease (book : LoanBook) (found : allocator.loans = some book)
    (passed : allocator.checkRelease handle size = .ok ()) : book.size? handle = some size := by
  unfold checkRelease at passed
  split at passed
  · cases passed
  split at passed
  · cases passed
  rw [found] at passed
  unfold checkAgainstRecord at passed
  cases noted : book.size? handle with
  | none =>
    simp only [noted] at passed
    split at passed <;> cases passed
  | some expected =>
    simp only [noted] at passed
    split at passed
    · next same => rw [same]
    · cases passed

/-- Without a record whatever was carved and does not wait at the size passes. -/
theorem checkRelease_eq_ok_iff (unrecorded : allocator.loans = none) :
    allocator.checkRelease handle size = .ok () ↔
      allocator.arena.contains handle size = true ∧ ⟨handle, size⟩ ∉ allocator.free := by
  unfold checkRelease
  rw [unrecorded]
  constructor
  · intro passed
    split at passed
    · cases passed
    split at passed
    · cases passed
    change allocator.checkCarved handle size = .ok () at passed
    unfold checkCarved at passed
    split at passed
    · cases passed
    next carved =>
    split at passed
    · cases passed
    next elsewhere => exact ⟨(Bool.not_eq_false _).mp carved, elsewhere⟩
  · rintro ⟨carved, elsewhere⟩
    obtain ⟨current, positive, _⟩ := (Arena.contains_iff _ _ _).mp carved
    rw [if_neg (Nat.ne_of_gt positive), if_neg (not_not_intro current)]
    show allocator.checkCarved handle size = .ok ()
    rw [checkCarved, carved, if_neg Bool.noConfusion, if_neg elsewhere]

/-- No loans are recorded, nothing is on loan, and the words were carved and do not wait at this
size. -/
def IdleRelease : Prop :=
  allocator.loans = none ∧ allocator.live = 0 ∧
    allocator.arena.contains handle size = true ∧ ⟨handle, size⟩ ∉ allocator.free

/-- A release that passes the check while nothing is on loan is a fault. -/
theorem tryDeallocate_of_idleRelease (idle : allocator.IdleRelease handle size) :
    allocator.tryDeallocate handle size = .fault (.noOutstandingLoans handle) [] := by
  obtain ⟨unrecorded, none, carved, elsewhere⟩ := idle
  obtain ⟨_, positive, _⟩ := (Arena.contains_iff _ _ _).mp carved
  rw [tryDeallocate,
    (allocator.checkRelease_eq_ok_iff handle size unrecorded).mpr ⟨carved, elsewhere⟩]
  show (allocator.deallocate handle size).mapAnswer _ = _
  rw [deallocate, if_neg (Nat.ne_of_gt positive), carved, if_neg Bool.noConfusion, if_pos none]
  rfl

end Release

/-- A release of a block on loan at its size is carried out, whether loans are recorded or not. -/
theorem Sound.tryDeallocate_eq {history : History} {allocator : SegregatedAllocator}
    (sound : Sound history allocator) (shelved : allocator.free = history.shelf)
    (handle : Handle) (size : Nat) (onLoan : ⟨handle, size⟩ ∈ history.loans) :
    allocator.tryDeallocate handle size =
      .done (.ok ()) (allocator.shelve ⟨handle, size⟩
        (allocator.loans.map fun book => book.erase handle)) [] := by
  obtain ⟨positive, carved, lending⟩ := sound.admits_release ⟨handle, size⟩ onLoan
  have recorded : ∀ book ∈ allocator.loans, book.size? handle = some size := by
    intro book found
    cases sound.book book found
    exact LoanBook.size?_of_mem _ sound.nodup_loans ⟨handle, size⟩ onLoan
  have passed : allocator.checkRelease handle size = .ok () := by
    cases noted : allocator.loans with
    | none =>
      have elsewhere : ⟨handle, size⟩ ∉ allocator.free := by
        rw [shelved]
        exact fun waiting => sound.handle_ne _ _ onLoan waiting rfl
      exact (allocator.checkRelease_eq_ok_iff handle size noted).mpr ⟨carved, elsewhere⟩
    | some book =>
      have current := sound.current _ (List.mem_append_left _ onLoan)
      rw [checkRelease, if_neg (Nat.ne_of_gt positive), if_neg (not_not_intro current), noted]
      show allocator.checkAgainstRecord book handle size = .ok ()
      rw [checkAgainstRecord, recorded book noted]
      exact if_pos rfl
  rw [tryDeallocate, passed]
  show (allocator.deallocate handle size).mapAnswer _ = _
  rw [allocator.deallocate_eq_done handle size positive carved lending recorded]
  rfl

section Run

variable {config : Config} {Permits : History → Command → Prop} {history : History}
  {allocator : SegregatedAllocator}

/-- Where loans are recorded, every checked release is granted or refused. -/
theorem tryDeallocate_isDone (run : Run config Permits history allocator)
    (tracked : config.trackLoans = true) (named : allocator.arena.ChunksNamed)
    (handle : Handle) (size : Nat) : (allocator.tryDeallocate handle size).IsDone := by
  unfold tryDeallocate
  cases check : allocator.checkRelease handle size with
  | error cause => trivial
  | ok _ =>
    obtain ⟨book, found⟩ := exists_book run tracked
    have noted := allocator.size?_of_checkRelease handle size book found check
    have sound := sound_of_run (run.proper tracked) named
    show ((allocator.deallocate handle size).mapAnswer _).IsDone
    rw [sound.deallocate_eq book found handle size noted]
    trivial

/-- Where loans are not recorded, a checked release is granted or refused while something is on
loan, and otherwise unless it passes the check. -/
theorem tryDeallocate_isDone_of_unrecorded (unrecorded : allocator.loans = none)
    (handle : Handle) (size : Nat) (busy : ¬ allocator.IdleRelease handle size) :
    (allocator.tryDeallocate handle size).IsDone := by
  unfold tryDeallocate
  cases check : allocator.checkRelease handle size with
  | error cause => trivial
  | ok _ =>
    obtain ⟨carved, elsewhere⟩ :=
      (allocator.checkRelease_eq_ok_iff handle size unrecorded).mp check
    obtain ⟨_, positive, _⟩ := (Arena.contains_iff _ _ _).mp carved
    have lending : 0 < allocator.live :=
      Nat.pos_of_ne_zero fun none => busy ⟨unrecorded, none, carved, elsewhere⟩
    have recorded : ∀ book ∈ allocator.loans, book.size? handle = some size := by
      rw [unrecorded]
      nofun
    show ((allocator.deallocate handle size).mapAnswer _).IsDone
    rw [allocator.deallocate_eq_done handle size positive carved lending recorded]
    trivial

end Run

/-! ### Every checked call -/

/-- The call checks its arguments. -/
def Command.Checked : Command → Prop
  | .allocate .. | .deallocate .. => False
  | _ => True

/-- A run of checked calls, with any arguments: the next checked call is granted or refused, unless
it is a release without a record of loans that passes the check while nothing is on loan. That
one is always the same fault, and with a record it cannot come about. Nothing that is counted
exceeds the words that were reserved. -/
theorem checked_calls_done (config : Config) (history : History)
    (allocator : SegregatedAllocator)
    (run : Run config (fun _ command => command.Checked) history allocator)
    (named : config.maxChunks = none → allocator.arena.ChunksNamed) :
    (∀ command : Command, command.Checked → (allocator.perform command).IsDone ∨
      ∃ handle size, command = .tryDeallocate handle size ∧
        allocator.IdleRelease handle size) ∧
    (∀ handle size, allocator.IdleRelease handle size → config.trackLoans = false ∧
      allocator.perform (.tryDeallocate handle size) =
        .fault (.noOutstandingLoans handle) []) ∧
    allocator.live + allocator.free.length ≤ allocator.arena.carvedWords ∧
    allocator.arena.carvedWords ≤ allocator.arena.usedWords ∧
    allocator.arena.usedWords ≤ allocator.arena.capacityWords ∧
    ∀ chunk ∈ allocator.arena.chunks, chunk.used ≤ chunk.capacity := by
  have configured := configured_of_run run
  have counted := counted_of_run run
  refine ⟨fun command checked => ?_, fun handle size idle => ⟨?_, ?_⟩, counted.blocks,
    counted.arena.carved, counted.arena.usedWords_le, counted.arena.used⟩
  · cases command with
    | allocate memory size => exact absurd checked id
    | deallocate handle size => exact absurd checked id
    | tryAllocate memory size =>
      exact Or.inl ((Step.isDone_mapAnswer _ _).mpr (allocator.tryAllocate_isDone memory size))
    | tryDeallocate handle size =>
      by_cases idle : allocator.IdleRelease handle size
      · exact Or.inr ⟨handle, size, rfl, idle⟩
      · refine Or.inl ((Step.isDone_mapAnswer _ _).mpr ?_)
        cases tracked : config.trackLoans with
        | true => exact tryDeallocate_isDone run tracked (configured.chunksNamed named) handle size
        | false =>
          have unrecorded : allocator.loans = none := by
            rw [← Option.not_isSome_iff_eq_none, configured.recorded, tracked]
            exact Bool.false_ne_true
          exact tryDeallocate_isDone_of_unrecorded unrecorded handle size idle
    | write handle size patch => exact Or.inl trivial
    | reset => exact Or.inl trivial
    | tryReset =>
      refine Or.inl ((Step.isDone_mapAnswer _ _).mpr ?_)
      unfold tryReset
      split
      · trivial
      · trivial
  · rw [← configured.recorded, idle.1]
    rfl
  · rw [perform, allocator.tryDeallocate_of_idleRelease handle size idle]
    rfl

/-- Without a record of loans: a block of three words came back as one of two words, which nothing
noticed, and the other block on loan can still be released. -/
theorem release_done_after_wrong_size :
    ∃ (history : History) (allocator : SegregatedAllocator),
      Run { chunkWords := 8, alignment := .doubleWord } (fun _ command => command.Checked)
        history allocator ∧
        allocator.live = 1 ∧ allocator.free = [⟨⟨0, 0, 0⟩, 2⟩] ∧
        (allocator.perform (.tryDeallocate ⟨0, 4, 0⟩ 3)).IsDone := by
  have created : Run { chunkWords := 8, alignment := .doubleWord }
    (fun _ command => command.Checked) [] (fresh _) := .start _ rfl
  have first := created.step _ _ _ _ (.tryAllocate .addressable 3) _ trivial rfl
  have second := first.step _ _ _ _ (.tryAllocate .addressable 3) _ trivial rfl
  have returned := second.step _ _ _ _ (.tryDeallocate ⟨0, 0, 0⟩ 2) _ trivial rfl
  refine ⟨_, _, returned, rfl, rfl, ?_⟩
  rcases (checked_calls_done _ _ _ returned fun _ => by decide).1 (.tryDeallocate ⟨0, 4, 0⟩ 3)
    trivial with done | ⟨handle, size, _, _, none, _⟩
  · exact done
  · exact absurd none (by decide)

/-- A block came back, and a checked release of its words at another size is a fault. -/
theorem checked_release_faults :
    ∃ (history : History) (allocator : SegregatedAllocator),
      Run { chunkWords := 64 } (fun _ command => command.Checked) history allocator ∧
        (Command.tryDeallocate ⟨0, 0, 0⟩ 3).Checked ∧
        allocator.perform (.tryDeallocate ⟨0, 0, 0⟩ 3) =
          .fault (.noOutstandingLoans ⟨0, 0, 0⟩) [] := by
  have created : Run { chunkWords := 64 } (fun _ command => command.Checked) [] (fresh _) :=
    .start _ rfl
  have lent := created.step _ _ _ _ (.tryAllocate .addressable 4) _ trivial rfl
  have returned := lent.step _ _ _ _ (.tryDeallocate ⟨0, 0, 0⟩ 4) _ trivial rfl
  exact ⟨_, _, returned, trivial, rfl⟩

end SegregatedAllocator

end Allotment
