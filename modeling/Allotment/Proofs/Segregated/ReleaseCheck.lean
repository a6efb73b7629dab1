/-
The check of a release, where loans are recorded, against the history of the run. The
allocator looks into its record and searches the released blocks; the history says
what happened to the handle last. Both give the same verdict, for every handle and
every size, however the client came by them.

None of this needs the numbers of chunks to fit into handles, only that an accepted
release is then carried out does: where two chunks would go by one number, a loan may
lie beyond the words of the chunk that its handle names.
-/

import Allotment.Proofs.Lending.Verdict
import Allotment.Proofs.Segregated.Crowding

namespace Allotment

namespace SegregatedAllocator

open History (crowd)

/-! ### The record tells the latest deeds -/

/-- The recorded loans are the handles whose latest deed is a loan. -/
structure Recorded (history : History) (allocator : SegregatedAllocator) : Prop where
  accounted : history.Accounted
  latest : ∀ book ∈ allocator.loans, ∀ (handle : Handle) (size : Nat),
    book.size? handle = some size ↔ history.latest? handle = some (.lent ⟨handle, size⟩)

namespace Recorded

variable {history : History} {allocator : SegregatedAllocator}

/-- A handle that was not lent last is not in the record. -/
theorem size?_eq_none (recorded : Recorded history allocator) (book : LoanBook)
    (found : allocator.loans = some book) (handle : Handle)
    (unlent : ∀ block, history.latest? handle ≠ some (.lent block)) :
    book.size? handle = none := by
  cases noted : book.size? handle with
  | none => rfl
  | some size => exact absurd ((recorded.latest book found handle size).mp noted) (unlent _)

theorem lend (recorded : Recorded history allocator) (block : Block) (next : SegregatedAllocator)
    (same : next.loans = allocator.loans) :
    Recorded (.lent block :: history) (next.lend block) where
  accounted := recorded.accounted
  latest := by
    intro book member handle size
    have noted : book ∈ next.loans.map (·.record block) := member
    rw [same] at noted
    obtain ⟨earlier, found, rfl⟩ := Option.map_eq_some_iff.mp noted
    by_cases names : block.handle = handle
    · subst names
      rw [LoanBook.size?_record_self, History.latest?_lent_self, Option.some_inj, Option.some_inj,
        Deed.lent.injEq]
      exact ⟨fun equal => by rw [← equal], fun equal => by rw [equal]⟩
    · rw [LoanBook.size?_record_other _ _ _ names, History.latest?_lent_other _ _ _ names]
      exact recorded.latest earlier found handle size

theorem shelve (recorded : Recorded history allocator) (block : Block)
    (returned : history.latest? block.handle = some (.lent block)) :
    Recorded (.returned block :: history)
      (allocator.shelve block (allocator.loans.map fun book => book.erase block.handle)) where
  accounted := ⟨recorded.accounted, returned⟩
  latest := by
    intro book member handle size
    obtain ⟨earlier, found, rfl⟩ := Option.map_eq_some_iff.mp member
    by_cases names : block.handle = handle
    · subst names
      rw [LoanBook.size?_erase_self, History.latest?_returned_self]
      exact ⟨nofun, nofun⟩
    · rw [LoanBook.size?_erase_other _ _ _ names, History.latest?_returned_other _ _ _ names]
      exact recorded.latest earlier found handle size

end Recorded

section Run

variable {config : Config} {Permits : History → Command → Prop} {history : History}
  {allocator : SegregatedAllocator}

/-- Where loans are recorded there is a record in every state. -/
theorem exists_book (run : Run config Permits history allocator)
    (tracked : config.trackLoans = true) : ∃ book, allocator.loans = some book :=
  Option.isSome_iff_exists.mp ((configured_of_run run).recorded.trans tracked)

theorem recorded_of_run (run : Run config Permits history allocator)
    (tracked : config.trackLoans = true) : Recorded history allocator := by
  induction run with
  | start allocator created =>
    obtain ⟨_, rfl⟩ := configured_of_create config allocator created
    refine ⟨trivial, fun book member handle size => ?_⟩
    have empty : (if config.trackLoans then some [] else none) = some book := member
    rw [if_pos tracked] at empty
    cases empty
    exact ⟨nofun, nofun⟩
  | step history deeds before after command events run permitted performed inductionHypothesis =>
    cases before.change_of_perform command deeds after events performed with
    | nothing => exact inductionHypothesis
    | written handle size patch stored overwrites =>
      exact ⟨inductionHypothesis.accounted, inductionHypothesis.latest⟩
    | reused handle size left positive small taken =>
      exact inductionHypothesis.lend ⟨handle, size⟩ _ rfl
    | carved memory handle size grown events positive small absent obtained =>
      exact inductionHypothesis.lend ⟨handle, size⟩ _ rfl
    | returned handle size positive carved lending isLoan =>
      obtain ⟨book, found⟩ := exists_book run tracked
      have latest := (inductionHypothesis.latest book found handle size).mp (isLoan book found)
      exact inductionHypothesis.shelve ⟨handle, size⟩ latest
    | cleared =>
      refine ⟨trivial, fun book member handle size => ?_⟩
      obtain ⟨_, _, rfl⟩ := Option.map_eq_some_iff.mp member
      exact ⟨nofun, nofun⟩

/-! ### The verdict -/

theorem holds_iff (free : FreeBlocks) (handle : Handle) :
    free.holds handle = true ↔ ∃ block ∈ free, block.handle = handle := by
  rw [FreeBlocks.holds, List.any_eq_true]
  exact ⟨fun ⟨block, member, same⟩ => ⟨block, member, of_decide_eq_true same⟩,
    fun ⟨block, member, same⟩ => ⟨block, member, decide_eq_true same⟩⟩

/-- The check of the allocator gives the verdict of the history. -/
theorem checkRelease_eq_verdict (run : Run config Permits history allocator)
    (tracked : config.trackLoans = true) (handle : Handle) (size : Nat) (positive : size ≠ 0)
    (current : handle.epoch = allocator.arena.epoch) :
    allocator.checkRelease handle size = history.verdict handle size := by
  obtain ⟨book, found⟩ := exists_book run tracked
  have recorded := recorded_of_run run tracked
  rw [checkRelease, if_neg positive, if_neg (not_not_intro current), found]
  show allocator.checkAgainstRecord book handle size = _
  rw [checkAgainstRecord, History.verdict]
  cases latest : history.latest? handle with
  | none =>
    have absent : ¬ allocator.free.holds handle = true := by
      rw [holds_iff, free_eq_shelf run]
      rintro ⟨block, member, rfl⟩
      exact History.latest?_ne_none_of_mem_shelf history block member latest
    rw [recorded.size?_eq_none book found handle fun _ lent => nomatch latest.symm.trans lent]
    exact if_neg absent
  | some deed =>
    have names := History.names_of_latest? history handle deed latest
    cases deed with
    | lent block =>
      cases names
      rw [(recorded.latest book found _ _).mpr latest]
    | returned block =>
      cases names
      have waiting : allocator.free.holds block.handle = true := by
        rw [holds_iff, free_eq_shelf run]
        exact ⟨block, History.mem_shelf_of_latest? history block latest, rfl⟩
      rw [recorded.size?_eq_none book found _ fun _ lent => nomatch latest.symm.trans lent]
      exact if_pos waiting
    | cleared => cases names

/-- A release that passes the check is carried out, where the chunks have numbers that fit. -/
theorem deallocate_of_verdict (run : Run config Permits history allocator)
    (tracked : config.trackLoans = true) (named : allocator.arena.ChunksNamed)
    (handle : Handle) (size : Nat)
    (lent : history.latest? handle = some (.lent ⟨handle, size⟩)) :
    ∃ next, allocator.deallocate handle size = .done () next [] := by
  obtain ⟨book, found⟩ := exists_book run tracked
  have noted := ((recorded_of_run run tracked).latest book found handle size).mpr lent
  have sound := sound_of_run (run.proper tracked) named
  exact ⟨_, sound.deallocate_eq book found handle size noted⟩

end Run

/-! ### Every release -/

section Release

variable (allocator : SegregatedAllocator) (handle : Handle) (size : Nat)

/-- A release is refused for what the check says, and then nothing changed. -/
theorem tryDeallocate_eq_refused_iff (cause : Refusal) :
    allocator.tryDeallocate handle size = .refused cause allocator ↔
      allocator.checkRelease handle size = .error cause := by
  unfold tryDeallocate
  cases allocator.checkRelease handle size with
  | error other =>
    refine ⟨fun equal => ?_, fun equal => ?_⟩
    · cases equal
      rfl
    · cases equal
      rfl
  | ok _ =>
    refine ⟨fun equal => ?_, nofun⟩
    obtain ⟨_, _, mismatch⟩ := (Step.mapAnswer_eq_done_iff _ _ _ _ _).mp equal
    cases mismatch

theorem checkRelease_zeroSize_iff :
    allocator.checkRelease handle size = .error .zeroSize ↔ size = 0 := by
  unfold checkRelease checkAgainstRecord checkCarved
  refine ⟨fun refused => ?_, fun none => if_pos none⟩
  by_contra words
  rw [if_neg words] at refused
  repeat' split at refused
  all_goals cases refused

theorem checkRelease_staleHandle_iff :
    allocator.checkRelease handle size =
        .error (.staleHandle handle.epoch allocator.arena.epoch) ↔
      size ≠ 0 ∧ handle.epoch ≠ allocator.arena.epoch := by
  unfold checkRelease checkAgainstRecord checkCarved
  constructor
  · intro refused
    by_cases none : size = 0
    · rw [if_pos none] at refused
      cases refused
    by_cases stale : handle.epoch ≠ allocator.arena.epoch
    · exact ⟨none, stale⟩
    rw [if_neg none, if_neg stale] at refused
    repeat' split at refused
    all_goals cases refused
  · rintro ⟨words, stale⟩
    rw [if_neg words, if_pos stale]

end Release

/-! ### Past the last chunk number -/

theorem latest?_crowd_past_numbers :
    (crowd (2 ^ 32 + 1)).latest? ⟨0, 0, 0⟩ = some (.lent ⟨⟨0, 0, 0⟩, 2⟩) := by
  rw [crowd, History.crowdLoan_past_numbers]
  exact History.latest?_lent_self _ ⟨⟨0, 0, 0⟩, 2⟩

/-- The checked release of the loan that is named after the wrong chunk passes the check, and then
it is a fault. -/
theorem Crowded.tryDeallocate_first {Permits : History → Command → Prop}
    {allocator : SegregatedAllocator} (crowded : Crowded (2 ^ 32 + 1) allocator)
    (run : Run (.recording 2) Permits (crowd (2 ^ 32 + 1)) allocator) :
    allocator.tryDeallocate ⟨0, 0, 0⟩ 2 = .fault (.notCarved ⟨0, 0, 0⟩ 2 0) [] := by
  have accepted := checkRelease_eq_verdict run rfl ⟨0, 0, 0⟩ 2 (by decide) crowded.epoch.symm
  rw [(History.verdict_ok_iff _ _ _).mpr latest?_crowd_past_numbers] at accepted
  rw [tryDeallocate, accepted]
  simp only [crowded.deallocate_first]
  rfl

/-! ### The whole check -/

/-- Where loans are recorded, what a checked release answers is told by the size, the epoch and
the history: which of the six answers it is, and that no refusal changes anything. An accepted
release is carried out as long as no two chunks go by one number. -/
theorem tryDeallocate_exact (config : Config) (Permits : History → Command → Prop)
    (history : History) (allocator : SegregatedAllocator)
    (run : Run config Permits history allocator) (tracked : config.trackLoans = true)
    (handle : Handle) (size : Nat) :
    (allocator.tryDeallocate handle size = .refused .zeroSize allocator ↔ size = 0) ∧
    (allocator.tryDeallocate handle size =
        .refused (.staleHandle handle.epoch allocator.arena.epoch) allocator ↔
      size ≠ 0 ∧ handle.epoch ≠ allocator.arena.epoch) ∧
    (size ≠ 0 → handle.epoch = allocator.arena.epoch →
      ((config.maxChunks = none → allocator.arena.ChunksNamed) →
        ((∃ next events, allocator.tryDeallocate handle size = .done (.ok ()) next events) ↔
          history.latest? handle = some (.lent ⟨handle, size⟩))) ∧
      (∀ issued, allocator.tryDeallocate handle size =
          .refused (.sizeMismatch handle issued size) allocator ↔
        issued ≠ size ∧ history.latest? handle = some (.lent ⟨handle, issued⟩)) ∧
      (allocator.tryDeallocate handle size = .refused (.doubleFree handle) allocator ↔
        ∃ issued, history.latest? handle = some (.returned ⟨handle, issued⟩)) ∧
      (allocator.tryDeallocate handle size = .refused (.foreignHandle handle) allocator ↔
        ¬ history.Issued handle)) ∧
    ∀ cause next events,
      allocator.tryDeallocate handle size = .done (.error cause) next events →
        next = allocator ∧ events = [] := by
  simp only [tryDeallocate_eq_refused_iff]
  refine ⟨checkRelease_zeroSize_iff _ _ _, checkRelease_staleHandle_iff _ _ _,
    fun words current => ?_, tryDeallocate_refused allocator handle size⟩
  have recorded := recorded_of_run run tracked
  have verdict := checkRelease_eq_verdict run tracked handle size words current
  rw [← History.latest?_eq_none_iff history recorded.accounted, ← History.verdict_ok_iff]
  simp only [← History.verdict_sizeMismatch_iff, ← History.verdict_doubleFree_iff _ _ size,
    ← History.verdict_foreignHandle_iff _ _ size, verdict, and_true]
  refine ⟨fun named => ⟨?_, fun accepted => ?_⟩, fun _ => trivial⟩
  · rintro ⟨next, events, granted⟩
    rw [← verdict]
    cases check : allocator.checkRelease handle size with
    | error cause =>
      rw [tryDeallocate, check] at granted
      cases granted
    | ok _ => rfl
  · have lent := (History.verdict_ok_iff history handle size).mp accepted
    obtain ⟨next, released⟩ := deallocate_of_verdict run tracked
      ((configured_of_run run).chunksNamed named) handle size lent
    refine ⟨next, [], ?_⟩
    rw [tryDeallocate, verdict, accepted, released]
    rfl

/-- A handle that came back and was lent again at its size: a release at another size is refused,
and at this size it is accepted. -/
theorem release_checked_after_reissue :
    ∃ (history : History) (allocator : SegregatedAllocator),
      Run (.recording 4) (fun _ _ => True) history allocator ∧
        history = [.lent ⟨⟨0, 0, 0⟩, 3⟩, .returned ⟨⟨0, 0, 0⟩, 3⟩, .lent ⟨⟨0, 0, 0⟩, 3⟩] ∧
        allocator.tryDeallocate ⟨0, 0, 0⟩ 2 =
          .refused (.sizeMismatch ⟨0, 0, 0⟩ 3 2) allocator ∧
        ∃ next events, allocator.tryDeallocate ⟨0, 0, 0⟩ 3 = .done (.ok ()) next events := by
  have created : Run (.recording 4) (fun _ _ => True) [] (fresh (.recording 4)) := .start _ rfl
  have lent := created.step _ _ _ _ (.tryAllocate .addressable 3) _ trivial rfl
  have returned := lent.step _ _ _ _ (.tryDeallocate ⟨0, 0, 0⟩ 3) _ trivial rfl
  have again := returned.step _ _ _ _ (.tryAllocate .addressable 3) _ trivial rfl
  obtain ⟨_, _, short, _⟩ := tryDeallocate_exact _ _ _ _ again rfl ⟨0, 0, 0⟩ 2
  obtain ⟨_, _, whole, _⟩ := tryDeallocate_exact _ _ _ _ again rfl ⟨0, 0, 0⟩ 3
  exact ⟨_, _, again, rfl, ((short (by decide) rfl).2.1 3).mpr ⟨by decide, rfl⟩,
    ((whole (by decide) rfl).1 fun _ => by decide).mpr rfl⟩

/-- With one more chunk than there are numbers, the release of the block that was lent last is a
fault: its handle names the first chunk, where only one word is carved. -/
theorem release_faults_past_chunk_numbers :
    ∃ allocator : SegregatedAllocator,
      Run (.recording 2) (fun _ _ => True) (crowd (2 ^ 32 + 1)) allocator ∧
        (crowd (2 ^ 32 + 1)).resets = 0 ∧ allocator.arena.epoch = 0 ∧
        (crowd (2 ^ 32 + 1)).latest? ⟨0, 0, 0⟩ = some (.lent ⟨⟨0, 0, 0⟩, 2⟩) ∧
        allocator.tryDeallocate ⟨0, 0, 0⟩ 2 = .fault (.notCarved ⟨0, 0, 0⟩ 2 0) [] := by
  obtain ⟨allocator, crowded, run⟩ :=
    exists_crowded_run (fun _ _ => True) (fun _ _ _ => trivial) true _ (Nat.le_refl _)
  exact ⟨allocator, run, History.resets_crowd _, crowded.epoch, latest?_crowd_past_numbers,
    crowded.tryDeallocate_first run⟩

end SegregatedAllocator

end Allotment
