/-
Resets that a leak checker is not told of. The allocator inside is reset and the record of
loans stays, so it holds blocks that no allocator has on loan. They stay in it for good: the
record lets their release through, and the allocator refuses their handles as stale.

They do no other harm. What the allocator lends from then on bears a later epoch, so it has
another handle than every stranded block, at the same place too, and is recorded next to
them. The record is therefore the loans of the allocator and the stranded blocks, and no
handle occurs twice in it. This counts on numbers for all chunks and for all epochs, since a
handle that is issued again while its block is on loan replaces that block in the record.
-/

import Allotment.Proofs.Audit.Lender
import Allotment.Proofs.Segregated.CheckedCalls
import Allotment.Proofs.Segregated.Crowding
import Allotment.Proofs.Segregated.Resolution

namespace Allotment

/-! ### Stranded blocks -/

namespace History

/-- The blocks that were on loan when there was a reset, the latest loan first. -/
def stranded : History → List Block
  | [] => []
  | .lent _ :: earlier => stranded earlier
  | .returned _ :: earlier => stranded earlier
  | .cleared :: earlier => loans earlier ++ stranded earlier

theorem lent_of_mem_loans (history : History) (block : Block) (onLoan : block ∈ history.loans) :
    .lent block ∈ history := by
  induction history with
  | nil => cases onLoan
  | cons deed earlier inductionHypothesis =>
    cases deed with
    | lent other =>
      rcases List.mem_cons.mp onLoan with rfl | older
      · exact List.mem_cons_self
      · exact List.mem_cons_of_mem _ (inductionHypothesis older)
    | returned other =>
      exact List.mem_cons_of_mem _ (inductionHypothesis (List.mem_of_mem_erase onLoan))
    | cleared => cases onLoan

/-- A block is stranded exactly if some reset found it on loan. -/
theorem mem_stranded_iff (history : History) (block : Block) :
    block ∈ history.stranded ↔
      ∃ newer older : History, history = newer ++ .cleared :: older ∧ block ∈ older.loans := by
  constructor
  · intro left
    induction history with
    | nil => cases left
    | cons deed earlier inductionHypothesis =>
      have further (member : block ∈ stranded earlier) : ∃ newer older : History,
          deed :: earlier = newer ++ .cleared :: older ∧ block ∈ older.loans := by
        obtain ⟨newer, older, rfl, onLoan⟩ := inductionHypothesis member
        exact ⟨deed :: newer, older, rfl, onLoan⟩
      cases deed with
      | lent other => exact further left
      | returned other => exact further left
      | cleared =>
        rcases List.mem_append.mp left with onLoan | older
        · exact ⟨[], earlier, rfl, onLoan⟩
        · exact further older
  · rintro ⟨newer, older, rfl, onLoan⟩
    induction newer with
    | nil => exact List.mem_append_left _ onLoan
    | cons deed rest inductionHypothesis =>
      cases deed with
      | lent other => exact inductionHypothesis
      | returned other => exact inductionHypothesis
      | cleared => exact List.mem_append_right _ inductionHypothesis

/-- A stranded block does not bear the epoch that the history has come to. -/
theorem Dated.epoch_ne_of_stranded {history : History} (dated : history.Dated)
    (few : history.resets < UInt32.size) (block : Block) (left : block ∈ history.stranded) :
    block.handle.epoch ≠ history.epoch := by
  obtain ⟨newer, older, rfl, onLoan⟩ := (mem_stranded_iff history block).mp left
  exact dated.epoch_ne few block (lent_of_mem_loans older block onLoan)

end History

/-- A request only notes that the arena grew. -/
theorem SegregatedAllocator.debug_of_allocate (allocator : SegregatedAllocator) (memory : Memory)
    (size : Nat) (answer : Except Refusal Handle) (next : SegregatedAllocator)
    (events : List Event) (done : allocator.allocate memory size = .done answer next events) :
    ∀ event ∈ events, event.level = .debug := by
  unfold allocate at done
  split at done
  · cases done
  next some =>
  split at done
  · cases done
  split at done
  · cases done
    exact nofun
  · rcases allocator.arena.obtain_outcomes memory size (Nat.pos_of_ne_zero some) with
      ⟨_, _, _, obtained⟩ | ⟨_, _, obtained⟩ | ⟨_, _, _, obtained⟩ | ⟨_, _, _, _, _, _, obtained⟩
    all_goals
      rw [obtained] at done
      cases done
    · exact nofun
    · exact nofun
    · exact nofun
    · intro event member
      rw [List.mem_singleton.mp member]
      rfl

namespace LeakChecker

open SegregatedAllocator (Run Proper Sound lentDeeds grantedDeeds sound_of_run free_eq_shelf
  dated_of_run resolves_of_run configured_of_run configured_of_create)

/-! ### Runs with such resets -/

/-- Resets the allocator inside and keeps the record of loans. -/
def resetInner (checker : LeakChecker SegregatedAllocator) :
    Step (LeakChecker SegregatedAllocator) Unit :=
  checker.inner.reset.within fun inner => { checker with inner := inner }

/-- The histories and states that requests, releases and resets of the allocator inside lead to,
whatever their arguments, with the largest number of chunks that the allocator inside had. A call
that ends in a fault leads nowhere. -/
inductive Bypassed (config : Config) : Nat → History → LeakChecker SegregatedAllocator → Prop
  | start (inner : SegregatedAllocator) (created : SegregatedAllocator.create config = .ok inner) :
    Bypassed config 0 [] (.around inner)
  | allocate (chunks : Nat) (history : History) (before after : LeakChecker SegregatedAllocator)
    (memory : Memory) (size : Nat) (answer : Except Refusal Handle) (events : List Event)
    (run : Bypassed config chunks history before)
    (done : before.allocate memory size = .done answer after events) :
    Bypassed config (max chunks after.inner.arena.chunks.size) (lentDeeds size answer ++ history)
      after
  | tryDeallocate (chunks : Nat) (history : History)
    (before after : LeakChecker SegregatedAllocator) (handle : Handle) (size : Nat)
    (answer : Except Refusal Unit) (events : List Event)
    (run : Bypassed config chunks history before)
    (done : before.tryDeallocate handle size = .done answer after events) :
    Bypassed config chunks (grantedDeeds (.returned ⟨handle, size⟩) answer ++ history) after
  | reset (chunks : Nat) (history : History) (before after : LeakChecker SegregatedAllocator)
    (events : List Event) (run : Bypassed config chunks history before)
    (done : before.resetInner = .done () after events) :
    Bypassed config chunks (.cleared :: history) after

/-! ### The record of loans -/

/-- The allocator inside is in a run of its own, and the record holds its loans and the stranded
blocks. -/
structure Holds (config : Config) (history : History)
    (checker : LeakChecker SegregatedAllocator) : Prop where
  run : Run config (Proper config) history checker.inner
  named : checker.inner.arena.ChunksNamed
  positive : ∀ block ∈ history.stranded, 0 < block.size
  listed : checker.loans.Lists (history.loans ++ history.stranded) checker.total

namespace Holds

variable {config : Config} {history : History} {checker : LeakChecker SegregatedAllocator}

theorem sound (holds : Holds config history checker) : Sound history checker.inner :=
  sound_of_run holds.run holds.named

theorem leaks_eq (holds : Holds config history checker) :
    checker.report.leaks = history.stranded.reverse ++ history.loans.reverse := by
  show checker.loans.inOrder = _
  rw [holds.listed.inOrder, List.reverse_append]

/-- The loans of the record are those of the allocator and the stranded blocks. -/
theorem outstanding_eq (holds : Holds config history checker) :
    checker.outstanding = checker.inner.live + history.stranded.length := by
  rw [outstanding, holds.listed.length, List.length_append, holds.sound.live]

/-- A handle is on record at a size exactly if it is of such a block. -/
theorem loanSize?_eq_some_iff (holds : Holds config history checker) (handle : Handle)
    (size : Nat) : checker.loanSize? handle = some size ↔
      ⟨handle, size⟩ ∈ history.loans ++ history.stranded := by
  rw [loanSize?, holds.listed.size?]
  exact ⟨LoanBook.mem_of_size? _ handle size,
    LoanBook.size?_of_mem _ holds.listed.nodup_book ⟨handle, size⟩⟩

/-- The handle of a stranded block is stale. -/
theorem epoch_ne (holds : Holds config history checker) (few : history.resets < UInt32.size)
    (block : Block) (left : block ∈ history.stranded) :
    block.handle.epoch ≠ checker.inner.arena.epoch := by
  obtain ⟨epoch, dated⟩ := dated_of_run holds.run
  rw [epoch]
  exact dated.epoch_ne_of_stranded few block left

/-! ### Releases -/

/-- The record lets the release of each of its blocks through, at its size. -/
theorem checkRelease_eq_ok_iff (holds : Holds config history checker) (handle : Handle)
    (size : Nat) : checker.checkRelease handle size = .ok () ↔
      ⟨handle, size⟩ ∈ history.loans ++ history.stranded := by
  rw [LeakChecker.checkRelease_eq_ok_iff, ← holds.loanSize?_eq_some_iff]
  refine and_iff_right_of_imp fun found => Nat.ne_of_gt ?_
  rcases List.mem_append.mp ((holds.loanSize?_eq_some_iff handle size).mp found) with
    onLoan | left
  · exact holds.sound.positive _ (List.mem_append_left _ onLoan)
  · exact holds.positive _ left

/-- A block on loan comes back. -/
theorem tryDeallocate_loan (holds : Holds config history checker) (handle : Handle) (size : Nat)
    (onLoan : ⟨handle, size⟩ ∈ history.loans) :
    ∃ inner, Allocator.tryDeallocate checker.inner handle size = .done (.ok ()) inner [] ∧
      checker.tryDeallocate handle size = .done (.ok ()) (checker.returned inner handle) [] := by
  have passed := (holds.checkRelease_eq_ok_iff handle size).mpr (List.mem_append_left _ onLoan)
  have accepted : Allocator.tryDeallocate checker.inner handle size = _ :=
    holds.sound.tryDeallocate_eq (free_eq_shelf holds.run) handle size onLoan
  refine ⟨_, accepted, ?_⟩
  rw [tryDeallocate, passed]
  simp only [accepted]

/-- A stranded block is refused by the allocator inside. -/
theorem tryDeallocate_stranded (holds : Holds config history checker)
    (few : history.resets < UInt32.size) (handle : Handle) (size : Nat)
    (left : ⟨handle, size⟩ ∈ history.stranded) :
    checker.tryDeallocate handle size =
      .refused (.staleHandle handle.epoch checker.inner.arena.epoch) checker := by
  have passed := (holds.checkRelease_eq_ok_iff handle size).mpr (List.mem_append_right _ left)
  obtain ⟨_, _, _, refused⟩ := SegregatedAllocator.refused_of_epoch_ne
    (resolves_of_run holds.run) handle (holds.epoch_ne few _ left)
  have denied : Allocator.tryDeallocate checker.inner handle size = _ :=
    refused size (holds.positive _ left)
  rw [tryDeallocate, passed]
  simp only [denied]

/-- What a release comes to: it is refused and nothing changes, or a block on loan comes back. -/
theorem tryDeallocate_cases (holds : Holds config history checker)
    (few : history.resets < UInt32.size) (handle : Handle) (size : Nat) :
    (∃ cause, checker.tryDeallocate handle size = .refused cause checker) ∨
      ⟨handle, size⟩ ∈ history.loans := by
  cases check : checker.checkRelease handle size with
  | error cause =>
    refine Or.inl ⟨cause, ?_⟩
    rw [tryDeallocate, check]
  | ok _ =>
    have member := (holds.checkRelease_eq_ok_iff handle size).mp check
    rcases List.mem_append.mp member with onLoan | left
    · exact Or.inr onLoan
    · exact Or.inl ⟨_, holds.tryDeallocate_stranded few handle size left⟩

/-! ### What the calls keep -/

/-- What the allocator lent last has another handle than the other blocks of the record. -/
theorem unrecorded (holds : Holds config history checker) (few : history.resets < UInt32.size)
    (block : Block) (next : SegregatedAllocator)
    (later : Run config (Proper config) (.lent block :: history) next)
    (named : next.arena.ChunksNamed) :
    ∀ other ∈ history.loans ++ history.stranded, other.handle ≠ block.handle := by
  intro other member same
  rcases List.mem_append.mp member with onLoan | left
  · have distinct := (sound_of_run later named).nodup_loans
    rw [History.loans, List.map_cons, List.nodup_cons] at distinct
    exact distinct.1 (same ▸ List.mem_map_of_mem onLoan)
  · have current := (dated_of_run later).2.2
    obtain ⟨epoch, _⟩ := dated_of_run holds.run
    exact holds.epoch_ne few other left (by rw [same, current, epoch])

/-- A block that is lent is recorded next to the others. -/
theorem lent (holds : Holds config history checker) (few : history.resets < UInt32.size)
    (memory : Memory) (size : Nat) (handle : Handle) (next : SegregatedAllocator)
    (events : List Event)
    (granted : checker.inner.allocate memory size = .done (.ok handle) next events)
    (named : config.maxChunks = none → next.arena.ChunksNamed) :
    (∀ other ∈ history.loans ++ history.stranded, other.handle ≠ handle) ∧
      Holds config (.lent ⟨handle, size⟩ :: history) (checker.lent next ⟨handle, size⟩) := by
  have later := holds.run.step _ _ _ _ (.allocate memory size) _ trivial
    (SegregatedAllocator.perform_allocate granted)
  have fits := (configured_of_run later).chunksNamed named
  have unused := holds.unrecorded few ⟨handle, size⟩ next later fits
  have listed := holds.listed.record ⟨handle, size⟩
  rw [LoanBook.record_eq_cons _ ⟨handle, size⟩ unused] at listed
  exact ⟨unused, later, fits, holds.positive, listed⟩

/-- A block on loan that comes back is struck out. -/
theorem returned (holds : Holds config history checker) (handle : Handle) (size : Nat)
    (onLoan : ⟨handle, size⟩ ∈ history.loans) (next : SegregatedAllocator)
    (accepted : checker.inner.tryDeallocate handle size = .done (.ok ()) next []) :
    Holds config (.returned ⟨handle, size⟩ :: history) (checker.returned next handle) := by
  have listed := holds.listed.erase handle
  rw [LoanBook.erase_eq_erase _ holds.listed.nodup_book ⟨handle, size⟩
    (List.mem_append_left _ onLoan), List.erase_append_left _ onLoan] at listed
  have performed : checker.inner.perform (.tryDeallocate handle size) =
      .done [.returned ⟨handle, size⟩] next [] :=
    (Step.mapAnswer_eq_done_iff _ _ _ _ _).mpr ⟨_, accepted, rfl⟩
  have proper : Proper config history (.tryDeallocate handle size) := Or.inr onLoan
  refine ⟨holds.run.step _ _ _ _ _ _ proper performed, ?_, holds.positive, listed⟩
  cases checker.inner.change_of_tryDeallocate handle size _ next [] accepted
  exact holds.named

/-- A reset strands the blocks on loan, and the record stays. -/
theorem reset (holds : Holds config history checker) :
    Holds config (.cleared :: history) { checker with inner := checker.inner.cleared } where
  run := holds.run.step _ _ _ _ .reset _ trivial rfl
  named := Nat.zero_le _
  positive block left := by
    rcases List.mem_append.mp left with onLoan | older
    · exact holds.sound.positive block (List.mem_append_left _ onLoan)
    · exact holds.positive block older
  listed := holds.listed

end Holds

theorem holds_of_bypassed {config : Config} {chunks : Nat} {history : History}
    {checker : LeakChecker SegregatedAllocator} (run : Bypassed config chunks history checker)
    (few : history.resets < UInt32.size) (numbers : config.maxChunks = none → chunks ≤ 2 ^ 32) :
    Holds config history checker := by
  induction run with
  | start inner created =>
    obtain ⟨_, same⟩ := configured_of_create _ _ created
    exact ⟨.start inner created, same ▸ Nat.zero_le _, nofun, LoanIndex.lists_nil 0⟩
  | allocate chunks history before after memory size answer events run done inductionHypothesis =>
    have numbersBefore unlimited := (Nat.max_le.mp (numbers unlimited)).1
    cases answer with
    | error cause =>
      obtain ⟨inner, refused, rfl⟩ := allocate_error memory before after size cause events done
      obtain ⟨rfl, _⟩ := before.inner.allocate_refused memory size cause inner events refused
      exact inductionHypothesis few numbersBefore
    | ok handle =>
      have fewBefore : history.resets < UInt32.size :=
        Nat.lt_of_le_of_lt (History.resets_le_append _ _) few
      obtain ⟨inner, logged, granted, rfl⟩ :=
        allocate_ok memory before after size handle events done
      exact ((inductionHypothesis fewBefore numbersBefore).lent fewBefore memory size handle inner
        logged granted fun unlimited => (Nat.max_le.mp (numbers unlimited)).2).2
  | tryDeallocate chunks history before after handle size answer events run done
      inductionHypothesis =>
    have fewBefore : history.resets < UInt32.size :=
      Nat.lt_of_le_of_lt (History.resets_le_append _ _) few
    have holds := inductionHypothesis fewBefore numbers
    rcases holds.tryDeallocate_cases fewBefore handle size with ⟨cause, refused⟩ | onLoan
    · cases refused.symm.trans done
      exact holds
    · obtain ⟨inner, accepted, released⟩ := holds.tryDeallocate_loan handle size onLoan
      cases released.symm.trans done
      exact holds.returned handle size onLoan inner accepted
  | reset chunks history before after events run done inductionHypothesis =>
    have fewBefore : history.resets < UInt32.size :=
      Nat.lt_of_le_of_lt (History.resets_le_append [.cleared] _) few
    cases done
    exact (inductionHypothesis fewBefore numbers).reset

/-! ### The next call -/

section Call

variable {config : Config} {chunks : Nat} {history : History}
  {checker : LeakChecker SegregatedAllocator}

/-- A request that a chunk can hold is granted or refused. If it is granted, the new loan stands
behind the others on record; and there is no error among the events. -/
theorem Holds.allocate (holds : Holds config history checker)
    (few : history.resets < UInt32.size) (memory : Memory) (size : Nat) (positive : 0 < size)
    (small : size ≤ config.chunkWords) :
    ∃ answer next events, checker.allocate memory size = .done answer next events ∧
      ((config.maxChunks = none → next.inner.arena.ChunksNamed) →
        (∀ event ∈ events, event.level ≠ .error) ∧
        ∀ handle, answer = .ok handle →
          next.report.leaks = checker.report.leaks ++ [⟨handle, size⟩]) := by
  have settings := (configured_of_run holds.run).settings
  have done := checker.inner.allocate_isDone memory size positive (settings ▸ small)
  cases lending : checker.inner.allocate memory size with
  | fault reason events =>
    rw [lending] at done
    exact absurd done id
  | done answer next events =>
    have silent : ∀ event ∈ events, event.level ≠ .error := fun event member => by
      rw [checker.inner.debug_of_allocate memory size answer next events lending event member]
      exact nofun
    have passedOn : Allocator.allocate memory checker.inner size = .done answer next events :=
      lending
    cases answer with
    | error cause =>
      refine ⟨.error cause, { checker with inner := next }, events, ?_, fun _ => ⟨silent, nofun⟩⟩
      rw [LeakChecker.allocate, passedOn]
    | ok handle =>
      refine ⟨.ok handle, checker.lent next ⟨handle, size⟩,
        events ++ checker.lentEvents ⟨handle, size⟩,
        checker.allocate_of_inner memory size handle next events passedOn, fun named => ?_⟩
      obtain ⟨unused, later⟩ := holds.lent few memory size handle next events lending named
      have fresh : checker.loans.size? handle = none := by
        refine Option.eq_none_iff_forall_ne_some.mpr fun other found => ?_
        exact unused _ ((holds.loanSize?_eq_some_iff handle other).mp found) rfl
      refine ⟨?_, fun _ same => ?_⟩
      · rw [lentEvents, fresh, List.append_nil]
        exact silent
      · cases same
        rw [later.leaks_eq, holds.leaks_eq]
        show history.stranded.reverse ++ (⟨handle, size⟩ :: history.loans).reverse = _
        rw [List.reverse_cons, List.append_assoc]

/-- After any calls and any resets that the checker was not told of, fewer than there are epochs,
and with never more chunks inside than there are numbers for them where their number is not
limited: the report has the stranded blocks and then the loans of the allocator inside, and the
checker knows as many blocks as both are. A stranded block is on record at its size; its release
is refused as stale and changes nothing. A block on loan is on record under another handle than
every stranded one, and its release is carried out and leaves the others on record. No release
ends in a fault, nor does a request that a chunk can hold; a block that is lent is added to the
report, and never is one noted as reissued. -/
theorem unnoticed_reset_contained (run : Bypassed config chunks history checker)
    (few : history.resets < UInt32.size) (numbers : config.maxChunks = none → chunks ≤ 2 ^ 32) :
    checker.report.leaks = history.stranded.reverse ++ history.loans.reverse ∧
      checker.outstanding = checker.inner.live + history.stranded.length ∧
      (∀ block ∈ history.stranded, checker.loanSize? block.handle = some block.size ∧
        checker.tryDeallocate block.handle block.size =
          .refused (.staleHandle block.handle.epoch checker.inner.arena.epoch) checker) ∧
      (∀ block ∈ history.loans, checker.loanSize? block.handle = some block.size ∧
        (∀ other ∈ history.stranded, other.handle ≠ block.handle) ∧
        ∃ next, checker.tryDeallocate block.handle block.size = .done (.ok ()) next [] ∧
          next.report.leaks = history.stranded.reverse ++ (history.loans.erase block).reverse) ∧
      (∀ handle size, ∃ answer next,
        checker.tryDeallocate handle size = .done answer next []) ∧
      ∀ memory size, 0 < size → size ≤ config.chunkWords → ∃ answer next events,
        checker.allocate memory size = .done answer next events ∧
          ((config.maxChunks = none → next.inner.arena.ChunksNamed) →
            (∀ event ∈ events, event.level ≠ .error) ∧
            ∀ handle, answer = .ok handle →
              next.report.leaks = checker.report.leaks ++ [⟨handle, size⟩]) := by
  have holds := holds_of_bypassed run few numbers
  refine ⟨holds.leaks_eq, holds.outstanding_eq, fun block left => ?_, fun block onLoan => ?_,
    fun handle size => ?_, holds.allocate few⟩
  · exact ⟨(holds.loanSize?_eq_some_iff _ _).mpr (List.mem_append_right _ left),
      holds.tryDeallocate_stranded few block.handle block.size left⟩
  · refine ⟨(holds.loanSize?_eq_some_iff _ _).mpr (List.mem_append_left _ onLoan),
      fun other left same => ?_, ?_⟩
    · have distinct := holds.listed.nodup_book
      rw [List.map_append, List.nodup_append] at distinct
      exact distinct.2.2 _ (List.mem_map_of_mem onLoan) _ (List.mem_map_of_mem left) same.symm
    · obtain ⟨inner, accepted, released⟩ :=
        holds.tryDeallocate_loan block.handle block.size onLoan
      have later := holds.returned block.handle block.size onLoan inner accepted
      exact ⟨_, released, later.leaks_eq⟩
  · rcases holds.tryDeallocate_cases few handle size with ⟨cause, refused⟩ | onLoan
    · exact ⟨_, _, refused⟩
    · obtain ⟨_, _, released⟩ := holds.tryDeallocate_loan handle size onLoan
      exact ⟨_, _, released⟩

end Call

/-- A block was on loan when the allocator inside, which records its loans, was reset. The next
block lies at the same place; it can be released, and the first one cannot. -/
theorem unnoticed_reset_contained_at_same_place :
    ∃ (chunks : Nat) (history : History) (checker : LeakChecker SegregatedAllocator),
      Bypassed { chunkWords := 4, trackLoans := true } chunks history checker ∧
        history.resets < UInt32.size ∧ chunks ≤ 2 ^ 32 ∧
        history.stranded = [⟨⟨0, 0, 0⟩, 3⟩] ∧ history.loans = [⟨⟨0, 0, 1⟩, 2⟩] ∧
        checker.report.leaks = [⟨⟨0, 0, 0⟩, 3⟩, ⟨⟨0, 0, 1⟩, 2⟩] ∧ checker.outstanding = 2 ∧
        checker.tryDeallocate ⟨0, 0, 0⟩ 3 = .refused (.staleHandle 0 1) checker ∧
        ∃ next, checker.tryDeallocate ⟨0, 0, 1⟩ 2 = .done (.ok ()) next [] ∧
          next.report.leaks = [⟨⟨0, 0, 0⟩, 3⟩] := by
  have created : Bypassed { chunkWords := 4, trackLoans := true } _ _ _ := .start _ rfl
  have lent := created.allocate _ _ _ _ .addressable 3 _ _ rfl
  have cleared := lent.reset _ _ _ _ _ rfl
  have again := cleared.allocate _ _ _ _ .addressable 2 _ _ rfl
  have few : History.resets [.lent ⟨⟨0, 0, 1⟩, 2⟩, .cleared, .lent ⟨⟨0, 0, 0⟩, 3⟩] <
    UInt32.size := by decide
  obtain ⟨leaks, outstanding, stranded, loans, _⟩ :=
    unnoticed_reset_contained again few fun _ => by decide
  obtain ⟨_, refused⟩ := stranded ⟨⟨0, 0, 0⟩, 3⟩ List.mem_cons_self
  obtain ⟨_, _, released⟩ := loans ⟨⟨0, 0, 1⟩, 2⟩ List.mem_cons_self
  exact ⟨_, _, _, again, few, by decide, rfl, rfl, leaks, outstanding, refused, released⟩

/-- Every chunk number is used up and nothing was ever reset: two words are lent, and the checker
notes a block as reissued while it is on loan. -/
theorem live_block_reissued_past_chunk_numbers :
    ∃ (checker next : LeakChecker SegregatedAllocator) (events : List Event),
      Bypassed { chunkWords := 2 } (2 ^ 32) (History.crowd (2 ^ 32)) checker ∧
        (History.crowd (2 ^ 32)).resets = 0 ∧
        checker.allocate .addressable 2 = .done (.ok ⟨0, 0, 0⟩) next events ∧
        reissuedEvent ⟨0, 0, 0⟩ 1 2 ∈ events := by
  obtain ⟨_, crowded, checker, rfl, run⟩ :=
    SegregatedAllocator.exists_crowded
      (fun chunks allocator =>
        ∃ checker : LeakChecker SegregatedAllocator, checker.inner = allocator ∧
        Bypassed { chunkWords := 2 } chunks (History.crowd chunks) checker)
      false ⟨_, rfl, .start _ rfl⟩
      (fun chunks before after events _ later ⟨checker, same, run⟩ granted => by
        subst same
        have longer := run.allocate _ _ _ _ _ _ _ _
          (checker.allocate_of_inner _ _ _ after events granted)
        have most : max chunks after.arena.chunks.size = chunks + 1 := by
          rw [later.count, Nat.max_eq_right (Nat.le_succ _)]
        exact ⟨_, rfl, most ▸ longer⟩)
      (2 ^ 32) (Nat.le_succ _)
  have holds := holds_of_bypassed run (by rw [History.resets_crowd]; decide) fun _ => Nat.le_refl _
  have onLoan : checker.loans.size? ⟨0, 0, 0⟩ = some 1 :=
    (holds.loanSize?_eq_some_iff _ _).mpr
      (List.mem_append_left _ (History.first_mem_loans_crowd (2 ^ 32 - 1)))
  obtain ⟨inner, events, _, granted⟩ := crowded.allocate_past_numbers
  have lent := checker.allocate_of_inner .addressable 2 _ inner events granted
  refine ⟨checker, _, _, run, History.resets_crowd _, lent, List.mem_append_right _ ?_⟩
  rw [lentEvents, onLoan]
  exact List.mem_singleton.mpr rfl

end LeakChecker

end Allotment
