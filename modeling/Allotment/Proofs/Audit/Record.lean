/-
The record of a leak checker is the history of its calls. Nothing is assumed of the
allocator inside: it may lend what is on loan, refuse what it should take, or end in
a fault.

The record holds a loan under its full handle, so it is the latest deed about each
handle that counts there. Of releases it holds one for each place, so it is the
latest deed at the place that tells a second release from a foreign handle. The two
are compared with the history side by side, one call at a time. The loans are compared
as a book with the latest one first, which their row lists in another order.
-/

import Allotment.Backend.System
import Allotment.Proofs.Audit.Lender
import Allotment.Proofs.Lending.Tally

namespace Allotment

/-! ### The latest deed at a place -/

/-- The deed is about a handle at the place of the given one, in whatever epoch. -/
def Deed.At (place : Handle) : Deed → Prop
  | lent block => place.SamePlace block.handle
  | returned block => place.SamePlace block.handle
  | cleared => False

instance (place : Handle) : DecidablePred (Deed.At place)
  | .lent block => inferInstanceAs (Decidable (place.SamePlace block.handle))
  | .returned block => inferInstanceAs (Decidable (place.SamePlace block.handle))
  | .cleared => inferInstanceAs (Decidable False)

namespace History

variable (history : History) (block : Block)

/-- The latest deed since the last reset at the place of a handle. -/
def latestAt? (history : History) (place : Handle) : Option Deed :=
  history.current.find? fun deed => deed.At place

theorem latestAt?_lent (place : Handle) : latestAt? (.lent block :: history) place =
    if place.SamePlace block.handle then some (.lent block) else history.latestAt? place := by
  by_cases here : place.SamePlace block.handle
  · rw [if_pos here]
    exact List.find?_cons_of_pos (decide_eq_true here)
  · rw [if_neg here]
    exact List.find?_cons_of_neg fun names => here (of_decide_eq_true names)

theorem latestAt?_returned (place : Handle) : latestAt? (.returned block :: history) place =
    if place.SamePlace block.handle then some (.returned block)
    else history.latestAt? place := by
  by_cases here : place.SamePlace block.handle
  · rw [if_pos here]
    exact List.find?_cons_of_pos (decide_eq_true here)
  · rw [if_neg here]
    exact List.find?_cons_of_neg fun names => here (of_decide_eq_true names)

/-! ### The age of a loan -/

/-- How many deeds there were since a block was lent last. -/
def age (history : History) (block : Block) : Nat :=
  history.idxOf (.lent block)

theorem age_lent_self : age (.lent block :: history) block = 0 :=
  List.idxOf_cons_self

theorem age_lent_other (other : Block) (different : other ≠ block) :
    age (.lent other :: history) block = history.age block + 1 :=
  List.idxOf_cons_ne _ fun equal => different (Deed.lent.inj equal)

theorem age_returned (other : Block) :
    age (.returned other :: history) block = history.age block + 1 :=
  List.idxOf_cons_ne _ nofun

end History

namespace LeakChecker

variable {σ : Type}

/-! ### Runs -/

section Watched

variable [Allocator σ]

/-- The histories and states that calls to a checker lead to, whatever their arguments. A call that
ends in a fault leads nowhere. -/
inductive Watched (inner : σ) : History → LeakChecker σ → Prop
  | start : Watched inner [] (around inner)
  | lent (history : History) (before after : LeakChecker σ) (memory : Memory) (size : Nat)
    (handle : Handle) (events : List Event) (run : Watched inner history before)
    (granted : before.allocate memory size = .done (.ok handle) after events) :
    Watched inner (.lent ⟨handle, size⟩ :: history) after
  | declined (history : History) (before after : LeakChecker σ) (memory : Memory) (size : Nat)
    (cause : Refusal) (events : List Event) (run : Watched inner history before)
    (refused : before.allocate memory size = .done (.error cause) after events) :
    Watched inner history after
  | returned (history : History) (before after : LeakChecker σ) (handle : Handle) (size : Nat)
    (events : List Event) (run : Watched inner history before)
    (granted : before.tryDeallocate handle size = .done (.ok ()) after events) :
    Watched inner (.returned ⟨handle, size⟩ :: history) after
  | rejected (history : History) (before after : LeakChecker σ) (handle : Handle) (size : Nat)
    (cause : Refusal) (events : List Event) (run : Watched inner history before)
    (refused : before.tryDeallocate handle size = .done (.error cause) after events) :
    Watched inner history after

end Watched

/-! ### The record and the history -/

/-- The loans of the checker are those whose latest deed lent them, here the latest first; a handle
is noted as released if the latest deed at its place was its release; and all loans are counted. -/
structure Recorded (history : History) (book : LoanBook) (checker : LeakChecker σ) : Prop where
  listed : checker.loans.Lists book checker.total
  loans : ∀ block, block ∈ book ↔ history.latest? block.handle = some (.lent block)
  ordered : book.Pairwise fun later earlier => history.age later < history.age earlier
  released : ∀ handle, handle ∈ checker.released ↔
    ∃ size, history.latestAt? handle = some (.returned ⟨handle, size⟩)
  total : checker.total = history.issued.length

namespace Recorded

variable {history : History} {book : LoanBook} {checker : LeakChecker σ}

theorem around (inner : σ) : Recorded [] [] (around inner) where
  listed := LoanIndex.lists_nil 0
  loans _ := ⟨nofun, nofun⟩
  ordered := List.Pairwise.nil
  released _ := ⟨nofun, nofun⟩
  total := rfl

/-- What only the allocator inside took part in is not recorded. -/
theorem passedOn (recorded : Recorded history book checker) (inner : σ) :
    Recorded history book { checker with inner := inner } where
  listed := recorded.listed
  loans := recorded.loans
  ordered := recorded.ordered
  released := recorded.released
  total := recorded.total

/-- Whatever the allocator inside lends becomes the latest loan. -/
theorem lent (recorded : Recorded history book checker) (inner : σ) (block : Block) :
    Recorded (.lent block :: history) (book.record block) (checker.lent inner block) where
  listed := recorded.listed.record block
  loans other := by
    show other ∈ block :: book.erase block.handle ↔ _
    by_cases same : block.handle = other.handle
    · rw [← same, History.latest?_lent_self, List.mem_cons, LoanBook.mem_erase_iff, Option.some_inj,
        Deed.lent.injEq, eq_comm, or_iff_left fun parts => parts.2 same.symm]
    · rw [History.latest?_lent_other _ _ _ same, List.mem_cons, LoanBook.mem_erase_iff,
        recorded.loans, and_iff_left (Ne.symm same),
        or_iff_right fun equal => same (by rw [equal])]
  ordered := by
    have elsewhere : ∀ other ∈ book.erase block.handle,
        History.age (.lent block :: history) other = history.age other + 1 := by
      intro other member
      refine History.age_lent_other history other block fun equal => ?_
      exact (LoanBook.mem_erase_iff.mp member).2 (by rw [equal])
    refine List.pairwise_cons.mpr ⟨fun other member => ?_, ?_⟩
    · rw [History.age_lent_self, elsewhere other member]
      exact Nat.succ_pos _
    · refine (recorded.ordered.filter _).imp_of_mem fun later earlier order => ?_
      rw [elsewhere _ later, elsewhere _ earlier]
      exact Nat.succ_lt_succ order
  released handle := by
    show handle ∈ clearPlace checker.released block.handle ↔ _
    rw [mem_clearPlace, recorded.released, History.latestAt?_lent]
    by_cases here : handle.SamePlace block.handle
    · simp [here]
    · simp [here]
  total := congrArg (· + 1) recorded.total

/-- A block that comes back is no loan any more, and it is the latest release at its place. -/
theorem returned (recorded : Recorded history book checker) (inner : σ) (block : Block) :
    Recorded (.returned block :: history) (book.erase block.handle)
      (checker.returned inner block.handle) where
  listed := recorded.listed.erase block.handle
  loans other := by
    rw [LoanBook.mem_erase_iff]
    by_cases same : block.handle = other.handle
    · rw [← same, History.latest?_returned_self]
      exact ⟨fun parts => absurd rfl parts.2, nofun⟩
    · rw [History.latest?_returned_other _ _ _ same, recorded.loans, and_iff_left (Ne.symm same)]
  ordered := by
    refine (recorded.ordered.filter _).imp fun order => ?_
    rw [History.age_returned, History.age_returned]
    exact Nat.succ_lt_succ order
  released handle := by
    show handle ∈ block.handle :: clearPlace checker.released block.handle ↔ _
    rw [List.mem_cons, mem_clearPlace, recorded.released, History.latestAt?_returned]
    by_cases here : handle.SamePlace block.handle
    · rw [if_pos here, or_iff_left fun parts => parts.2 here]
      constructor
      · rintro rfl
        exact ⟨block.size, rfl⟩
      · rintro ⟨size, equal⟩
        cases equal
        rfl
    · have different : handle ≠ block.handle := fun equal => here (equal ▸ .refl _)
      rw [if_neg here, or_iff_right different, and_iff_left here]
  total := recorded.total

/-- A handle is on loan at the size of its latest loan, if nothing happened to it since. -/
theorem loanSize?_eq_some_iff (recorded : Recorded history book checker) (handle : Handle)
    (size : Nat) : checker.loanSize? handle = some size ↔
      history.latest? handle = some (.lent ⟨handle, size⟩) := by
  rw [loanSize?, recorded.listed.size?]
  constructor
  · intro found
    exact (recorded.loans ⟨handle, size⟩).mp (book.mem_of_size? handle size found)
  · intro latest
    have member := (recorded.loans ⟨handle, size⟩).mpr latest
    obtain ⟨other, found⟩ := book.exists_size?_of_mem ⟨handle, size⟩ member
    have same := (recorded.loans ⟨handle, other⟩).mp (book.mem_of_size? handle other found)
    rw [latest] at same
    cases same
    exact found

/-- A release that the record does not allow is refused for what the latest deeds say. -/
theorem checkRelease_of_not_lent (recorded : Recorded history book checker) (handle : Handle)
    (size : Nat) (words : size ≠ 0)
    (idle : ∀ issued, history.latest? handle ≠ some (.lent ⟨handle, issued⟩)) :
    checker.checkRelease handle size =
      if handle ∈ checker.released then .error (.doubleFree handle)
      else .error (.foreignHandle handle) := by
  have absent : checker.loans.size? handle = none :=
    Option.eq_none_iff_forall_ne_some.mpr fun issued found =>
      idle issued ((recorded.loanSize?_eq_some_iff handle issued).mp found)
  rw [checkRelease, if_neg words, absent]

end Recorded

section Calls

variable [Allocator σ]

theorem recorded_of_watched {inner : σ} {history : History} {checker : LeakChecker σ}
    (run : Watched inner history checker) : ∃ book, Recorded history book checker := by
  induction run with
  | start => exact ⟨[], Recorded.around inner⟩
  | lent history before after memory size handle events run granted inductionHypothesis =>
    obtain ⟨book, recorded⟩ := inductionHypothesis
    obtain ⟨_, _, _, rfl⟩ := allocate_ok memory before after size handle events granted
    exact ⟨_, recorded.lent _ ⟨handle, size⟩⟩
  | declined history before after memory size cause events run refused inductionHypothesis =>
    obtain ⟨book, recorded⟩ := inductionHypothesis
    obtain ⟨_, _, rfl⟩ := allocate_error memory before after size cause events refused
    exact ⟨book, recorded.passedOn _⟩
  | returned history before after handle size events run granted inductionHypothesis =>
    obtain ⟨book, recorded⟩ := inductionHypothesis
    obtain ⟨_, _, _, rfl⟩ := tryDeallocate_ok before after handle size events granted
    exact ⟨_, recorded.returned _ ⟨handle, size⟩⟩
  | rejected history before after handle size cause events run refused inductionHypothesis =>
    rcases tryDeallocate_error before after handle size cause events refused with
      rfl | ⟨_, _, rfl⟩
    · exact inductionHypothesis
    · obtain ⟨book, recorded⟩ := inductionHypothesis
      exact ⟨book, recorded.passedOn _⟩

/-! ### Releases -/

/-- What the record refuses does not reach the allocator inside. -/
theorem tryDeallocate_of_check_error (checker : LeakChecker σ) (handle : Handle) (size : Nat)
    (cause : Refusal) (check : checker.checkRelease handle size = .error cause) :
    checker.tryDeallocate handle size = .refused cause checker := by
  rw [tryDeallocate, check]

/-- What the record allows is for the allocator inside to decide. -/
theorem tryDeallocate_of_check_ok (checker : LeakChecker σ) (handle : Handle) (size : Nat)
    (check : checker.checkRelease handle size = .ok ()) :
    (∀ reason events, Allocator.tryDeallocate checker.inner handle size = .fault reason events →
      checker.tryDeallocate handle size = .fault reason events) ∧
    (∀ cause inner events,
      Allocator.tryDeallocate checker.inner handle size = .done (.error cause) inner events →
      checker.tryDeallocate handle size =
        .done (.error cause) { checker with inner := inner } events) ∧
    ∀ inner events,
      Allocator.tryDeallocate checker.inner handle size = .done (.ok ()) inner events →
      checker.tryDeallocate handle size =
        .done (.ok ()) (checker.returned inner handle) events := by
  rw [tryDeallocate, check]
  refine ⟨fun reason events passed => ?_, fun cause inner events passed => ?_,
    fun inner events passed => ?_⟩ <;> rw [passed]

/-- After every run of calls with whatever arguments, around whatever allocator: a handle is on
loan exactly if the latest deed about it was a loan, and at that size; the report lists these
loans in the order in which they were made, and counts all that were ever made. A release of no
words, of a loan at another size, or of what is not on loan is refused for that cause, and neither
the record nor the allocator inside takes part; the last of these is a second release if the
latest deed at the place was the release of this very handle. Only the release of a loan at its
size is passed on. What the allocator inside answers is then the answer, and the record changes
exactly if that is a success. -/
theorem record_is_history (inner : σ) (history : History) (checker : LeakChecker σ)
    (run : Watched inner history checker) :
    (∀ handle size, checker.loanSize? handle = some size ↔
      history.latest? handle = some (.lent ⟨handle, size⟩)) ∧
    (∀ block, block ∈ checker.report.leaks ↔
      history.latest? block.handle = some (.lent block)) ∧
    (checker.report.leaks.Pairwise fun first second => history.age second < history.age first) ∧
    checker.report.total = history.issued.length ∧
    (∀ handle, checker.tryDeallocate handle 0 = .refused .zeroSize checker) ∧
    ∀ handle size, size ≠ 0 →
      (∀ issued, issued ≠ size → history.latest? handle = some (.lent ⟨handle, issued⟩) →
        checker.tryDeallocate handle size =
          .refused (.sizeMismatch handle issued size) checker) ∧
      ((∀ issued, history.latest? handle ≠ some (.lent ⟨handle, issued⟩)) →
        (∀ issued, history.latestAt? handle = some (.returned ⟨handle, issued⟩) →
          checker.tryDeallocate handle size = .refused (.doubleFree handle) checker) ∧
        ((∀ issued, history.latestAt? handle ≠ some (.returned ⟨handle, issued⟩)) →
          checker.tryDeallocate handle size = .refused (.foreignHandle handle) checker)) ∧
      (history.latest? handle = some (.lent ⟨handle, size⟩) →
        (∀ reason events,
          Allocator.tryDeallocate checker.inner handle size = .fault reason events →
          checker.tryDeallocate handle size = .fault reason events) ∧
        (∀ cause next events,
          Allocator.tryDeallocate checker.inner handle size = .done (.error cause) next events →
          checker.tryDeallocate handle size =
            .done (.error cause) { checker with inner := next } events) ∧
        ∀ next events,
          Allocator.tryDeallocate checker.inner handle size = .done (.ok ()) next events →
          ∃ after, checker.tryDeallocate handle size = .done (.ok ()) after events ∧
            after.inner = next ∧ after.loanSize? handle = none ∧
            (∀ other, other ≠ handle → after.loanSize? other = checker.loanSize? other) ∧
            after.total = checker.total) := by
  obtain ⟨book, recorded⟩ := recorded_of_watched run
  have leaks : checker.report.leaks = book.reverse := recorded.listed.inOrder
  refine ⟨recorded.loanSize?_eq_some_iff,
    fun block => leaks ▸ List.mem_reverse.trans (recorded.loans block),
    leaks ▸ List.pairwise_reverse.mpr recorded.ordered, recorded.total,
    fun handle => checker.tryDeallocate_of_check_error handle 0 _ rfl,
    fun handle size words => ⟨fun issued different lent => ?_, fun idle => ?_, fun lent => ?_⟩⟩
  · refine checker.tryDeallocate_of_check_error handle size _ ?_
    have found := (recorded.loanSize?_eq_some_iff handle issued).mpr lent
    rw [checkRelease, if_neg words, show checker.loans.size? handle = some issued from found]
    exact if_neg different
  · have check := recorded.checkRelease_of_not_lent handle size words idle
    constructor
    · intro issued released
      refine checker.tryDeallocate_of_check_error handle size _ (check.trans (if_pos ?_))
      exact (recorded.released handle).mpr ⟨issued, released⟩
    · intro unreleased
      refine checker.tryDeallocate_of_check_error handle size _ (check.trans (if_neg ?_))
      exact fun noted => Exists.elim ((recorded.released handle).mp noted) unreleased
  · have found := (recorded.loanSize?_eq_some_iff handle size).mpr lent
    have check := (checker.checkRelease_eq_ok_iff handle size).mpr ⟨words, found⟩
    obtain ⟨faults, refuses, accepts⟩ := checker.tryDeallocate_of_check_ok handle size check
    have left := recorded.listed.erase handle
    refine ⟨faults, refuses, fun next events passed => ⟨_, accepts next events passed, rfl, ?_, ?_,
      rfl⟩⟩
    · exact (left.size? handle).trans (book.size?_erase_self handle)
    · intro other different
      have kept := book.size?_erase_other handle other different.symm
      exact (left.size? other).trans (kept.trans (recorded.listed.size? other).symm)

end Calls

/-- Around a system allocator, the first of three blocks is released, so the last loan takes its
place in the row, and the slot is lent again in its next generation. The report has the loans in
their order all the same, and the handle of the block that was released is foreign now. -/
theorem record_after_reuse :
    ∃ (history : History) (checker : LeakChecker SystemAllocator),
      Watched SystemAllocator.empty history checker ∧
      history = [.lent ⟨⟨0, 0, 1⟩, 3⟩, .returned ⟨⟨0, 0, 0⟩, 4⟩, .lent ⟨⟨2, 0, 0⟩, 1⟩,
        .lent ⟨⟨1, 0, 0⟩, 2⟩, .lent ⟨⟨0, 0, 0⟩, 4⟩] ∧
      checker.loans.map (·.number) = [2, 1, 3] ∧
      checker.report = ⟨[⟨⟨1, 0, 0⟩, 2⟩, ⟨⟨2, 0, 0⟩, 1⟩, ⟨⟨0, 0, 1⟩, 3⟩], 4⟩ ∧
      checker.loanSize? ⟨0, 0, 1⟩ = some 3 ∧
      checker.tryDeallocate ⟨1, 0, 0⟩ 4 = .refused (.sizeMismatch ⟨1, 0, 0⟩ 2 4) checker ∧
      checker.tryDeallocate ⟨0, 0, 0⟩ 4 = .refused (.foreignHandle ⟨0, 0, 0⟩) checker := by
  have first : Watched SystemAllocator.empty [.lent ⟨⟨0, 0, 0⟩, 4⟩]
      ⟨⟨#[⟨0, some #[0, 0, 0, 0]⟩], [], 1, 4⟩, [⟨⟨⟨0, 0, 0⟩, 4⟩, 0⟩], [], 1⟩ :=
    .lent _ _ _ .addressable 4 ⟨0, 0, 0⟩ _ .start rfl
  have second : Watched SystemAllocator.empty _
      ⟨⟨#[⟨0, some #[0, 0, 0, 0]⟩, ⟨0, some #[0, 0]⟩], [], 2, 6⟩,
        [⟨⟨⟨0, 0, 0⟩, 4⟩, 0⟩, ⟨⟨⟨1, 0, 0⟩, 2⟩, 1⟩], [], 2⟩ :=
    .lent _ _ _ .addressable 2 ⟨1, 0, 0⟩ _ first rfl
  have third : Watched SystemAllocator.empty _
      ⟨⟨#[⟨0, some #[0, 0, 0, 0]⟩, ⟨0, some #[0, 0]⟩, ⟨0, some #[0]⟩], [], 3, 7⟩,
        [⟨⟨⟨0, 0, 0⟩, 4⟩, 0⟩, ⟨⟨⟨1, 0, 0⟩, 2⟩, 1⟩, ⟨⟨⟨2, 0, 0⟩, 1⟩, 2⟩], [], 3⟩ :=
    .lent _ _ _ .addressable 1 ⟨2, 0, 0⟩ _ second rfl
  have returned : Watched SystemAllocator.empty _
      ⟨⟨#[⟨1, none⟩, ⟨0, some #[0, 0]⟩, ⟨0, some #[0]⟩], [0], 2, 3⟩,
        [⟨⟨⟨2, 0, 0⟩, 1⟩, 2⟩, ⟨⟨⟨1, 0, 0⟩, 2⟩, 1⟩], [⟨0, 0, 0⟩], 3⟩ :=
    .returned _ _ _ ⟨0, 0, 0⟩ 4 _ third rfl
  have again : Watched SystemAllocator.empty _
      ⟨⟨#[⟨1, some #[0, 0, 0]⟩, ⟨0, some #[0, 0]⟩, ⟨0, some #[0]⟩], [], 3, 6⟩,
        [⟨⟨⟨2, 0, 0⟩, 1⟩, 2⟩, ⟨⟨⟨1, 0, 0⟩, 2⟩, 1⟩, ⟨⟨⟨0, 0, 1⟩, 3⟩, 3⟩], [], 4⟩ :=
    .lent _ _ _ .addressable 3 ⟨0, 0, 1⟩ _ returned rfl
  have sorted := LoanIndex.inOrder_eq_map
    [⟨⟨⟨2, 0, 0⟩, 1⟩, 2⟩, ⟨⟨⟨1, 0, 0⟩, 2⟩, 1⟩, ⟨⟨⟨0, 0, 1⟩, 3⟩, 3⟩]
    [⟨⟨⟨1, 0, 0⟩, 2⟩, 1⟩, ⟨⟨⟨2, 0, 0⟩, 1⟩, 2⟩, ⟨⟨⟨0, 0, 1⟩, 3⟩, 3⟩] (by decide) (by decide)
  obtain ⟨sizes, _, _, _, _, releases⟩ := record_is_history _ _ _ again
  refine ⟨_, _, again, rfl, rfl, congrArg (LeakReport.mk · 4) sorted, (sizes ⟨0, 0, 1⟩ 3).mpr rfl,
    (releases ⟨1, 0, 0⟩ 4 (by decide)).1 2 (by decide) rfl, ?_⟩
  exact ((releases ⟨0, 0, 0⟩ 4 (by decide)).2.1 nofun).2 nofun

end LeakChecker

end Allotment
