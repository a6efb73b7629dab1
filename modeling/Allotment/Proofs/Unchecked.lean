/-
Calls that rely on their arguments next to the calls that check them. A release that is not
checked looks at the words, at the number of loans and at the record while it takes the block
back; a checked one first compares epochs, the record and the released blocks. What is looked
at differs, and in another order, and still the two come to the same: for every handle and every
size, in every state that an allocator comes to, the one is a fault exactly where the other is
refused, and otherwise both leave the same state. Where an arena has more chunks than there are
numbers for them, both can be faults.

A leak checker decides by its own record first, and there is only one path through it. It needs
of the allocator inside that a checked release is never a fault, so what holds of that allocator
has to hold in all states that the checker takes it to.
-/

import Allotment.Audit.LeakChecker
import Allotment.Proofs.Segregated.CheckedCalls
import Allotment.Proofs.System.ReleaseCheck

namespace Allotment

/-! ### Two forms of one call -/

namespace Step

variable {σ : Type} {unchecked : Step σ Unit} {checked : Step σ (Except Refusal Unit)}

/-- Either form of the call succeeds where the other one does, with the same state and the same
events. -/
def SucceedAlike (unchecked : Step σ Unit) (checked : Step σ (Except Refusal Unit)) : Prop :=
  ∀ next events, unchecked = .done () next events ↔ checked = .done (.ok ()) next events

/-- The unchecked form is a fault exactly where the checked form is refused. -/
def FaultsWhereRefused (unchecked : Step σ Unit) (checked : Step σ (Except Refusal Unit)) : Prop :=
  (∃ reason events, unchecked = .fault reason events) ↔
    ∃ cause next events, checked = .done (.error cause) next events

/-- Where the checked form is never a fault, it is enough that both succeed alike. -/
theorem SucceedAlike.faultsWhereRefused (alike : SucceedAlike unchecked checked)
    (done : checked.IsDone) : FaultsWhereRefused unchecked checked := by
  cases checked with
  | fault reason events => exact done.elim
  | done answer next events =>
    cases answer with
    | ok _ =>
      rw [(alike next events).mpr rfl]
      exact ⟨nofun, nofun⟩
    | error cause =>
      refine ⟨fun _ => ⟨cause, next, events, rfl⟩, fun _ => ?_⟩
      cases unchecked with
      | fault reason logged => exact ⟨reason, logged, rfl⟩
      | done _ other logged => cases (alike other logged).mp rfl

/-- A checked form that only says of the unchecked one that it succeeded. -/
theorem succeedAlike_mapAnswer (unchecked : Step σ Unit) :
    SucceedAlike unchecked (unchecked.mapAnswer .ok) := by
  intro next events
  rw [mapAnswer_eq_done_iff]
  exact ⟨fun equal => ⟨(), equal, rfl⟩, fun ⟨_, equal, _⟩ => equal⟩

end Step

/-- No operation leads out of the states. -/
structure Allocator.Closed {σ : Type} [Allocator σ] (States : σ → Prop) : Prop where
  allocate : ∀ (memory : Memory) (before after : σ) (size : Nat) (answer : Except Refusal Handle)
    (events : List Event), States before →
      Allocator.allocate memory before size = .done answer after events → States after
  tryDeallocate : ∀ (before after : σ) (handle : Handle) (size : Nat)
    (answer : Except Refusal Unit) (events : List Event), States before →
      Allocator.tryDeallocate before handle size = .done answer after events → States after
  store : ∀ (before after : σ) (handle : Handle) (size : Nat) (patch : Patch), States before →
    Allocator.store? before handle size patch = some after → States after

/-! ### An arena that records its loans -/

namespace SegregatedAllocator

/-- Some run leads to the allocator, whatever its commands. -/
def Reachable (config : Config) (allocator : SegregatedAllocator) : Prop :=
  ∃ history, Run config (fun _ _ => True) history allocator

theorem closed_reachable (config : Config) : Allocator.Closed (Reachable config) where
  allocate memory before after size answer events := by
    rintro ⟨history, run⟩ done
    exact ⟨_, run.step _ _ _ _ (.allocate memory size) events trivial
      ((Step.mapAnswer_eq_done_iff _ _ _ _ _).mpr ⟨answer, done, rfl⟩)⟩
  tryDeallocate before after handle size answer events := by
    rintro ⟨history, run⟩ done
    exact ⟨_, run.step _ _ _ _ (.tryDeallocate handle size) events trivial
      ((Step.mapAnswer_eq_done_iff _ _ _ _ _).mpr ⟨answer, done, rfl⟩)⟩
  store before after handle size patch := by
    rintro ⟨history, run⟩ stored
    have written : before.perform (.write handle size patch) = .done [] after [] := by
      rw [perform, show before.store? handle size patch = some after from stored, Option.getD_some]
    exact ⟨_, run.step _ _ _ _ (.write handle size patch) [] trivial written⟩

variable {config : Config} {allocator : SegregatedAllocator} {handle : Handle} {size : Nat}

theorem Reachable.recorded (reachable : Reachable config allocator)
    (tracked : config.trackLoans = true) : allocator.loans.isSome = true := by
  obtain ⟨history, run⟩ := reachable
  exact (configured_of_run run).recorded.trans tracked

theorem Reachable.tryDeallocate_isDone (reachable : Reachable config allocator)
    (tracked : config.trackLoans = true)
    (named : config.maxChunks = none → allocator.arena.ChunksNamed) (handle : Handle)
    (size : Nat) : (allocator.tryDeallocate handle size).IsDone := by
  obtain ⟨history, run⟩ := reachable
  have fits := (configured_of_run run).chunksNamed named
  exact SegregatedAllocator.tryDeallocate_isDone run tracked fits handle size

/-- What an unchecked release takes back against a record passes the check. -/
theorem checkRelease_of_deallocate (recorded : allocator.loans.isSome = true)
    (next : SegregatedAllocator) (events : List Event)
    (done : allocator.deallocate handle size = .done () next events) :
    allocator.checkRelease handle size = .ok () := by
  obtain ⟨book, found⟩ := Option.isSome_iff_exists.mp recorded
  cases allocator.change_of_deallocate handle size next events done with
  | returned handle size positive carved lending noted =>
    obtain ⟨current, _⟩ := (Arena.contains_iff _ _ _).mp carved
    rw [checkRelease, if_neg (Nat.ne_of_gt positive), if_neg (not_not_intro current), found]
    show allocator.checkAgainstRecord book handle size = .ok ()
    rw [checkAgainstRecord, noted book found]
    exact if_pos rfl

/-- Against a record, both forms of a release succeed alike. -/
theorem deallocate_alike (recorded : allocator.loans.isSome = true) (handle : Handle)
    (size : Nat) :
    Step.SucceedAlike (allocator.deallocate handle size) (allocator.tryDeallocate handle size) := by
  rw [tryDeallocate]
  cases check : allocator.checkRelease handle size with
  | ok _ => exact Step.succeedAlike_mapAnswer _
  | error cause =>
    intro next events
    constructor
    · intro done
      rw [checkRelease_of_deallocate recorded next events done] at check
      cases check
    · intro accepted
      cases accepted

/-- Once its size was checked, a request is refused only over the budget or for lack of memory. -/
theorem cause_of_allocate_refused (memory : Memory) (cause : Refusal) (next : SegregatedAllocator)
    (events : List Event)
    (refused : allocator.allocate memory size = .done (.error cause) next events) :
    (∃ capacity, cause = .capacityExceeded size capacity) ∨
      ∃ words, cause = .outOfMemory words := by
  unfold allocate at refused
  split at refused
  · cases refused
  split at refused
  · cases refused
  next notZero _ =>
  split at refused
  · cases refused
  · rcases allocator.arena.obtain_outcomes memory size (Nat.pos_of_ne_zero notZero) with
      ⟨_, _, _, equal⟩ | ⟨_, _, equal⟩ | ⟨_, _, _, equal⟩ | ⟨_, _, _, _, _, _, equal⟩
    · rw [equal] at refused
      cases refused
    · rw [equal] at refused
      cases refused
      exact Or.inl ⟨_, rfl⟩
    · rw [equal] at refused
      cases refused
      exact Or.inr ⟨_, rfl⟩
    · rw [equal] at refused
      cases refused

/-- Both forms of a request: the unchecked one is a fault exactly where the checked one refuses the
size, and otherwise they are the same. -/
theorem allocate_alike (allocator : SegregatedAllocator) (memory : Memory) (size : Nat) :
    ((∃ reason events, allocator.allocate memory size = .fault reason events) ↔
      ∃ cause next events, allocator.tryAllocate memory size = .done (.error cause) next events ∧
        (cause = .zeroSize ∨ ∃ limit, cause = .oversize size limit)) ∧
    ((allocator.allocate memory size).IsDone →
      allocator.tryAllocate memory size = allocator.allocate memory size) := by
  by_cases none : size = 0
  · rw [allocate, tryAllocate, if_pos none, if_pos none]
    exact ⟨⟨fun _ => ⟨_, _, _, rfl, Or.inl rfl⟩, fun _ => ⟨_, _, rfl⟩⟩, False.elim⟩
  by_cases large : allocator.config.maxRequestWords < size
  · rw [allocate, tryAllocate, if_neg none, if_neg none, if_pos large, if_pos large]
    exact ⟨⟨fun _ => ⟨_, _, _, rfl, Or.inr ⟨_, rfl⟩⟩, fun _ => ⟨_, _, rfl⟩⟩, False.elim⟩
  have positive : 0 < size := Nat.pos_of_ne_zero none
  have small : size ≤ allocator.config.maxRequestWords := Nat.le_of_not_lt large
  have same := allocator.tryAllocate_eq_allocate memory size positive small
  refine ⟨⟨?_, ?_⟩, fun _ => same⟩
  · rintro ⟨reason, events, fault⟩
    have done := allocator.allocate_isDone memory size positive small
    rw [fault] at done
    exact done.elim
  · rintro ⟨cause, next, events, refused, size⟩
    rw [same] at refused
    rcases cause_of_allocate_refused memory cause next events refused with ⟨_, rfl⟩ | ⟨_, rfl⟩
    · exact absurd size (by simp)
    · exact absurd size (by simp)

end SegregatedAllocator

/-! ### The system allocator -/

namespace SystemAllocator

/-- Some run leads to the allocator. -/
def Reachable (allocator : SystemAllocator) : Prop :=
  ∃ history, Run history allocator

theorem closed_reachable : Allocator.Closed Reachable where
  allocate memory before after size answer events := by
    rintro ⟨history, run⟩ done
    cases answer with
    | ok handle => exact ⟨_, .lent history before after memory size handle events run done⟩
    | error cause => exact ⟨_, .declined history before after memory size cause events run done⟩
  tryDeallocate before after handle size answer events := by
    rintro ⟨history, run⟩ done
    cases answer with
    | ok _ => exact ⟨_, .returned history before after handle size events run done⟩
    | error cause => exact ⟨_, .rejected history before after handle size cause events run done⟩
  store before after handle size patch := by
    rintro ⟨history, run⟩ stored
    exact ⟨_, .written history before after handle size patch run stored⟩

/-- No block on loan is empty. -/
theorem positive_of_run {history : History} {allocator : SystemAllocator}
    (run : Run history allocator) : ∀ block ∈ history.loans, 0 < block.size := by
  induction run with
  | start => exact nofun
  | lent history before after memory size handle events run granted inductionHypothesis =>
    refine List.forall_mem_cons.mpr ⟨Nat.pos_of_ne_zero fun none => ?_, inductionHypothesis⟩
    rw [allocate, if_pos none] at granted
    cases granted
  | returned history before after handle size events run granted inductionHypothesis =>
    exact fun block member => inductionHypothesis block (List.mem_of_mem_erase member)
  | released history before after handle size events run done inductionHypothesis =>
    exact fun block member => inductionHypothesis block (List.mem_of_mem_erase member)
  | declined _ _ _ _ _ _ _ _ _ inductionHypothesis => exact inductionHypothesis
  | rejected _ _ _ _ _ _ _ _ _ inductionHypothesis => exact inductionHypothesis
  | written _ _ _ _ _ _ _ _ inductionHypothesis => exact inductionHypothesis

section Run

variable {allocator : SystemAllocator} (reachable : Reachable allocator) (handle : Handle)
  (size : Nat)

include reachable

/-- Both forms of a release succeed alike: only a block on loan at its size comes back. -/
theorem deallocate_alike :
    Step.SucceedAlike (allocator.deallocate handle size) (allocator.tryDeallocate handle size) := by
  obtain ⟨history, run⟩ := reachable
  have sound := (chronicled_of_run run).sound
  intro next events
  constructor
  · intro done
    obtain ⟨words, found, sized, _⟩ := deallocate_eq_done sound handle size events done
    have onLoan : ⟨handle, size⟩ ∈ history.loans := (sound.held _).mpr ⟨words, found, sized⟩
    have positive : 0 < size := positive_of_run run _ onLoan
    rw [sound.deallocate_eq handle size words found sized] at done
    cases done
    rcases sound.tryDeallocate handle size with ⟨cause, refused⟩ | ⟨_, _, _, granted⟩
    · have check := (tryDeallocate_refused_iff allocator handle size cause).mp refused
      rcases allocator.checkRelease_cases handle size (Nat.ne_of_gt positive) with
        ⟨block, held, told⟩ | ⟨unheld, _⟩ | ⟨beyond, _⟩
      · cases found.symm.trans held
        rw [check, if_pos sized] at told
        cases told
      · cases found.symm.trans unheld
      · obtain ⟨offset, slot⟩ := (blockOf?_eq_some_iff _ _ _).mp found
        exact ((beyond _ slot).elim (fun inside => inside offset) (UInt32.lt_irrefl _)).elim
    · exact granted
  · intro accepted
    rcases sound.tryDeallocate handle size with ⟨cause, refused⟩ | ⟨words, found, sized, granted⟩
    · rw [refused] at accepted
      cases accepted
    · rw [granted] at accepted
      cases accepted
      exact sound.deallocate_eq handle size words found sized

theorem tryDeallocate_isDone : (allocator.tryDeallocate handle size).IsDone := by
  obtain ⟨history, run⟩ := reachable
  rcases (chronicled_of_run run).sound.tryDeallocate handle size with ⟨cause, refused⟩ |
    ⟨_, _, _, granted⟩
  · rw [refused]
    trivial
  · rw [granted]
    trivial

end Run

end SystemAllocator

/-! ### The leak checker -/

namespace LeakChecker

variable {σ : Type} [Allocator σ]

/-- The states of a leak checker around an allocator of the given states: after its own calls with
any arguments, after the allocator inside was brought to another of its states behind its back, and
after its record was dropped. -/
inductive InUse (States : σ → Prop) : LeakChecker σ → Prop
  | start (inner : σ) (among : States inner) : InUse States (.around inner)
  | allocated (before after : LeakChecker σ) (memory : Memory) (size : Nat)
    (answer : Except Refusal Handle) (events : List Event) (inUse : InUse States before)
    (done : before.allocate memory size = .done answer after events) : InUse States after
  | checked (before after : LeakChecker σ) (handle : Handle) (size : Nat)
    (answer : Except Refusal Unit) (events : List Event) (inUse : InUse States before)
    (done : before.tryDeallocate handle size = .done answer after events) : InUse States after
  | unchecked (before after : LeakChecker σ) (handle : Handle) (size : Nat)
    (events : List Event) (inUse : InUse States before)
    (done : before.deallocate handle size = .done () after events) : InUse States after
  | written (before after : LeakChecker σ) (handle : Handle) (size : Nat) (patch : Patch)
    (inUse : InUse States before) (stored : before.store? handle size patch = some after) :
    InUse States after
  | moved (before : LeakChecker σ) (inner : σ) (inUse : InUse States before)
    (among : States inner) : InUse States { before with inner := inner }
  | forgotten (before : LeakChecker σ) (inUse : InUse States before) :
    InUse States before.forgetLoans

/-- Both forms of a release succeed alike, whatever the allocator inside does. -/
theorem deallocate_alike (checker : LeakChecker σ) (handle : Handle) (size : Nat) :
    Step.SucceedAlike (checker.deallocate handle size) (checker.tryDeallocate handle size) := by
  intro next events
  rw [deallocate]
  cases checker.tryDeallocate handle size with
  | fault reason logged => exact ⟨nofun, nofun⟩
  | done answer after logged =>
    cases answer with
    | ok _ =>
      constructor
      · rintro ⟨⟩
        rfl
      · rintro ⟨⟩
        rfl
    | error cause => exact ⟨nofun, nofun⟩

/-- A checked release is a fault only if the allocator inside makes it one. -/
theorem tryDeallocate_isDone (checker : LeakChecker σ) (handle : Handle) (size : Nat)
    (done : (Allocator.tryDeallocate checker.inner handle size).IsDone) :
    (checker.tryDeallocate handle size).IsDone := by
  rw [tryDeallocate]
  split
  · trivial
  · split
    · next fault =>
      rw [fault] at done
      exact done.elim
    · trivial
    · trivial

theorem inner_of_tryDeallocate {States : σ → Prop} (closed : Allocator.Closed States)
    (before after : LeakChecker σ) (handle : Handle) (size : Nat) (answer : Except Refusal Unit)
    (events : List Event) (among : States before.inner)
    (done : before.tryDeallocate handle size = .done answer after events) :
    States after.inner := by
  unfold tryDeallocate at done
  split at done
  · cases done
    exact among
  · split at done
    · cases done
    · next passed =>
      cases done
      exact closed.tryDeallocate _ _ handle size _ events among passed
    · next passed =>
      cases done
      exact closed.tryDeallocate _ _ handle size _ events among passed

/-- The allocator inside stays among its states. -/
theorem inner_of_inUse {States : σ → Prop} (closed : Allocator.Closed States)
    {checker : LeakChecker σ} (inUse : InUse States checker) : States checker.inner := by
  induction inUse with
  | start inner among => exact among
  | allocated before after memory size answer events inUse done inductionHypothesis =>
    unfold allocate at done
    split at done
    · cases done
    · next passed =>
      cases done
      exact closed.allocate memory _ _ size _ _ inductionHypothesis passed
    · next passed =>
      cases done
      exact closed.allocate memory _ _ size _ _ inductionHypothesis passed
  | checked before after handle size answer events inUse done inductionHypothesis =>
    exact inner_of_tryDeallocate closed before after handle size answer events inductionHypothesis
      done
  | unchecked before after handle size events inUse done inductionHypothesis =>
    exact inner_of_tryDeallocate closed before after handle size _ events inductionHypothesis
      ((before.deallocate_alike handle size after events).mp done)
  | written before after handle size patch inUse stored inductionHypothesis =>
    obtain ⟨inner, passed, rfl⟩ := Option.map_eq_some_iff.mp stored
    exact closed.store _ _ handle size patch inductionHypothesis passed
  | moved before inner inUse among inductionHypothesis => exact among
  | forgotten before inUse inductionHypothesis => exact inductionHypothesis

end LeakChecker

/-! ### All forms agree -/

/-- In every state of an arena that records its loans, of the system allocator, and of a leak
checker around either, both forms of a release, of any handle at any size, succeed alike, and the
unchecked one is a fault exactly where the checked one is refused. The chunks of an arena without
a budget must have numbers that fit into handles for the latter. Of an arena, with a record or
without, also both forms of a request agree: the unchecked one is a fault exactly where the checked
one refuses the size, and otherwise the two are the same. -/
theorem unchecked_agrees_with_checked :
    (∀ config : Config, config.trackLoans = true →
      (∀ allocator, SegregatedAllocator.Reachable config allocator → ∀ handle size,
        Step.SucceedAlike (allocator.deallocate handle size)
          (allocator.tryDeallocate handle size) ∧
        ((config.maxChunks = none → allocator.arena.ChunksNamed) →
          Step.FaultsWhereRefused (allocator.deallocate handle size)
            (allocator.tryDeallocate handle size))) ∧
      ∀ checker, LeakChecker.InUse (SegregatedAllocator.Reachable config) checker →
        ∀ handle size,
          Step.SucceedAlike (checker.deallocate handle size)
            (checker.tryDeallocate handle size) ∧
          ((config.maxChunks = none → checker.inner.arena.ChunksNamed) →
            Step.FaultsWhereRefused (checker.deallocate handle size)
              (checker.tryDeallocate handle size))) ∧
    (∀ allocator, SystemAllocator.Reachable allocator → ∀ handle size,
      Step.SucceedAlike (allocator.deallocate handle size)
        (allocator.tryDeallocate handle size) ∧
      Step.FaultsWhereRefused (allocator.deallocate handle size)
        (allocator.tryDeallocate handle size)) ∧
    (∀ checker, LeakChecker.InUse SystemAllocator.Reachable checker → ∀ handle size,
      Step.SucceedAlike (checker.deallocate handle size) (checker.tryDeallocate handle size) ∧
      Step.FaultsWhereRefused (checker.deallocate handle size)
        (checker.tryDeallocate handle size)) ∧
    ∀ (allocator : SegregatedAllocator) (memory : Memory) (size : Nat),
      ((∃ reason events, allocator.allocate memory size = .fault reason events) ↔
        ∃ cause next events,
          allocator.tryAllocate memory size = .done (.error cause) next events ∧
          (cause = .zeroSize ∨ ∃ limit, cause = .oversize size limit)) ∧
      ((allocator.allocate memory size).IsDone →
        allocator.tryAllocate memory size = allocator.allocate memory size) := by
  refine ⟨fun config tracked => ⟨fun allocator reachable handle size => ?_,
    fun checker inUse handle size => ?_⟩, fun allocator reachable handle size => ?_,
    fun checker inUse handle size => ?_, fun allocator => allocator.allocate_alike⟩
  · have alike :=
      SegregatedAllocator.deallocate_alike (reachable.recorded tracked) handle size
    exact ⟨alike, fun named => alike.faultsWhereRefused
      (reachable.tryDeallocate_isDone tracked named handle size)⟩
  · have alike := checker.deallocate_alike handle size
    have inside := LeakChecker.inner_of_inUse (SegregatedAllocator.closed_reachable config) inUse
    exact ⟨alike, fun named => alike.faultsWhereRefused (checker.tryDeallocate_isDone handle size
      (inside.tryDeallocate_isDone tracked named handle size))⟩
  · have alike := SystemAllocator.deallocate_alike reachable handle size
    exact ⟨alike, alike.faultsWhereRefused
      (SystemAllocator.tryDeallocate_isDone reachable handle size)⟩
  · have alike := checker.deallocate_alike handle size
    have inside := LeakChecker.inner_of_inUse SystemAllocator.closed_reachable inUse
    exact ⟨alike, alike.faultsWhereRefused (checker.tryDeallocate_isDone handle size
      (SystemAllocator.tryDeallocate_isDone inside handle size))⟩

/-- A block of three words from an arena, from the system and through a leak checker: its release
at two words is a fault each time, and its release at three words is done. -/
theorem unchecked_agrees_with_checked_on_sizes :
    ∃ (arena : SegregatedAllocator) (system : SystemAllocator)
      (checker : LeakChecker SegregatedAllocator),
      SegregatedAllocator.Reachable (.recording 4) arena ∧ SystemAllocator.Reachable system ∧
      LeakChecker.InUse (SegregatedAllocator.Reachable (.recording 4)) checker ∧
      (∃ reason events, arena.deallocate ⟨0, 0, 0⟩ 2 = .fault reason events) ∧
      (∃ next events, arena.deallocate ⟨0, 0, 0⟩ 3 = .done () next events) ∧
      (∃ reason events, system.deallocate ⟨0, 0, 0⟩ 2 = .fault reason events) ∧
      (∃ next events, system.deallocate ⟨0, 0, 0⟩ 3 = .done () next events) ∧
      (∃ reason events, checker.deallocate ⟨0, 0, 0⟩ 2 = .fault reason events) ∧
      ∃ next events, checker.deallocate ⟨0, 0, 0⟩ 3 = .done () next events := by
  obtain ⟨recorded, slots, _⟩ := unchecked_agrees_with_checked
  obtain ⟨bare, guarded⟩ := recorded (.recording 4) rfl
  have created : SegregatedAllocator.Run (.recording 4) (fun _ _ => True) []
    (SegregatedAllocator.fresh _) := .start _ rfl
  have arena := created.step _ _ _ _ (.allocate .addressable 3) _ trivial rfl
  have system := SystemAllocator.Run.lent _ _ _ .addressable 3 _ _ .start rfl
  have checker : LeakChecker.InUse (SegregatedAllocator.Reachable (.recording 4)) _ :=
    .allocated _ _ .addressable 3 _ _ (.start _ ⟨_, created⟩) rfl
  exact ⟨_, _, _, ⟨_, arena⟩, ⟨_, system⟩, checker,
    ((bare _ ⟨_, arena⟩ ⟨0, 0, 0⟩ 2).2 fun _ => by decide).mpr ⟨_, _, _, rfl⟩,
    ⟨_, _, ((bare _ ⟨_, arena⟩ ⟨0, 0, 0⟩ 3).1 _ _).mpr rfl⟩,
    (slots _ ⟨_, system⟩ ⟨0, 0, 0⟩ 2).2.mpr ⟨_, _, _, rfl⟩,
    ⟨_, _, ((slots _ ⟨_, system⟩ ⟨0, 0, 0⟩ 3).1 _ _).mpr rfl⟩,
    ((guarded _ checker ⟨0, 0, 0⟩ 2).2 fun _ => by decide).mpr ⟨_, _, _, rfl⟩,
    ⟨_, _, ((guarded _ checker ⟨0, 0, 0⟩ 3).1 _ _).mpr rfl⟩⟩

/-- With one more chunk than there are numbers, the block that was lent last is released: both forms
of the release are faults, so the checked one refuses nothing. -/
theorem both_releases_fault_past_chunk_numbers :
    ∃ allocator : SegregatedAllocator,
      SegregatedAllocator.Reachable (.recording 2) allocator ∧
        allocator.deallocate ⟨0, 0, 0⟩ 2 = .fault (.notCarved ⟨0, 0, 0⟩ 2 0) [] ∧
        allocator.tryDeallocate ⟨0, 0, 0⟩ 2 = .fault (.notCarved ⟨0, 0, 0⟩ 2 0) [] := by
  obtain ⟨allocator, crowded, run⟩ := SegregatedAllocator.exists_crowded_run (fun _ _ => True)
    (fun _ _ _ => trivial) true _ (Nat.le_refl _)
  exact ⟨allocator, ⟨_, run⟩, crowded.deallocate_first, crowded.tryDeallocate_first run⟩

end Allotment
