/-
Releases can be checked against a record of loans in two ways: by an allocator that keeps
the record, and by a leak checker around an allocator that keeps none. Fed the same calls
they give the same answers and hold the same memory.

The two tell a second release from a foreign handle by different data. The allocator looks
for the handle among the blocks that wait; the checker looks at what it noted as released,
one handle for each place. The notes name exactly the handles that wait, because all blocks
are of the current epoch, where a handle is known by its place.

The handles have to tell the blocks apart, so there must be numbers for all chunks. Past the
last number the two sides part over a block that goes by the handle of another.
-/

import Allotment.Proofs.Audit.Lender
import Allotment.Proofs.Segregated.CheckedCalls

namespace Allotment

/-- The same settings, with loans tracked or not. -/
def Config.tracking (config : Config) (tracked : Bool) : Config :=
  { config with trackLoans := tracked }

namespace SegregatedAllocator

/-! ### The allocator without its record -/

/-- The allocator as it would be had it not recorded its loans. -/
def withoutRecord (allocator : SegregatedAllocator) : SegregatedAllocator :=
  { allocator with
    config := allocator.config.tracking false
    loans := none }

variable (allocator : SegregatedAllocator)

/-- The record has no say in which block is lent. -/
theorem allocate_withoutRecord (memory : Memory) (size : Nat) :
    allocator.withoutRecord.allocate memory size =
      (allocator.allocate memory size).within withoutRecord := by
  have sameLimit : allocator.withoutRecord.config.maxRequestWords =
    allocator.config.maxRequestWords := rfl
  have sameFree : allocator.withoutRecord.free = allocator.free := rfl
  have sameArena : allocator.withoutRecord.arena = allocator.arena := rfl
  rw [allocate, allocate, sameLimit, sameFree, sameArena]
  split
  · rfl
  split
  · rfl
  split
  · rfl
  · cases allocator.arena.obtain memory size with
    | fault reason events => rfl
    | done answer grown events =>
      cases answer with
      | error cause => rfl
      | ok handle => rfl

/-- A release that the record allows is carried out without it as well. -/
theorem tryDeallocate_withoutRecord {history : History} (sound : Sound history allocator)
    (shelved : allocator.free = history.shelf) (handle : Handle) (size : Nat)
    (onLoan : ⟨handle, size⟩ ∈ history.loans) :
    allocator.withoutRecord.tryDeallocate handle size =
      .done (.ok ()) (allocator.shelve ⟨handle, size⟩ none).withoutRecord [] := by
  have unrecorded : Sound history allocator.withoutRecord :=
    ⟨sound.apart, sound.carved, nofun, sound.live⟩
  exact unrecorded.tryDeallocate_eq shelved handle size onLoan

/-- Without a record, the release of the loan that is named after the wrong chunk is refused. -/
theorem Crowded.tryDeallocate_withoutRecord {chunks : Nat} {allocator : SegregatedAllocator}
    (crowded : Crowded chunks allocator) :
    allocator.withoutRecord.tryDeallocate ⟨0, 0, 0⟩ 2 =
      .refused (.foreignHandle ⟨0, 0, 0⟩) allocator.withoutRecord := by
  have current : ¬ (0 : UInt32) ≠ allocator.withoutRecord.arena.epoch :=
    not_not_intro crowded.epoch.symm
  refine (tryDeallocate_eq_refused_iff _ _ _ _).mpr ?_
  rw [checkRelease, if_neg (by decide), if_neg current]
  exact if_pos crowded.contains_first

/-- A block that waits lies at another place than every block on loan. -/
theorem Sound.not_samePlace {history : History} {allocator : SegregatedAllocator}
    (sound : Sound history allocator) (loan waiting : Block) (onLoan : loan ∈ history.loans)
    (shelved : waiting ∈ history.shelf) : ¬ waiting.handle.SamePlace loan.handle := by
  intro place
  have sameEpoch : waiting.handle.epoch = loan.handle.epoch :=
    (sound.current waiting (List.mem_append_right _ shelved)).trans
      (sound.current loan (List.mem_append_left _ onLoan)).symm
  exact sound.handle_ne loan waiting onLoan shelved (place.eq sameEpoch).symm

/-- What a reset would leave is not changed before there is one. -/
theorem cleared_of_change {before after : SegregatedAllocator} {deeds : History}
    (change : Change before deeds after) (kept : deeds ≠ [.cleared]) :
    after.cleared = before.cleared := by
  cases change with
  | nothing => rfl
  | written handle size patch stored overwrites =>
    obtain ⟨chunkWords, maxChunks, alignment, _⟩ := Arena.settings_of_store overwrites
    unfold cleared Arena.reset
    rw [chunkWords, maxChunks, alignment, Arena.epoch_store overwrites]
  | reused handle size left positive small taken =>
    unfold cleared lend
    rw [Option.map_map]
    rfl
  | carved memory handle size grown events positive small absent obtained =>
    have settled := Arena.settled_of_obtain memory _ size handle grown events positive obtained
    have epoch := (Arena.extends_of_obtain memory _ size handle grown events positive
      obtained).1.epoch
    unfold cleared lend Arena.reset
    rw [settled.chunkWords, settled.maxChunks, settled.alignment, epoch, Option.map_map]
    rfl
  | returned handle size positive carved lending isLoan =>
    unfold cleared shelve
    rw [Option.map_map]
    rfl
  | cleared => exact absurd rfl kept

end SegregatedAllocator

/-! ### The same calls to both -/

/-- A call that an allocator and a checker around one both know. -/
inductive SharedCall where
  | allocate (memory : Memory) (size : Nat)
  | tryDeallocate (handle : Handle) (size : Nat)
  | reset

/-- What a shared call answers. -/
inductive SharedAnswer where
  | lent (answer : Except Refusal Handle)
  | returned (answer : Except Refusal Unit)
  | cleared
deriving DecidableEq

/-- Resets the allocator inside, and then forgets the loans. -/
def LeakChecker.restart (checker : LeakChecker SegregatedAllocator) :
    Step (LeakChecker SegregatedAllocator) Unit :=
  checker.inner.reset.within fun inner => { checker with inner := inner }.forgetLoans

namespace SharedCall

/-- Carries out a call on an allocator. -/
def onAllocator (allocator : SegregatedAllocator) :
    SharedCall → Step SegregatedAllocator SharedAnswer
  | .allocate memory size => (allocator.allocate memory size).mapAnswer .lent
  | .tryDeallocate handle size => (allocator.tryDeallocate handle size).mapAnswer .returned
  | .reset => allocator.reset.mapAnswer fun _ => .cleared

/-- Carries out a call on a checker around an allocator. -/
def onChecker (checker : LeakChecker SegregatedAllocator) :
    SharedCall → Step (LeakChecker SegregatedAllocator) SharedAnswer
  | .allocate memory size => (checker.allocate memory size).mapAnswer .lent
  | .tryDeallocate handle size => (checker.tryDeallocate handle size).mapAnswer .returned
  | .reset => checker.restart.mapAnswer fun _ => .cleared

/-- A request is for a block that a chunk can hold, and a release is of a handle of the current
epoch. -/
def Permitted (allocator : SegregatedAllocator) : SharedCall → Prop
  | .allocate _ size => 0 < size ∧ size ≤ allocator.config.chunkWords
  | .tryDeallocate handle _ => handle.epoch = allocator.arena.epoch
  | .reset => True

/-- The call as a command of the allocator. -/
def command : SharedCall → SegregatedAllocator.Command
  | .allocate memory size => .allocate memory size
  | .tryDeallocate handle size => .tryDeallocate handle size
  | .reset => .reset

/-- A call that is done is a command that is done. -/
theorem perform_command (call : SharedCall) (before after : SegregatedAllocator)
    (answer : SharedAnswer) (events : List Event)
    (done : call.onAllocator before = .done answer after events) :
    ∃ deeds, before.perform call.command = .done deeds after events := by
  cases call with
  | allocate memory size =>
    obtain ⟨original, found, _⟩ := (Step.mapAnswer_eq_done_iff _ _ _ _ _).mp done
    exact ⟨_, (Step.mapAnswer_eq_done_iff _ _ _ _ _).mpr ⟨original, found, rfl⟩⟩
  | tryDeallocate handle size =>
    obtain ⟨original, found, _⟩ := (Step.mapAnswer_eq_done_iff _ _ _ _ _).mp done
    exact ⟨_, (Step.mapAnswer_eq_done_iff _ _ _ _ _).mpr ⟨original, found, rfl⟩⟩
  | reset =>
    cases done
    exact ⟨_, rfl⟩

/-- A call that is done is a reset, or it makes one of the other changes. -/
theorem change_of_onAllocator (call : SharedCall) (before after : SegregatedAllocator)
    (answer : SharedAnswer) (events : List Event)
    (done : call.onAllocator before = .done answer after events) :
    call = .reset ∨
      ∃ deeds, SegregatedAllocator.Change before deeds after ∧ deeds ≠ [.cleared] := by
  cases call with
  | allocate memory size =>
    obtain ⟨original, found, _⟩ := (Step.mapAnswer_eq_done_iff _ _ _ _ _).mp done
    refine Or.inr ⟨_, before.change_of_allocate memory size original after events found, ?_⟩
    cases original <;> nofun
  | tryDeallocate handle size =>
    obtain ⟨original, found, _⟩ := (Step.mapAnswer_eq_done_iff _ _ _ _ _).mp done
    refine Or.inr ⟨_, before.change_of_tryDeallocate handle size original after events found, ?_⟩
    cases original <;> nofun
  | reset => exact Or.inl rfl

/-- Of the calls only a reset changes what a reset would leave. -/
theorem cleared_of_onAllocator (call : SharedCall) (before after : SegregatedAllocator)
    (answer : SharedAnswer) (events : List Event) (other : call ≠ .reset)
    (done : call.onAllocator before = .done answer after events) :
    after.cleared = before.cleared := by
  obtain ⟨_, change, kept⟩ :=
    (call.change_of_onAllocator before after answer events done).resolve_left other
  exact SegregatedAllocator.cleared_of_change change kept

/-- A call on a checker leaves the allocator inside, or is carried out on it. -/
theorem onChecker_cases (call : SharedCall) (before after : LeakChecker SegregatedAllocator)
    (answer : SharedAnswer) (events : List Event)
    (done : call.onChecker before = .done answer after events) :
    after.inner = before.inner ∨
      ∃ inner logged, call.onAllocator before.inner = .done inner after.inner logged := by
  cases call with
  | allocate memory size =>
    obtain ⟨original, found, _⟩ := (Step.mapAnswer_eq_done_iff _ _ _ _ _).mp done
    refine Or.inr ?_
    cases original with
    | ok handle =>
      obtain ⟨inner, logged, granted, rfl⟩ :=
        before.allocate_ok memory after size handle events found
      exact ⟨_, logged, (Step.mapAnswer_eq_done_iff _ _ _ _ _).mpr ⟨_, granted, rfl⟩⟩
    | error cause =>
      obtain ⟨inner, refused, rfl⟩ := before.allocate_error memory after size cause events found
      exact ⟨_, events, (Step.mapAnswer_eq_done_iff _ _ _ _ _).mpr ⟨_, refused, rfl⟩⟩
  | tryDeallocate handle size =>
    obtain ⟨original, found, _⟩ := (Step.mapAnswer_eq_done_iff _ _ _ _ _).mp done
    cases original with
    | ok _ =>
      obtain ⟨_, inner, granted, rfl⟩ := before.tryDeallocate_ok after handle size events found
      exact Or.inr ⟨_, events, (Step.mapAnswer_eq_done_iff _ _ _ _ _).mpr ⟨_, granted, rfl⟩⟩
    | error cause =>
      rcases before.tryDeallocate_error after handle size cause events found with
        rfl | ⟨inner, refused, rfl⟩
      · exact Or.inl rfl
      · exact Or.inr ⟨_, events, (Step.mapAnswer_eq_done_iff _ _ _ _ _).mpr ⟨_, refused, rfl⟩⟩
  | reset =>
    cases done
    exact Or.inr ⟨_, _, rfl⟩

end SharedCall

namespace LeakChecker

/-! ### One checker mirrors one allocator -/

/-- The checker holds the allocator without its record, lists the loans of that record, and noted
exactly the handles that wait. -/
structure Mirrors (checker : LeakChecker SegregatedAllocator)
    (allocator : SegregatedAllocator) : Prop where
  inner : checker.inner = allocator.withoutRecord
  loans : ∃ book, allocator.loans = some book ∧ checker.loans.Lists book checker.total
  released : ∀ handle, handle ∈ checker.released ↔ allocator.free.holds handle = true

/-- The checker is one around the allocator without its record, and knows the same loans. -/
structure SameLoans (checker : LeakChecker SegregatedAllocator)
    (allocator : SegregatedAllocator) : Prop where
  inner : checker.inner = allocator.withoutRecord
  loans : ∃ book, allocator.loans = some book ∧ checker.loans.Lists book checker.total

/-- The checker is one around an allocator that a reset makes the same, up to the record. -/
structure Restartable (checker : LeakChecker SegregatedAllocator)
    (allocator : SegregatedAllocator) : Prop where
  inner : checker.inner.cleared = allocator.cleared.withoutRecord
  loans : allocator.cleared.loans = some []

/-- A call answers the same on both sides, and afterwards the checker mirrors the allocator again if
the chunks have numbers that fit. -/
def Agree (onChecker : Step (LeakChecker SegregatedAllocator) SharedAnswer)
    (onAllocator : Step SegregatedAllocator SharedAnswer) : Prop :=
  ∃ answer checker allocator events logged, onChecker = .done answer checker events ∧
    onAllocator = .done answer allocator logged ∧
    (allocator.arena.ChunksNamed → Mirrors checker allocator)

variable {checker : LeakChecker SegregatedAllocator} {allocator : SegregatedAllocator}

/-- Both sides refuse the same releases of the current epoch, for the same causes. -/
theorem Mirrors.checkRelease_eq (mirrors : Mirrors checker allocator) (handle : Handle)
    (size : Nat) (current : handle.epoch = allocator.arena.epoch) :
    checker.checkRelease handle size = allocator.checkRelease handle size := by
  obtain ⟨book, noted, lists⟩ := mirrors.loans
  rw [checkRelease, SegregatedAllocator.checkRelease, if_neg (not_not_intro current), noted,
    lists.size?]
  refine if_congr Iff.rfl rfl ?_
  show _ = allocator.checkAgainstRecord book handle size
  rw [SegregatedAllocator.checkAgainstRecord]
  cases book.size? handle with
  | some expected => rfl
  | none => exact if_congr (mirrors.released handle) rfl rfl

section Call

variable {config : Config} {history : History}

open SegregatedAllocator (Run Proper sound_of_run free_eq_shelf)

/-- What waits after a loan is what waited before at other places. -/
theorem Mirrors.released_lent (mirrors : Mirrors checker allocator) (block : Block)
    (next : SegregatedAllocator) (before : allocator.free = history.shelf)
    (after : next.free = History.shelf (.lent block :: history))
    (sound : SegregatedAllocator.Sound (.lent block :: history) next) (handle : Handle) :
    handle ∈ clearPlace checker.released block.handle ↔ next.free.holds handle = true := by
  have left : next.free = List.erase allocator.free block := by rw [after, before]; rfl
  rw [mem_clearPlace, mirrors.released, SegregatedAllocator.holds_iff,
    SegregatedAllocator.holds_iff, left]
  constructor
  · rintro ⟨⟨other, waiting, rfl⟩, elsewhere⟩
    have different : other ≠ block := fun same => elsewhere (same ▸ Handle.SamePlace.refl _)
    exact ⟨other, (List.mem_erase_of_ne different).mpr waiting, rfl⟩
  · rintro ⟨other, waiting, rfl⟩
    refine ⟨⟨other, List.mem_of_mem_erase waiting, rfl⟩, ?_⟩
    rw [← left, after] at waiting
    -- The block is on loan now, so nothing that still waits lies at its place.
    exact sound.not_samePlace block other List.mem_cons_self waiting

/-- A loan is the same on both sides, whatever the numbers of chunks. -/
theorem SameLoans.allocate (same : SameLoans checker allocator) {memory : Memory} {size : Nat}
    {handle : Handle} {next : SegregatedAllocator} {events : List Event}
    (granted : allocator.allocate memory size = .done (.ok handle) next events) :
    SameLoans (checker.lent next.withoutRecord ⟨handle, size⟩) next ∧
      checker.allocate memory size =
        .done (.ok handle) (checker.lent next.withoutRecord ⟨handle, size⟩)
          (events ++ checker.lentEvents ⟨handle, size⟩) := by
  constructor
  · have recorded : next.loans = allocator.loans.map (·.record ⟨handle, size⟩) := by
      cases allocator.change_of_allocate memory size _ next events granted <;> rfl
    obtain ⟨book, noted, lists⟩ := same.loans
    refine ⟨rfl, ?_⟩
    rw [recorded, noted]
    exact ⟨_, rfl, lists.record ⟨handle, size⟩⟩
  · have passedOn : Allocator.allocate memory checker.inner size =
        (allocator.allocate memory size).within SegregatedAllocator.withoutRecord := by
      rw [same.inner]
      exact allocator.allocate_withoutRecord memory size
    exact checker.allocate_of_inner memory size handle _ events
      (passedOn.trans (congrArg (Step.within _) granted))

theorem Mirrors.allocate (mirrors : Mirrors checker allocator)
    (run : Run config (Proper config) history allocator) (memory : Memory) (size : Nat)
    (positive : 0 < size) (small : size ≤ allocator.config.chunkWords) :
    Agree ((SharedCall.allocate memory size).onChecker checker)
      ((SharedCall.allocate memory size).onAllocator allocator) := by
  have done := allocator.allocate_isDone memory size positive small
  show Agree ((checker.allocate memory size).mapAnswer .lent)
    ((allocator.allocate memory size).mapAnswer .lent)
  cases lending : allocator.allocate memory size with
  | fault reason events =>
    rw [lending] at done
    exact absurd done id
  | done answer next events =>
    cases answer with
    | error cause =>
      obtain ⟨rfl, _⟩ := allocator.allocate_refused memory size cause next events lending
      have passedOn : Allocator.allocate memory checker.inner size =
          .done (.error cause) next.withoutRecord events := by
        rw [mirrors.inner]
        exact (next.allocate_withoutRecord memory size).trans (congrArg _ lending)
      rw [LeakChecker.allocate, passedOn]
      exact ⟨_, _, _, _, _, rfl, rfl, fun _ => ⟨rfl, mirrors.loans, mirrors.released⟩⟩
    | ok handle =>
      obtain ⟨same, granted⟩ := SameLoans.allocate ⟨mirrors.inner, mirrors.loans⟩ lending
      rw [granted]
      refine ⟨_, _, _, _, _, rfl, rfl, fun named => ?_⟩
      have later := run.step _ _ _ _ (.allocate memory size) _ trivial
        (SegregatedAllocator.perform_allocate lending)
      exact ⟨same.inner, same.loans, mirrors.released_lent ⟨handle, size⟩ next
        (free_eq_shelf run) (free_eq_shelf later) (sound_of_run later named)⟩

theorem Mirrors.tryDeallocate (mirrors : Mirrors checker allocator)
    (run : Run config (Proper config) history allocator)
    (named : allocator.arena.ChunksNamed) (handle : Handle) (size : Nat)
    (current : handle.epoch = allocator.arena.epoch) :
    Agree ((SharedCall.tryDeallocate handle size).onChecker checker)
      ((SharedCall.tryDeallocate handle size).onAllocator allocator) := by
  show Agree ((checker.tryDeallocate handle size).mapAnswer .returned)
    ((allocator.tryDeallocate handle size).mapAnswer .returned)
  rw [LeakChecker.tryDeallocate, SegregatedAllocator.tryDeallocate,
    mirrors.checkRelease_eq handle size current]
  cases check : allocator.checkRelease handle size with
  | error cause => exact ⟨_, _, _, _, _, rfl, rfl, fun _ => mirrors⟩
  | ok _ =>
    have sound := sound_of_run run named
    have shelved := free_eq_shelf run
    obtain ⟨book, recorded, lists⟩ := mirrors.loans
    have noted := allocator.size?_of_checkRelease handle size book recorded check
    have onLoan := sound.mem_loans book recorded handle size noted
    have passedOn : Allocator.tryDeallocate checker.inner handle size =
        .done (.ok ()) (allocator.shelve ⟨handle, size⟩ none).withoutRecord [] := by
      rw [mirrors.inner]
      exact allocator.tryDeallocate_withoutRecord sound shelved handle size onLoan
    rw [passedOn, sound.deallocate_eq book recorded handle size noted]
    refine ⟨_, _, _, _, _, rfl, rfl, fun _ => ⟨rfl, ?_, fun other => ?_⟩⟩
    · show ∃ left, allocator.loans.map _ = some left ∧ _
      rw [recorded]
      exact ⟨_, rfl, lists.erase handle⟩
    · show other ∈ handle :: clearPlace checker.released handle ↔
        FreeBlocks.holds (⟨handle, size⟩ :: allocator.free) other = true
      rw [List.mem_cons, mem_clearPlace, mirrors.released, SegregatedAllocator.holds_iff,
        SegregatedAllocator.holds_iff, List.exists_mem_cons_iff]
      refine or_congr eq_comm ⟨And.left, fun waiting => ⟨waiting, ?_⟩⟩
      obtain ⟨block, waits, rfl⟩ := waiting
      exact sound.not_samePlace ⟨handle, size⟩ block onLoan (shelved ▸ waits)

/-- A reset agrees, whatever there was before it. -/
theorem Restartable.reset (restartable : Restartable checker allocator) :
    Agree (SharedCall.reset.onChecker checker) (SharedCall.reset.onAllocator allocator) :=
  ⟨_, _, _, _, _, rfl, rfl, fun _ => ⟨restartable.inner,
    ⟨[], restartable.loans, LoanIndex.lists_nil _⟩, fun _ => ⟨nofun, nofun⟩⟩⟩

/-- Calls that are done on both sides keep the two alike for a reset, also where they differ. -/
theorem Restartable.call (restartable : Restartable checker allocator)
    {nextChecker : LeakChecker SegregatedAllocator} {nextAllocator : SegregatedAllocator}
    (call : SharedCall) (answer other : SharedAnswer) (events logged : List Event)
    (onChecker : call.onChecker checker = .done answer nextChecker events)
    (onAllocator : call.onAllocator allocator = .done other nextAllocator logged) :
    Restartable nextChecker nextAllocator := by
  by_cases reset : call = .reset
  · subst reset
    cases onChecker
    cases onAllocator
    refine ⟨congrArg SegregatedAllocator.cleared restartable.inner, ?_⟩
    exact congrArg (Option.map fun _ => []) restartable.loans
  · have sameAllocator := call.cleared_of_onAllocator _ _ _ _ reset onAllocator
    have sameInner : nextChecker.inner.cleared = checker.inner.cleared := by
      rcases call.onChecker_cases _ _ _ _ onChecker with same | ⟨_, _, done⟩
      · rw [same]
      · exact call.cleared_of_onAllocator _ _ _ _ reset done
    refine ⟨?_, ?_⟩
    · rw [sameInner, sameAllocator, restartable.inner]
    · rw [sameAllocator, restartable.loans]

/-- The checker knows as many loans as the allocator counts. -/
theorem Mirrors.outstanding_eq (mirrors : Mirrors checker allocator)
    (sound : SegregatedAllocator.Sound history allocator) :
    checker.outstanding = allocator.live := by
  obtain ⟨book, noted, lists⟩ := mirrors.loans
  rw [outstanding, lists.length, sound.book book noted, sound.live]

/-- What mirrors is alike for a reset. -/
theorem Mirrors.restartable (mirrors : Mirrors checker allocator) :
    Restartable checker allocator := by
  obtain ⟨book, noted, _⟩ := mirrors.loans
  refine ⟨by rw [mirrors.inner]; rfl, ?_⟩
  show allocator.loans.map _ = _
  rw [noted]
  rfl

/-- A permitted call agrees. -/
theorem Mirrors.call (mirrors : Mirrors checker allocator)
    (run : Run config (Proper config) history allocator)
    (named : allocator.arena.ChunksNamed) (call : SharedCall)
    (permitted : call.Permitted allocator) :
    Agree (call.onChecker checker) (call.onAllocator allocator) := by
  cases call with
  | allocate memory size => exact mirrors.allocate run memory size permitted.1 permitted.2
  | tryDeallocate handle size => exact mirrors.tryDeallocate run named handle size permitted
  | reset => exact mirrors.restartable.reset

end Call

/-! ### All the way -/

/-- A checker and an allocator that were made alike, up to the record of loans, and then were fed
the same permitted calls. Each side goes where its own answer leads. -/
inductive Lockstep (config : Config) :
    LeakChecker SegregatedAllocator → SegregatedAllocator → Prop
  | start (inner allocator : SegregatedAllocator)
    (unrecorded : SegregatedAllocator.create (config.tracking false) = .ok inner)
    (recorded : SegregatedAllocator.create (config.tracking true) = .ok allocator) :
    Lockstep config (.around inner) allocator
  | step (checker nextChecker : LeakChecker SegregatedAllocator)
    (allocator nextAllocator : SegregatedAllocator) (call : SharedCall)
    (answer other : SharedAnswer) (events logged : List Event)
    (lockstep : Lockstep config checker allocator) (permitted : call.Permitted allocator)
    (onChecker : call.onChecker checker = .done answer nextChecker events)
    (onAllocator : call.onAllocator allocator = .done other nextAllocator logged) :
    Lockstep config nextChecker nextAllocator

section Lockstep

variable {config : Config} {checker : LeakChecker SegregatedAllocator}
  {allocator : SegregatedAllocator}

open History (crowd)
open SegregatedAllocator (Run Proper chunksNamed_of_change configured_of_create configured_of_run
  proper_of_trackLoans)

/-- In lockstep the allocator is in a run of its own, and the checker is one around an allocator
that a reset makes the same; it mirrors the allocator if the chunks have numbers that fit. -/
theorem mirrors_of_lockstep (lockstep : Lockstep config checker allocator) :
    (∃ history,
      Run (config.tracking true) (Proper (config.tracking true)) history allocator) ∧
    Restartable checker allocator ∧ (allocator.arena.ChunksNamed → Mirrors checker allocator) := by
  induction lockstep with
  | start inner allocator unrecorded recorded =>
    refine ⟨⟨[], .start allocator recorded⟩, ?_⟩
    obtain ⟨_, rfl⟩ := configured_of_create _ _ unrecorded
    obtain ⟨_, rfl⟩ := configured_of_create _ _ recorded
    exact ⟨⟨rfl, rfl⟩, fun _ =>
      ⟨rfl, ⟨[], rfl, LoanIndex.lists_nil 0⟩, fun handle => ⟨nofun, nofun⟩⟩⟩
  | step checker nextChecker allocator nextAllocator call answer other events logged lockstep
      permitted onChecker onAllocator inductionHypothesis =>
    obtain ⟨⟨history, run⟩, restartable, mirrors⟩ := inductionHypothesis
    obtain ⟨deeds, performed⟩ := call.perform_command _ _ _ _ onAllocator
    have later := run.step _ _ _ _ _ _ (proper_of_trackLoans rfl _ _) performed
    refine ⟨⟨_, later⟩, restartable.call call _ _ _ _ onChecker onAllocator, fun named => ?_⟩
    have agree : Agree (call.onChecker checker) (call.onAllocator allocator) := by
      rcases call.change_of_onAllocator _ _ _ _ onAllocator with rfl | ⟨_, change, kept⟩
      · exact restartable.reset
      · have namedBefore := (chunksNamed_of_change named change).resolve_right kept
        exact (mirrors namedBefore).call run namedBefore call permitted
    obtain ⟨_, _, _, _, _, doneChecker, doneAllocator, mirrored⟩ := agree
    -- Each side has one outcome, so the two outcomes of the step are the ones that agree.
    cases doneChecker.symm.trans onChecker
    cases doneAllocator.symm.trans onAllocator
    exact mirrored named

/-- A loan that is granted keeps both sides in lockstep, with the same loans. -/
theorem Lockstep.lent (lockstep : Lockstep config checker allocator)
    (same : SameLoans checker allocator) {memory : Memory} {size : Nat} {handle : Handle}
    {next : SegregatedAllocator} {events : List Event} (positive : 0 < size)
    (small : size ≤ allocator.config.chunkWords)
    (granted : allocator.allocate memory size = .done (.ok handle) next events) :
    ∃ nextChecker, Lockstep config nextChecker next ∧ SameLoans nextChecker next := by
  obtain ⟨later, alike⟩ := same.allocate granted
  have onChecker : (SharedCall.allocate memory size).onChecker checker =
      .done (.lent (.ok handle)) _ _ := (Step.mapAnswer_eq_done_iff _ _ _ _ _).mpr ⟨_, alike, rfl⟩
  have onAllocator : (SharedCall.allocate memory size).onAllocator allocator =
      .done (.lent (.ok handle)) next events :=
    (Step.mapAnswer_eq_done_iff _ _ _ _ _).mpr ⟨_, granted, rfl⟩
  exact ⟨_, lockstep.step _ _ _ _ (.allocate memory size) _ _ _ _ ⟨positive, small⟩ onChecker
    onAllocator, later⟩

/-- A crowd drives both sides past the last chunk number. -/
theorem exists_crowded_lockstep :
    ∃ (checker : LeakChecker SegregatedAllocator) (allocator : SegregatedAllocator),
      Lockstep { chunkWords := 2 } checker allocator ∧ SameLoans checker allocator ∧
        SegregatedAllocator.Crowded (2 ^ 32 + 1) allocator ∧
        Run (.recording 2) (fun _ _ => True) (crowd (2 ^ 32 + 1)) allocator := by
  obtain ⟨allocator, crowded, run, checker, lockstep, same⟩ :=
    SegregatedAllocator.exists_crowded
      (fun chunks allocator =>
        Run (.recording 2) (fun _ _ => True) (crowd chunks) allocator ∧
        ∃ checker, Lockstep { chunkWords := 2 } checker allocator ∧ SameLoans checker allocator)
      true ⟨.start _ rfl, _, .start _ _ rfl rfl, rfl, [], rfl, LoanIndex.lists_nil 0⟩
      (fun chunks before after events crowded _ ⟨run, checker, lockstep, same⟩ granted =>
        ⟨run.step _ _ _ _ _ _ trivial (SegregatedAllocator.perform_allocate granted),
          lockstep.lent same (History.crowdSize_pos chunks)
            (Nat.le_trans (History.crowdSize_le chunks) (Nat.le_of_eq crowded.limit.symm)) granted⟩)
      _ (Nat.le_refl _)
  exact ⟨checker, allocator, lockstep, same, crowded, run⟩

/-- In lockstep, and while there are no more chunks than numbers for them, the allocator inside the
checker and the allocator that records its loans show the same figures and the same released
blocks, the checker knows as many loans as they count, and the next permitted call is done on both
sides with the same answer. -/
theorem checks_agree (lockstep : Lockstep config checker allocator)
    (few : config.maxChunks = none → allocator.arena.ChunksNamed) :
    checker.inner.usage = allocator.usage ∧ checker.inner.free = allocator.free ∧
      checker.inner.live = allocator.live ∧ checker.outstanding = allocator.live ∧
      ∀ call : SharedCall, call.Permitted allocator →
        ∃ answer nextChecker nextAllocator events logged,
          call.onChecker checker = .done answer nextChecker events ∧
            call.onAllocator allocator = .done answer nextAllocator logged := by
  obtain ⟨⟨history, run⟩, _, mirrored⟩ := mirrors_of_lockstep lockstep
  have named := (configured_of_run run).chunksNamed few
  have mirrors := mirrored named
  have sound := SegregatedAllocator.sound_of_run run named
  refine ⟨?_, ?_, ?_, ?_, fun call permitted => ?_⟩
  · rw [mirrors.inner]
    rfl
  · rw [mirrors.inner]
    rfl
  · rw [mirrors.inner]
    rfl
  · exact mirrors.outstanding_eq sound
  · obtain ⟨answer, nextChecker, nextAllocator, events, logged, first, second, _⟩ :=
      mirrors.call run named call permitted
    exact ⟨answer, nextChecker, nextAllocator, events, logged, first, second⟩

/-- A block came back, both sides were reset, and a block of the new epoch came back as well: a
second release of it is refused by both. -/
theorem checks_agree_after_reset :
    ∃ (checker : LeakChecker SegregatedAllocator) (allocator : SegregatedAllocator),
      Lockstep { chunkWords := 4, maxChunks := some 2, alignment := .doubleWord }
          checker allocator ∧
        checker.released = [⟨0, 0, 1⟩] ∧ allocator.free = [⟨⟨0, 0, 1⟩, 1⟩] ∧
        checker.outstanding = allocator.live ∧ checker.inner.usage = allocator.usage ∧
        ∃ nextChecker nextAllocator events logged,
          (SharedCall.tryDeallocate ⟨0, 0, 1⟩ 1).onChecker checker =
              .done (.returned (.error (.doubleFree ⟨0, 0, 1⟩))) nextChecker events ∧
            (SharedCall.tryDeallocate ⟨0, 0, 1⟩ 1).onAllocator allocator =
              .done (.returned (.error (.doubleFree ⟨0, 0, 1⟩))) nextAllocator logged := by
  have created : Lockstep { chunkWords := 4, maxChunks := some 2, alignment := .doubleWord }
    _ _ := .start _ _ rfl rfl
  have lent := created.step _ _ _ _ (.allocate .addressable 3) _ _ _ _ ⟨by decide, by decide⟩
    rfl rfl
  have returned := lent.step _ _ _ _ (.tryDeallocate ⟨0, 0, 0⟩ 3) _ _ _ _ rfl rfl rfl
  have cleared : Lockstep { chunkWords := 4, maxChunks := some 2, alignment := .doubleWord }
      ⟨⟨_, ⟨#[], 4, some 2, .doubleWord, 0, 1⟩, [], 0, none⟩, [], [], 1⟩
      ⟨_, ⟨#[], 4, some 2, .doubleWord, 0, 1⟩, [], 0, some []⟩ :=
    returned.step _ _ _ _ .reset _ _ _ _ trivial rfl rfl
  have again := cleared.step _ _ _ _ (.allocate .addressable 1) _ _ _ _ ⟨by decide, by decide⟩
    rfl rfl
  have last := again.step _ _ _ _ (.tryDeallocate ⟨0, 0, 1⟩ 1) _ _ _ _ rfl rfl rfl
  obtain ⟨usage, _, _, outstanding, answers⟩ := checks_agree last nofun
  obtain ⟨answer, _, _, _, _, onChecker, onAllocator⟩ := answers (.tryDeallocate ⟨0, 0, 1⟩ 1) rfl
  cases onAllocator
  exact ⟨_, _, last, rfl, rfl, outstanding, usage, _, _, _, _, onChecker, rfl⟩

/-- With one more chunk than there are numbers, the release of the block that was lent last is
refused by the allocator inside the checker, and a fault of the allocator that records its
loans. -/
theorem checks_disagree_past_chunk_numbers :
    ∃ (checker : LeakChecker SegregatedAllocator) (allocator : SegregatedAllocator),
      Lockstep { chunkWords := 2 } checker allocator ∧
        (SharedCall.tryDeallocate ⟨0, 0, 0⟩ 2).Permitted allocator ∧
        (SharedCall.tryDeallocate ⟨0, 0, 0⟩ 2).onChecker checker =
          .done (.returned (.error (.foreignHandle ⟨0, 0, 0⟩))) checker [] ∧
        (SharedCall.tryDeallocate ⟨0, 0, 0⟩ 2).onAllocator allocator =
          .fault (.notCarved ⟨0, 0, 0⟩ 2 0) [] := by
  obtain ⟨checker, allocator, lockstep, same, crowded, run⟩ := exists_crowded_lockstep
  obtain ⟨book, noted, lists⟩ := same.loans
  have onLoan : checker.loans.size? ⟨0, 0, 0⟩ = some 2 := by
    rw [lists.size?]
    exact ((SegregatedAllocator.recorded_of_run run rfl).latest book noted _ _).mpr
      SegregatedAllocator.latest?_crowd_past_numbers
  have passed : checker.checkRelease ⟨0, 0, 0⟩ 2 = .ok () := by
    rw [checkRelease, if_neg (by decide), onLoan]
    rfl
  have inside : Allocator.tryDeallocate checker.inner ⟨0, 0, 0⟩ 2 =
      .refused (.foreignHandle ⟨0, 0, 0⟩) checker.inner := by
    rw [same.inner]
    exact crowded.tryDeallocate_withoutRecord
  refine ⟨checker, allocator, lockstep, crowded.epoch.symm, ?_, ?_⟩
  · show (checker.tryDeallocate ⟨0, 0, 0⟩ 2).mapAnswer _ = _
    rw [LeakChecker.tryDeallocate, passed, inside]
    rfl
  · show (allocator.tryDeallocate ⟨0, 0, 0⟩ 2).mapAnswer _ = _
    rw [crowded.tryDeallocate_first run]
    rfl

end Lockstep

end LeakChecker

end Allotment
