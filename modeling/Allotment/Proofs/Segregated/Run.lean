/-
Runs of the segregated allocator. A command is one call with its arguments; carried out,
it answers the deeds it accomplished, so a run leaves a history. Every allocation comes
with its own memory, so a run may meet refused reservations at any point and in any
order.

What a command that is done can have changed is said once, in `Change`, with one case
for each kind of change. What holds of all runs is then proved by these cases.
-/

import Allotment.Backend.Segregated
import Allotment.Proofs.Arena.Storing
import Allotment.Proofs.Lending.History

namespace Allotment

/-- The settings of an allocator that records its loans. -/
def Config.recording (chunkWords : Nat) : Config :=
  { chunkWords := chunkWords, trackLoans := true }

namespace SegregatedAllocator

/-! ### Commands -/

/-- A call of the allocator. A write is a look-up of words with whatever is then stored in
them. -/
inductive Command where
  | allocate (memory : Memory) (size : Nat)
  | tryAllocate (memory : Memory) (size : Nat)
  | deallocate (handle : Handle) (size : Nat)
  | tryDeallocate (handle : Handle) (size : Nat)
  | write (handle : Handle) (size : Nat) (patch : Patch)
  | reset
  | tryReset

/-- What an answered request for a block accomplished. -/
def lentDeeds (size : Nat) : Except Refusal Handle → History
  | .ok handle => [.lent ⟨handle, size⟩]
  | .error _ => []

/-- What an answered request accomplished that could only be granted or refused. -/
def grantedDeeds (deed : Deed) : Except Refusal Unit → History
  | .ok () => [deed]
  | .error _ => []

/-- Carries out a command and answers its deeds. -/
def perform (allocator : SegregatedAllocator) : Command → Step SegregatedAllocator History
  | .allocate memory size => (allocator.allocate memory size).mapAnswer (lentDeeds size)
  | .tryAllocate memory size => (allocator.tryAllocate memory size).mapAnswer (lentDeeds size)
  | .deallocate handle size =>
    (allocator.deallocate handle size).mapAnswer fun _ => [.returned ⟨handle, size⟩]
  | .tryDeallocate handle size =>
    (allocator.tryDeallocate handle size).mapAnswer (grantedDeeds (.returned ⟨handle, size⟩))
  | .write handle size patch => .done [] ((allocator.store? handle size patch).getD allocator) []
  | .reset => allocator.reset.mapAnswer fun _ => [.cleared]
  | .tryReset => allocator.tryReset.mapAnswer (grantedDeeds .cleared)

/-- The histories and states that permitted commands lead to, from a new allocator on. A
command that ends in a fault leads nowhere. -/
inductive Run (config : Config) (Permits : History → Command → Prop) :
    History → SegregatedAllocator → Prop
  | start (allocator : SegregatedAllocator) (created : create config = .ok allocator) :
    Run config Permits [] allocator
  | step (history deeds : History) (before after : SegregatedAllocator) (command : Command)
    (events : List Event) (run : Run config Permits history before)
    (permitted : Permits history command)
    (performed : before.perform command = .done deeds after events) :
    Run config Permits (deeds ++ history) after

/-- Where loans are not recorded, a release has to name a block on loan at its size. Where they
are, every command is proper. -/
def Proper (config : Config) (history : History) : Command → Prop
  | .deallocate handle size | .tryDeallocate handle size =>
    config.trackLoans = true ∨ ⟨handle, size⟩ ∈ history.loans
  | _ => True

theorem proper_of_trackLoans {config : Config} (tracked : config.trackLoans = true)
    (history : History) (command : Command) : Proper config history command := by
  cases command with
  | deallocate handle size => exact Or.inl tracked
  | tryDeallocate handle size => exact Or.inl tracked
  | _ => trivial

/-- Where loans are recorded, every run is one of proper commands. -/
theorem Run.proper {config : Config} {Permits : History → Command → Prop} {history : History}
    {allocator : SegregatedAllocator} (run : Run config Permits history allocator)
    (tracked : config.trackLoans = true) : Run config (Proper config) history allocator := by
  induction run with
  | start allocator created => exact .start allocator created
  | step history deeds before after command events run permitted performed inductionHypothesis =>
    exact .step history deeds before after command events inductionHypothesis
      (proper_of_trackLoans tracked history command) performed

/-- A request that is granted lends its block. -/
theorem perform_allocate {allocator next : SegregatedAllocator} {memory : Memory} {size : Nat}
    {handle : Handle} {events : List Event}
    (granted : allocator.allocate memory size = .done (.ok handle) next events) :
    allocator.perform (.allocate memory size) = .done [.lent ⟨handle, size⟩] next events :=
  (Step.mapAnswer_eq_done_iff _ _ _ _ _).mpr ⟨_, granted, rfl⟩

/-! ### What a command can change -/

/-- The ways in which a command that is done changes the allocator, each with its deeds and with
what the allocator checked. -/
inductive Change (before : SegregatedAllocator) : History → SegregatedAllocator → Prop
  | nothing : Change before [] before
  | written (handle : Handle) (size : Nat) (patch : Patch) (stored : Arena)
    (overwrites : before.arena.store? handle size patch = some stored) :
    Change before [] { before with arena := stored }
  | reused (handle : Handle) (size : Nat) (left : FreeBlocks) (positive : 0 < size)
    (small : size ≤ before.config.maxRequestWords)
    (taken : before.free.take? size = some (handle, left)) :
    Change before [.lent ⟨handle, size⟩] ({ before with free := left }.lend ⟨handle, size⟩)
  | carved (memory : Memory) (handle : Handle) (size : Nat) (grown : Arena)
    (events : List Event) (positive : 0 < size)
    (small : size ≤ before.config.maxRequestWords) (absent : before.free.take? size = none)
    (obtained : before.arena.obtain memory size = .done (.ok handle) grown events) :
    Change before [.lent ⟨handle, size⟩] ({ before with arena := grown }.lend ⟨handle, size⟩)
  | returned (handle : Handle) (size : Nat) (positive : 0 < size)
    (carved : before.arena.contains handle size = true) (lending : 0 < before.live)
    (recorded : ∀ book ∈ before.loans, book.size? handle = some size) :
    Change before [.returned ⟨handle, size⟩]
      (before.shelve ⟨handle, size⟩ (before.loans.map fun book => book.erase handle))
  | cleared : Change before [.cleared] before.cleared

variable (allocator : SegregatedAllocator)

theorem change_of_allocate (memory : Memory) (size : Nat) (answer : Except Refusal Handle)
    (next : SegregatedAllocator) (events : List Event)
    (done : allocator.allocate memory size = .done answer next events) :
    Change allocator (lentDeeds size answer) next := by
  unfold allocate at done
  split at done
  · cases done
  split at done
  · cases done
  next notZero notLarge =>
  have positive : 0 < size := Nat.pos_of_ne_zero notZero
  have small : size ≤ allocator.config.maxRequestWords := Nat.le_of_not_lt notLarge
  split at done
  · next handle left taken =>
    cases done
    exact .reused handle size left positive small taken
  · next absent =>
    rcases allocator.arena.obtain_cases memory size positive with ⟨cause, refused⟩ |
      ⟨handle, carved, logged, granted⟩
    · rw [refused] at done
      cases done
      exact .nothing
    · rw [granted] at done
      cases done
      exact .carved memory handle size carved _ positive small absent granted

/-- A request for a block within the limits is granted or refused. -/
theorem allocate_isDone (memory : Memory) (size : Nat) (positive : 0 < size)
    (small : size ≤ allocator.config.maxRequestWords) :
    (allocator.allocate memory size).IsDone := by
  rw [allocate, if_neg (Nat.ne_of_gt positive), if_neg (Nat.not_lt.mpr small)]
  split
  · trivial
  · rcases allocator.arena.obtain_cases memory size positive with ⟨cause, refused⟩ |
      ⟨handle, carved, logged, granted⟩
    · rw [refused]
      trivial
    · rw [granted]
      trivial

/-- A refused request changed nothing. -/
theorem allocate_refused (memory : Memory) (size : Nat) (cause : Refusal)
    (next : SegregatedAllocator) (events : List Event)
    (refused : allocator.allocate memory size = .done (.error cause) next events) :
    next = allocator ∧ events = [] := by
  unfold allocate at refused
  split at refused
  · cases refused
  split at refused
  · cases refused
  next notZero notLarge =>
  split at refused
  · cases refused
  · rcases allocator.arena.obtain_cases memory size (Nat.pos_of_ne_zero notZero) with
      ⟨other, denied⟩ | ⟨handle, carved, logged, granted⟩
    · rw [denied] at refused
      cases refused
      exact ⟨rfl, rfl⟩
    · rw [granted] at refused
      cases refused

theorem change_of_tryAllocate (memory : Memory) (size : Nat) (answer : Except Refusal Handle)
    (next : SegregatedAllocator) (events : List Event)
    (done : allocator.tryAllocate memory size = .done answer next events) :
    Change allocator (lentDeeds size answer) next := by
  unfold tryAllocate at done
  split at done
  · cases done
    exact .nothing
  split at done
  · cases done
    exact .nothing
  · exact allocator.change_of_allocate memory size answer next events done

theorem tryAllocate_isDone (memory : Memory) (size : Nat) :
    (allocator.tryAllocate memory size).IsDone := by
  unfold tryAllocate
  split
  · trivial
  split
  · trivial
  next notZero notLarge =>
    exact allocator.allocate_isDone memory size (Nat.pos_of_ne_zero notZero)
      (Nat.le_of_not_lt notLarge)

/-- A request within the limits is the same one with the check and without. -/
theorem tryAllocate_eq_allocate (memory : Memory) (size : Nat) (positive : 0 < size)
    (small : size ≤ allocator.config.maxRequestWords) :
    allocator.tryAllocate memory size = allocator.allocate memory size := by
  rw [tryAllocate, if_neg (Nat.ne_of_gt positive), if_neg (Nat.not_lt.mpr small)]

/-- A refused checked request changed nothing either. -/
theorem tryAllocate_refused (memory : Memory) (size : Nat) (cause : Refusal)
    (next : SegregatedAllocator) (events : List Event)
    (refused : allocator.tryAllocate memory size = .done (.error cause) next events) :
    next = allocator ∧ events = [] := by
  unfold tryAllocate at refused
  split at refused
  · cases refused
    exact ⟨rfl, rfl⟩
  split at refused
  · cases refused
    exact ⟨rfl, rfl⟩
  · exact allocator.allocate_refused memory size cause next events refused

/-- A release that meets the preconditions takes the block back. -/
theorem deallocate_eq_done (handle : Handle) (size : Nat) (positive : 0 < size)
    (carved : allocator.arena.contains handle size = true) (lending : 0 < allocator.live)
    (recorded : ∀ book ∈ allocator.loans, book.size? handle = some size) :
    allocator.deallocate handle size =
      .done () (allocator.shelve ⟨handle, size⟩
        (allocator.loans.map fun book => book.erase handle)) [] := by
  rw [deallocate, if_neg (Nat.ne_of_gt positive), carved, if_neg Bool.noConfusion,
    if_neg (Nat.ne_of_gt lending)]
  cases tracked : allocator.loans with
  | none => rfl
  | some book =>
    simp only [recorded book tracked, if_true]
    rfl

theorem change_of_deallocate (handle : Handle) (size : Nat) (next : SegregatedAllocator)
    (events : List Event) (done : allocator.deallocate handle size = .done () next events) :
    Change allocator [.returned ⟨handle, size⟩] next := by
  have unfolded := done
  unfold deallocate at unfolded
  split at unfolded
  · cases unfolded
  split at unfolded
  · cases unfolded
  split at unfolded
  · cases unfolded
  next notZero notForeign notIdle =>
  have positive : 0 < size := Nat.pos_of_ne_zero notZero
  have carved : allocator.arena.contains handle size = true :=
    (Bool.not_eq_false _).mp notForeign
  have lending : 0 < allocator.live := Nat.pos_of_ne_zero notIdle
  have recorded : ∀ book ∈ allocator.loans, book.size? handle = some size := by
    intro book tracked
    rw [Option.mem_def.mp tracked] at unfolded
    by_cases same : book.size? handle = some size
    · exact same
    · simp only [if_neg same] at unfolded
      cases unfolded
  rw [allocator.deallocate_eq_done handle size positive carved lending recorded] at done
  cases done
  exact .returned handle size positive carved lending recorded

theorem change_of_tryDeallocate (handle : Handle) (size : Nat) (answer : Except Refusal Unit)
    (next : SegregatedAllocator) (events : List Event)
    (done : allocator.tryDeallocate handle size = .done answer next events) :
    Change allocator (grantedDeeds (.returned ⟨handle, size⟩) answer) next := by
  unfold tryDeallocate at done
  split at done
  · cases done
    exact .nothing
  · obtain ⟨_, release, rfl⟩ := (Step.mapAnswer_eq_done_iff _ _ _ _ _).mp done
    exact allocator.change_of_deallocate handle size next events release

/-- A refused release changed nothing. -/
theorem tryDeallocate_refused (handle : Handle) (size : Nat) (cause : Refusal)
    (next : SegregatedAllocator) (events : List Event)
    (refused : allocator.tryDeallocate handle size = .done (.error cause) next events) :
    next = allocator ∧ events = [] := by
  unfold tryDeallocate at refused
  split at refused
  · cases refused
    exact ⟨rfl, rfl⟩
  · obtain ⟨_, _, mismatch⟩ := (Step.mapAnswer_eq_done_iff _ _ _ _ _).mp refused
    cases mismatch

/-- Every command that is done makes one of the changes. -/
theorem change_of_perform (command : Command) (deeds : History) (next : SegregatedAllocator)
    (events : List Event) (performed : allocator.perform command = .done deeds next events) :
    Change allocator deeds next := by
  cases command with
  | allocate memory size =>
    obtain ⟨answer, lending, rfl⟩ := (Step.mapAnswer_eq_done_iff _ _ _ _ _).mp performed
    exact allocator.change_of_allocate memory size answer next events lending
  | tryAllocate memory size =>
    obtain ⟨answer, lending, rfl⟩ := (Step.mapAnswer_eq_done_iff _ _ _ _ _).mp performed
    exact allocator.change_of_tryAllocate memory size answer next events lending
  | deallocate handle size =>
    obtain ⟨_, release, rfl⟩ := (Step.mapAnswer_eq_done_iff _ _ _ _ _).mp performed
    exact allocator.change_of_deallocate handle size next events release
  | tryDeallocate handle size =>
    obtain ⟨answer, release, rfl⟩ := (Step.mapAnswer_eq_done_iff _ _ _ _ _).mp performed
    exact allocator.change_of_tryDeallocate handle size answer next events release
  | write handle size patch =>
    rw [perform, store?] at performed
    cases overwrites : allocator.arena.store? handle size patch with
    | none =>
      rw [overwrites] at performed
      cases performed
      exact .nothing
    | some stored =>
      rw [overwrites] at performed
      cases performed
      exact .written handle size patch stored overwrites
  | reset =>
    cases performed
    exact .cleared
  | tryReset =>
    obtain ⟨answer, resetting, rfl⟩ := (Step.mapAnswer_eq_done_iff _ _ _ _ _).mp performed
    unfold tryReset at resetting
    split at resetting
    · cases resetting
      exact .nothing
    · cases resetting
      exact .cleared

/-! ### What a command can accomplish -/

/-- The command is one that can accomplish the deed. -/
def Command.Accomplishes (deed : Deed) : Command → Prop
  | .allocate _ size | .tryAllocate _ size => ∃ handle, deed = .lent ⟨handle, size⟩
  | .deallocate handle size | .tryDeallocate handle size => deed = .returned ⟨handle, size⟩
  | .write .. => False
  | .reset | .tryReset => deed = .cleared

theorem mem_lentDeeds {size : Nat} {answer : Except Refusal Handle} {deed : Deed}
    (member : deed ∈ lentDeeds size answer) : ∃ handle, deed = .lent ⟨handle, size⟩ := by
  cases answer with
  | error cause => cases member
  | ok handle => exact ⟨handle, List.mem_singleton.mp member⟩

theorem mem_grantedDeeds {own deed : Deed} {answer : Except Refusal Unit}
    (member : deed ∈ grantedDeeds own answer) : deed = own := by
  cases answer with
  | error cause => cases member
  | ok _ => exact List.mem_singleton.mp member

/-- A command accomplishes deeds of its own kind and with its own arguments. -/
theorem accomplishes_of_perform (command : Command) (deeds : History)
    (next : SegregatedAllocator) (events : List Event)
    (performed : allocator.perform command = .done deeds next events) (deed : Deed)
    (member : deed ∈ deeds) : command.Accomplishes deed := by
  cases command with
  | allocate memory size =>
    obtain ⟨_, _, rfl⟩ := (Step.mapAnswer_eq_done_iff _ _ _ _ _).mp performed
    exact mem_lentDeeds member
  | tryAllocate memory size =>
    obtain ⟨_, _, rfl⟩ := (Step.mapAnswer_eq_done_iff _ _ _ _ _).mp performed
    exact mem_lentDeeds member
  | deallocate handle size =>
    obtain ⟨_, _, rfl⟩ := (Step.mapAnswer_eq_done_iff _ _ _ _ _).mp performed
    exact List.mem_singleton.mp member
  | tryDeallocate handle size =>
    obtain ⟨_, _, rfl⟩ := (Step.mapAnswer_eq_done_iff _ _ _ _ _).mp performed
    exact mem_grantedDeeds member
  | write handle size patch =>
    cases performed
    cases member
  | reset =>
    cases performed
    exact List.mem_singleton.mp member
  | tryReset =>
    obtain ⟨_, _, rfl⟩ := (Step.mapAnswer_eq_done_iff _ _ _ _ _).mp performed
    exact mem_grantedDeeds member

end SegregatedAllocator

end Allotment
