/-
Requests from across the boundary never end in a fault: an arena is asked through its
checked operations only, and the system allocator has no others. What serves one
request is in order for the next, and which blocks it has on loan then can be read off
the request and the reply alone.
-/

import Allotment.Boundary.Request
import Allotment.Proofs.Segregated.CheckedCalls
import Allotment.Proofs.Segregated.Lender
import Allotment.Proofs.System.Lender

namespace Allotment

namespace SegregatedAllocator

instance (allocator : SegregatedAllocator) : Decidable allocator.Named :=
  inferInstanceAs (Decidable (_ → _))

/-- A release that passes the check is carried out. -/
theorem Lends.tryDeallocate_isDone {allocator : SegregatedAllocator} {loans : List Block}
    (lends : Lends allocator loans) (named : Named allocator) (handle : Handle) (size : Nat) :
    (allocator.tryDeallocate handle size).IsDone := by
  obtain ⟨history, tracked, run, _⟩ := lends
  exact SegregatedAllocator.tryDeallocate_isDone run tracked
    ((configured_of_run run).chunksNamed named) handle size

end SegregatedAllocator

/-! ### Statuses -/

/-- The statuses of a call that came to a fault, or after one. -/
def Status.Broken (status : Status) : Prop :=
  status = .panicked ∨ status = .internalError

instance (status : Status) : Decidable status.Broken :=
  inferInstanceAs (Decidable (_ ∨ _))

theorem Status.not_broken_ok : ¬ Status.Broken .ok := by
  decide

theorem Status.not_broken_invalidArgument : ¬ Status.Broken .invalidArgument := by
  decide

/-- A refusal is not a success, and not a fault. -/
theorem Status.ofRefusal_cases (cause : Refusal) :
    Status.ofRefusal cause ≠ .ok ∧ ¬ (Status.ofRefusal cause).Broken := by
  cases cause <;> simp [ofRefusal, Broken]

theorem Status.not_broken_ofAnswer {α : Type} (answer : Except Refusal α) :
    ¬ (Status.ofAnswer answer).Broken := by
  cases answer with
  | error cause => exact (ofRefusal_cases cause).2
  | ok _ => exact not_broken_ok

/-! ### Loans -/

/-- The blocks on loan after a request for a block was answered. -/
def Block.addLent (size : Nat) (loans : List Block) : Except Refusal Handle → List Block
  | .ok handle => ⟨handle, size⟩ :: loans
  | .error _ => loans

/-- The blocks on loan after a release was answered. -/
def Block.dropReturned (block : Block) (loans : List Block) : Except Refusal Unit → List Block
  | .ok () => loans.erase block
  | .error _ => loans

/-- The blocks on loan after a request, as its reply tells: a block that was lent is one more, a
block that came back is one less, and a reset ends all loans. -/
def Request.loansAfter (loans : List Block) : Request → Reply → List Block
  | .allocate size _, ⟨_, some (.block reference)⟩ => ⟨reference.handle, size⟩ :: loans
  | .deallocate block size, ⟨.ok, _⟩ => loans.erase ⟨block.handle, size⟩
  | .reset _, ⟨.ok, _⟩ => []
  | _, _ => loans

namespace Request

variable (loans : List Block)

theorem loansAfter_allocate (size : Nat) (result : Place) (answer : Except Refusal Handle) :
    loansAfter loans (.allocate size result) (loanReply answer) =
      Block.addLent size loans answer := by
  cases answer with
  | error cause => rfl
  | ok handle => exact congrArg (⟨·, size⟩ :: loans) (BlockReference.handle_ofHandle handle)

theorem loansAfter_deallocate (block : BlockReference) (size : Nat)
    (answer : Except Refusal Unit) :
    loansAfter loans (.deallocate block size) (.bare (.ofAnswer answer)) =
      Block.dropReturned ⟨block.handle, size⟩ loans answer := by
  cases answer with
  | error cause => cases cause <;> rfl
  | ok _ => rfl

theorem loansAfter_reset (force : Bool) (status : Status) :
    loansAfter loans (.reset force) (.bare status) = if status = .ok then [] else loans := by
  cases status <;> rfl

end Request

namespace BuiltAllocator

/-! ### States that requests lead to -/

/-- The allocator came to its state by requests, and has these blocks on loan. -/
def Lends : BuiltAllocator → List Block → Prop
  | arena allocator, loans => allocator.Lends loans
  | system allocator, loans => allocator.Sound loans

/-- The numbers of all places fit into handles. -/
def Named : BuiltAllocator → Prop
  | arena allocator => allocator.Named
  | system _ => True

instance : (allocator : BuiltAllocator) → Decidable allocator.Named
  | arena allocator => inferInstanceAs (Decidable allocator.Named)
  | system _ => .isTrue trivial

/-- The step is done, with an answer that keeps to a rule, and its allocator has the blocks on
loan that the answer tells. -/
def Leaves {α : Type} (step : Step BuiltAllocator α) (rule : α → Prop) (loans : α → List Block) :
    Prop :=
  ∃ answer next events, step = .done answer next events ∧ rule answer ∧ next.Lends (loans answer)

theorem Leaves.mapAnswer {α β : Type} {step : Step BuiltAllocator α} {rule : α → Prop}
    {loans : α → List Block} (leaves : Leaves step rule loans) (change : α → β)
    {ruleAfter : β → Prop} {loansAfter : β → List Block}
    (keeps : ∀ answer, rule answer → ruleAfter (change answer))
    (same : ∀ answer, loansAfter (change answer) = loans answer) :
    Leaves (step.mapAnswer change) ruleAfter loansAfter := by
  obtain ⟨answer, next, events, rfl, kept, lends⟩ := leaves
  exact ⟨change answer, next, events, rfl, keeps answer kept, same answer ▸ lends⟩

theorem within_mapAnswer {σ τ α β : Type} (step : Step σ α) (change : α → β) (whole : σ → τ) :
    (step.mapAnswer change).within whole = (step.within whole).mapAnswer change := by
  cases step <;> rfl

/-- An operation of an arena that is done is one of the commands, so a run goes on with it. -/
theorem leaves_arena {α : Type} {allocator : SegregatedAllocator} {loans : List Block}
    (lends : allocator.Lends loans) (command : SegregatedAllocator.Command)
    (step : Step SegregatedAllocator α) (deeds : α → History)
    (same : allocator.perform command = step.mapAnswer deeds) (done : step.IsDone)
    (loansAfter : α → List Block)
    (told : ∀ answer history, History.loans history = loans →
      History.loans (deeds answer ++ history) = loansAfter answer) :
    Leaves (step.within arena) (fun _ => True) loansAfter := by
  cases step with
  | fault reason events => exact absurd done id
  | done answer next events =>
    obtain ⟨history, before, lendsNext⟩ := lends.step command events same
    exact ⟨answer, arena next, events, rfl, trivial, told answer history before ▸ lendsNext⟩

/-! ### Requests -/

variable {allocator : BuiltAllocator} {loans : List Block}

theorem leaves_lend (lends : allocator.Lends loans) (memory : Memory) (size : Nat) :
    Leaves (allocator.lend memory size) (fun _ => True) (Block.addLent size loans) := by
  cases allocator with
  | arena allocator =>
    refine leaves_arena lends (.tryAllocate memory size) _ _ rfl
      (allocator.tryAllocate_isDone memory size) _ ?_
    rintro (cause | handle) history rfl <;> rfl
  | system allocator =>
    rw [lend]
    rcases SystemAllocator.Sound.allocate lends memory size with ⟨cause, refused⟩ |
      ⟨handle, after, granted, _, next⟩
    · rw [refused]
      exact ⟨_, _, _, rfl, trivial, lends⟩
    · rw [granted]
      exact ⟨_, _, _, rfl, trivial, next⟩

theorem leaves_tryDeallocate (lends : allocator.Lends loans) (named : allocator.Named)
    (handle : Handle) (size : Nat) :
    Leaves (Allocator.tryDeallocate allocator handle size) (fun _ => True)
      (Block.dropReturned ⟨handle, size⟩ loans) := by
  cases allocator with
  | arena allocator =>
    refine leaves_arena lends (.tryDeallocate handle size) _ _ rfl
      (SegregatedAllocator.Lends.tryDeallocate_isDone lends named handle size) _ ?_
    rintro (cause | _) history rfl <;> rfl
  | system allocator =>
    show Leaves ((allocator.tryDeallocate handle size).within system) _ _
    rcases SystemAllocator.Sound.tryDeallocate lends handle size with ⟨cause, refused⟩ |
      ⟨words, found, sized, granted⟩
    · rw [refused]
      exact ⟨_, _, _, rfl, trivial, lends⟩
    · rw [granted]
      exact ⟨_, _, _, rfl, trivial, SystemAllocator.Sound.without lends handle size words found
        sized⟩

theorem lends_store (lends : allocator.Lends loans) (handle : Handle) (size : Nat)
    (patch : Patch) (stored : BuiltAllocator)
    (overwrites : Allocator.store? allocator handle size patch = some stored) :
    stored.Lends loans := by
  cases allocator with
  | arena allocator =>
    obtain ⟨next, written, rfl⟩ := Option.map_eq_some_iff.mp overwrites
    have performed : allocator.perform (.write handle size patch) = .done [] next [] := by
      rw [SegregatedAllocator.perform, written, Option.getD_some]
    obtain ⟨history, rfl, lendsNext⟩ :=
      SegregatedAllocator.Lends.step lends (.write handle size patch) [] performed
    exact lendsNext
  | system allocator =>
    obtain ⟨next, written, rfl⟩ := Option.map_eq_some_iff.mp overwrites
    exact SystemAllocator.Sound.store lends written

theorem leaves_reset (lends : allocator.Lends loans) (force : Bool) :
    Leaves (allocator.reset force) (fun status => ¬ status.Broken)
      fun status => if status = .ok then [] else loans := by
  cases allocator with
  | arena allocator =>
    cases force with
    | true =>
      have forced : Leaves (allocator.reset.within arena) (fun _ => True) fun _ => [] :=
        leaves_arena lends .reset allocator.reset (fun _ => [.cleared]) rfl trivial _
          fun _ _ _ => rfl
      show Leaves ((allocator.reset.mapAnswer fun _ => Status.ok).within arena) _ _
      rw [within_mapAnswer]
      exact forced.mapAnswer _ (fun _ _ => Status.not_broken_ok) fun _ => if_pos rfl
    | false =>
      have done : allocator.tryReset.IsDone := by
        unfold SegregatedAllocator.tryReset
        split <;> trivial
      have checked : Leaves (allocator.tryReset.within arena) (fun _ => True)
          fun answer => if Status.ofAnswer answer = .ok then [] else loans := by
        refine leaves_arena lends .tryReset _ _ rfl done _ ?_
        rintro (cause | _) history rfl
        · exact (if_neg (Status.ofRefusal_cases cause).1).symm
        · rfl
      show Leaves ((allocator.tryReset.mapAnswer _).within arena) _ _
      rw [within_mapAnswer]
      exact checked.mapAnswer _ (fun answer _ => Status.not_broken_ofAnswer answer) fun _ => rfl
  | system allocator => exact ⟨_, _, _, rfl, by decide, lends⟩

/-- Every request is served, without a fault, and leaves the allocator in order, with the blocks
on loan that the reply tells. -/
theorem leaves_serve (lends : allocator.Lends loans) (named : allocator.Named)
    (memory : Memory) (request : Request) :
    Leaves (request.serve memory allocator) (fun reply => ¬ reply.status.Broken)
      (request.loansAfter loans) := by
  cases request with
  | allocate size result =>
    refine (leaves_lend lends memory size).mapAnswer _ ?_ (Request.loansAfter_allocate loans size _)
    rintro (cause | handle) _
    · exact (Status.ofRefusal_cases cause).2
    · exact Status.not_broken_ok
  | deallocate block size =>
    exact (leaves_tryDeallocate lends named block.handle size).mapAnswer _
      (fun answer _ => Status.not_broken_ofAnswer answer)
      (Request.loansAfter_deallocate loans block size)
  | write block source size =>
    rw [Request.serve]
    split
    · exact ⟨_, _, _, rfl, by decide, lends⟩
    · next stored overwrites =>
      exact ⟨_, _, _, rfl, Status.not_broken_ok, lends_store lends _ _ _ stored overwrites⟩
  | read block target size =>
    rw [Request.serve]
    split
    · exact ⟨_, _, _, rfl, by decide, lends⟩
    · exact ⟨_, _, _, rfl, Status.not_broken_ok, lends⟩
  | reset force =>
    exact (leaves_reset lends force).mapAnswer _ (fun _ kept => kept)
      (Request.loansAfter_reset loans force)
  | liveCount result => exact ⟨_, _, _, rfl, Status.not_broken_ok, lends⟩

end BuiltAllocator

end Allotment
