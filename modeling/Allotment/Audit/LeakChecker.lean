/-
The leak checker: an allocator around another one that records every loan. It lets
a release through only if the record holds the block at that size, so the inner
allocator never sees a bad release. Of released blocks it remembers the latest one
at each place, which is enough to tell a second release from one of a block that
was never lent.
-/

import Allotment.Audit.LeakReport
import Allotment.Audit.LoanIndex
import Allotment.Backend.Allocator

namespace Allotment

/-- The record of loans around an inner allocator. -/
structure LeakChecker (σ : Type) where
  inner : σ
  loans : LoanIndex
  released : List Handle
  total : Nat
deriving DecidableEq

namespace LeakChecker

variable {σ : Type}

/-- A checker that has seen no loan. -/
def around (inner : σ) : LeakChecker σ := ⟨inner, [], [], 0⟩

/-- How many blocks are on loan. -/
def outstanding (checker : LeakChecker σ) : Nat :=
  checker.loans.length

/-- The size at which a handle is on loan. -/
def loanSize? (checker : LeakChecker σ) (handle : Handle) : Option Nat :=
  checker.loans.size? handle

/-- What is on loan now. -/
def report (checker : LeakChecker σ) : LeakReport :=
  ⟨checker.loans.inOrder, checker.total⟩

/-- Drops the record of loans and of releases, and keeps the number of loans made. -/
def forgetLoans (checker : LeakChecker σ) : LeakChecker σ :=
  { checker with loans := [], released := [] }

/-- Drops what was released at the place of a handle. -/
def clearPlace (released : List Handle) (handle : Handle) : List Handle :=
  released.filter fun other => ¬other.SamePlace handle

theorem mem_clearPlace (released : List Handle) (place handle : Handle) :
    handle ∈ clearPlace released place ↔ handle ∈ released ∧ ¬ handle.SamePlace place := by
  rw [clearPlace, List.mem_filter, decide_eq_true_iff]

/-- The event of a block that is lent although it is on loan. -/
def reissuedEvent (handle : Handle) (previous size : Nat) : Event :=
  ⟨.error, "inner allocator reissued a live block", [("handle", handle.text),
    ("previous", toString previous), ("words", toString size)]⟩

/-- The checker after the inner allocator lent a block. -/
def lent (checker : LeakChecker σ) (inner : σ) (block : Block) : LeakChecker σ where
  inner := inner
  loans := checker.loans.insert ⟨block, checker.total⟩
  released := clearPlace checker.released block.handle
  total := checker.total + 1

/-- The event that goes with a loan, if its handle is on loan already. -/
def lentEvents (checker : LeakChecker σ) (block : Block) : List Event :=
  match checker.loans.size? block.handle with
  | none => []
  | some previous => [reissuedEvent block.handle previous block.size]

/-- The checker after the inner allocator took a block back. -/
def returned (checker : LeakChecker σ) (inner : σ) (handle : Handle) : LeakChecker σ :=
  { checker with
    inner := inner
    loans := checker.loans.remove handle
    released := handle :: clearPlace checker.released handle }

/-- What a release is refused for by the record. -/
def checkRelease (checker : LeakChecker σ) (handle : Handle) (size : Nat) :
    Except Refusal Unit :=
  if size = 0 then .error .zeroSize
  else
    match checker.loans.size? handle with
    | some expected =>
      if expected = size then .ok () else .error (.sizeMismatch handle expected size)
    | none =>
      if handle ∈ checker.released then .error (.doubleFree handle)
      else .error (.foreignHandle handle)

variable [Allocator σ]

/-- Lends a block of the inner allocator and records the loan. -/
def allocate (memory : Memory) (checker : LeakChecker σ) (size : Nat) :
    Step (LeakChecker σ) (Except Refusal Handle) :=
  match Allocator.allocate memory checker.inner size with
  | .fault reason events => .fault reason events
  | .done (.error cause) inner events =>
    .done (.error cause) { checker with inner := inner } events
  | .done (.ok handle) inner events =>
    .done (.ok handle) (checker.lent inner ⟨handle, size⟩)
      (events ++ checker.lentEvents ⟨handle, size⟩)

/-- Passes a release on if the record allows it, and strikes the loan out if the inner
allocator takes the block. -/
def tryDeallocate (checker : LeakChecker σ) (handle : Handle) (size : Nat) :
    Step (LeakChecker σ) (Except Refusal Unit) :=
  match checker.checkRelease handle size with
  | .error cause => .refused cause checker
  | .ok () =>
    match Allocator.tryDeallocate checker.inner handle size with
    | .fault reason events => .fault reason events
    | .done (.error cause) inner events =>
      .done (.error cause) { checker with inner := inner } events
    | .done (.ok ()) inner events => .done (.ok ()) (checker.returned inner handle) events

/-- The event of a release that must not be refused and is. -/
def rejectedEvent (cause : Refusal) : Event :=
  ⟨.error, "rejected deallocation", [("err", cause.message)]⟩

/-- Takes a block back; a refusal is a fault. -/
def deallocate (checker : LeakChecker σ) (handle : Handle) (size : Nat) :
    Step (LeakChecker σ) Unit :=
  match checker.tryDeallocate handle size with
  | .fault reason events => .fault reason events
  | .done (.error cause) _ events =>
    .fault (.rejectedDeallocation cause) (events ++ [rejectedEvent cause])
  | .done (.ok ()) next events => .done () next events

/-- Overwrites words of a handle in the inner allocator. -/
def store? (checker : LeakChecker σ) (handle : Handle) (size : Nat) (patch : Patch) :
    Option (LeakChecker σ) :=
  (Allocator.store? checker.inner handle size patch).map fun stored =>
    { checker with inner := stored }

instance : Allocator (LeakChecker σ) where
  allocate memory checker size := checker.allocate memory size
  deallocate := deallocate
  tryDeallocate := tryDeallocate
  words? checker := Allocator.words? checker.inner
  store? := store?

end LeakChecker

/-- The totals of a checker as a record that leaves the loans out. -/
def LeakChecker.recordText {σ : Type} (checker : LeakChecker σ) : String :=
  Text.openRecord "LeakCheckingAllocator" [("outstanding", toString checker.outstanding),
    ("total", toString checker.total)]

end Allotment
