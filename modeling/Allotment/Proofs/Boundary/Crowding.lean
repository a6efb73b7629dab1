/-
A crowd behind the boundary. One caller's requests take more chunks than 32 bits can number,
and then a block is released whose handle names a chunk it does not lie in. The arena finds no
such words carved and ends in a fault; the boundary catches it and gives the whole table up. So
another caller, whose allocator shares nothing with the arena but the table, is refused
everything from then on.
-/

import Allotment.Proofs.Boundary.Lives
import Allotment.Proofs.Segregated.ReleaseCheck

namespace Allotment

namespace Session

open History (crowd crowdLoan crowdSize crowdSize_pos crowdSize_le)
open SegregatedAllocator (Crowded)

/-! ### A table of two callers -/

/-- A session with an allocator of one caller and a system allocator of another. -/
def shared (allocator : BuiltAllocator) : Session :=
  ⟨⟨#[.occupied 0 allocator, .occupied 0 (.system .empty)], none, 2⟩, false, ""⟩

/-- The same session after a fault was caught. -/
def sharedSpoiled (allocator : BuiltAllocator) (reason : Fault) : Session :=
  { shared allocator with spoiled := true, lastFault := reason.message }

section Request

variable {memory : Memory} {allocator : BuiltAllocator} {request : Request} {events : List Event}

/-- A request of the first caller that is served changes the first allocator alone. -/
theorem perform_shared (complete : request.early? = none) {reply : Reply}
    {next : BuiltAllocator} (served : request.serve memory allocator = .done reply next events) :
    (shared allocator).perform memory (.onAllocator 0 request) = (shared next, reply, events) := by
  have step : serve memory 0 request (shared allocator).table =
      .done reply (shared next).table events := by
    show (request.serve memory allocator).within _ = _
    rw [served]
    rfl
  rw [perform_onAllocator_complete _ memory 0 request complete, withTable, step]
  rfl

/-- A request of the first caller that ends in a fault spoils the session. -/
theorem perform_shared_fault (complete : request.early? = none) {reason : Fault}
    (faults : request.serve memory allocator = .fault reason events) :
    (shared allocator).perform memory (.onAllocator 0 request) =
      (sharedSpoiled allocator reason, .bare .panicked, events ++ [caughtEvent reason]) := by
  have step : serve memory 0 request (shared allocator).table = .fault reason events := by
    show (request.serve memory allocator).within _ = _
    rw [faults]
    rfl
  rw [perform_onAllocator_complete _ memory 0 request complete, withTable, step]
  rfl

end Request

/-! ### The calls of a crowd -/

section Served

variable {memory : Memory} {allocator : SegregatedAllocator} {size : Nat} {events : List Event}

/-- A loan that an arena grants is told by its handle. -/
theorem serve_allocate (positive : 0 < size) (small : size ≤ allocator.config.maxRequestWords)
    {handle : Handle} {next : SegregatedAllocator}
    (granted : allocator.allocate memory size = .done (.ok handle) next events) :
    (Request.allocate size .given).serve memory (.arena allocator) =
      .done (.wrote (.block (.ofHandle handle))) (.arena next) events := by
  show ((allocator.tryAllocate memory size).within BuiltAllocator.arena).mapAnswer _ = _
  rw [allocator.tryAllocate_eq_allocate memory size positive small, granted]
  rfl

/-- A release that is a fault of the arena is one of the request. -/
theorem serve_deallocate_fault (block : BlockReference) {reason : Fault}
    (faults : allocator.tryDeallocate block.handle size = .fault reason events) :
    (Request.deallocate block size).serve memory (.arena allocator) = .fault reason events := by
  show ((allocator.tryDeallocate block.handle size).within BuiltAllocator.arena).mapAnswer _ = _
  rw [faults]
  rfl

end Served

/-- The calls of one caller take one chunk more than there are numbers for, while nothing is
called under the key of the other. -/
theorem exists_crowded_session :
    ∃ (chunks : Nat) (transcript : Transcript) (allocator : SegregatedAllocator),
      Run .addressable chunks transcript (shared (.arena allocator)) ∧
        transcript.life? 0x100000000 = some ⟨.system .empty, [], []⟩ ∧
        Crowded (2 ^ 32 + 1) allocator ∧
        SegregatedAllocator.Run (.recording 2) (fun _ _ => True) (crowd (2 ^ 32 + 1))
          allocator := by
  have opened : Run .addressable _ _ _ := .start
  have arena := opened.call _ _ _ (.createArena 2 .given)
  have both := arena.call _ _ _ (.createSystem .given)
  obtain ⟨allocator, crowded, ran, chunks, transcript, run, idle⟩ :=
    SegregatedAllocator.exists_crowded
      (fun chunks allocator =>
        SegregatedAllocator.Run (.recording 2) (fun _ _ => True) (crowd chunks) allocator ∧
        ∃ most transcript, Run .addressable most transcript (shared (.arena allocator)) ∧
          Transcript.life? 0x100000000 transcript = some ⟨.system .empty, [], []⟩)
      true ⟨.start _ rfl, _, _, both, rfl⟩
      (fun chunks before after events crowded _ ⟨ran, most, transcript, run, idle⟩ granted => by
        have small := Nat.le_trans (crowdSize_le chunks) (Nat.le_of_eq crowded.limit.symm)
        have served := serve_allocate (crowdSize_pos chunks) small granted
        have performed := perform_shared rfl served
        have longer := run.call _ _ _ (.onAllocator 0 (.allocate (crowdSize chunks) .given))
        rw [performed] at longer
        refine ⟨ran.step _ _ _ _ _ _ trivial (SegregatedAllocator.perform_allocate granted), _, _,
          longer, ?_⟩
        exact (transcript.life?_onAllocator _ _ _ _ (by decide)).trans idle)
      _ (Nat.le_refl _)
  exact ⟨chunks, transcript, allocator, run, idle, crowded, ran⟩

/-- Then the release of the latest loan is a fault that spoils the session. -/
theorem perform_deallocate_crowded {allocator : SegregatedAllocator}
    (crowded : Crowded (2 ^ 32 + 1) allocator)
    (run : SegregatedAllocator.Run (.recording 2) (fun _ _ => True) (crowd (2 ^ 32 + 1))
      allocator) (memory : Memory) :
    (shared (.arena allocator)).perform memory (.onAllocator 0 (.deallocate ⟨0, 0⟩ 2)) =
      (sharedSpoiled (.arena allocator) (.notCarved ⟨0, 0, 0⟩ 2 0), .bare .panicked,
        [caughtEvent (.notCarved ⟨0, 0, 0⟩ 2 0)]) :=
  perform_shared_fault rfl (serve_deallocate_fault ⟨0, 0⟩ (crowded.tryDeallocate_first run))

end Session

end Allotment
