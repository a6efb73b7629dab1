/-
What the words of blocks on loan do while an allocator is used. A holding is a block on
loan as its holder sees it: the words it had when it was lent, and the writes made
through it since. Custody is the relation between an allocator in use and the holdings.

The laws of a lender are what an allocator must obey in each single operation. From
them it follows for all of its uses that every holding reads as its holder expects.
-/

import Allotment.Backend.Allocator
import Allotment.Proofs.Block.Ranges
import Allotment.Proofs.Block.Sharing

namespace Allotment

/-! ### Holdings -/

/-- A block on loan as its holder sees it: whether zero words were asked for, whether no released
block was lent for it, its words when it was lent, and the sizes and patches of the writes
since, the latest first. -/
structure Holding where
  block : Block
  zeroed : Bool
  fresh : Bool
  issued : List Word
  writes : List (Nat × Patch)

namespace Holding

/-- The words that the holder expects. -/
def contents (holding : Holding) : List Word :=
  holding.writes.foldr (fun (size, patch) words => overlay words size patch) holding.issued

/-- The holding after one more write. -/
def write (holding : Holding) (size : Nat) (patch : Patch) : Holding :=
  { holding with writes := (size, patch) :: holding.writes }

@[simp] theorem contents_write (holding : Holding) (size : Nat) (patch : Patch) :
    (holding.write size patch).contents = overlay holding.contents size patch :=
  rfl

/-- The holdings after a write through a handle. -/
def writeAll (holdings : List Holding) (handle : Handle) (size : Nat) (patch : Patch) :
    List Holding :=
  holdings.map fun holding =>
    if holding.block.handle = handle then holding.write size patch else holding

@[simp] theorem map_block_writeAll (holdings : List Holding) (handle : Handle) (size : Nat)
    (patch : Patch) : (writeAll holdings handle size patch).map (·.block) =
      holdings.map (·.block) := by
  rw [writeAll, List.map_map]
  refine List.map_congr_left fun holding _ => ?_
  by_cases same : holding.block.handle = handle
  · simp only [Function.comp_apply, if_pos same]
    rfl
  · simp only [Function.comp_apply, if_neg same]

/-- The blocks of the holdings that remain when a block came back. -/
theorem map_block_filter (holdings : List Holding) (distinct : (holdings.map (·.block)).Nodup)
    (block : Block) : (holdings.filter fun holding => holding.block ≠ block).map (·.block) =
      (holdings.map (·.block)).erase block := by
  rw [distinct.erase_eq_filter, List.filter_map]
  refine congrArg (List.map _) (List.filter_congr fun holding _ => ?_)
  by_cases same : holding.block = block
  · simp [same]
  · simp [same]

end Holding

/-! ### Custody -/

/-- Whether a request of a size would be served with a block that was released before. -/
class Recycler (σ : Type) where
  recycles : σ → Nat → Bool

section Use

variable {σ : Type} [Allocator σ]

/-- A request for a block, of zero words or of whatever words it has. -/
def Allocator.request (zeroed : Bool) (memory : Memory) (allocator : σ) (size : Nat) :
    Step σ (Except Refusal Handle) :=
  if zeroed then allocateZeroed memory allocator size else allocate memory allocator size

/-- The allocator after a block was lent, cleared if zero words were asked for. -/
def Allocator.cleared (zeroed : Bool) (allocator : σ) (block : Block) : σ :=
  if zeroed then store allocator block.handle block.size (.constant 0) else allocator

theorem Allocator.request_ok (zeroed : Bool) (memory : Memory) (before after : σ) (size : Nat)
    (handle : Handle) (events : List Event)
    (granted : request zeroed memory before size = .done (.ok handle) after events) :
    ∃ lent, allocate memory before size = .done (.ok handle) lent events ∧
      after = cleared zeroed lent ⟨handle, size⟩ := by
  cases zeroed with
  | false => exact ⟨after, granted, rfl⟩
  | true =>
    have zeros : allocateZeroed memory before size = .done (.ok handle) after events := granted
    unfold allocateZeroed at zeros
    split at zeros
    · next lent logged found =>
      cases zeros
      exact ⟨lent, found, rfl⟩
    · next unlent => exact absurd zeros (unlent handle after events)

theorem Allocator.request_error (zeroed : Bool) (memory : Memory) (before after : σ) (size : Nat)
    (cause : Refusal) (events : List Event)
    (declined : request zeroed memory before size = .done (.error cause) after events) :
    allocate memory before size = .done (.error cause) after events := by
  cases zeroed with
  | false => exact declined
  | true =>
    have zeros : allocateZeroed memory before size = .done (.error cause) after events := declined
    unfold allocateZeroed at zeros
    split at zeros
    · cases zeros
    · exact zeros

variable [Recycler σ]

/-- The new holding of a block that was lent. -/
def Holding.lent (zeroed : Bool) (before after : σ) (block : Block) : Holding where
  block := block
  zeroed := zeroed
  fresh := !Recycler.recycles before block.size
  issued := (Allocator.words? after block.handle block.size).getD []
  writes := []

/-- The holdings and the allocator that a use of it leads to. Blocks are asked for and released
with any arguments; a write goes through the handle of a holding, at its size or less. -/
inductive Custody (start : σ) : List Holding → σ → Prop
  | start : Custody start [] start
  | lent (holdings : List Holding) (before after : σ) (zeroed : Bool) (memory : Memory)
    (size : Nat) (handle : Handle) (events : List Event)
    (custody : Custody start holdings before)
    (granted : Allocator.request zeroed memory before size = .done (.ok handle) after events) :
    Custody start (.lent zeroed before after ⟨handle, size⟩ :: holdings) after
  | declined (holdings : List Holding) (before after : σ) (zeroed : Bool) (memory : Memory)
    (size : Nat) (cause : Refusal) (events : List Event)
    (custody : Custody start holdings before)
    (refused : Allocator.request zeroed memory before size =
      .done (.error cause) after events) :
    Custody start holdings after
  | returned (holdings : List Holding) (before after : σ) (handle : Handle) (size : Nat)
    (events : List Event) (custody : Custody start holdings before)
    (granted : Allocator.tryDeallocate before handle size = .done (.ok ()) after events) :
    Custody start (holdings.filter fun holding => holding.block ≠ ⟨handle, size⟩) after
  | rejected (holdings : List Holding) (before after : σ) (handle : Handle) (size : Nat)
    (cause : Refusal) (events : List Event) (custody : Custody start holdings before)
    (refused : Allocator.tryDeallocate before handle size = .done (.error cause) after events) :
    Custody start holdings after
  | written (holdings : List Holding) (before : σ) (holding : Holding) (size : Nat)
    (patch : Patch) (custody : Custody start holdings before) (member : holding ∈ holdings)
    (inside : size ≤ holding.block.size) :
    Custody start (Holding.writeAll holdings holding.block.handle size patch)
      (Allocator.store before holding.block.handle size patch)

/-- A holding reads as its holder expects, and its words were zeros when it was lent, if they were
asked for or no released block was lent. -/
structure Holding.Kept (allocator : σ) (holding : Holding) : Prop where
  reads : Allocator.words? allocator holding.block.handle holding.block.size =
    some holding.contents
  length : holding.contents.length = holding.block.size
  zeros : holding.zeroed = true ∨ holding.fresh = true →
    holding.issued = List.replicate holding.block.size 0

end Use

/-! ### The laws of a lender -/

/-- The blocks read in the later state as they did in the earlier one. -/
def Undisturbed {σ : Type} [Allocator σ] (before after : σ) (blocks : List Block) : Prop :=
  ∀ block ∈ blocks, Allocator.words? after block.handle block.size =
    Allocator.words? before block.handle block.size

/-- What each operation of an allocator does to the blocks on loan. `Lends` says that exactly the
given blocks are on loan, and `Named` that the numbers of all places fit into handles. -/
class Lender (σ : Type) [Allocator σ] [Recycler σ] where
  Lends : σ → List Block → Prop
  Named : σ → Prop
  named_of_allocate (memory : Memory) (before after : σ) (size : Nat)
    (answer : Except Refusal Handle) (events : List Event)
    (done : Allocator.allocate memory before size = .done answer after events)
    (named : Named after) : Named before
  named_of_tryDeallocate (before after : σ) (handle : Handle) (size : Nat)
    (answer : Except Refusal Unit) (events : List Event)
    (done : Allocator.tryDeallocate before handle size = .done answer after events)
    (named : Named after) : Named before
  named_of_store (allocator : σ) (handle : Handle) (size : Nat) (patch : Patch)
    (named : Named (Allocator.store allocator handle size patch)) : Named allocator
  distinct (allocator : σ) (loans : List Block) (lends : Lends allocator loans)
    (named : Named allocator) : (loans.map (·.handle)).Nodup
  lent (memory : Memory) (before after : σ) (size : Nat) (handle : Handle) (events : List Event)
    (loans : List Block) (lends : Lends before loans) (named : Named after)
    (granted : Allocator.allocate memory before size = .done (.ok handle) after events) :
    Lends after (⟨handle, size⟩ :: loans) ∧ Undisturbed before after loans ∧
      ∃ words, Allocator.words? after handle size = some words ∧ words.length = size ∧
        (Recycler.recycles before size = false → words = List.replicate size 0)
  declined (memory : Memory) (before after : σ) (size : Nat) (cause : Refusal)
    (events : List Event) (loans : List Block) (lends : Lends before loans)
    (refused : Allocator.allocate memory before size = .done (.error cause) after events) :
    after = before
  returned (before after : σ) (handle : Handle) (size : Nat) (events : List Event)
    (loans : List Block) (lends : Lends before loans) (named : Named after)
    (granted : Allocator.tryDeallocate before handle size = .done (.ok ()) after events) :
    ⟨handle, size⟩ ∈ loans ∧ Lends after (loans.erase ⟨handle, size⟩) ∧
      Undisturbed before after (loans.erase ⟨handle, size⟩)
  rejected (before after : σ) (handle : Handle) (size : Nat) (cause : Refusal)
    (events : List Event) (loans : List Block) (lends : Lends before loans)
    (refused : Allocator.tryDeallocate before handle size = .done (.error cause) after events) :
    after = before
  written (allocator : σ) (loans : List Block) (block : Block) (size : Nat) (patch : Patch)
    (lends : Lends allocator loans) (named : Named allocator) (member : block ∈ loans)
    (inside : size ≤ block.size) :
    Lends (Allocator.store allocator block.handle size patch) loans ∧
      Undisturbed allocator (Allocator.store allocator block.handle size patch)
        (loans.erase block) ∧
      Allocator.words? (Allocator.store allocator block.handle size patch) block.handle block.size =
        (Allocator.words? allocator block.handle block.size).map fun words =>
          overlay words size patch

/-! ### All uses of a lender -/

section Lender

variable {σ : Type} [Allocator σ]

/-- A holding whose words did not change reads as before. -/
theorem Holding.Kept.undisturbed {before after : σ} {holding : Holding}
    (kept : holding.Kept before)
    (same : Allocator.words? after holding.block.handle holding.block.size =
      Allocator.words? before holding.block.handle holding.block.size) : holding.Kept after where
  reads := same.trans kept.reads
  length := kept.length
  zeros := kept.zeros

/-- A holding that is written reads as overwritten. -/
theorem Holding.Kept.write {before after : σ} {holding : Holding} (kept : holding.Kept before)
    (size : Nat) (patch : Patch)
    (overwritten : Allocator.words? after holding.block.handle holding.block.size =
      (Allocator.words? before holding.block.handle holding.block.size).map fun words =>
        overlay words size patch) : (holding.write size patch).Kept after where
  reads := by
    show Allocator.words? after holding.block.handle holding.block.size = _
    rw [overwritten, kept.reads, Option.map_some, contents_write]
  length := by
    rw [contents_write, length_overlay]
    exact kept.length
  zeros := kept.zeros

variable [Recycler σ]

/-- Where no request is served with a released block, every holding is fresh. -/
theorem Custody.fresh {start after : σ} {holdings : List Holding}
    (custody : Custody start holdings after)
    (never : ∀ (allocator : σ) (size : Nat), Recycler.recycles allocator size = false) :
    ∀ holding ∈ holdings, holding.fresh = true := by
  induction custody with
  | start => nofun
  | lent holdings before after zeroed memory size handle events custody granted
      inductionHypothesis =>
    intro holding member
    rcases List.mem_cons.mp member with rfl | older
    · show (!Recycler.recycles before size) = true
      rw [never before size]
      rfl
    · exact inductionHypothesis holding older
  | declined holdings before after zeroed memory size cause events custody refused
      inductionHypothesis => exact inductionHypothesis
  | returned holdings before after handle size events custody granted inductionHypothesis =>
    exact fun holding member => inductionHypothesis holding (List.mem_filter.mp member).1
  | rejected holdings before after handle size cause events custody refused
      inductionHypothesis => exact inductionHypothesis
  | written holdings before holding size patch custody member inside inductionHypothesis =>
    intro later laterMember
    obtain ⟨other, otherMember, rfl⟩ := List.mem_map.mp laterMember
    have otherFresh := inductionHypothesis other otherMember
    split
    · exact otherFresh
    · exact otherFresh

/-- A block that was lent and cleared is kept from then on. -/
theorem Holding.kept_lent (zeroed : Bool) (before after : σ) (block : Block) (words : List Word)
    (found : Allocator.words? after block.handle block.size = some words)
    (length : words.length = block.size)
    (zeros : zeroed = true ∨ Recycler.recycles before block.size = false →
      words = List.replicate block.size 0) :
    (Holding.lent zeroed before after block).Kept after := by
  have issued : (Holding.lent zeroed before after block).issued = words := by
    show (Allocator.words? after block.handle block.size).getD [] = words
    rw [found, Option.getD_some]
  refine ⟨?_, ?_, fun clean => ?_⟩
  · exact found.trans (congrArg some issued.symm)
  · exact (congrArg List.length issued).trans length
  · rw [issued]
    exact zeros (clean.imp id fun fresh => (Bool.not_eq_true' _).mp fresh)

variable [Lender σ]

/-- A block that is cleared after it was lent reads as zeros, and the others as before. -/
theorem Lender.lent_cleared (zeroed : Bool) (memory : Memory) (before lent : σ) (size : Nat)
    (handle : Handle) (events : List Event) (loans : List Block) (lends : Lends before loans)
    (named : Named (Allocator.cleared zeroed lent ⟨handle, size⟩))
    (granted : Allocator.allocate memory before size = .done (.ok handle) lent events) :
    Lends (Allocator.cleared zeroed lent ⟨handle, size⟩) (⟨handle, size⟩ :: loans) ∧
      Undisturbed before (Allocator.cleared zeroed lent ⟨handle, size⟩) loans ∧
      ∃ words, Allocator.words? (Allocator.cleared zeroed lent ⟨handle, size⟩) handle size =
          some words ∧ words.length = size ∧
        (zeroed = true ∨ Recycler.recycles before size = false →
          words = List.replicate size 0) := by
  cases zeroed with
  | false =>
    obtain ⟨lendsAfter, undisturbed, words, found, length, zeros⟩ :=
      Lender.lent memory before lent size handle events loans lends named granted
    exact ⟨lendsAfter, undisturbed, words, found, length, fun clean => zeros (clean.resolve_left
      Bool.false_ne_true)⟩
  | true =>
    have namedLent : Named lent := named_of_store lent handle size (.constant 0) named
    obtain ⟨lendsLent, undisturbed, words, found, length, _⟩ :=
      Lender.lent memory before lent size handle events loans lends namedLent granted
    obtain ⟨lendsAfter, others, overwritten⟩ :=
      written lent (⟨handle, size⟩ :: loans) ⟨handle, size⟩ size (.constant 0) lendsLent namedLent
        List.mem_cons_self (Nat.le_refl _)
    rw [List.erase_cons_head] at others
    refine ⟨lendsAfter, fun block member => (others block member).trans (undisturbed block member),
      overlay words size (.constant 0), ?_, ?_, fun _ => ?_⟩
    · refine overwritten.trans ?_
      show (Allocator.words? lent handle size).map _ = _
      rw [found, Option.map_some]
    · rw [length_overlay, length]
    · have all := overlay_constant words 0
      rwa [length] at all

theorem Lender.named_of_cleared (zeroed : Bool) (lent : σ) (block : Block)
    (named : Named (Allocator.cleared zeroed lent block)) : Named lent := by
  cases zeroed with
  | false => exact named
  | true => exact named_of_store lent block.handle block.size (.constant 0) named

/-- The holdings are the blocks on loan, and each of them is kept. -/
structure Keeps (allocator : σ) (holdings : List Holding) : Prop where
  lends : Lender.Lends allocator (holdings.map (·.block))
  kept : ∀ holding ∈ holdings, holding.Kept allocator

namespace Keeps

variable {before after : σ} {holdings : List Holding}

theorem lent (keeps : Keeps before holdings) (zeroed : Bool) (memory : Memory) (lent : σ)
    (size : Nat) (handle : Handle) (events : List Event)
    (named : Lender.Named (Allocator.cleared zeroed lent ⟨handle, size⟩))
    (granted : Allocator.allocate memory before size = .done (.ok handle) lent events) :
    Keeps (Allocator.cleared zeroed lent ⟨handle, size⟩)
      (.lent zeroed before (Allocator.cleared zeroed lent ⟨handle, size⟩) ⟨handle, size⟩ ::
        holdings) := by
  obtain ⟨lends, undisturbed, words, found, length, zeros⟩ :=
    Lender.lent_cleared zeroed memory before lent size handle events _ keeps.lends named granted
  refine ⟨lends, fun holding member => ?_⟩
  rcases List.mem_cons.mp member with rfl | older
  · exact Holding.kept_lent zeroed before _ ⟨handle, size⟩ words found length zeros
  · exact (keeps.kept holding older).undisturbed (undisturbed _ (List.mem_map_of_mem older))

theorem returned (keeps : Keeps before holdings) (handle : Handle) (size : Nat)
    (events : List Event) (namedBefore : Lender.Named before) (named : Lender.Named after)
    (granted : Allocator.tryDeallocate before handle size = .done (.ok ()) after events) :
    Keeps after (holdings.filter fun holding => holding.block ≠ ⟨handle, size⟩) := by
  obtain ⟨_, lends, undisturbed⟩ :=
    Lender.returned before after handle size events _ keeps.lends named granted
  have distinct : (holdings.map (·.block)).Nodup :=
    List.Nodup.of_map _ (Lender.distinct before _ keeps.lends namedBefore)
  have blocks := Holding.map_block_filter holdings distinct ⟨handle, size⟩
  refine ⟨blocks ▸ lends, fun holding member => ?_⟩
  have remaining : holding.block ∈ (holdings.map (·.block)).erase ⟨handle, size⟩ :=
    blocks ▸ List.mem_map_of_mem member
  exact (keeps.kept holding (List.mem_filter.mp member).1).undisturbed (undisturbed _ remaining)

theorem written (keeps : Keeps before holdings) (holding : Holding) (size : Nat) (patch : Patch)
    (named : Lender.Named before) (member : holding ∈ holdings)
    (inside : size ≤ holding.block.size) :
    Keeps (Allocator.store before holding.block.handle size patch)
      (Holding.writeAll holdings holding.block.handle size patch) := by
  have onLoan : holding.block ∈ holdings.map (·.block) := List.mem_map_of_mem member
  obtain ⟨lends, undisturbed, overwritten⟩ :=
    Lender.written before _ holding.block size patch keeps.lends named onLoan inside
  have distinct := Lender.distinct before _ keeps.lends named
  refine ⟨(Holding.map_block_writeAll holdings _ size patch).symm ▸ lends,
    fun later laterMember => ?_⟩
  obtain ⟨other, otherMember, rfl⟩ := List.mem_map.mp laterMember
  have otherOnLoan : other.block ∈ holdings.map (·.block) := List.mem_map_of_mem otherMember
  by_cases same : other.block.handle = holding.block.handle
  · have block := Block.eq_of_handle_eq distinct otherOnLoan onLoan same
    rw [if_pos same]
    exact (keeps.kept other otherMember).write size patch (block ▸ overwritten)
  · rw [if_neg same]
    have different : other.block ≠ holding.block := fun equal => same (by rw [equal])
    exact (keeps.kept other otherMember).undisturbed
      (undisturbed _ ((List.mem_erase_of_ne different).mpr otherOnLoan))

end Keeps

/-- Every use of a lender keeps what it holds. -/
theorem Custody.keeps {start after : σ} {holdings : List Holding}
    (custody : Custody start holdings after) (lends : Lender.Lends start [])
    (named : Lender.Named after) : Keeps after holdings := by
  induction custody with
  | start => exact ⟨lends, nofun⟩
  | lent holdings before after zeroed memory size handle events custody granted
      inductionHypothesis =>
    obtain ⟨lent, allocated, rfl⟩ :=
      Allocator.request_ok zeroed memory before after size handle events granted
    have namedLent := Lender.named_of_cleared zeroed lent _ named
    have keeps := inductionHypothesis
      (Lender.named_of_allocate memory before lent size _ events allocated namedLent)
    exact keeps.lent zeroed memory lent size handle events named allocated
  | declined holdings before after zeroed memory size cause events custody refused
      inductionHypothesis =>
    have allocated := Allocator.request_error zeroed memory before after size cause events refused
    have keeps := inductionHypothesis
      (Lender.named_of_allocate memory before after size _ events allocated named)
    rwa [Lender.declined memory before after size cause events _ keeps.lends allocated]
  | returned holdings before after handle size events custody granted inductionHypothesis =>
    have namedBefore :=
      Lender.named_of_tryDeallocate before after handle size _ events granted named
    exact (inductionHypothesis namedBefore).returned handle size events namedBefore named granted
  | rejected holdings before after handle size cause events custody refused
      inductionHypothesis =>
    have keeps := inductionHypothesis
      (Lender.named_of_tryDeallocate before after handle size _ events refused named)
    rwa [Lender.rejected before after handle size cause events _ keeps.lends refused]
  | written holdings before holding size patch custody member inside inductionHypothesis =>
    have namedBefore := Lender.named_of_store before holding.block.handle size patch named
    exact (inductionHypothesis namedBefore).written holding size patch namedBefore member inside

end Lender

end Allotment
