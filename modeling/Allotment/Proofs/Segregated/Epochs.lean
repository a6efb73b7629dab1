/-
The segregated allocator some epochs later. An allocator looks at epochs only to compare
the one of a handle with its own, and gives out its own. So an allocator that is moved by
a number of epochs, asked for handles that are moved as far, does the same: it answers the
same, up to the epochs in the answers, and is the moved allocator again.

This is shown for each operation and then, by induction, for any number of them.
-/

import Allotment.Proofs.Lending.Epochs
import Allotment.Proofs.Renaming
import Allotment.Proofs.Segregated.Soundness

namespace Allotment

/-- The answer to the same request some epochs later, if what is granted is moved as well. -/
def laterAnswer {α : Type} (epochs : UInt32) (granted : α → α) :
    Except Refusal α → Except Refusal α
  | .ok value => .ok (granted value)
  | .error cause => .error (cause.later epochs)

/-! ### The arena -/

namespace Arena

/-- The arena some epochs later. -/
def later (epochs : UInt32) (arena : Arena) : Arena :=
  { arena with epoch := arena.epoch + epochs }

section Later

variable (epochs : UInt32) (arena : Arena)

@[simp] theorem chunks_later : (arena.later epochs).chunks = arena.chunks :=
  rfl

@[simp] theorem alignment_later : (arena.later epochs).alignment = arena.alignment :=
  rfl

@[simp] theorem epoch_later : (arena.later epochs).epoch = arena.epoch + epochs :=
  rfl

theorem chunkOf?_later (handle : Handle) :
    (arena.later epochs).chunkOf? (handle.later epochs) = arena.chunkOf? handle := by
  unfold chunkOf?
  exact if_congr (UInt32.add_left_inj epochs) rfl rfl

theorem contains_later (handle : Handle) (size : Nat) :
    (arena.later epochs).contains (handle.later epochs) size = arena.contains handle size := by
  unfold contains
  rw [chunkOf?_later]
  rfl

theorem words?_later (handle : Handle) (size : Nat) :
    (arena.later epochs).words? (handle.later epochs) size = arena.words? handle size := by
  unfold words?
  rw [chunkOf?_later]
  rfl

theorem store?_later (handle : Handle) (size : Nat) (patch : Patch) :
    (arena.later epochs).store? (handle.later epochs) size patch =
      (arena.store? handle size patch).map (later epochs) := by
  unfold store?
  rw [chunkOf?_later, Option.map_bind]
  refine congrArg _ (funext fun chunk => ?_)
  rw [Function.comp_apply, Option.map_map]
  rfl

theorem reset_later : (arena.later epochs).reset = arena.reset.later epochs := by
  unfold reset
  rw [epoch_later, next_epoch_later]
  rfl

theorem ensure_later (memory : Memory) (size : Nat) :
    Step.Renamed (later epochs) (laterAnswer epochs id) (Fault.later epochs)
      (arena.ensure memory size) ((arena.later epochs).ensure memory size) := by
  have room : (arena.later epochs).HasRoom size ↔ arena.HasRoom size := Iff.rfl
  have spent : (arena.later epochs).BudgetSpent ↔ arena.BudgetSpent := Iff.rfl
  have chunkSize : (arena.later epochs).chunkSizeFor size = arena.chunkSizeFor size := rfl
  unfold ensure
  refine .ite room (.done rfl rfl) (.ite spent (.done rfl rfl) ?_)
  rw [chunkSize, Chunk.create]
  cases memory.grantsWords (arena.chunkSizeFor size) with
  | false => exact .done rfl rfl
  | true => exact .ite Iff.rfl (.done rfl rfl) (.done rfl rfl)

theorem carve_later (size : Nat) :
    Step.Renamed (later epochs) (Handle.later epochs) (Fault.later epochs)
      (arena.carve size) ((arena.later epochs).carve size) := by
  unfold carve
  refine .ite Iff.rfl (.fault rfl) ?_
  rw [chunks_later, alignment_later]
  cases arena.chunks.back? with
  | none => exact .fault rfl
  | some newest =>
    cases carved : newest.carve? arena.alignment size with
    | none =>
      simp only [carved]
      exact .fault rfl
    | some place =>
      simp only [carved]
      exact .done rfl rfl

theorem obtain_later (memory : Memory) (size : Nat) :
    Step.Renamed (later epochs) (laterAnswer epochs (Handle.later epochs)) (Fault.later epochs)
      (arena.obtain memory size) ((arena.later epochs).obtain memory size) := by
  refine (arena.ensure_later epochs memory size).andThen fun answer next => ?_
  cases answer with
  | error cause => exact .done rfl rfl
  | ok _ => exact (next.carve_later epochs size).mapAnswer _ fun _ => rfl

end Later

end Arena

/-! ### The allocator -/

/-- The figures of the same allocator some epochs later. -/
def Usage.later (epochs : UInt32) (usage : Usage) : Usage :=
  { usage with epoch := usage.epoch + epochs }

namespace SegregatedAllocator

/-- The allocator some epochs later. -/
def later (epochs : UInt32) (allocator : SegregatedAllocator) : SegregatedAllocator :=
  { allocator with
    arena := allocator.arena.later epochs
    free := allocator.free.map (Block.later epochs)
    loans := allocator.loans.map (List.map (Block.later epochs)) }

section Later

variable (epochs : UInt32) (allocator : SegregatedAllocator) (handle : Handle) (size : Nat)

@[simp] theorem config_later : (allocator.later epochs).config = allocator.config :=
  rfl

@[simp] theorem arena_later : (allocator.later epochs).arena = allocator.arena.later epochs :=
  rfl

@[simp] theorem free_later :
    (allocator.later epochs).free = allocator.free.map (Block.later epochs) :=
  rfl

@[simp] theorem live_later : (allocator.later epochs).live = allocator.live :=
  rfl

@[simp] theorem loans_later :
    (allocator.later epochs).loans = allocator.loans.map (List.map (Block.later epochs)) :=
  rfl

theorem lend_later (block : Block) :
    (allocator.later epochs).lend (block.later epochs) = (allocator.lend block).later epochs := by
  unfold lend later
  rw [Option.map_map, Option.map_map]
  refine congrArg _ (congrArg₂ _ (funext fun book => ?_) rfl)
  exact LoanBook.record_later epochs book block

theorem allocate_later (memory : Memory) :
    Step.Renamed (later epochs) (laterAnswer epochs (Handle.later epochs)) (Fault.later epochs)
      (allocator.allocate memory size) ((allocator.later epochs).allocate memory size) := by
  unfold allocate
  refine .ite Iff.rfl (.fault rfl) (.ite Iff.rfl (.fault rfl) ?_)
  rw [free_later, arena_later, FreeBlocks.take?_later]
  cases allocator.free.take? size with
  | some taken =>
    obtain ⟨handle, left⟩ := taken
    exact .done rfl (lend_later epochs { allocator with free := left } ⟨handle, size⟩)
  | none =>
    -- Both arenas do the same, so both allocators lend what was carved, or both pass on why not.
    have obtained := allocator.arena.obtain_later epochs memory size
    generalize allocator.arena.obtain memory size = original at obtained
    generalize (allocator.arena.later epochs).obtain memory size = image at obtained
    cases obtained with
    | fault reasons => exact .fault reasons
    | @done answer _ carved _ _ _ answers states =>
      subst answers states
      cases answer with
      | error cause => exact .done rfl rfl
      | ok handle =>
        exact .done rfl (lend_later epochs { allocator with arena := carved } ⟨handle, size⟩)

theorem tryAllocate_later (memory : Memory) :
    Step.Renamed (later epochs) (laterAnswer epochs (Handle.later epochs)) (Fault.later epochs)
      (allocator.tryAllocate memory size) ((allocator.later epochs).tryAllocate memory size) := by
  unfold tryAllocate
  refine .ite Iff.rfl (.done rfl rfl) (.ite Iff.rfl (.done rfl rfl) ?_)
  exact allocator.allocate_later epochs size memory

theorem deallocate_later :
    Step.Renamed (later epochs) id (Fault.later epochs) (allocator.deallocate handle size)
      ((allocator.later epochs).deallocate (handle.later epochs) size) := by
  have carved : (allocator.later epochs).arena.contains (handle.later epochs) size = false ↔
      allocator.arena.contains handle size = false := by
    rw [arena_later, Arena.contains_later]
  unfold deallocate
  refine .ite Iff.rfl (.fault rfl) (.ite carved (.fault rfl) (.ite Iff.rfl (.fault rfl) ?_))
  rw [loans_later]
  cases allocator.loans with
  | none => exact .done rfl rfl
  | some book =>
    simp only [Option.map_some, LoanBook.size?_later, LoanBook.erase_later]
    exact .ite Iff.rfl (.done rfl rfl) (.fault rfl)

theorem checkAgainstRecord_later (book : LoanBook) :
    (allocator.later epochs).checkAgainstRecord (book.map (Block.later epochs))
        (handle.later epochs) size =
      laterAnswer epochs id (allocator.checkAgainstRecord book handle size) := by
  unfold checkAgainstRecord
  rw [LoanBook.size?_later, free_later, FreeBlocks.holds_later]
  cases book.size? handle with
  | some expected =>
    simp only [apply_ite (laterAnswer epochs id)]
    rfl
  | none =>
    simp only [apply_ite (laterAnswer epochs id)]
    rfl

theorem checkCarved_later :
    (allocator.later epochs).checkCarved (handle.later epochs) size =
      laterAnswer epochs id (allocator.checkCarved handle size) := by
  unfold checkCarved
  rw [arena_later, Arena.contains_later, free_later, apply_ite (laterAnswer epochs id),
    apply_ite (laterAnswer epochs id)]
  simp only [mem_map_later]
  rfl

theorem checkRelease_later :
    (allocator.later epochs).checkRelease (handle.later epochs) size =
      laterAnswer epochs id (allocator.checkRelease handle size) := by
  have stale : (handle.later epochs).epoch ≠ (allocator.later epochs).arena.epoch ↔
      handle.epoch ≠ allocator.arena.epoch := not_congr (UInt32.add_left_inj epochs)
  unfold checkRelease
  -- The comparison of epochs comes out alike, and the refusal names both of them moved.
  simp only [stale, apply_ite (laterAnswer epochs id)]
  refine if_congr Iff.rfl rfl (if_congr Iff.rfl rfl ?_)
  rw [loans_later]
  cases allocator.loans with
  | some book => exact allocator.checkAgainstRecord_later epochs handle size book
  | none => exact allocator.checkCarved_later epochs handle size

theorem tryDeallocate_later :
    Step.Renamed (later epochs) (laterAnswer epochs id) (Fault.later epochs)
      (allocator.tryDeallocate handle size)
      ((allocator.later epochs).tryDeallocate (handle.later epochs) size) := by
  unfold tryDeallocate
  rw [checkRelease_later]
  cases allocator.checkRelease handle size with
  | error cause => exact .done rfl rfl
  | ok _ => exact (allocator.deallocate_later epochs handle size).mapAnswer _ fun _ => rfl

theorem store?_later (patch : Patch) :
    (allocator.later epochs).store? (handle.later epochs) size patch =
      (allocator.store? handle size patch).map (later epochs) := by
  unfold store?
  rw [arena_later, Arena.store?_later, Option.map_map, Option.map_map]
  rfl

theorem usage_later : (allocator.later epochs).usage = allocator.usage.later epochs := by
  unfold usage
  rw [free_later, FreeBlocks.census_later]
  rfl

theorem cleared_later : (allocator.later epochs).cleared = allocator.cleared.later epochs := by
  unfold cleared
  rw [arena_later, Arena.reset_later, loans_later, Option.map_map]
  unfold later
  rw [Option.map_map]
  rfl

theorem tryReset_later :
    Step.Renamed (later epochs) (laterAnswer epochs id) (Fault.later epochs) allocator.tryReset
      (allocator.later epochs).tryReset := by
  unfold tryReset
  exact .ite Iff.rfl (.done rfl rfl) (.done rfl (allocator.cleared_later epochs))

end Later

/-! ### Operations and their answers -/

/-- What can be asked of an allocator: a command, or a look at words or at the figures. -/
inductive Operation where
  | call (command : Command)
  | words (handle : Handle) (size : Nat)
  | usage

/-- What an operation answers. A look-up of words for writing answers the words it finds. -/
inductive Answer where
  | lent (answer : Except Refusal Handle)
  | settled (answer : Except Refusal Unit)
  | contents (words : Option (List Word))
  | figures (usage : Usage)
deriving DecidableEq

/-- Carries out a command and answers as the allocator does. -/
def respond (allocator : SegregatedAllocator) : Command → Step SegregatedAllocator Answer
  | .allocate memory size => (allocator.allocate memory size).mapAnswer .lent
  | .tryAllocate memory size => (allocator.tryAllocate memory size).mapAnswer .lent
  | .deallocate handle size =>
    (allocator.deallocate handle size).mapAnswer fun _ => .settled (.ok ())
  | .tryDeallocate handle size => (allocator.tryDeallocate handle size).mapAnswer .settled
  | .write handle size patch =>
    .done (.contents (allocator.words? handle size))
      ((allocator.store? handle size patch).getD allocator) []
  | .reset => allocator.reset.mapAnswer fun _ => .settled (.ok ())
  | .tryReset => allocator.tryReset.mapAnswer .settled

/-- Carries out an operation. -/
def operate (allocator : SegregatedAllocator) : Operation → Step SegregatedAllocator Answer
  | .call command => allocator.respond command
  | .words handle size => .done (.contents (allocator.words? handle size)) allocator []
  | .usage => .done (.figures allocator.usage) allocator []

/-- The command with other handles in it. -/
def Command.mapHandle (change : Handle → Handle) : Command → Command
  | .deallocate handle size => .deallocate (change handle) size
  | .tryDeallocate handle size => .tryDeallocate (change handle) size
  | .write handle size patch => .write (change handle) size patch
  | command => command

/-- The operation with other handles in it. -/
def Operation.mapHandle (change : Handle → Handle) : Operation → Operation
  | .call command => .call (command.mapHandle change)
  | .words handle size => .words (change handle) size
  | .usage => .usage

/-- The answer of the same operation some epochs later. -/
def Answer.later (epochs : UInt32) : Answer → Answer
  | .lent answer => .lent (laterAnswer epochs (Handle.later epochs) answer)
  | .settled answer => .settled (laterAnswer epochs id answer)
  | .contents words => .contents words
  | .figures usage => .figures (usage.later epochs)

/-- An operation whose handles are moved back and forth is the same. -/
theorem Operation.mapHandle_earlier (epochs : UInt32) (operation : Operation) :
    (operation.mapHandle (Handle.earlier epochs)).mapHandle (Handle.later epochs) =
      operation := by
  cases operation with
  | call command =>
    cases command <;> simp only [mapHandle, Command.mapHandle, Handle.later_earlier]
  | words handle size => simp only [mapHandle, Handle.later_earlier]
  | usage => rfl

section Later

variable (epochs : UInt32) (allocator : SegregatedAllocator)

theorem respond_later (command : Command) :
    Step.Renamed (later epochs) (Answer.later epochs) (Fault.later epochs)
      (allocator.respond command)
      ((allocator.later epochs).respond (command.mapHandle (Handle.later epochs))) := by
  cases command with
  | allocate memory size =>
    exact (allocator.allocate_later epochs size memory).mapAnswer _ fun _ => rfl
  | tryAllocate memory size =>
    exact (allocator.tryAllocate_later epochs size memory).mapAnswer _ fun _ => rfl
  | deallocate handle size =>
    exact (allocator.deallocate_later epochs handle size).mapAnswer _ fun _ => rfl
  | tryDeallocate handle size =>
    exact (allocator.tryDeallocate_later epochs handle size).mapAnswer _ fun _ => rfl
  | write handle size patch =>
    refine .done (congrArg Answer.contents (allocator.arena.words?_later epochs handle size)) ?_
    rw [store?_later]
    cases allocator.store? handle size patch <;> rfl
  | reset => exact .done rfl (allocator.cleared_later epochs)
  | tryReset => exact (allocator.tryReset_later epochs).mapAnswer _ fun _ => rfl

theorem operate_later (operation : Operation) :
    Step.Renamed (later epochs) (Answer.later epochs) (Fault.later epochs)
      (allocator.operate operation)
      ((allocator.later epochs).operate (operation.mapHandle (Handle.later epochs))) := by
  cases operation with
  | call command => exact allocator.respond_later epochs command
  | words handle size =>
    exact .done (congrArg Answer.contents (allocator.arena.words?_later epochs handle size)) rfl
  | usage => exact .done (congrArg Answer.figures (allocator.usage_later epochs)) rfl

/-- Operations of a moved allocator come to what those of the allocator come to, with handles moved
back, and then moved. -/
theorem runAll_later (operations : List Operation) :
    runAll operate (allocator.later epochs) operations =
      (runAll operate allocator
        (operations.map (Operation.mapHandle (Handle.earlier epochs)))).rename
          (later epochs) (Answer.later epochs) (Fault.later epochs) :=
  runAll_of_renamed (operate_later epochs) (Operation.mapHandle_earlier epochs) allocator
    operations

end Later

/-! ### A cleared allocator -/

/-- After any run, an allocator that is cleared is a new one at a later epoch. -/
theorem cleared_eq_later {config : Config} {Permits : History → Command → Prop}
    {history : History} {allocator : SegregatedAllocator}
    (run : Run config Permits history allocator) :
    allocator.cleared = (fresh config).later (allocator.arena.epoch + 1) := by
  have configured := configured_of_run run
  have arena : allocator.arena.reset =
      (fresh config).arena.later (allocator.arena.epoch + 1) := by
    unfold Arena.reset fresh Arena.empty Arena.later
    rw [configured.chunkWords, configured.maxChunks, configured.alignment, UInt32.zero_add]
  have loans : (allocator.loans.map fun _ => []) =
      (fresh config).loans.map (List.map (Block.later (allocator.arena.epoch + 1))) := by
    show _ = Option.map _ (if config.trackLoans then some [] else none)
    rw [← configured.recorded]
    cases allocator.loans <;> rfl
  unfold cleared later
  rw [arena, loans, configured.settings]
  rfl

/-- Clearing an allocator once more only begins one more epoch. -/
theorem cleared_cleared (allocator : SegregatedAllocator) :
    allocator.cleared.cleared = allocator.cleared.later 1 := by
  unfold cleared later
  rw [Option.map_map, Option.map_map]
  rfl

/-- A checked reset is the reset itself where nothing is on loan, and elsewhere a refusal that
changes nothing. -/
theorem tryReset_eq (allocator : SegregatedAllocator) :
    allocator.tryReset =
      if allocator.live = 0 then allocator.reset.mapAnswer .ok
      else .refused (.liveAllocations allocator.live) allocator := by
  unfold tryReset
  by_cases idle : allocator.live = 0
  · rw [if_pos idle, if_neg (Nat.not_lt.mpr (Nat.le_of_eq idle))]
  · rw [if_neg idle, if_pos (Nat.pos_of_ne_zero idle)]

end SegregatedAllocator

end Allotment
