/-
The item pool some epochs later. Like an allocator of words, a pool looks at epochs only to
compare the one of a handle with its own. A pool that is moved by a number of epochs, asked
for handles that are moved as far, does the same, and names the items it stores by handles
that are moved as far. Its other answers, its refusals and its faults name no epoch.
-/

import Allotment.Proofs.Lending.Epochs
import Allotment.Proofs.Pool.Machine
import Allotment.Proofs.Renaming

namespace Allotment

/-- The handle of the same cell some epochs later. -/
def ItemHandle.later (epochs : UInt32) (handle : ItemHandle) : ItemHandle :=
  { handle with epoch := handle.epoch + epochs }

/-- The handle of the same cell some epochs earlier. -/
def ItemHandle.earlier (epochs : UInt32) (handle : ItemHandle) : ItemHandle :=
  { handle with epoch := handle.epoch - epochs }

@[simp] theorem ItemHandle.later_earlier (epochs : UInt32) (handle : ItemHandle) :
    (handle.earlier epochs).later epochs = handle := by
  rw [later, earlier, UInt32.sub_add_cancel]

/-- The command with other handles in it. -/
def ItemCommand.mapHandle {α : Type} (change : ItemHandle → ItemHandle) :
    ItemCommand α → ItemCommand α
  | .deallocate handle => .deallocate (change handle)
  | .get handle => .get (change handle)
  | .replace handle item => .replace (change handle) item
  | command => command

/-- The answer to the same command some epochs later. -/
def ItemAnswer.later {α : Type} (epochs : UInt32) : ItemAnswer α → ItemAnswer α
  | .stored answer => .stored (answer.map (ItemHandle.later epochs))
  | answer => answer

namespace ItemPool

variable {α : Type}

/-! ### One command -/

/-- The pool some epochs later. -/
def later (epochs : UInt32) (pool : ItemPool α) : ItemPool α :=
  { pool with epoch := pool.epoch + epochs }

section Later

variable (epochs : UInt32) (pool : ItemPool α) (handle : ItemHandle) (item : α)

@[simp] theorem freeHead_later : (pool.later epochs).freeHead = pool.freeHead :=
  rfl

@[simp] theorem itemsPerPool_later : (pool.later epochs).itemsPerPool = pool.itemsPerPool :=
  rfl

@[simp] theorem live_later : (pool.later epochs).live = pool.live :=
  rfl

@[simp] theorem epoch_later : (pool.later epochs).epoch = pool.epoch + epochs :=
  rfl

@[simp] theorem cell?_later (index : Nat) : (pool.later epochs).cell? index = pool.cell? index :=
  rfl

theorem ensure_later (memory : Memory) :
    Step.Renamed (later epochs) id id (pool.ensure memory) ((pool.later epochs).ensure memory) := by
  unfold ensure
  rw [freeHead_later, itemsPerPool_later]
  cases pool.freeHead with
  | some head => exact .done rfl rfl
  | none => exact .ite Iff.rfl (.done rfl rfl) (.done rfl rfl)

theorem occupy_later (index : Nat) :
    Step.Renamed (later epochs) (ItemHandle.later epochs) id (pool.occupy index item)
      ((pool.later epochs).occupy index item) := by
  unfold occupy
  rw [cell?_later]
  cases pool.cell? index with
  | none => exact .fault rfl
  | some contents =>
    cases contents with
    | occupied other => exact .fault rfl
    | vacant next => exact .done rfl rfl

theorem allocate_later (memory : Memory) :
    Step.Renamed (later epochs) (Except.map (ItemHandle.later epochs)) id
      (pool.allocate memory item) ((pool.later epochs).allocate memory item) := by
  refine (pool.ensure_later epochs memory).andThen fun answer next => ?_
  cases answer with
  | error cause => exact .done rfl rfl
  | ok index => exact (next.occupy_later epochs item index).mapAnswer _ fun _ => rfl

theorem get?_later : (pool.later epochs).get? (handle.later epochs) = pool.get? handle :=
  if_congr (not_congr (UInt32.add_left_inj epochs)) rfl rfl

theorem replaceStep_later :
    Step.Renamed (later epochs) id id (pool.replaceStep handle item)
      ((pool.later epochs).replaceStep (handle.later epochs) item) := by
  unfold replaceStep replace?
  rw [get?_later]
  cases pool.get? handle with
  | none => exact .done rfl rfl
  | some old => exact .done rfl rfl

theorem deallocate_later :
    Step.Renamed (later epochs) id id (pool.deallocate handle)
      ((pool.later epochs).deallocate (handle.later epochs)) := by
  unfold deallocate
  rw [get?_later, live_later]
  cases pool.get? handle with
  | none => exact .done rfl rfl
  | some old =>
    exact .ite Iff.rfl (.fault rfl) (.done rfl rfl)

theorem reset_later :
    Step.Renamed (later epochs) id id pool.reset (pool.later epochs).reset := by
  unfold reset
  rw [epoch_later, next_epoch_later]
  exact .done rfl rfl

theorem perform_later (command : ItemCommand α) :
    Step.Renamed (later epochs) (ItemAnswer.later epochs) id (pool.perform command)
      ((pool.later epochs).perform (command.mapHandle (ItemHandle.later epochs))) := by
  cases command with
  | allocate memory item =>
    exact (pool.allocate_later epochs item memory).mapAnswer _ fun _ => rfl
  | deallocate handle => exact (pool.deallocate_later epochs handle).mapAnswer _ fun _ => rfl
  | get handle =>
    exact .done (congrArg ItemAnswer.found (pool.get?_later epochs handle)) rfl
  | replace handle item =>
    exact (pool.replaceStep_later epochs handle item).mapAnswer _ fun _ => rfl
  | reset =>
    exact (pool.reset_later epochs).mapAnswer (fun _ => ItemAnswer.cleared) fun _ => rfl

end Later

/-! ### Operations and their answers -/

/-- What can be asked of an item pool: a command, or a look at the figures. -/
inductive Operation (α : Type) where
  | call (command : ItemCommand α)
  | usage

/-- What an operation answers. -/
inductive Answer (α : Type) where
  | answered (answer : ItemAnswer α)
  | figures (usage : ItemUsage)

/-- Carries out an operation. -/
def operate [ItemLayout α] (pool : ItemPool α) : Operation α → Step (ItemPool α) (Answer α)
  | .call command => (pool.perform command).mapAnswer .answered
  | .usage => .done (.figures pool.usage) pool []

/-- The operation with other handles in it. -/
def Operation.mapHandle (change : ItemHandle → ItemHandle) : Operation α → Operation α
  | .call command => .call (command.mapHandle change)
  | .usage => .usage

/-- The answer of the same operation some epochs later. -/
def Answer.later (epochs : UInt32) : Answer α → Answer α
  | .answered answer => .answered (answer.later epochs)
  | .figures usage => .figures usage

/-- An operation whose handles are moved back and forth is the same. -/
theorem Operation.mapHandle_earlier (epochs : UInt32) (operation : Operation α) :
    (operation.mapHandle (ItemHandle.earlier epochs)).mapHandle (ItemHandle.later epochs) =
      operation := by
  cases operation with
  | call command =>
    cases command <;> simp only [mapHandle, ItemCommand.mapHandle, ItemHandle.later_earlier]
  | usage => rfl

section Later

variable [ItemLayout α] (epochs : UInt32) (pool : ItemPool α)

theorem operate_later (operation : Operation α) :
    Step.Renamed (later epochs) (Answer.later epochs) id (pool.operate operation)
      ((pool.later epochs).operate (operation.mapHandle (ItemHandle.later epochs))) := by
  cases operation with
  | call command => exact (pool.perform_later epochs command).mapAnswer _ fun _ => rfl
  | usage => exact .done rfl rfl

/-- Operations of a moved pool come to what those of the pool come to, with handles moved back, and
then moved. -/
theorem runAll_later (operations : List (Operation α)) :
    runAll operate (pool.later epochs) operations =
      (runAll operate pool
        (operations.map (Operation.mapHandle (ItemHandle.earlier epochs)))).rename
          (later epochs) (Answer.later epochs) id :=
  runAll_of_renamed (operate_later epochs) (Operation.mapHandle_earlier epochs) pool operations

end Later

/-! ### A pool that was reset -/

section Reset

variable [ItemLayout α] {config : ItemConfig} {pool : ItemPool α} {machine : ItemMachine α}

/-- The configuration of a run is one that pools are created for. -/
theorem create_of_run (run : Run config pool machine) :
    create α config = .ok (empty config.itemsPerPool) := by
  induction run with
  | start pool created =>
    have fresh := created
    unfold create at fresh
    split at fresh
    · cases fresh
    split at fresh
    · cases fresh
    cases fresh
    exact created
  | step pool next machine command answer events run performed inductionHypothesis =>
    exact inductionHypothesis

/-- After any run, a pool that is reset is a new one at a later epoch. -/
theorem reset_eq_later (run : Run config pool machine) :
    pool.reset =
      .done () ((empty config.itemsPerPool).later (pool.epoch + 1)) [pool.resetEvent] := by
  unfold reset later empty
  rw [(represents_of_run run).settings, UInt32.zero_add]

end Reset

end ItemPool

end Allotment
