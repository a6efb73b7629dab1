/-
An item pool against a machine that has no cells. The machine keeps a map from cell numbers
to items, a stack of the cells that were freed, and the first number that was never used.
Whatever is asked of both, with whatever handles, they answer the same.

The free cells of a pool are the freed ones, the latest first, and behind them the cells of
the newest pool that were never used, in their order. That is why the machine needs to know
no more of the pools than how many cells each of them has: it takes memory whenever the
cells used so far fill whole pools.
-/

import Allotment.Proofs.Pool.Cells

namespace Allotment

/-! ### The machine -/

/-- The epoch, the items under the numbers of their cells, the freed cells with the latest first,
and the first cell that was never used. -/
structure ItemMachine (α : Type) where
  epoch : UInt32
  items : Std.ExtHashMap Nat α
  freed : List Nat
  fresh : Nat

namespace ItemMachine

variable {α : Type}

/-- The machine that holds nothing. -/
def empty (epoch : UInt32) : ItemMachine α := ⟨epoch, ∅, [], 0⟩

/-- There is memory for one more pool, after the pools that are full: for its cells, and for its
entry in the list of pools. -/
def Supplied (memory : Memory) (itemsPerPool : Nat) (machine : ItemMachine α) : Prop :=
  memory.grantsCells itemsPerPool = true ∧
    memory.grantsEntry (machine.fresh / itemsPerPool) = true

instance (memory : Memory) (itemsPerPool : Nat) (machine : ItemMachine α) :
    Decidable (machine.Supplied memory itemsPerPool) :=
  inferInstanceAs (Decidable (_ ∧ _))

/-- Stores an item in the cell that was freed last, or else in the first one never used. The item
comes back if that needs memory and there is none. -/
def allocate (memory : Memory) (itemsPerPool : Nat) (machine : ItemMachine α) (item : α) :
    Except (ReturnedItem α) ItemHandle × ItemMachine α :=
  match machine.freed with
  | cell :: rest =>
    (.ok ⟨cell, machine.epoch⟩,
      { machine with items := machine.items.insert cell item, freed := rest })
  | [] =>
    if itemsPerPool ∣ machine.fresh ∧ ¬ machine.Supplied memory itemsPerPool then
      (.error ⟨.outOfMemory itemsPerPool, item⟩, machine)
    else
      (.ok ⟨machine.fresh, machine.epoch⟩,
        { machine with
          items := machine.items.insert machine.fresh item
          fresh := machine.fresh + 1 })

/-- An item goes into the cell that was freed last; if none is freed, it comes back for lack of
memory, or it goes into the first cell that was never used. -/
theorem allocate_cases (machine : ItemMachine α) (memory : Memory) (itemsPerPool : Nat)
    (item : α) :
    (∃ cell rest, machine.freed = cell :: rest ∧
      machine.allocate memory itemsPerPool item = (.ok ⟨cell, machine.epoch⟩,
        { machine with items := machine.items.insert cell item, freed := rest })) ∨
    (machine.freed = [] ∧ itemsPerPool ∣ machine.fresh ∧
      ¬ machine.Supplied memory itemsPerPool ∧
      machine.allocate memory itemsPerPool item =
        (.error ⟨.outOfMemory itemsPerPool, item⟩, machine)) ∨
    (machine.freed = [] ∧
      machine.allocate memory itemsPerPool item = (.ok ⟨machine.fresh, machine.epoch⟩,
        { machine with
          items := machine.items.insert machine.fresh item
          fresh := machine.fresh + 1 })) := by
  unfold allocate
  cases freed : machine.freed with
  | cons cell rest => exact Or.inl ⟨cell, rest, rfl, rfl⟩
  | nil =>
    by_cases denied : itemsPerPool ∣ machine.fresh ∧ ¬ machine.Supplied memory itemsPerPool
    · exact Or.inr (Or.inl ⟨rfl, denied.1, denied.2, if_pos denied⟩)
    · exact Or.inr (Or.inr ⟨rfl, by rw [if_neg denied]⟩)

/-- The item of a handle: the one in the map, if the handle is of the current epoch. -/
def get? (machine : ItemMachine α) (handle : ItemHandle) : Option α :=
  if handle.epoch = machine.epoch then machine.items[handle.cell]? else none

theorem get?_eq_some_iff (machine : ItemMachine α) (handle : ItemHandle) (item : α) :
    machine.get? handle = some item ↔
      handle.epoch = machine.epoch ∧ machine.items[handle.cell]? = some item :=
  Option.ite_none_right_eq_some

theorem isSome_get?_iff (machine : ItemMachine α) (handle : ItemHandle) :
    (machine.get? handle).isSome ↔ handle.epoch = machine.epoch ∧ handle.cell ∈ machine.items := by
  simp only [Option.isSome_iff_exists, get?_eq_some_iff, exists_and_left,
    Std.ExtHashMap.mem_iff_isSome_getElem?]

/-- Replaces the item of a handle and answers the old one. -/
def replace (machine : ItemMachine α) (handle : ItemHandle) (item : α) :
    Option α × ItemMachine α :=
  match machine.get? handle with
  | none => (none, machine)
  | some old => (some old, { machine with items := machine.items.insert handle.cell item })

/-- Takes the item of a handle out and frees its cell. -/
def deallocate (machine : ItemMachine α) (handle : ItemHandle) : Option α × ItemMachine α :=
  match machine.get? handle with
  | none => (none, machine)
  | some item =>
    (some item,
      { machine with
        items := machine.items.erase handle.cell
        freed := handle.cell :: machine.freed })

end ItemMachine

/-! ### The same commands to both -/

/-- A call of an item pool. A replacement is a look-up for writing with whatever is then written. -/
inductive ItemCommand (α : Type) where
  | allocate (memory : Memory) (item : α)
  | deallocate (handle : ItemHandle)
  | get (handle : ItemHandle)
  | replace (handle : ItemHandle) (item : α)
  | reset

/-- What a call of an item pool answers. -/
inductive ItemAnswer (α : Type) where
  | stored (answer : Except (ReturnedItem α) ItemHandle)
  | taken (item : Option α)
  | found (item : Option α)
  | replaced (old : Option α)
  | cleared

/-- The answer says that the call was refused, that nothing was found under its handle, or that it
only looked. -/
def ItemAnswer.Idle {α : Type} : ItemAnswer α → Prop
  | .stored (.error _) | .taken none | .found _ | .replaced none => True
  | _ => False

/-- Carries out a command on a machine for pools of a number of cells. -/
def ItemMachine.perform {α : Type} (itemsPerPool : Nat) (machine : ItemMachine α) :
    ItemCommand α → ItemAnswer α × ItemMachine α
  | .allocate memory item => (machine.allocate memory itemsPerPool item).map .stored id
  | .deallocate handle => (machine.deallocate handle).map .taken id
  | .get handle => (.found (machine.get? handle), machine)
  | .replace handle item => (machine.replace handle item).map .replaced id
  | .reset => (.cleared, .empty (machine.epoch + 1))

namespace ItemPool

variable {α : Type}

/-- Replaces the item of a handle where there is one, as a step. -/
def replaceStep (pool : ItemPool α) (handle : ItemHandle) (item : α) :
    Step (ItemPool α) (Option α) :=
  match pool.replace? handle item with
  | none => .done none pool []
  | some (old, next) => .done (some old) next []

/-- Carries out a command on a pool. -/
def perform (pool : ItemPool α) : ItemCommand α → Step (ItemPool α) (ItemAnswer α)
  | .allocate memory item => (pool.allocate memory item).mapAnswer .stored
  | .deallocate handle => (pool.deallocate handle).mapAnswer .taken
  | .get handle => .done (.found (pool.get? handle)) pool []
  | .replace handle item => (pool.replaceStep handle item).mapAnswer .replaced
  | .reset => pool.reset.mapAnswer fun _ => .cleared

/-- A pool and a machine after the same commands. The pool goes where its own steps lead; a command
that ends in a fault leads nowhere. -/
inductive Run [ItemLayout α] (config : ItemConfig) : ItemPool α → ItemMachine α → Prop
  | start (pool : ItemPool α) (created : create α config = .ok pool) :
    Run config pool (.empty 0)
  | step (pool next : ItemPool α) (machine : ItemMachine α) (command : ItemCommand α)
    (answer : ItemAnswer α) (events : List Event) (run : Run config pool machine)
    (performed : pool.perform command = .done answer next events) :
    Run config next (machine.perform config.itemsPerPool command).2

/-! ### Representation -/

/-- The pool has the items of the machine, and its free cells are the freed ones and then those
that were never used, of which there are fewer than in a pool. -/
structure Represents (pool : ItemPool α) (itemsPerPool : Nat) (machine : ItemMachine α) : Prop where
  settings : pool.itemsPerPool = itemsPerPool
  epoch : pool.epoch = machine.epoch
  holds : pool.Holds machine.items
    (machine.freed ++ List.range' machine.fresh (pool.capacity - machine.fresh))
  most : machine.fresh ≤ pool.capacity
  least : pool.capacity < machine.fresh + pool.itemsPerPool

/-- The step is done with the answer of the machine, and the pool represents the machine again. -/
def Agrees {Answer : Type} (itemsPerPool : Nat) (step : Step (ItemPool α) Answer)
    (outcome : Answer × ItemMachine α) : Prop :=
  ∃ next events, step = .done outcome.1 next events ∧ next.Represents itemsPerPool outcome.2

theorem Agrees.mapAnswer {First Second : Type} {itemsPerPool : Nat}
    {step : Step (ItemPool α) First} {outcome : First × ItemMachine α}
    (agrees : Agrees itemsPerPool step outcome) (change : First → Second) :
    Agrees itemsPerPool (step.mapAnswer change) (outcome.map change id) := by
  obtain ⟨next, events, rfl, represents⟩ := agrees
  exact ⟨next, events, rfl, represents⟩

/-- A row of numbers up to a stop begins with its start. -/
theorem range'_of_lt (start stop : Nat) (below : start < stop) :
    List.range' start (stop - start) =
      start :: List.range' (start + 1) (stop - (start + 1)) := by
  rw [← List.range'_succ, Nat.sub_add_eq, Nat.sub_add_cancel (Nat.sub_pos_of_lt below)]

namespace Represents

variable {pool : ItemPool α} {itemsPerPool : Nat} {machine : ItemMachine α}

theorem get?_eq (represents : pool.Represents itemsPerPool machine) (handle : ItemHandle) :
    pool.get? handle = machine.get? handle := by
  rw [represents.holds.get?_eq, represents.epoch]
  rfl

/-- The cells used so far fill whole pools exactly when no cell is left that was never used. -/
theorem dvd_fresh_iff (represents : pool.Represents itemsPerPool machine) :
    itemsPerPool ∣ machine.fresh ↔ machine.fresh = pool.capacity := by
  obtain ⟨rfl, _, _, most, least⟩ := represents
  have whole : pool.capacity = pool.itemsPerPool * pool.pools.size := Nat.mul_comm _ _
  constructor
  · rintro ⟨count, used⟩
    rw [whole, used] at most least ⊢
    rw [← Nat.mul_succ] at least
    have notMore : pool.pools.size ≤ count := Nat.lt_succ_iff.mp (Nat.lt_of_mul_lt_mul_left least)
    exact Nat.le_antisymm most (Nat.mul_le_mul_left _ notMore)
  · intro full
    exact ⟨pool.pools.size, full.trans whole⟩

/-- A pool with as many cells as another one represents a machine by what it holds. -/
theorem of_capacity_eq {next : ItemPool α} {later : ItemMachine α} {free : List Nat}
    (same : next.capacity = pool.capacity) (holds : next.Holds later.items free)
    (row : free = later.freed ++ List.range' later.fresh (pool.capacity - later.fresh))
    (epoch : next.epoch = later.epoch) (most : later.fresh ≤ pool.capacity)
    (least : pool.capacity < later.fresh + next.itemsPerPool) :
    next.Represents next.itemsPerPool later := by
  rw [← same] at row most least
  exact ⟨rfl, epoch, row ▸ holds, most, least⟩

/-- A machine that took the first free cell is represented by the pool that filled it. -/
theorem filled {base : ItemPool α} {items : Std.ExtHashMap Nat α} {memory : Memory}
    {events : List Event} {cell : Nat} {rest : List Nat} (holds : base.Holds items (cell :: rest))
    (ensured : pool.ensure memory = .done (.ok cell) base events) (item : α)
    (later : ItemMachine α) (stored : later.items = items.insert cell item)
    (free : rest = later.freed ++ List.range' later.fresh (base.capacity - later.fresh))
    (epoch : base.epoch = later.epoch) (most : later.fresh ≤ base.capacity)
    (least : base.capacity < later.fresh + base.itemsPerPool) :
    Agrees base.itemsPerPool (pool.allocate memory item) (.ok ⟨cell, base.epoch⟩, later) := by
  obtain ⟨next, done, filled⟩ := holds.allocate_of_ensure ensured item
  rw [← stored] at filled
  exact ⟨base.filled cell item next, events, done,
    of_capacity_eq (base.capacity_setCell _ _) filled free epoch most least⟩

/-- Where every cell was used, the pools are as many as the machine says. -/
theorem supplied_iff (represents : pool.Represents itemsPerPool machine) (memory : Memory)
    (full : machine.fresh = pool.capacity) :
    machine.Supplied memory itemsPerPool ↔
      memory.grantsCells pool.itemsPerPool = true ∧
        memory.grantsEntry pool.pools.size = true := by
  obtain ⟨rfl, _, holds, _, _⟩ := represents
  rw [ItemMachine.Supplied, full, capacity, Nat.mul_div_cancel _ holds.regular.positive]

/-- Where no cell is free, a pool that grows gives out its first new cell. -/
theorem allocate_grown (represents : pool.Represents itemsPerPool machine) (memory : Memory)
    (supplied : machine.Supplied memory itemsPerPool) (noneFreed : machine.freed = [])
    (full : machine.fresh = pool.capacity) (item : α) :
    Agrees itemsPerPool (pool.allocate memory item)
      (.ok ⟨machine.fresh, pool.epoch⟩,
        { epoch := pool.epoch
          items := machine.items.insert machine.fresh item
          freed := []
          fresh := machine.fresh + 1 }) := by
  have granted := (represents.supplied_iff memory full).mp supplied
  obtain ⟨rfl, _, holds, _, _⟩ := represents
  rw [noneFreed, full, Nat.sub_self] at holds
  have positive := holds.regular.positive
  have size := pool.capacity_grown
  have ensured := holds.ensure_of_none_free memory
  have row := holds.grown
  have room : machine.fresh < pool.grown.capacity := by omega
  rw [if_pos granted, ← full] at ensured
  rw [← full, range'_of_lt _ _ room] at row
  refine filled row ensured item _ rfl rfl rfl room ?_
  show pool.grown.capacity < machine.fresh + 1 + pool.itemsPerPool
  omega

/-- Where no cell is free and there is no memory for more, the item comes back. -/
theorem allocate_denied (represents : pool.Represents itemsPerPool machine) (memory : Memory)
    (denied : ¬ machine.Supplied memory itemsPerPool) (noneFreed : machine.freed = [])
    (full : machine.fresh = pool.capacity) (item : α) :
    Agrees itemsPerPool (pool.allocate memory item)
      (.error ⟨.outOfMemory itemsPerPool, item⟩, machine) := by
  have refused := mt (represents.supplied_iff memory full).mpr denied
  obtain ⟨rfl, epoch, holds, most, least⟩ := represents
  have noneFree := holds
  rw [noneFreed, full, Nat.sub_self] at noneFree
  have ensured := noneFree.ensure_of_none_free memory
  rw [if_neg refused] at ensured
  refine ⟨pool, [], ?_, rfl, epoch, holds, most, least⟩
  rw [ItemPool.allocate, ensured]
  rfl

theorem allocate (represents : pool.Represents itemsPerPool machine) (memory : Memory)
    (item : α) :
    Agrees itemsPerPool (pool.allocate memory item)
      (machine.allocate memory itemsPerPool item) := by
  unfold ItemMachine.allocate
  -- The cell is the one freed last, one of the newest pool never used, or the first of a new pool.
  cases freed : machine.freed with
  | cons cell rest =>
    obtain ⟨rfl, epoch, holds, most, least⟩ := represents
    rw [freed] at holds
    rw [← epoch]
    exact filled holds (holds.ensure_of_free memory) item _ rfl rfl rfl most least
  | nil =>
    rcases Nat.lt_or_eq_of_le represents.most with room | full
    · have unfilled : ¬ itemsPerPool ∣ machine.fresh :=
        fun fills => Nat.ne_of_lt room (represents.dvd_fresh_iff.mp fills)
      obtain ⟨rfl, epoch, holds, most, least⟩ := represents
      rw [freed, List.nil_append, range'_of_lt _ _ room] at holds
      rw [if_neg fun needs => unfilled needs.1, ← epoch]
      exact filled holds (holds.ensure_of_free memory) item _ rfl rfl rfl room
        (Nat.lt_trans least (Nat.add_lt_add_right (Nat.lt_succ_self _) _))
    · have fills := represents.dvd_fresh_iff.mpr full
      by_cases supplied : machine.Supplied memory itemsPerPool
      · rw [if_neg fun needs => needs.2 supplied, ← represents.epoch]
        exact represents.allocate_grown memory supplied freed full item
      · rw [if_pos ⟨fills, supplied⟩]
        exact represents.allocate_denied memory supplied freed full item

theorem deallocate (represents : pool.Represents itemsPerPool machine) (handle : ItemHandle) :
    Agrees itemsPerPool (pool.deallocate handle) (machine.deallocate handle) := by
  unfold ItemMachine.deallocate
  cases found : machine.get? handle with
  | none =>
    refine ⟨pool, [], ?_, represents⟩
    rw [ItemPool.deallocate, represents.get?_eq, found]
  | some item =>
    obtain ⟨current, stored⟩ := (machine.get?_eq_some_iff handle item).mp found
    obtain ⟨rfl, epoch, holds, most, least⟩ := represents
    have done := holds.deallocate_of_found handle item (current.trans epoch.symm) stored
    exact ⟨_, [], done, of_capacity_eq (pool.capacity_setCell _ _)
      (holds.vacated handle.cell item stored) rfl epoch most least⟩

theorem replace (represents : pool.Represents itemsPerPool machine) (handle : ItemHandle)
    (item : α) :
    Agrees itemsPerPool (pool.replaceStep handle item) (machine.replace handle item) := by
  unfold ItemMachine.replace replaceStep replace?
  rw [represents.get?_eq]
  cases found : machine.get? handle with
  | none => exact ⟨pool, [], rfl, represents⟩
  | some old =>
    obtain ⟨_, stored⟩ := (machine.get?_eq_some_iff handle old).mp found
    obtain ⟨rfl, epoch, holds, most, least⟩ := represents
    exact ⟨_, [], rfl, of_capacity_eq (pool.capacity_setCell _ _)
      (holds.replaced handle.cell old item stored) rfl epoch most least⟩

/-- A pool without cells represents the machine that holds nothing. -/
theorem of_no_pools (positive : 0 < pool.itemsPerPool) (noPools : pool.pools = #[])
    (noHead : pool.freeHead = none) (noItems : pool.live = 0) :
    pool.Represents pool.itemsPerPool (.empty pool.epoch) := by
  have noCells : pool.capacity = 0 := by
    rw [capacity, noPools]
    exact Nat.zero_mul _
  refine ⟨rfl, rfl, ?_, Nat.zero_le _, ?_⟩
  · rw [noCells]
    exact .of_no_pools positive noPools noHead noItems
  · rw [noCells]
    exact Nat.lt_of_lt_of_le positive (Nat.le_add_left _ _)

theorem reset (represents : pool.Represents itemsPerPool machine) :
    Agrees itemsPerPool pool.reset ((), .empty (machine.epoch + 1)) := by
  obtain ⟨rfl, epoch, holds, _, _⟩ := represents
  rw [← epoch]
  exact ⟨_, _, rfl, of_no_pools holds.regular.positive rfl rfl rfl⟩

/-- Every command is done with the answer of the machine. -/
theorem perform (represents : pool.Represents itemsPerPool machine) (command : ItemCommand α) :
    Agrees itemsPerPool (pool.perform command) (machine.perform itemsPerPool command) := by
  cases command with
  | allocate memory item => exact (represents.allocate memory item).mapAnswer _
  | deallocate handle => exact (represents.deallocate handle).mapAnswer _
  | get handle =>
    exact ⟨pool, [], by rw [ItemPool.perform, represents.get?_eq]; rfl, represents⟩
  | replace handle item => exact (represents.replace handle item).mapAnswer _
  | reset => exact represents.reset.mapAnswer fun _ => ItemAnswer.cleared

/-- The first cell that was never used is not in the map, be it in the newest pool or in the next
one. -/
theorem fresh_notMem (represents : pool.Represents itemsPerPool machine) :
    machine.fresh ∉ machine.items := by
  rcases Nat.lt_or_eq_of_le represents.most with room | full
  · refine represents.holds.notMem_items _ (List.mem_append_right _ ?_)
    rw [range'_of_lt _ _ room]
    exact List.mem_cons_self
  · rw [Std.ExtHashMap.mem_iff_isSome_getElem?]
    intro present
    obtain ⟨item, found⟩ := Option.isSome_iff_exists.mp present
    have occupied := (represents.holds.stored _ item).mpr found
    exact Nat.ne_of_lt (represents.holds.regular.lt_capacity _ _ occupied) full

/-- An item is stored in a cell that had none, and the other cells have the items they had. -/
theorem stores_anew {later : ItemMachine α} {handle : ItemHandle}
    (represents : pool.Represents itemsPerPool machine) (memory : Memory) (item : α)
    (stored : machine.allocate memory itemsPerPool item = (.ok handle, later)) :
    handle.cell ∉ machine.items ∧ handle.epoch = machine.epoch ∧
      later.epoch = machine.epoch ∧ later.items = machine.items.insert handle.cell item := by
  rcases machine.allocate_cases memory itemsPerPool item with ⟨cell, rest, freed, reused⟩ |
    ⟨_, _, _, returned⟩ | ⟨_, fresh⟩
  · rw [reused] at stored
    cases stored
    have unused : cell ∈ machine.freed := freed ▸ List.mem_cons_self
    exact ⟨represents.holds.notMem_items cell (List.mem_append_left _ unused), rfl, rfl, rfl⟩
  · rw [returned] at stored
    cases stored
  · rw [fresh] at stored
    cases stored
    exact ⟨represents.fresh_notMem, rfl, rfl, rfl⟩

end Represents

/-! ### Runs -/

section Run

variable [ItemLayout α] {config : ItemConfig} {pool : ItemPool α} {machine : ItemMachine α}

theorem represents_of_create (created : create α config = .ok pool) :
    pool.Represents config.itemsPerPool (.empty 0) := by
  unfold create at created
  cases valid : config.validate with
  | error cause =>
    rw [valid] at created
    cases created
  | ok _ =>
    simp only [valid] at created
    split at created
    · cases created
    cases created
    unfold ItemConfig.validate at valid
    split at valid
    · cases valid
    next several =>
    exact Represents.of_no_pools (Nat.zero_lt_of_lt (Nat.lt_of_not_le several)) rfl rfl rfl

theorem represents_of_run (run : Run config pool machine) :
    pool.Represents config.itemsPerPool machine := by
  induction run with
  | start pool created => exact represents_of_create created
  | step pool next machine command answer events run performed inductionHypothesis =>
    obtain ⟨_, _, done, represents⟩ := inductionHypothesis.perform command
    cases done.symm.trans performed
    exact represents

end Run

/-! ### The whole machine -/

section Idle

variable (pool next : ItemPool α)

/-- A pool that could not grow is as it was. -/
theorem eq_of_ensure_error (memory : Memory) (cause : Refusal) (events : List Event)
    (denied : pool.ensure memory = .done (.error cause) next events) : next = pool := by
  unfold ensure at denied
  split at denied
  · cases denied
  · split at denied
    · cases denied
    · cases denied
      rfl

/-- A pool that could not store an item is as it was. -/
theorem eq_of_allocate_error (memory : Memory) (item : α) (returned : ReturnedItem α)
    (events : List Event)
    (refused : pool.allocate memory item = .done (.error returned) next events) :
    next = pool := by
  obtain ⟨answer, base, logged, _, ensured, continued, _⟩ := Step.exists_of_andThen refused
  cases answer with
  | error cause =>
    cases continued
    exact pool.eq_of_ensure_error next memory cause logged ensured
  | ok cell =>
    obtain ⟨_, _, mismatch⟩ := (Step.mapAnswer_eq_done_iff _ _ _ _ _).mp continued
    cases mismatch

/-- A pool that found nothing to take out is as it was. -/
theorem eq_of_deallocate_none (handle : ItemHandle) (events : List Event)
    (missed : pool.deallocate handle = .done none next events) : next = pool := by
  unfold deallocate at missed
  split at missed
  · cases missed
    rfl
  · split at missed <;> cases missed

/-- A pool that answers that nothing was done is as it was. -/
theorem eq_of_idle (command : ItemCommand α) (answer : ItemAnswer α) (events : List Event)
    (idle : answer.Idle) (performed : pool.perform command = .done answer next events) :
    next = pool := by
  cases command with
  | allocate memory item =>
    obtain ⟨stored, done, rfl⟩ := (Step.mapAnswer_eq_done_iff _ _ _ _ _).mp performed
    cases stored with
    | ok handle => exact absurd idle id
    | error returned => exact pool.eq_of_allocate_error next memory item returned events done
  | deallocate handle =>
    obtain ⟨taken, done, rfl⟩ := (Step.mapAnswer_eq_done_iff _ _ _ _ _).mp performed
    cases taken with
    | some item => exact absurd idle id
    | none => exact pool.eq_of_deallocate_none next handle events done
  | get handle =>
    cases performed
    rfl
  | replace handle item =>
    obtain ⟨old, done, rfl⟩ := (Step.mapAnswer_eq_done_iff _ _ _ _ _).mp performed
    unfold replaceStep at done
    split at done
    · cases done
      rfl
    · cases done
      exact absurd idle id
  | reset =>
    cases performed
    exact absurd idle id

end Idle

/-- After any commands the pool stands for the machine: it has its epoch and counts its items, and
it carries out the next command without a fault and with the same answer. Where the answer is that
nothing was done, the pool is exactly as it was. -/
theorem refines_machine [ItemLayout α] (config : ItemConfig) (pool : ItemPool α)
    (machine : ItemMachine α) (run : Run config pool machine) :
    pool.epoch = machine.epoch ∧ pool.live = machine.items.size ∧
      ∀ command : ItemCommand α, ∃ next events,
        pool.perform command =
          .done (machine.perform config.itemsPerPool command).1 next events ∧
        ((machine.perform config.itemsPerPool command).1.Idle → next = pool) := by
  have represents := represents_of_run run
  refine ⟨represents.epoch, represents.holds.live, fun command => ?_⟩
  obtain ⟨next, events, done, _⟩ := represents.perform command
  exact ⟨next, events, done, fun idle => pool.eq_of_idle next command _ events idle done⟩

/-- Three items fill one pool of two cells and begin another one; two are taken out, and the next
one goes into the cell that was freed last. -/
theorem machine_refined_after_reuse :
    ∃ (pool : ItemPool UInt64) (machine : ItemMachine UInt64),
      Run { itemsPerPool := 2 } pool machine ∧ pool.pools.size = 2 ∧
        machine.items.size = 2 ∧
        (machine.perform 2 (.get ⟨2, 0⟩)).1 = .found (some 13) ∧
        (machine.perform 2 (.get ⟨0, 0⟩)).1 = .found none := by
  have created : Run { itemsPerPool := 2 } (empty 2 : ItemPool UInt64) _ := .start _ rfl
  have first := created.step _ _ _ (.allocate .addressable 10) _ _ rfl
  have second := first.step _ _ _ (.allocate .addressable 11) _ _ rfl
  have third := second.step _ _ _ (.allocate .addressable 12) _ _ rfl
  have freed := third.step _ _ _ (.deallocate ⟨0, 0⟩) _ _ rfl
  have freedLast := freed.step _ _ _ (.deallocate ⟨2, 0⟩) _ _ rfl
  have again := freedLast.step _ _ _ (.allocate .addressable 13) _ _ rfl
  obtain ⟨_, live, answers⟩ := refines_machine _ _ _ again
  obtain ⟨_, _, reused, _⟩ := answers (.get ⟨2, 0⟩)
  obtain ⟨_, _, missing, _⟩ := answers (.get ⟨0, 0⟩)
  refine ⟨_, _, again, rfl, live.symm, ?_, ?_⟩
  · exact (Step.done.inj reused).1.symm
  · exact (Step.done.inj missing).1.symm

end ItemPool

end Allotment
