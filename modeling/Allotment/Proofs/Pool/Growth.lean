/-
How far an item pool grows. A freed cell is used before one that never was, and a pool takes
another row of cells only when every cell holds an item. So the cells that were used since
the last reset are the first ones, as many as there were items at the same time at most, and
the pool has as many rows as that many cells fill.

The machine that the pool represents counts the cells used so far. Each of them holds an item
or was freed, and a new one is used only while none is freed; that is why the count follows
the number of items whenever this rises above what it was before.
-/

import Allotment.Proofs.Pool.Machine
import Mathlib.Algebra.Order.Floor.Div

namespace Allotment

/-! ### What the answers tell -/

/-- The answers of a pool, the latest first, each with the number of items stored after it. -/
abbrev ItemLog (α : Type) := List (ItemAnswer α × Nat)

namespace ItemLog

variable {α : Type}

/-- The cells that items were stored in since the last reset, the latest first. -/
def issued : ItemLog α → List Nat
  | [] => []
  | (.cleared, _) :: _ => []
  | (.stored (.ok handle), _) :: earlier => handle.cell :: issued earlier
  | _ :: earlier => issued earlier

/-- The largest number of items stored at the same time since the last reset. -/
def peak : ItemLog α → Nat
  | [] => 0
  | (.cleared, live) :: _ => live
  | (_, live) :: earlier => max (peak earlier) live

end ItemLog

/-! ### Cells that were used -/

namespace ItemMachine

variable {α : Type}

/-- Every cell used so far holds an item or was freed. The log names the same cells, and as many
items at the same time as there are such cells. -/
structure Accounts (machine : ItemMachine α) (log : ItemLog α) : Prop where
  count : machine.items.size + machine.freed.length = machine.fresh
  used : ∀ cell, cell ∈ machine.items ∨ cell ∈ machine.freed → cell < machine.fresh
  issued : ∀ cell, cell ∈ log.issued ↔ cell < machine.fresh
  peak : log.peak = machine.fresh

namespace Accounts

variable {machine : ItemMachine α} {log : ItemLog α}

theorem empty (epoch : UInt32) : (ItemMachine.empty epoch : ItemMachine α).Accounts [] where
  count := rfl
  used _ member := by
    rcases member with stored | freed
    · exact absurd stored Std.ExtHashMap.not_mem_empty
    · cases freed
  issued _ := ⟨nofun, nofun⟩
  peak := rfl

theorem cleared (epoch : UInt32) (log : ItemLog α) :
    (ItemMachine.empty epoch : ItemMachine α).Accounts ((.cleared, 0) :: log) :=
  ⟨rfl, (empty epoch).used, fun _ => ⟨nofun, nofun⟩, rfl⟩

/-- The items that are stored now are no more than the cells used so far. -/
theorem size_le (accounts : machine.Accounts log) : machine.items.size ≤ machine.fresh :=
  Nat.le.intro accounts.count

/-- An answer that stored nothing new is noted with the items that there are. -/
theorem noted (accounts : machine.Accounts log) (answer : ItemAnswer α)
    (issued : ItemLog.issued ((answer, machine.items.size) :: log) = log.issued)
    (peak : ItemLog.peak ((answer, machine.items.size) :: log) =
      max log.peak machine.items.size) :
    machine.Accounts ((answer, machine.items.size) :: log) where
  count := accounts.count
  used := accounts.used
  issued := issued ▸ accounts.issued
  peak := by rw [peak, accounts.peak, Nat.max_eq_left accounts.size_le]

/-- A freed cell is used again. -/
theorem reused (accounts : machine.Accounts log) (cell : Nat) (rest : List Nat) (item : α)
    (epoch : UInt32) (freed : machine.freed = cell :: rest) (unused : cell ∉ machine.items) :
    Accounts { machine with items := machine.items.insert cell item, freed := rest }
      ((.stored (.ok ⟨cell, epoch⟩), (machine.items.insert cell item).size) :: log) := by
  have size : (machine.items.insert cell item).size = machine.items.size + 1 := by
    rw [Std.ExtHashMap.size_insert, if_neg unused]
  have count := accounts.count
  rw [freed, List.length_cons] at count
  have below : cell < machine.fresh :=
    accounts.used cell (Or.inr (freed ▸ List.mem_cons_self))
  refine ⟨?_, fun other member => ?_, fun other => ?_, ?_⟩
  · show (machine.items.insert cell item).size + rest.length = machine.fresh
    omega
  · rcases member with stored | waiting
    · rcases Std.ExtHashMap.mem_insert.mp stored with same | older
      · rwa [← eq_of_beq same]
      · exact accounts.used other (Or.inl older)
    · exact accounts.used other (Or.inr (freed ▸ List.mem_cons_of_mem _ waiting))
  · rw [ItemLog.issued, List.mem_cons, accounts.issued]
    exact or_iff_right_of_imp fun same => same ▸ below
  · show max log.peak (machine.items.insert cell item).size = machine.fresh
    rw [accounts.peak, size]
    omega

/-- Where no cell is freed, the next one is used, and there are more items than ever before. -/
theorem extended (accounts : machine.Accounts log) (item : α) (epoch : UInt32)
    (freed : machine.freed = []) (unused : machine.fresh ∉ machine.items) :
    Accounts { machine with
        items := machine.items.insert machine.fresh item
        fresh := machine.fresh + 1 }
      ((.stored (.ok ⟨machine.fresh, epoch⟩),
        (machine.items.insert machine.fresh item).size) :: log) := by
  have size : (machine.items.insert machine.fresh item).size = machine.items.size + 1 := by
    rw [Std.ExtHashMap.size_insert, if_neg unused]
  have count := accounts.count
  rw [freed, List.length_nil] at count
  refine ⟨?_, fun other member => ?_, fun other => ?_, ?_⟩
  · show (machine.items.insert machine.fresh item).size + machine.freed.length =
      machine.fresh + 1
    rw [freed, size, List.length_nil]
    omega
  · show other < machine.fresh + 1
    rcases member with stored | waiting
    · rcases Std.ExtHashMap.mem_insert.mp stored with same | older
      · exact Nat.lt_succ_of_le (Nat.le_of_eq (eq_of_beq same).symm)
      · exact Nat.lt_succ_of_lt (accounts.used other (Or.inl older))
    · exact Nat.lt_succ_of_lt (accounts.used other (Or.inr waiting))
  · rw [ItemLog.issued, List.mem_cons, accounts.issued, Nat.lt_succ_iff_lt_or_eq, or_comm]
  · show max log.peak (machine.items.insert machine.fresh item).size = machine.fresh + 1
    rw [accounts.peak, size]
    omega

/-- The cell of an item that is taken out is a freed one. -/
theorem freed (accounts : machine.Accounts log) (cell : Nat) (answer : Option α)
    (present : cell ∈ machine.items) :
    Accounts { machine with
        items := machine.items.erase cell
        freed := cell :: machine.freed }
      ((.taken answer, (machine.items.erase cell).size) :: log) := by
  have size : (machine.items.erase cell).size = machine.items.size - 1 := by
    rw [Std.ExtHashMap.size_erase, if_pos present]
  have some : machine.items.size ≠ 0 := fun none => by
    rw [Std.ExtHashMap.eq_empty_iff_size_eq_zero.mpr none] at present
    exact Std.ExtHashMap.not_mem_empty present
  have count := accounts.count
  refine ⟨?_, fun other member => ?_, accounts.issued, ?_⟩
  · show (machine.items.erase cell).size + (machine.freed.length + 1) = machine.fresh
    omega
  · refine accounts.used other ?_
    rcases member with stored | waiting
    · exact Or.inl (Std.ExtHashMap.mem_of_mem_erase stored)
    · rcases List.mem_cons.mp waiting with rfl | older
      · exact Or.inl present
      · exact Or.inr older
  · show max log.peak (machine.items.erase cell).size = machine.fresh
    rw [accounts.peak, size]
    omega

/-- What replaces an item uses no other cell. -/
theorem replaced (accounts : machine.Accounts log) (cell : Nat) (item : α) (answer : Option α)
    (present : cell ∈ machine.items) :
    Accounts { machine with items := machine.items.insert cell item }
      ((.replaced answer, (machine.items.insert cell item).size) :: log) := by
  have size : (machine.items.insert cell item).size = machine.items.size := by
    rw [Std.ExtHashMap.size_insert, if_pos present]
  have count := accounts.count
  refine ⟨?_, fun other member => ?_, accounts.issued, ?_⟩
  · exact size.symm ▸ count
  · refine accounts.used other (member.imp_left fun stored => ?_)
    rcases Std.ExtHashMap.mem_insert.mp stored with same | older
    · rwa [← eq_of_beq same]
    · exact older
  · show max log.peak (machine.items.insert cell item).size = machine.fresh
    rw [accounts.peak, size, Nat.max_eq_left accounts.size_le]

/-- Every command keeps the account. -/
theorem perform {pool : ItemPool α} {itemsPerPool : Nat} (accounts : machine.Accounts log)
    (represents : pool.Represents itemsPerPool machine) (command : ItemCommand α) :
    (machine.perform itemsPerPool command).2.Accounts
      (((machine.perform itemsPerPool command).1,
        (machine.perform itemsPerPool command).2.items.size) :: log) := by
  cases command with
  | allocate memory item =>
    rw [ItemMachine.perform]
    rcases machine.allocate_cases memory itemsPerPool item with ⟨cell, rest, freed, answer⟩ |
      ⟨_, _, _, answer⟩ | ⟨freed, answer⟩
    · obtain ⟨unused, _⟩ := represents.stores_anew memory item answer
      rw [answer]
      exact accounts.reused cell rest item machine.epoch freed unused
    · rw [answer]
      exact accounts.noted _ rfl rfl
    · rw [answer]
      exact accounts.extended item machine.epoch freed represents.fresh_notMem
  | deallocate handle =>
    rw [ItemMachine.perform, ItemMachine.deallocate]
    cases found : machine.get? handle with
    | none => exact accounts.noted _ rfl rfl
    | some item =>
      have present := (machine.isSome_get?_iff handle).mp (Option.isSome_of_eq_some found)
      exact accounts.freed handle.cell item present.2
  | get handle => exact accounts.noted _ rfl rfl
  | replace handle item =>
    rw [ItemMachine.perform, ItemMachine.replace]
    cases found : machine.get? handle with
    | none => exact accounts.noted _ rfl rfl
    | some old =>
      have present := (machine.isSome_get?_iff handle).mp (Option.isSome_of_eq_some found)
      exact accounts.replaced handle.cell item old present.2
  | reset => exact cleared _ log

end Accounts

end ItemMachine

namespace ItemPool

variable {α : Type}

/-! ### Rows of cells -/

namespace Represents

variable {pool : ItemPool α} {itemsPerPool : Nat} {machine : ItemMachine α}

/-- There are as many rows as the cells used so far take. -/
theorem size_pools_eq (represents : pool.Represents itemsPerPool machine) (rows : Nat)
    (most : machine.fresh ≤ rows * itemsPerPool)
    (least : rows * itemsPerPool < machine.fresh + itemsPerPool) : pool.pools.size = rows := by
  obtain ⟨rfl, _, _, mostCells, leastCells⟩ := represents
  rw [capacity] at mostCells leastCells
  have fewer : pool.pools.size * pool.itemsPerPool < (rows + 1) * pool.itemsPerPool := by
    rw [Nat.succ_mul]
    omega
  have more : rows * pool.itemsPerPool < (pool.pools.size + 1) * pool.itemsPerPool := by
    rw [Nat.succ_mul]
    omega
  exact Nat.le_antisymm (Nat.lt_succ_iff.mp (Nat.lt_of_mul_lt_mul_right fewer))
    (Nat.lt_succ_iff.mp (Nat.lt_of_mul_lt_mul_right more))

theorem size_pools (represents : pool.Represents itemsPerPool machine) :
    pool.pools.size = machine.fresh ⌈/⌉ itemsPerPool := by
  have positive : 0 < itemsPerPool :=
    represents.settings ▸ represents.holds.regular.positive
  refine represents.size_pools_eq _ ?_ ?_
  · rw [Nat.mul_comm]
    exact le_smul_ceilDiv positive
  · rw [Nat.ceilDiv_eq_add_pred_div]
    have rounded := Nat.div_mul_le_self (machine.fresh + itemsPerPool - 1) itemsPerPool
    omega

/-- Every cell holds an item exactly when none is freed and none is left that was never used. -/
theorem full_iff {log : ItemLog α} (represents : pool.Represents itemsPerPool machine)
    (accounts : machine.Accounts log) :
    pool.live = pool.capacity ↔ machine.freed = [] ∧ machine.fresh = pool.capacity := by
  have count := accounts.count
  have most := represents.most
  rw [represents.holds.live, List.eq_nil_iff_length_eq_zero]
  omega

/-- An item that is stored takes a row of cells if every cell holds one, and none otherwise. It
comes back only in the first case. -/
theorem allocate_grows {log : ItemLog α} (represents : pool.Represents itemsPerPool machine)
    (accounts : machine.Accounts log) (memory : Memory) (item : α) :
    ∃ answer next events, pool.allocate memory item = .done answer next events ∧
      (∀ handle, answer = .ok handle →
        next.pools.size = pool.pools.size + if pool.live = pool.capacity then 1 else 0) ∧
      (∀ returned, answer = .error returned → pool.live = pool.capacity) := by
  obtain ⟨next, events, done, later⟩ := represents.allocate memory item
  refine ⟨_, next, events, done, ?_⟩
  have full := represents.full_iff accounts
  have cells : pool.capacity = pool.pools.size * itemsPerPool := represents.settings ▸ rfl
  rcases machine.allocate_cases memory itemsPerPool item with ⟨cell, rest, freed, answer⟩ |
    ⟨freed, fills, _, answer⟩ | ⟨freed, answer⟩
  · rw [answer] at later ⊢
    have vacant : ¬ pool.live = pool.capacity :=
      fun all => List.cons_ne_nil cell rest (freed.symm.trans (full.mp all).1)
    refine ⟨fun _ _ => ?_, nofun⟩
    rw [if_neg vacant, later.size_pools, represents.size_pools, Nat.add_zero]
  · rw [answer]
    exact ⟨nofun, fun _ _ => full.mpr ⟨freed, represents.dvd_fresh_iff.mp fills⟩⟩
  · rw [answer] at later ⊢
    refine ⟨fun _ _ => ?_, nofun⟩
    have positive := represents.settings ▸ represents.holds.regular.positive
    have most := represents.most
    have least := represents.settings ▸ represents.least
    by_cases all : pool.live = pool.capacity
    · rw [if_pos all]
      have filled := (full.mp all).2
      refine later.size_pools_eq _ ?_ ?_
      · show machine.fresh + 1 ≤ (pool.pools.size + 1) * itemsPerPool
        rw [Nat.succ_mul, ← cells]
        omega
      · show (pool.pools.size + 1) * itemsPerPool < machine.fresh + 1 + itemsPerPool
        rw [Nat.succ_mul, ← cells]
        omega
    · rw [if_neg all]
      have unfilled : machine.fresh ≠ pool.capacity :=
        fun filled => all (full.mpr ⟨freed, filled⟩)
      refine later.size_pools_eq _ ?_ ?_
      · show machine.fresh + 1 ≤ pool.pools.size * itemsPerPool
        rw [← cells]
        omega
      · show pool.pools.size * itemsPerPool < machine.fresh + 1 + itemsPerPool
        rw [← cells]
        omega

end Represents

/-! ### Runs -/

/-- The logs and pools that commands lead to, whatever their handles and their memory. A command
that ends in a fault leads nowhere. -/
inductive Logged [ItemLayout α] (config : ItemConfig) : ItemLog α → ItemPool α → Prop
  | start (pool : ItemPool α) (created : create α config = .ok pool) : Logged config [] pool
  | step (log : ItemLog α) (pool next : ItemPool α) (command : ItemCommand α)
    (answer : ItemAnswer α) (events : List Event) (run : Logged config log pool)
    (performed : pool.perform command = .done answer next events) :
    Logged config ((answer, next.live) :: log) next

section Run

variable [ItemLayout α] {config : ItemConfig} {log : ItemLog α} {pool : ItemPool α}

theorem accounts_of_logged (run : Logged config log pool) :
    ∃ machine : ItemMachine α, pool.Represents config.itemsPerPool machine ∧
      machine.Accounts log := by
  induction run with
  | start pool created => exact ⟨_, represents_of_create created, .empty 0⟩
  | step log pool next command answer events run performed inductionHypothesis =>
    obtain ⟨machine, represents, accounts⟩ := inductionHypothesis
    obtain ⟨_, _, done, later⟩ := represents.perform command
    cases done.symm.trans performed
    refine ⟨_, later, ?_⟩
    rw [later.holds.live]
    exact accounts.perform represents command

end Run

/-- The cells that items were stored in since the last reset are the first ones, as many as the
items stored at the same time at most; the rows are as many as these cells take, and every cell
without an item counts as free. A further item takes one more row if every cell holds one, and
none otherwise; it comes back only in the first case. -/
theorem grows_with_peak [ItemLayout α] (config : ItemConfig) (log : ItemLog α) (pool : ItemPool α)
    (run : Logged config log pool) :
    (∀ cell, cell ∈ log.issued ↔ cell < log.peak) ∧
      pool.pools.size = log.peak ⌈/⌉ config.itemsPerPool ∧
      pool.capacity = pool.pools.size * config.itemsPerPool ∧
      pool.freeCount + pool.live = pool.capacity ∧
      ∀ memory item, ∃ answer next events,
        pool.allocate memory item = .done answer next events ∧
        (∀ handle, answer = .ok handle →
          next.pools.size = pool.pools.size + if pool.live = pool.capacity then 1 else 0) ∧
        (∀ returned, answer = .error returned → pool.live = pool.capacity) := by
  obtain ⟨machine, represents, accounts⟩ := accounts_of_logged run
  refine ⟨fun cell => ?_, ?_, represents.settings ▸ rfl, ?_,
    represents.allocate_grows accounts⟩
  · rw [accounts.peak]
    exact accounts.issued cell
  · rw [accounts.peak]
    exact represents.size_pools
  · refine Nat.sub_add_cancel ?_
    rw [represents.holds.live]
    exact Nat.le_trans accounts.size_le represents.most

/-- After a reset, three items take two rows of two cells. The cell of one that is taken out is
used again, so that a fourth item takes no further cell. -/
theorem grown_after_reuse :
    ∃ (log : ItemLog UInt64) (pool : ItemPool UInt64),
      Logged { itemsPerPool := 2 } log pool ∧ log.issued = [1, 2, 1, 0] ∧ log.peak = 3 ∧
        pool.pools.size = 2 ∧ pool.freeCount + pool.live = 4 := by
  have created : Logged { itemsPerPool := 2 } [] (empty 2 : ItemPool UInt64) := .start _ rfl
  have early := created.step _ _ _ (.allocate .addressable 9) _ _ rfl
  have cleared := early.step _ _ _ .reset _ _ rfl
  have first := cleared.step _ _ _ (.allocate .addressable 10) _ _ rfl
  have second := first.step _ _ _ (.allocate .addressable 11) _ _ rfl
  have third := second.step _ _ _ (.allocate .addressable 12) _ _ rfl
  have freed := third.step _ _ _ (.deallocate ⟨1, 1⟩) _ _ rfl
  have again := freed.step _ _ _ (.allocate .addressable 13) _ _ rfl
  obtain ⟨_, rows, cells, all, _⟩ := grows_with_peak _ _ _ again
  exact ⟨_, _, again, rfl, rfl, rows, all.trans (cells.trans (congrArg (· * 2) rows))⟩

end ItemPool

end Allotment
