/-
The thread through the free cells of an item pool. A new pool threads its cells in a row, and
every cell that is freed is put in front, so the links run through several pools in no order.
Whatever was stored, freed, looked for in vain or replaced before: from the first free cell on
they lead through each free cell once, through no other cell, and to an end.

So the items that are counted are the cells off the thread, and a pool takes another row of
cells only when every cell is off it.
-/

import Allotment.Proofs.Pool.Growth

namespace Allotment

namespace ItemPool

variable {α : Type}

/-- The cell holds an item. -/
def isOccupied (pool : ItemPool α) (cell : Nat) : Bool :=
  match pool.cell? cell with
  | some (.occupied _) => true
  | _ => false

/-- The cells that hold items, in the order of their numbers. -/
def occupied (pool : ItemPool α) : List Nat :=
  (List.range pool.capacity).filter pool.isOccupied

theorem isOccupied_iff (pool : ItemPool α) (cell : Nat) :
    pool.isOccupied cell = true ↔ ∃ item, pool.cell? cell = some (.occupied item) := by
  unfold isOccupied
  split
  · next item found => exact ⟨fun _ => ⟨item, found⟩, fun _ => rfl⟩
  · next unlike => exact ⟨nofun, fun ⟨item, found⟩ => absurd found (unlike item)⟩

/-- Every cell that is counted has contents. -/
theorem Regular.exists_cell {pool : ItemPool α}
    (regular : Regular pool.pools pool.itemsPerPool) (cell : Nat) (below : cell < pool.capacity) :
    ∃ contents, pool.cell? cell = some contents := by
  have row := (Nat.div_lt_iff_lt_mul regular.positive).mpr below
  have column : cell % pool.itemsPerPool < pool.pools[cell / pool.itemsPerPool].size := by
    rw [regular.rows _ (Array.getElem_mem row)]
    exact Nat.mod_lt cell regular.positive
  refine ⟨pool.pools[cell / pool.itemsPerPool][cell % pool.itemsPerPool], ?_⟩
  rw [cell?, Array.getElem?_eq_getElem row, Option.bind_some, Array.getElem?_eq_getElem column]

namespace Holds

variable {pool : ItemPool α} {items : Std.ExtHashMap Nat α} {free : List Nat}

/-- The free cells are those that name a next one. -/
theorem mem_free_iff (holds : pool.Holds items free) (cell : Nat) :
    cell ∈ free ↔ ∃ next, pool.cell? cell = some (.vacant next) := by
  constructor
  · intro member
    obtain ⟨next, names⟩ := holds.threaded.free cell member
    exact ⟨next, (pool.next?_eq_some_iff cell next).mp names⟩
  · rintro ⟨next, vacant⟩
    exact holds.vacant cell next vacant

/-- Every free cell is one of those that are counted. -/
theorem lt_capacity (holds : pool.Holds items free) (cell : Nat) (member : cell ∈ free) :
    cell < pool.capacity := by
  obtain ⟨next, vacant⟩ := (holds.mem_free_iff cell).mp member
  exact holds.regular.lt_capacity cell _ vacant

/-- Of the cells that are counted, those that are not free hold items. -/
theorem notMem_free_iff (holds : pool.Holds items free) (cell : Nat)
    (below : cell < pool.capacity) :
    cell ∉ free ↔ ∃ item, pool.cell? cell = some (.occupied item) := by
  constructor
  · intro outside
    obtain ⟨contents, present⟩ := holds.regular.exists_cell cell below
    cases contents with
    | vacant next => exact absurd (holds.vacant cell next present) outside
    | occupied item => exact ⟨item, present⟩
  · rintro ⟨item, present⟩
    exact holds.notMem_free cell item present

/-- The cells are the free ones and those that hold items. -/
theorem length_free_add (holds : pool.Holds items free) :
    free.length + pool.occupied.length = pool.capacity := by
  have unoccupied : free.Perm
      ((List.range pool.capacity).filter fun cell => !pool.isOccupied cell) := by
    refine (List.perm_ext_iff_of_nodup holds.distinct (List.nodup_range.filter _)).mpr
      fun cell => ?_
    rw [List.mem_filter, List.mem_range, Bool.not_eq_true', Bool.eq_false_iff, ne_eq,
      isOccupied_iff]
    constructor
    · intro member
      have below := holds.lt_capacity cell member
      exact ⟨below, fun held => (holds.notMem_free_iff cell below).mpr held member⟩
    · rintro ⟨below, unheld⟩
      exact Classical.not_not.mp fun outside =>
        unheld ((holds.notMem_free_iff cell below).mp outside)
  have split := List.filter_append_perm pool.isOccupied (List.range pool.capacity)
  have length := split.length_eq
  rw [List.length_append, List.length_range, ← unoccupied.length_eq] at length
  rw [Nat.add_comm]
  exact length

/-- There is no first free cell exactly when no cell is free. -/
theorem freeHead_eq_none_iff (holds : pool.Holds items free) :
    pool.freeHead = none ↔ ∀ cell next, pool.cell? cell ≠ some (.vacant next) := by
  have threaded := holds.threaded
  cases free with
  | nil => exact ⟨fun _ cell next vacant => List.not_mem_nil (holds.vacant cell next vacant),
      fun _ => threaded⟩
  | cons first rest =>
    obtain ⟨head, next, names, _⟩ := threaded
    rw [head]
    exact ⟨nofun, fun none =>
      absurd ((pool.next?_eq_some_iff first next).mp names) (none first next)⟩

end Holds

/-- In every state of a run each pool has its number of cells. From the first free cell on, the
links lead through one list of cells and no other: each cell without an item occurs in it once,
and every other cell holds an item. The count of the items is the number of those. There is no
first free cell exactly when every cell holds an item, so while one does not, a cell is found
without growing. And whatever the next command is, it is done. -/
theorem thread_visits_free_cells [ItemLayout α] (config : ItemConfig) (log : ItemLog α)
    (pool : ItemPool α) (run : Logged config log pool) :
    (∀ cells ∈ pool.pools, cells.size = config.itemsPerPool) ∧
      (∃ free, Threaded pool.next? pool.freeHead free ∧
        (∀ other, Threaded pool.next? pool.freeHead other → other = free) ∧
        free.Nodup ∧
        (∀ cell ∈ free, cell < pool.pools.size * config.itemsPerPool) ∧
        (∀ cell, cell ∈ free ↔ ∃ next, pool.cell? cell = some (.vacant next)) ∧
        ∀ cell < pool.pools.size * config.itemsPerPool,
          (cell ∉ free ↔ ∃ item, pool.cell? cell = some (.occupied item))) ∧
      pool.live = pool.occupied.length ∧
      (pool.freeHead = none ↔ ∀ cell next, pool.cell? cell ≠ some (.vacant next)) ∧
      (∀ memory cell next, pool.cell? cell = some (.vacant next) →
        ∃ head, pool.freeHead = some head ∧ pool.ensure memory = .granted head pool) ∧
      ∀ command : ItemCommand α, (pool.perform command).IsDone := by
  obtain ⟨machine, represents, accounts⟩ := accounts_of_logged run
  have settings := represents.settings
  have holds := represents.holds
  have cells : pool.capacity = pool.pools.size * config.itemsPerPool := settings ▸ rfl
  have rows := holds.regular.rows
  rw [settings] at rows
  rw [← cells]
  refine ⟨rows, ⟨_, holds.threaded, fun other threaded => threaded.unique holds.threaded,
    holds.distinct, holds.lt_capacity, holds.mem_free_iff, holds.notMem_free_iff⟩, ?_,
    holds.freeHead_eq_none_iff, fun memory cell next vacant => ?_, fun command => ?_⟩
  · have count := accounts.count
    have most := represents.most
    have all := holds.length_free_add
    rw [List.length_append, List.length_range'] at all
    rw [holds.live]
    omega
  · cases head : pool.freeHead with
    | none => exact absurd vacant (holds.freeHead_eq_none_iff.mp head cell next)
    | some first => exact ⟨first, rfl, by rw [ensure, head]⟩
  · obtain ⟨next, events, done, _⟩ := represents.perform command
    rw [done]
    trivial

/-- Three items in rows of two cells. The cell of the first is freed, then that of the last, while
an old handle, a free cell and a cell that is not there are refused: the thread leads from the
last row to the first and ends in the cell that was never used. -/
theorem thread_across_rows :
    ∃ (log : ItemLog UInt64) (pool : ItemPool UInt64),
      Logged { itemsPerPool := 2 } log pool ∧ pool.pools.size = 2 ∧
        Threaded pool.next? pool.freeHead [2, 0, 3] ∧ pool.live = pool.occupied.length ∧
        pool.occupied = [1] ∧
        ∃ head, pool.freeHead = some head ∧ pool.ensure .addressable = .granted head pool := by
  have created : Logged { itemsPerPool := 2 } [] (empty 2 : ItemPool UInt64) := .start _ rfl
  have first := created.step _ _ _ (.allocate .addressable 10) _ _ rfl
  have second := first.step _ _ _ (.allocate .addressable 11) _ _ rfl
  have third := second.step _ _ _ (.allocate .addressable 12) _ _ rfl
  have freed := third.step _ _ _ (.deallocate ⟨0, 0⟩) _ _ rfl
  have again := freed.step _ _ _ (.deallocate ⟨0, 0⟩) _ _ rfl
  have stale := again.step _ _ _ (.deallocate ⟨1, 7⟩) _ _ rfl
  have absent := stale.step _ _ _ (.deallocate ⟨9, 0⟩) _ _ rfl
  have last := absent.step _ _ _ (.deallocate ⟨2, 0⟩) _ _ rfl
  obtain ⟨_, _, count, _, found, _⟩ := thread_visits_free_cells _ _ _ last
  exact ⟨_, _, last, rfl, ⟨rfl, _, rfl, rfl, _, rfl, rfl, _, rfl, rfl⟩, count, by decide,
    found .addressable 2 (some 0) rfl⟩

end ItemPool

end Allotment
