/-
Replays on item pools, and without a store. A pool stores one item for each handle that the
replay holds and no other item. The machine that the pool represents tells it: a handle is
held as long as the machine has an item under it. A replay on plain values only counts.
-/

import Allotment.Proofs.Churn.Keeping
import Allotment.Proofs.Pool.Machine

namespace Allotment

namespace ItemPool

variable {α : Type} {pool : ItemPool α} {itemsPerPool : Nat}

/-! ### The items under handles -/

/-- The pool stores an item under each of the handles, and nothing else. -/
def Stores (itemsPerPool : Nat) (handles : List ItemHandle) (pool : ItemPool α) : Prop :=
  ∃ machine : ItemMachine α, pool.Represents itemsPerPool machine ∧ handles.Nodup ∧
    (∀ handle ∈ handles, (machine.get? handle).isSome) ∧ pool.live = handles.length

theorem Stores.live {handles : List ItemHandle} (stores : Stores itemsPerPool handles pool) :
    pool.live = handles.length := by
  obtain ⟨_, _, _, _, count⟩ := stores
  exact count

theorem Stores.perm {handles others : List ItemHandle}
    (stores : Stores itemsPerPool handles pool) (same : handles.Perm others) :
    Stores itemsPerPool others pool := by
  obtain ⟨machine, represents, distinct, found, count⟩ := stores
  exact ⟨machine, represents, same.nodup_iff.mp distinct,
    fun handle member => found handle (same.mem_iff.mpr member), count.trans same.length_eq⟩

theorem stores_of_create [ItemLayout α] {config : ItemConfig}
    (created : create α config = .ok pool) : Stores config.itemsPerPool [] pool :=
  have represents := represents_of_create created
  ⟨_, represents, List.nodup_nil, nofun, represents.holds.live.trans Std.ExtHashMap.size_empty⟩

/-- The item comes back and the pool is as it was, for want of the cells of a pool or of an entry
for it, or it is stored under a new handle. -/
theorem Stores.allocate {handles : List ItemHandle} (stores : Stores itemsPerPool handles pool)
    (memory : Memory) (item : α) :
    (∃ returned events, pool.allocate memory item = .done (.error returned) pool events ∧
      ¬ (memory.grantsCells itemsPerPool = true ∧ ∀ count, memory.grantsEntry count = true)) ∨
    ∃ handle next events, pool.allocate memory item = .done (.ok handle) next events ∧
      Stores itemsPerPool (handle :: handles) next := by
  obtain ⟨machine, represents, distinct, found, count⟩ := stores
  obtain ⟨next, events, done, continued⟩ := represents.allocate memory item
  cases outcome : machine.allocate memory itemsPerPool item with
  | mk answer later =>
  rw [outcome] at done continued
  cases answer with
  | error returned =>
    obtain rfl := pool.eq_of_allocate_error next memory item returned events done
    refine Or.inl ⟨returned, events, done, ?_⟩
    rcases machine.allocate_cases memory itemsPerPool item with ⟨_, _, _, reused⟩ |
      ⟨_, _, denied, _⟩ | ⟨_, fresh⟩
    · rw [reused] at outcome
      cases outcome
    · exact fun granted => denied ⟨granted.1, granted.2 _⟩
    · rw [fresh] at outcome
      cases outcome
  | ok handle =>
    obtain ⟨new, current, epoch, items⟩ := represents.stores_anew memory item outcome
    refine Or.inr ⟨handle, next, events, done, later, continued, ?_, ?_, ?_⟩
    · refine List.nodup_cons.mpr ⟨fun held => new ?_, distinct⟩
      exact ((machine.isSome_get?_iff handle).mp (found handle held)).2
    · intro other member
      rw [ItemMachine.isSome_get?_iff, epoch, items]
      rcases List.mem_cons.mp member with rfl | older
      · exact ⟨current, Std.ExtHashMap.mem_insert_self⟩
      · obtain ⟨otherCurrent, present⟩ := (machine.isSome_get?_iff other).mp (found other older)
        exact ⟨otherCurrent, Std.ExtHashMap.mem_insert.mpr (Or.inr present)⟩
    · rw [continued.holds.live, items, Std.ExtHashMap.size_insert, if_neg new,
        ← represents.holds.live, count, List.length_cons]

/-- An item that is stored under a handle is taken out. -/
theorem Stores.deallocate {handle : ItemHandle} {left : List ItemHandle}
    (stores : Stores itemsPerPool (handle :: left) pool) :
    ∃ item next events, pool.deallocate handle = .done item next events ∧
      Stores itemsPerPool left next := by
  obtain ⟨machine, represents, distinct, found, count⟩ := stores
  obtain ⟨apart, distinctLeft⟩ := List.nodup_cons.mp distinct
  obtain ⟨current, present⟩ := (machine.isSome_get?_iff handle).mp (found handle List.mem_cons_self)
  have held : machine.get? handle = some machine.items[handle.cell] :=
    (machine.get?_eq_some_iff _ _).mpr ⟨current, Std.ExtHashMap.getElem?_eq_some_getElem present⟩
  obtain ⟨next, events, done, continued⟩ := represents.deallocate handle
  rw [ItemMachine.deallocate, held] at done continued
  refine ⟨_, next, events, done, _, continued, distinctLeft, fun other member => ?_, ?_⟩
  · obtain ⟨otherCurrent, otherPresent⟩ :=
      (machine.isSome_get?_iff other).mp (found other (List.mem_cons_of_mem _ member))
    -- Both handles are of the current epoch, so they can differ in their cells only.
    have different : handle.cell ≠ other.cell := by
      intro same
      apply apart
      obtain ⟨cell, epoch⟩ := handle
      obtain ⟨otherCell, otherEpoch⟩ := other
      cases same
      cases current.trans otherCurrent.symm
      exact member
    exact (ItemMachine.isSome_get?_iff _ other).mpr
      ⟨otherCurrent, Std.ExtHashMap.mem_erase.mpr ⟨by simpa using different, otherPresent⟩⟩
  · rw [continued.holds.live]
    show (machine.items.erase handle.cell).size = _
    rw [Std.ExtHashMap.size_erase, if_pos present, ← represents.holds.live, count,
      List.length_cons, Nat.add_sub_cancel]

end ItemPool

/-! ### The drives -/

namespace Churn.Drive

section Items

variable (memory : Memory) (itemsPerPool : Nat)

theorem keeps_items : (items memory).Keeps (fun _ => True) (fun _ => True)
    (ItemPool.Stores itemsPerPool) where
  perm _ _ _ stores same := stores.perm same
  lent held pool size stores _ _ := by
    rcases stores.allocate memory (⟨size.toUInt64⟩ : Quad) with ⟨returned, events, refused, _⟩ |
      ⟨handle, next, events, done, storesNext⟩
    · refine ⟨none, pool, events, ?_, (List.append_nil held).symm ▸ stores⟩
      exact (Step.mapAnswer_eq_done_iff _ _ _ _ _).mpr ⟨_, refused, rfl⟩
    · refine ⟨some handle, next, events, ?_, ?_⟩
      · exact (Step.mapAnswer_eq_done_iff _ _ _ _ _).mpr ⟨_, done, rfl⟩
      · exact storesNext.perm (List.perm_append_singleton _ _).symm
  taken _ _ _ stores := by
    obtain ⟨item, next, events, done, storesNext⟩ := stores.deallocate
    exact ⟨next, events, (Step.mapAnswer_eq_done_iff _ _ _ _ _).mpr ⟨item, done, rfl⟩, storesNext⟩

theorem grants_items (granted : memory.grantsCells itemsPerPool = true)
    (entries : ∀ count, memory.grantsEntry count = true) :
    (items memory).Grants (fun _ => True) (fun _ => True) (ItemPool.Stores itemsPerPool) := by
  intro held pool size stores _ _ next events lent
  obtain ⟨answer, done, nothing⟩ := (Step.mapAnswer_eq_done_iff _ _ _ _ _).mp lent
  rcases stores.allocate memory (⟨size.toUInt64⟩ : Quad) with ⟨_, _, _, denied⟩ |
    ⟨handle, _, _, stored, _⟩
  · exact denied ⟨granted, entries⟩
  · rw [stored] at done
    cases done
    cases nothing

end Items

theorem keeps_plain : plain.Keeps (fun _ => True) (fun _ => True) (fun _ _ => True) where
  perm _ _ _ _ _ := trivial
  lent _ store size _ _ _ := ⟨some ⟨size.toUInt64⟩, store, [], rfl, trivial⟩
  taken _ _ store _ := ⟨store, [], rfl, trivial⟩

theorem grants_plain : plain.Grants (fun _ => True) (fun _ => True) (fun _ _ => True) := by
  intro held store size _ _ _ next events lent
  cases lent

end Churn.Drive

end Allotment
