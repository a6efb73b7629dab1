/-
Keys of a table. The vacant entries form a chain without a loop, so the table always finds
the entry that it puts a value into, and the number of values is the number of keys that
have one. A key that was issued never comes up again: its entry goes on to later
generations, and an entry whose generations ran out is retired.
-/

import Allotment.Boundary.KeyTable
import Allotment.Proofs.Threading

namespace Allotment

/-- The value of an entry, if it has one, has a property. -/
def Entry.Holds {α : Type} (property : α → Prop) : Entry α → Prop
  | .occupied _ value => property value
  | _ => True

instance {α : Type} (property : α → Prop) [DecidablePred property] :
    DecidablePred (Entry.Holds property)
  | .occupied _ value => inferInstanceAs (Decidable (property value))
  | .vacant .. => .isTrue trivial
  | .retired => .isTrue trivial

namespace KeyTable

variable {α : Type}

/-! ### Entries -/

/-- All values of the table have a property. -/
def All (property : α → Prop) (table : KeyTable α) : Prop :=
  ∀ entry ∈ table.entries.toList, Entry.Holds property entry

instance (property : α → Prop) [DecidablePred property] (table : KeyTable α) :
    Decidable (table.All property) :=
  inferInstanceAs (Decidable (∀ entry ∈ table.entries.toList, Entry.Holds property entry))

theorem All.get? {property : α → Prop} {table : KeyTable α} (all : table.All property)
    (packed : UInt64) (value : α) (found : table.get? packed = some value) : property value :=
  all _ (Array.mem_toList_iff.mpr
    (Array.mem_of_getElem? ((table.get?_eq_some_iff packed value).mp found)))

/-- What replacing one entry changes: the keys of this entry alone. -/
theorem get?_setIfInBounds (table : KeyTable α) (index : UInt32) (entry : Entry α)
    (freeHead : Option UInt32) (live : Nat) (inside : index.toNat < table.entries.size)
    (packed : UInt64) (value : α) :
    get? ⟨table.entries.setIfInBounds index.toNat entry, freeHead, live⟩ packed = some value ↔
      if (Key.unpack packed).index = index then
        entry = .occupied (Key.unpack packed).generation value
      else table.get? packed = some value := by
  rw [get?_eq_some_iff, get?_eq_some_iff]
  by_cases same : (Key.unpack packed).index = index
  · subst same
    rw [if_pos rfl, Array.getElem?_setIfInBounds_self_of_lt inside, Option.some_inj]
  · have different : index.toNat ≠ (Key.unpack packed).index.toNat :=
      fun equal => same (UInt32.toNat_inj.mp equal).symm
    rw [if_neg same, Array.getElem?_setIfInBounds_ne different]

/-- A key is known by its entry and its generation. -/
theorem eq_pack_iff (packed : UInt64) (index generation : UInt32) :
    packed = Key.pack ⟨index, generation⟩ ↔
      (Key.unpack packed).index = index ∧ (Key.unpack packed).generation = generation := by
  constructor
  · rintro rfl
    rw [Key.unpack_pack]
    exact ⟨rfl, rfl⟩
  · rintro ⟨rfl, rfl⟩
    exact (Key.pack_unpack packed).symm

/-- What a vacant entry names as the next one. -/
def next? (entries : Array (Entry α)) (index : UInt32) : Option (Option UInt32) :=
  match entries[index.toNat]? with
  | some (.vacant _ next) => some next
  | _ => none

theorem next?_eq_some_iff (entries : Array (Entry α)) (index : UInt32) (next : Option UInt32) :
    next? entries index = some next ↔
      ∃ generation, entries[index.toNat]? = some (.vacant generation next) := by
  unfold next?
  split
  · next generation other found =>
    rw [found, Option.some_inj]
    exact ⟨fun same => ⟨generation, same ▸ rfl⟩, by rintro ⟨_, ⟨⟩⟩; rfl⟩
  · next unlike =>
    exact ⟨nofun, fun ⟨generation, found⟩ => absurd found (unlike generation next)⟩

/-- The vacant entries that are found from a number on, each naming the next one. -/
def Chain (entries : Array (Entry α)) (head : Option UInt32) (chain : List UInt32) : Prop :=
  Threaded (next? entries) head chain

theorem chain_cons_iff (entries : Array (Entry α)) (head : Option UInt32) (index : UInt32)
    (rest : List UInt32) :
    Chain entries head (index :: rest) ↔ head = some index ∧ ∃ generation next,
      entries[index.toNat]? = some (.vacant generation next) ∧ Chain entries next rest := by
  refine and_congr_right fun _ => ⟨?_, ?_⟩
  · rintro ⟨next, names, following⟩
    obtain ⟨generation, found⟩ := (next?_eq_some_iff _ _ _).mp names
    exact ⟨generation, next, found, following⟩
  · rintro ⟨generation, next, found, following⟩
    exact ⟨next, (next?_eq_some_iff _ _ _).mpr ⟨generation, found⟩, following⟩

/-- A chain does not notice what happens to an entry outside of it. -/
theorem Chain.set_other {entries : Array (Entry α)} {head : Option UInt32} {chain : List UInt32}
    (chained : Chain entries head chain) (index : UInt32) (outside : index ∉ chain)
    (entry : Entry α) : Chain (entries.setIfInBounds index.toNat entry) head chain := by
  refine Threaded.congr chained fun other member => ?_
  have different : index.toNat ≠ other.toNat :=
    fun equal => outside (UInt32.toNat_inj.mp equal ▸ member)
  rw [next?, next?, Array.getElem?_setIfInBounds_ne different]

theorem Chain.notMem_of_occupied {entries : Array (Entry α)} {head : Option UInt32}
    {chain : List UInt32} (chained : Chain entries head chain) (index generation : UInt32)
    (value : α) (found : entries[index.toNat]? = some (.occupied generation value)) :
    index ∉ chain := by
  intro member
  obtain ⟨_, names⟩ := Threaded.free chained index member
  rw [next?, found] at names
  cases names

/-! ### The invariant -/

/-- The values are counted, and the vacant entries are chained without a loop. -/
structure Sound (table : KeyTable α) : Prop where
  counted : ∃ keys : List UInt64, keys.Nodup ∧ table.live = keys.length ∧
    ∀ packed, packed ∈ keys ↔ ∃ value, table.get? packed = some value
  chained : ∃ chain : List UInt32, chain.Nodup ∧ Chain table.entries table.freeHead chain
  named : table.entries.size ≤ 2 ^ 32

theorem sound_empty : (empty : KeyTable α).Sound where
  counted := ⟨[], List.nodup_nil, rfl, fun _ => ⟨nofun, fun found => nomatch found⟩⟩
  chained := ⟨[], List.nodup_nil, rfl⟩
  named := Nat.zero_le _

/-- Every value has an entry of its own. -/
theorem Sound.live_le {table : KeyTable α} (sound : table.Sound) :
    table.live ≤ table.entries.size := by
  obtain ⟨keys, distinct, live, held⟩ := sound.counted
  have entry : ∀ key ∈ keys, ∃ value, table.entries[(Key.unpack key).index.toNat]? =
      some (.occupied (Key.unpack key).generation value) := by
    intro key member
    obtain ⟨value, found⟩ := (held key).mp member
    exact ⟨value, (table.get?_eq_some_iff key value).mp found⟩
  rw [live]
  refine length_le_of_places keys (fun key => (Key.unpack key).index.toNat) _ ?_ ?_
  · refine distinct.map_on fun first firstMember second secondMember same => ?_
    obtain ⟨_, firstEntry⟩ := entry first firstMember
    obtain ⟨_, secondEntry⟩ := entry second secondMember
    rw [same, secondEntry] at firstEntry
    have generation := (Entry.occupied.inj (Option.some_inj.mp firstEntry)).1
    rw [← Key.pack_unpack second]
    exact (eq_pack_iff _ _ _).mpr ⟨UInt32.toNat_inj.mp same, generation.symm⟩
  · intro key member
    obtain ⟨_, found⟩ := entry key member
    exact (Array.getElem?_eq_some_iff.mp found).1

/-! ### Keys that were issued -/

/-- The entry has come to a generation, or beyond. -/
def Reached (generation : UInt32) : Entry α → Prop
  | .occupied current _ => generation ≤ current
  | .vacant current _ => generation < current
  | .retired => True

/-- The entry of a key has come to its generation. -/
def Spent (table : KeyTable α) (packed : UInt64) : Prop :=
  ∃ entry, table.entries[(Key.unpack packed).index.toNat]? = some entry ∧
    Reached (Key.unpack packed).generation entry

/-- A key with a value is spent. -/
theorem spent_of_get? (table : KeyTable α) (packed : UInt64) (value : α)
    (found : table.get? packed = some value) : table.Spent packed :=
  ⟨_, (table.get?_eq_some_iff packed value).mp found, UInt32.le_refl _⟩

/-- A spent key stays spent when an entry only moves on. -/
theorem spent_setIfInBounds (table : KeyTable α) (index : UInt32) (old entry : Entry α)
    (freeHead : Option UInt32) (live : Nat) (found : table.entries[index.toNat]? = some old)
    (forward : ∀ generation, Reached generation old → Reached generation entry)
    (packed : UInt64) (spent : table.Spent packed) :
    Spent ⟨table.entries.setIfInBounds index.toNat entry, freeHead, live⟩ packed := by
  obtain ⟨current, held, reached⟩ := spent
  obtain ⟨inside, _⟩ := Array.getElem?_eq_some_iff.mp found
  by_cases same : (Key.unpack packed).index = index
  · subst same
    rw [found, Option.some_inj] at held
    subst held
    exact ⟨entry, Array.getElem?_setIfInBounds_self_of_lt inside, forward _ reached⟩
  · have different : index.toNat ≠ (Key.unpack packed).index.toNat :=
      fun equal => same (UInt32.toNat_inj.mp equal).symm
    exact ⟨current, (Array.getElem?_setIfInBounds_ne different).trans held, reached⟩

/-! ### Putting a value in -/

/-- A value was put under a key that was not spent, and every other key has the value it had. -/
structure Inserts (before : KeyTable α) (packed : UInt64) (value : α) (after : KeyTable α) :
    Prop where
  unspent : ¬ before.Spent packed
  spent : ∀ other, other = packed ∨ before.Spent other → after.Spent other
  values : ∀ (other : UInt64) (found : α), after.get? other = some found ↔
    if other = packed then found = value else before.get? other = some found
  live : after.live = before.live + 1

section Insert

variable {before after : KeyTable α} {packed : UInt64} {value : α}

theorem Inserts.get?_self (inserts : before.Inserts packed value after) :
    after.get? packed = some value :=
  (inserts.values packed value).mpr (by rw [if_pos rfl])

theorem Inserts.get?_other (inserts : before.Inserts packed value after) (other : UInt64)
    (different : other ≠ packed) : after.get? other = before.get? other := by
  refine Option.ext fun found => ?_
  rw [inserts.values, if_neg different]

/-- A key that is not spent has no value. -/
theorem Inserts.absent (inserts : before.Inserts packed value after) :
    before.get? packed = none := by
  cases found : before.get? packed with
  | none => rfl
  | some old => exact absurd (before.spent_of_get? packed old found) inserts.unspent

theorem Sound.inserted (sound : before.Sound) (inserts : before.Inserts packed value after)
    (chained : ∃ chain : List UInt32, chain.Nodup ∧ Chain after.entries after.freeHead chain)
    (named : after.entries.size ≤ 2 ^ 32) : after.Sound := by
  obtain ⟨keys, distinct, live, held⟩ := sound.counted
  refine ⟨⟨packed :: keys, List.nodup_cons.mpr ⟨?_, distinct⟩, ?_, fun other => ?_⟩, chained, named⟩
  · intro member
    obtain ⟨old, found⟩ := (held packed).mp member
    rw [inserts.absent] at found
    cases found
  · rw [inserts.live, live, List.length_cons]
  · rw [List.mem_cons]
    by_cases same : other = packed
    · subst same
      exact ⟨fun _ => ⟨value, inserts.get?_self⟩, fun _ => Or.inl rfl⟩
    · rw [inserts.get?_other other same, ← held]
      exact ⟨fun member => member.resolve_left same, Or.inr⟩

/-- An entry without a value that has not come to a generation yet takes a value under the key of
this generation. -/
theorem inserts_of_entry {index generation : UInt32}
    (vacant : ∀ (current : UInt32) (held : α),
      before.entries[index.toNat]? ≠ some (.occupied current held))
    (unspent : ∀ entry, before.entries[index.toNat]? = some entry → ¬ Reached generation entry)
    (forward : ∀ entry earlier, before.entries[index.toNat]? = some entry →
      Reached earlier entry → earlier ≤ generation)
    (filled : after.entries[index.toNat]? = some (.occupied generation value))
    (others : ∀ other : UInt32, other ≠ index →
      after.entries[other.toNat]? = before.entries[other.toNat]?)
    (live : after.live = before.live + 1) :
    before.Inserts (Key.pack ⟨index, generation⟩) value after := by
  refine ⟨?_, fun other spent => ?_, fun other held => ?_, live⟩
  · rintro ⟨entry, held, reached⟩
    rw [Key.unpack_pack] at held reached
    exact unspent entry held reached
  · rcases spent with rfl | ⟨entry, held, reached⟩
    · rw [Spent, Key.unpack_pack]
      exact ⟨_, filled, UInt32.le_refl _⟩
    · by_cases same : (Key.unpack other).index = index
      · rw [same] at held
        rw [Spent, same]
        exact ⟨_, filled, forward entry _ held reached⟩
      · exact ⟨entry, (others _ same).trans held, reached⟩
  · simp only [get?_eq_some_iff, eq_pack_iff]
    by_cases same : (Key.unpack other).index = index
    · rw [same, filled, Option.some_inj, Entry.occupied.injEq]
      by_cases current : (Key.unpack other).generation = generation
      · rw [if_pos ⟨rfl, current⟩]
        exact ⟨fun equal => equal.2.symm, fun equal => ⟨current.symm, equal.symm⟩⟩
      · rw [if_neg fun parts => current parts.2]
        exact ⟨fun equal => absurd equal.1.symm current, fun old => absurd old (vacant _ _)⟩
    · rw [others _ same, if_neg fun parts => same parts.1]

end Insert

section Insertion

variable (table : KeyTable α) (value : α)

/-- The table after a value was put into a vacant entry. -/
def refilled (index generation : UInt32) (next : Option UInt32) : KeyTable α where
  entries := table.entries.setIfInBounds index.toNat (.occupied generation value)
  freeHead := next
  live := table.live + 1

theorem inserts_refilled (index generation : UInt32) (next : Option UInt32)
    (found : table.entries[index.toNat]? = some (.vacant generation next)) :
    table.Inserts (Key.pack ⟨index, generation⟩) value
      (table.refilled value index generation next) := by
  obtain ⟨inside, _⟩ := Array.getElem?_eq_some_iff.mp found
  refine inserts_of_entry ?_ ?_ ?_ (Array.getElem?_setIfInBounds_self_of_lt inside)
    (fun other different => ?_) rfl
  · rw [found]
    exact fun _ _ => nofun
  · rw [found]
    rintro _ ⟨⟩ reached
    exact UInt32.lt_irrefl _ reached
  · rw [found]
    rintro _ earlier ⟨⟩ reached
    exact UInt32.le_of_lt reached
  · exact Array.getElem?_setIfInBounds_ne (mt UInt32.toNat_inj.mp different.symm)

/-- The table after a value was put into a new entry. -/
def extended : KeyTable α :=
  { table with
    entries := table.entries.push (.occupied 0 value)
    live := table.live + 1 }

theorem inserts_extended (room : ¬ fieldLimit < table.entries.size) :
    table.Inserts (Key.pack ⟨table.entries.size.toUInt32, 0⟩) value (table.extended value) := by
  have number : table.entries.size.toUInt32.toNat = table.entries.size :=
    UInt32.toNat_ofNat_of_lt' (Nat.lt_succ_of_le (Nat.le_of_not_lt room))
  have beyond : table.entries[table.entries.size.toUInt32.toNat]? = none := by
    rw [number]
    exact Array.getElem?_eq_none (Nat.le_refl _)
  refine inserts_of_entry (fun current held => ?_) (fun entry held => ?_)
    (fun entry earlier held => ?_) ?_ (fun other different => ?_) rfl
  · rw [beyond]
    exact nofun
  · cases beyond.symm.trans held
  · cases beyond.symm.trans held
  · show (table.entries.push _)[_]? = _
    rw [number]
    exact Array.getElem?_push_size
  · have elsewhere := mt UInt32.toNat_inj.mp different
    rw [number] at elsewhere
    exact Array.getElem?_push.trans (if_neg elsewhere)

end Insertion

/-- Where the vacant entries are chained, a value goes into the first one of the chain, and else
into a new entry as long as a key can name it. There is no fault. -/
theorem insert_cases (table : KeyTable α) (value : α) {chain : List UInt32}
    (chained : Chain table.entries table.freeHead chain) :
    (chain = [] ∧ fieldLimit < table.entries.size ∧ table.insert value = .ok none) ∨
    (chain = [] ∧ ¬ fieldLimit < table.entries.size ∧ table.insert value =
      .ok (some (Key.pack ⟨table.entries.size.toUInt32, 0⟩, table.extended value))) ∨
    ∃ index rest generation next, chain = index :: rest ∧
      table.entries[index.toNat]? = some (.vacant generation next) ∧
      Chain table.entries next rest ∧ table.insert value =
        .ok (some (Key.pack ⟨index, generation⟩, table.refilled value index generation next)) := by
  unfold KeyTable.insert
  cases chain with
  | nil =>
    have last : table.freeHead = none := chained
    rw [last]
    by_cases full : fieldLimit < table.entries.size
    · exact Or.inl ⟨rfl, full, if_pos full⟩
    · refine Or.inr (Or.inl ⟨rfl, full, ?_⟩)
      rw [extended, last]
      exact if_neg full
  | cons index rest =>
    obtain ⟨first, generation, next, found, following⟩ := (chain_cons_iff _ _ _ _).mp chained
    refine Or.inr (Or.inr ⟨index, rest, generation, next, rfl, found, following, ?_⟩)
    simp only [first, found]
    rfl

/-- A value is put under a new key, unless there is no key left. There is no fault. -/
theorem Sound.insert {table : KeyTable α} (sound : table.Sound) (value : α) :
    table.insert value = .ok none ∨
    ∃ packed after, table.insert value = .ok (some (packed, after)) ∧
      table.Inserts packed value after ∧ after.Sound := by
  obtain ⟨chain, distinct, chained⟩ := sound.chained
  rcases table.insert_cases value chained with ⟨_, _, full⟩ | ⟨rfl, room, done⟩ |
    ⟨index, rest, generation, next, rfl, found, following, done⟩
  · exact Or.inl full
  · have inserts := table.inserts_extended value room
    refine Or.inr ⟨_, _, done, inserts, sound.inserted inserts ⟨[], distinct, chained⟩ ?_⟩
    rw [extended, Array.size_push]
    exact Nat.succ_le_succ (Nat.le_of_not_lt room)
  · have inserts := table.inserts_refilled value index generation next found
    rw [List.nodup_cons] at distinct
    refine Or.inr ⟨_, _, done, inserts, sound.inserted inserts ⟨rest, distinct.2, ?_⟩ ?_⟩
    · exact following.set_other index distinct.1 _
    · exact (Array.size_setIfInBounds).symm ▸ sound.named

/-! ### Taking a value out -/

/-- The value of a key is gone, and every other key has the value it had. -/
structure Removes (before : KeyTable α) (packed : UInt64) (after : KeyTable α) : Prop where
  spent : ∀ other, before.Spent other → after.Spent other
  values : ∀ (other : UInt64) (found : α), after.get? other = some found ↔
    other ≠ packed ∧ before.get? other = some found
  live : after.live + 1 = before.live

section Remove

variable {before after : KeyTable α} {packed : UInt64}

theorem Removes.get?_self (removes : before.Removes packed after) :
    after.get? packed = none :=
  Option.eq_none_iff_forall_ne_some.mpr fun value found =>
    ((removes.values packed value).mp found).1 rfl

theorem Removes.get?_other (removes : before.Removes packed after) (other : UInt64)
    (different : other ≠ packed) : after.get? other = before.get? other :=
  Option.ext fun found =>
    (removes.values other found).trans ⟨fun parts => parts.2, fun held => ⟨different, held⟩⟩

/-- A key that has a value is counted. -/
theorem Sound.live_pos (sound : before.Sound) (value : α)
    (found : before.get? packed = some value) : 0 < before.live := by
  obtain ⟨keys, _, live, held⟩ := sound.counted
  rw [live]
  exact List.length_pos_of_mem ((held packed).mpr ⟨value, found⟩)

/-- The entry after an emptied one is further on. -/
theorem reached_emptied (table : KeyTable α) (key : Key) (value : α) (generation : UInt32)
    (reached : Reached generation (.occupied key.generation value)) :
    Reached generation (table.emptied key) := by
  have earlier : generation.toNat ≤ key.generation.toNat := UInt32.le_iff_toNat_le.mp reached
  unfold emptied
  by_cases last : key.generation + 1 = 0
  · rw [if_pos last]
    trivial
  · rw [if_neg last]
    have next : (key.generation + 1).toNat = key.generation.toNat + 1 := by
      have wraps : key.generation.toNat + 1 ≠ 2 ^ 32 := by
        intro wrapped
        refine last (UInt32.toNat_inj.mp ?_)
        rw [UInt32.toNat_add, UInt32.toNat_one, wrapped]
        rfl
      have small := key.generation.toNat_lt
      rw [UInt32.toNat_add, UInt32.toNat_one]
      exact Nat.mod_eq_of_lt (by omega)
    refine UInt32.lt_iff_toNat_lt.mpr ?_
    rw [next]
    exact Nat.lt_succ_of_le earlier

/-- The table after the value of a key was taken out. -/
def vacated (table : KeyTable α) (key : Key) : KeyTable α where
  entries := table.entries.setIfInBounds key.index.toNat (table.emptied key)
  freeHead := if key.generation + 1 = 0 then table.freeHead else some key.index
  live := table.live - 1

theorem Sound.removes (sound : before.Sound) (value : α)
    (found : before.get? packed = some value) :
    before.Removes packed (before.vacated (Key.unpack packed)) := by
  have entry := (before.get?_eq_some_iff packed value).mp found
  obtain ⟨inside, _⟩ := Array.getElem?_eq_some_iff.mp entry
  refine ⟨fun other spent => ?_, fun other held => ?_, Nat.sub_add_cancel
    (sound.live_pos value found)⟩
  · exact before.spent_setIfInBounds _ _ _ _ _ entry
      (before.reached_emptied (Key.unpack packed) value) other spent
  · refine (before.get?_setIfInBounds _ _ _ _ inside other held).trans ?_
    by_cases same : (Key.unpack other).index = (Key.unpack packed).index
    · rw [if_pos same]
      constructor
      · intro emptied
        unfold KeyTable.emptied at emptied
        split at emptied <;> cases emptied
      · rintro ⟨different, old⟩
        have otherEntry := (before.get?_eq_some_iff other held).mp old
        rw [same, entry, Option.some_inj, Entry.occupied.injEq] at otherEntry
        have equal := (eq_pack_iff other _ _).mpr ⟨same, otherEntry.1.symm⟩
        exact absurd (equal.trans (Key.pack_unpack packed)) different
    · have different : other ≠ packed := fun equal => same (by rw [equal])
      rw [if_neg same]
      exact ⟨fun old => ⟨different, old⟩, fun parts => parts.2⟩

/-- The entry of a removed value goes to the front of the chain, unless its generations ran out. -/
theorem Chain.vacated {chain : List UInt32}
    (chained : Chain before.entries before.freeHead chain) (distinct : chain.Nodup) (value : α)
    (found : before.get? packed = some value) :
    ∃ longer : List UInt32, longer.Nodup ∧
      longer = (if (Key.unpack packed).generation + 1 = 0 then chain
        else (Key.unpack packed).index :: chain) ∧
      Chain (before.vacated (Key.unpack packed)).entries
        (before.vacated (Key.unpack packed)).freeHead longer := by
  have entry := (before.get?_eq_some_iff packed value).mp found
  obtain ⟨inside, _⟩ := Array.getElem?_eq_some_iff.mp entry
  have outside := chained.notMem_of_occupied _ _ _ entry
  have following := chained.set_other _ outside (before.emptied (Key.unpack packed))
  by_cases last : (Key.unpack packed).generation + 1 = 0
  · refine ⟨chain, distinct, (if_pos last).symm, ?_⟩
    rw [KeyTable.vacated, if_pos last]
    exact following
  · have emptied : before.emptied (Key.unpack packed) = .vacant _ before.freeHead := if_neg last
    refine ⟨_, List.nodup_cons.mpr ⟨outside, distinct⟩, (if_neg last).symm,
      (chain_cons_iff _ _ _ _).mpr ⟨if_neg last, (Key.unpack packed).generation + 1,
        before.freeHead, ?_, following⟩⟩
    exact (Array.getElem?_setIfInBounds_self_of_lt inside).trans (congrArg some emptied)

theorem Sound.vacated (sound : before.Sound) (value : α)
    (found : before.get? packed = some value) :
    (before.vacated (Key.unpack packed)).Sound := by
  have removes := sound.removes value found
  obtain ⟨keys, distinct, live, held⟩ := sound.counted
  obtain ⟨chain, once, chained⟩ := sound.chained
  obtain ⟨longer, still, _, following⟩ := chained.vacated once value found
  refine ⟨⟨keys.erase packed, distinct.erase packed, ?_, fun other => ?_⟩,
    ⟨longer, still, following⟩, ?_⟩
  · show before.live - 1 = _
    rw [live, List.length_erase_of_mem ((held packed).mpr ⟨value, found⟩)]
  · rw [distinct.mem_erase_iff, held]
    simp only [removes.values]
    exact ⟨fun ⟨different, old, present⟩ => ⟨old, different, present⟩,
      fun ⟨old, different, present⟩ => ⟨different, old, present⟩⟩
  · exact (Array.size_setIfInBounds).symm ▸ sound.named

theorem Sound.remove_eq (sound : before.Sound) (value : α)
    (found : before.get? packed = some value) :
    before.remove packed = .ok (some (value, before.vacated (Key.unpack packed))) := by
  rw [KeyTable.remove, found]
  exact if_neg (Nat.ne_of_gt (sound.live_pos value found))

/-- The value of a key is taken out, if it has one. There is no fault. -/
theorem Sound.remove (sound : before.Sound) (packed : UInt64) :
    (before.get? packed = none ∧ before.remove packed = .ok none) ∨
    ∃ value after, before.get? packed = some value ∧
      before.remove packed = .ok (some (value, after)) ∧
      before.Removes packed after ∧ after.Sound := by
  cases found : before.get? packed with
  | none =>
    refine Or.inl ⟨rfl, ?_⟩
    rw [KeyTable.remove, found]
  | some value =>
    exact Or.inr ⟨value, _, rfl, sound.remove_eq value found, sound.removes value found,
      sound.vacated value found⟩

end Remove

/-! ### Replacing a value -/

/-- A key has a value as it had one before, and every other key has the value it had. -/
structure Updates (before : KeyTable α) (packed : UInt64) (value : α) (after : KeyTable α) :
    Prop where
  self : after.get? packed = some value
  other : ∀ other, other ≠ packed → after.get? other = before.get? other
  spent : ∀ other, before.Spent other → after.Spent other
  live : after.live = before.live

section Update

variable {table : KeyTable α} {packed : UInt64} {old : α}

theorem Updates.refl (found : table.get? packed = some old) : table.Updates packed old table where
  self := found
  other _ _ := rfl
  spent _ spent := spent
  live := rfl

theorem update_eq (found : table.get? packed = some old) (value : α) :
    table.update packed value = ⟨table.entries.setIfInBounds (Key.unpack packed).index.toNat
      (.occupied (Key.unpack packed).generation value), table.freeHead, table.live⟩ := by
  rw [update, found]

/-- Putting back what is under a key changes nothing. -/
theorem update_same (found : table.get? packed = some old) : table.update packed old = table := by
  obtain ⟨inside, same⟩ :=
    Array.getElem?_eq_some_iff.mp ((table.get?_eq_some_iff packed old).mp found)
  rw [update_eq found, ← same, Array.setIfInBounds, dif_pos inside, Array.set_getElem_self]

theorem updates_update (found : table.get? packed = some old) (value : α) :
    table.Updates packed value (table.update packed value) where
  self := table.get?_update_self packed old value found
  other other different := table.get?_update_other packed other value different.symm
  spent other spent := by
    rw [update_eq found]
    exact table.spent_setIfInBounds _ _ (.occupied (Key.unpack packed).generation value) _ _
      ((table.get?_eq_some_iff packed old).mp found) (fun _ reached => reached) other spent
  live := by rw [update_eq found]

/-- The same keys have values after one of them was replaced. -/
theorem exists_get?_update (found : table.get? packed = some old) (value : α) (other : UInt64) :
    (∃ current, (table.update packed value).get? other = some current) ↔
      ∃ current, table.get? other = some current := by
  have updates := updates_update found value
  by_cases same : other = packed
  · subst same
    rw [updates.self]
    exact ⟨fun _ => ⟨old, found⟩, fun _ => ⟨value, rfl⟩⟩
  · rw [updates.other other same]

theorem Sound.update (sound : table.Sound) (found : table.get? packed = some old) (value : α) :
    (table.update packed value).Sound := by
  obtain ⟨keys, distinct, live, held⟩ := sound.counted
  obtain ⟨chain, once, chained⟩ := sound.chained
  have entry := (table.get?_eq_some_iff packed old).mp found
  refine ⟨⟨keys, distinct, ?_, fun other => ?_⟩, ⟨chain, once, ?_⟩, ?_⟩
  · rw [(updates_update found value).live]
    exact live
  · rw [exists_get?_update found, held]
  · rw [update_eq found]
    exact chained.set_other _ (chained.notMem_of_occupied _ _ _ entry) _
  · rw [update_eq found]
    exact (Array.size_setIfInBounds).symm ▸ sound.named

end Update

end KeyTable

end Allotment
