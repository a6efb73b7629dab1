/-
A key table against the history of its keys. The history alone says which keys were issued,
which of them came to an end, what value each of them has, and how many had one at the same
time; the table agrees with it after every run, whatever keys a client makes up. No key is
issued twice, so the name of a removed value never names another one.

The table makes a new entry only when every entry holds a value. So it never has more
entries than there were values at one time, as long as no entry runs out of generations.
-/

import Allotment.Proofs.Boundary.Keys

namespace Allotment

/-! ### What happened to keys -/

/-- What happened to a key: it was issued for a value, its value was changed, or its value was
removed and answered. -/
inductive KeyDeed (α : Type) where
  | issued (key : UInt64) (value : α)
  | changed (key : UInt64) (value : α)
  | removed (key : UInt64) (value : α)

/-- What happened to the keys of a table, the latest deed first. -/
abbrev KeyHistory (α : Type) := List (KeyDeed α)

namespace KeyHistory

variable {α : Type}

/-- The keys that were issued, the latest first. -/
def issued : KeyHistory α → List UInt64
  | [] => []
  | .issued key _ :: earlier => key :: issued earlier
  | .changed .. :: earlier => issued earlier
  | .removed .. :: earlier => issued earlier

/-- The keys whose values were removed, the latest first. -/
def removed : KeyHistory α → List UInt64
  | [] => []
  | .issued .. :: earlier => removed earlier
  | .changed .. :: earlier => removed earlier
  | .removed key _ :: earlier => key :: removed earlier

/-- The keys that were issued and not removed yet. -/
def current (history : KeyHistory α) : List UInt64 :=
  history.issued.filter fun key => key ∉ history.removed

/-- The value of a key: the one it was issued for or last changed to, unless that was removed. -/
def value? (key : UInt64) : KeyHistory α → Option α
  | [] => none
  | .issued other value :: earlier => if other = key then some value else value? key earlier
  | .changed other value :: earlier => if other = key then some value else value? key earlier
  | .removed other _ :: earlier => if other = key then none else value? key earlier

/-- The largest number of keys that were current at the same time. -/
def peak : KeyHistory α → Nat
  | [] => 0
  | deed :: earlier => max (peak earlier) (current (deed :: earlier)).length

end KeyHistory

namespace KeyTable

variable {α : Type}

/-! ### Runs -/

/-- A call of the table. -/
inductive Command (α : Type) where
  | insert (value : α)
  | get (key : UInt64)
  | update (key : UInt64) (value : α)
  | remove (key : UInt64)

/-- Carries out a command and answers its deeds. -/
def perform (table : KeyTable α) : Command α → Except Fault (KeyHistory α × KeyTable α)
  | .insert value =>
    (table.insert value).map fun
      | none => ([], table)
      | some (key, next) => ([.issued key value], next)
  | .get _ => .ok ([], table)
  | .update key value =>
    match table.get? key with
    | none => .ok ([], table.update key value)
    | some _ => .ok ([.changed key value], table.update key value)
  | .remove key =>
    (table.remove key).map fun
      | none => ([], table)
      | some (value, next) => ([.removed key value], next)

/-- The histories and tables that commands lead to. A command that ends in a fault leads
nowhere. -/
inductive Run : KeyHistory α → KeyTable α → Prop
  | start : Run [] empty
  | step (history deeds : KeyHistory α) (before after : KeyTable α) (command : Command α)
    (run : Run history before) (performed : before.perform command = .ok (deeds, after)) :
    Run (deeds ++ history) after

/-! ### As many entries as values at one time -/

/-- No entry ran out of generations. -/
def Unretired (table : KeyTable α) : Prop :=
  ∀ index : Nat, table.entries[index]? ≠ some .retired

/-- Every entry holds a value or is on the chain of vacant entries, once. -/
def Tallied (table : KeyTable α) : Prop :=
  ∃ chain : List UInt32, chain.Nodup ∧ Chain table.entries table.freeHead chain ∧
    table.live + chain.length = table.entries.size

section Tally

variable {before after : KeyTable α}

/-- An entry that did not run out of generations before it was replaced leaves a table in which no
other one did. -/
theorem Unretired.of_setIfInBounds {index : Nat} {old entry : Entry α}
    (unretired : after.Unretired)
    (entries : after.entries = before.entries.setIfInBounds index entry)
    (found : before.entries[index]? = some old) (fit : old ≠ .retired) : before.Unretired := by
  intro other spent
  by_cases same : index = other
  · subst same
    rw [found, Option.some_inj] at spent
    exact fit spent
  · refine unretired other ?_
    rw [entries, Array.getElem?_setIfInBounds_ne same]
    exact spent

theorem tallied_empty : (empty : KeyTable α).Tallied :=
  ⟨[], List.nodup_nil, rfl, rfl⟩

/-- There are at least as many entries as values. -/
theorem Tallied.live_le (tallied : before.Tallied) : before.live ≤ before.entries.size := by
  obtain ⟨chain, _, _, count⟩ := tallied
  omega

/-- A value makes a new entry only if all entries hold values. -/
theorem Tallied.insert (tallied : before.Tallied) (value : α) (key : UInt64)
    (inserted : before.insert value = .ok (some (key, after))) :
    after.Tallied ∧ after.entries.size = max before.entries.size after.live := by
  obtain ⟨chain, distinct, chained, count⟩ := tallied
  rcases before.insert_cases value chained with ⟨_, _, full⟩ | ⟨rfl, _, done⟩ |
    ⟨index, rest, generation, next, rfl, _, following, done⟩
  · rw [full] at inserted
    cases inserted
  · rw [done] at inserted
    cases inserted
    have size : (before.extended value).entries.size = before.entries.size + 1 :=
      Array.size_push _
    have live : (before.extended value).live = before.live + 1 := rfl
    rw [List.length_nil] at count
    refine ⟨⟨[], distinct, chained, ?_⟩, ?_⟩
    · rw [size, live, List.length_nil]
      omega
    · omega
  · rw [done] at inserted
    cases inserted
    have size : (before.refilled value index generation next).entries.size = before.entries.size :=
      Array.size_setIfInBounds
    have live : (before.refilled value index generation next).live = before.live + 1 := rfl
    rw [List.length_cons] at count
    rw [List.nodup_cons] at distinct
    refine ⟨⟨rest, distinct.2, following.set_other index distinct.1 _, ?_⟩, ?_⟩
    · rw [size, live]
      omega
    · omega

theorem Unretired.of_insert (sound : before.Sound) (value : α) (key : UInt64)
    (inserted : before.insert value = .ok (some (key, after))) (unretired : after.Unretired) :
    before.Unretired := by
  obtain ⟨chain, _, chained⟩ := sound.chained
  rcases before.insert_cases value chained with ⟨_, _, full⟩ | ⟨_, _, done⟩ |
    ⟨index, rest, generation, next, _, found, _, done⟩
  · rw [full] at inserted
    cases inserted
  · rw [done] at inserted
    cases inserted
    intro other spent
    obtain ⟨inside, _⟩ := Array.getElem?_eq_some_iff.mp spent
    refine unretired other ?_
    rw [extended, Array.getElem?_push_lt inside, ← Array.getElem?_eq_getElem inside]
    exact spent
  · rw [done] at inserted
    cases inserted
    refine unretired.of_setIfInBounds rfl found fun spent => ?_
    cases spent

/-- The entry of a removed value takes the place of the value in the count. -/
theorem Tallied.vacated (tallied : before.Tallied) (sound : before.Sound) {key : UInt64}
    (value : α) (found : before.get? key = some value)
    (unretired : (before.vacated (Key.unpack key)).Unretired) :
    (before.vacated (Key.unpack key)).Tallied := by
  obtain ⟨chain, distinct, chained, count⟩ := tallied
  obtain ⟨longer, still, same, following⟩ := chained.vacated distinct value found
  obtain ⟨inside, _⟩ :=
    Array.getElem?_eq_some_iff.mp ((before.get?_eq_some_iff key value).mp found)
  have goesOn : ¬ (Key.unpack key).generation + 1 = 0 := by
    intro last
    refine unretired _ ((Array.getElem?_setIfInBounds_self_of_lt inside).trans ?_)
    rw [KeyTable.emptied, if_pos last]
  rw [if_neg goesOn] at same
  subst same
  refine ⟨_, still, following, ?_⟩
  have some := sound.live_pos value found
  have live : (before.vacated (Key.unpack key)).live = before.live - 1 := rfl
  have size : (before.vacated (Key.unpack key)).entries.size = before.entries.size :=
    Array.size_setIfInBounds
  rw [live, size, List.length_cons]
  omega

theorem Tallied.update (tallied : before.Tallied) {key : UInt64} {old : α}
    (found : before.get? key = some old) (value : α) : (before.update key value).Tallied := by
  obtain ⟨chain, distinct, chained, count⟩ := tallied
  have entry := (before.get?_eq_some_iff key old).mp found
  rw [update_eq found]
  refine ⟨chain, distinct, chained.set_other _ (chained.notMem_of_occupied _ _ _ entry) _, ?_⟩
  exact count.trans (Array.size_setIfInBounds).symm

end Tally

/-! ### The table and the history -/

/-- The table agrees with the history about every key, and the keys that were issued are spent. -/
structure Follows (history : KeyHistory α) (table : KeyTable α) : Prop where
  sound : table.Sound
  values : ∀ key, table.get? key = history.value? key
  current : ∀ key, (∃ value, table.get? key = some value) ↔ key ∈ history.current
  distinct : history.issued.Nodup
  once : history.removed.Nodup
  spent : ∀ key ∈ history.issued ++ history.removed, table.Spent key
  tallied : table.Unretired → table.Tallied ∧ table.entries.size = history.peak

namespace Follows

variable {history : KeyHistory α} {before after : KeyTable α} {key : UInt64}

theorem empty : Follows [] (empty : KeyTable α) where
  sound := sound_empty
  values _ := rfl
  current _ := ⟨nofun, nofun⟩
  distinct := List.nodup_nil
  once := List.nodup_nil
  spent := nofun
  tallied _ := ⟨tallied_empty, rfl⟩

theorem mem_current_iff : key ∈ history.current ↔ key ∈ history.issued ∧ key ∉ history.removed := by
  rw [KeyHistory.current, List.mem_filter, decide_eq_true_iff]

/-- The values are as many as the keys that are current. -/
theorem live_eq (sound : before.Sound) (distinct : history.issued.Nodup)
    (current : ∀ key, (∃ value, before.get? key = some value) ↔ key ∈ history.current) :
    before.live = history.current.length := by
  obtain ⟨keys, once, live, held⟩ := sound.counted
  rw [live]
  refine ((List.perm_ext_iff_of_nodup once (distinct.filter _)).mpr fun key => ?_).length_eq
  exact (held key).trans (current key)

/-- A key is issued for a value. -/
theorem inserted (follows : Follows history before) (value : α)
    (inserts : before.Inserts key value after) (sound : after.Sound)
    (done : before.insert value = .ok (some (key, after))) :
    Follows (.issued key value :: history) after := by
  have unused : key ∉ history.issued := fun member =>
    inserts.unspent (follows.spent key (List.mem_append_left _ member))
  have unremoved : key ∉ history.removed := fun member =>
    inserts.unspent (follows.spent key (List.mem_append_right _ member))
  have distinct : (KeyHistory.issued (.issued key value :: history)).Nodup :=
    List.nodup_cons.mpr ⟨unused, follows.distinct⟩
  have current : ∀ other, (∃ found, after.get? other = some found) ↔
      other ∈ KeyHistory.current (.issued key value :: history) := by
    intro other
    show _ ↔ other ∈ (key :: history.issued).filter fun key => key ∉ history.removed
    rw [List.mem_filter, List.mem_cons, decide_eq_true_iff]
    by_cases same : other = key
    · subst same
      exact ⟨fun _ => ⟨Or.inl rfl, unremoved⟩, fun _ => ⟨value, inserts.get?_self⟩⟩
    · rw [inserts.get?_other other same, follows.current, mem_current_iff]
      exact ⟨fun ⟨old, kept⟩ => ⟨Or.inr old, kept⟩,
        fun ⟨old, kept⟩ => ⟨old.resolve_left same, kept⟩⟩
  refine ⟨sound, fun other => ?_, current, distinct, follows.once, fun other member => ?_,
    fun unretired => ?_⟩
  · rw [KeyHistory.value?]
    by_cases same : key = other
    · subst same
      rw [if_pos rfl, inserts.get?_self]
    · rw [if_neg same, inserts.get?_other other (Ne.symm same), follows.values]
  · refine inserts.spent other ?_
    rcases List.mem_cons.mp member with same | old
    · exact Or.inl same
    · exact Or.inr (follows.spent other old)
  · obtain ⟨tallied, peak⟩ :=
      follows.tallied (unretired.of_insert follows.sound value key done)
    obtain ⟨talliedAfter, size⟩ := tallied.insert value key done
    refine ⟨talliedAfter, ?_⟩
    rw [size, KeyHistory.peak, ← peak, live_eq sound distinct current]

/-- The value of a current key is changed. -/
theorem changed (follows : Follows history before) (old value : α)
    (found : before.get? key = some old) :
    Follows (.changed key value :: history) (before.update key value) := by
  have updates := updates_update found value
  have sound := follows.sound.update found value
  have current : ∀ other, (∃ found, (before.update key value).get? other = some found) ↔
      other ∈ KeyHistory.current (.changed key value :: history) :=
    fun other => (exists_get?_update found value other).trans (follows.current other)
  have distinct : (KeyHistory.issued (.changed key value :: history)).Nodup := follows.distinct
  refine ⟨sound, fun other => ?_, current, distinct, follows.once,
    fun other member => updates.spent other (follows.spent other member), fun unretired => ?_⟩
  · rw [KeyHistory.value?]
    by_cases same : key = other
    · subst same
      rw [if_pos rfl, updates.self]
    · rw [if_neg same, updates.other other (Ne.symm same), follows.values]
  · have entries : (before.update key value).entries =
        before.entries.setIfInBounds (Key.unpack key).index.toNat
          (.occupied (Key.unpack key).generation value) := by
      rw [update_eq found]
    obtain ⟨tallied, peak⟩ := follows.tallied (unretired.of_setIfInBounds entries
      ((before.get?_eq_some_iff key old).mp found) nofun)
    have talliedAfter := tallied.update found value
    have size : (before.update key value).entries.size = before.entries.size := by
      rw [entries]
      exact Array.size_setIfInBounds
    have fewer := talliedAfter.live_le
    rw [live_eq sound distinct current] at fewer
    refine ⟨talliedAfter, ?_⟩
    rw [KeyHistory.peak]
    omega

/-- The value of a current key is removed, and the key comes to its end. -/
theorem removed (follows : Follows history before) (value : α)
    (found : before.get? key = some value) :
    Follows (.removed key value :: history) (before.vacated (Key.unpack key)) := by
  have removes := follows.sound.removes value found
  have sound := follows.sound.vacated value found
  obtain ⟨used, unremoved⟩ := mem_current_iff.mp ((follows.current key).mp ⟨value, found⟩)
  have current : ∀ other,
      (∃ found, (before.vacated (Key.unpack key)).get? other = some found) ↔
        other ∈ KeyHistory.current (.removed key value :: history) := by
    intro other
    show _ ↔ other ∈ history.issued.filter fun other => other ∉ key :: history.removed
    rw [List.mem_filter, decide_eq_true_iff, List.mem_cons, not_or]
    by_cases same : other = key
    · subst same
      rw [removes.get?_self]
      exact ⟨nofun, fun parts => absurd rfl parts.2.1⟩
    · rw [removes.get?_other other same, follows.current, mem_current_iff]
      exact ⟨fun ⟨old, kept⟩ => ⟨old, same, kept⟩, fun ⟨old, _, kept⟩ => ⟨old, kept⟩⟩
  have distinct : (KeyHistory.issued (.removed key value :: history)).Nodup := follows.distinct
  refine ⟨sound, fun other => ?_, current, distinct,
    List.nodup_cons.mpr ⟨unremoved, follows.once⟩, fun other member => ?_, fun unretired => ?_⟩
  · rw [KeyHistory.value?]
    by_cases same : key = other
    · subst same
      rw [if_pos rfl, removes.get?_self]
    · rw [if_neg same, removes.get?_other other (Ne.symm same), follows.values]
  · refine removes.spent other (follows.spent other (List.mem_append.mpr ?_))
    rcases List.mem_append.mp member with old | gone
    · exact Or.inl old
    · rcases List.mem_cons.mp gone with rfl | earlier
      · exact Or.inl used
      · exact Or.inr earlier
  · obtain ⟨tallied, peak⟩ := follows.tallied (unretired.of_setIfInBounds rfl
      ((before.get?_eq_some_iff key value).mp found) nofun)
    have talliedAfter := tallied.vacated follows.sound value found unretired
    have size : (before.vacated (Key.unpack key)).entries.size = before.entries.size :=
      Array.size_setIfInBounds
    have fewer := talliedAfter.live_le
    rw [live_eq sound distinct current] at fewer
    refine ⟨talliedAfter, ?_⟩
    rw [KeyHistory.peak]
    omega

end Follows

theorem follows_of_run {history : KeyHistory α} {table : KeyTable α} (run : Run history table) :
    Follows history table := by
  induction run with
  | start => exact Follows.empty
  | step history deeds before after command run performed inductionHypothesis =>
    cases command with
    | insert value =>
      rcases inductionHypothesis.sound.insert value with full | ⟨key, next, done, inserts, sound⟩
      · rw [perform, full] at performed
        cases performed
        exact inductionHypothesis
      · rw [perform, done] at performed
        cases performed
        exact inductionHypothesis.inserted value inserts sound done
    | get key =>
      cases performed
      exact inductionHypothesis
    | update key value =>
      cases found : before.get? key with
      | none =>
        simp only [perform, update, found] at performed
        cases performed
        exact inductionHypothesis
      | some old =>
        simp only [perform, found] at performed
        cases performed
        exact inductionHypothesis.changed old value found
    | remove key =>
      rcases inductionHypothesis.sound.remove key with ⟨_, none⟩ | ⟨value, _, found, _⟩
      · rw [perform, none] at performed
        cases performed
        exact inductionHypothesis
      · rw [perform, inductionHypothesis.sound.remove_eq value found] at performed
        cases performed
        exact inductionHypothesis.removed value found

/-- After every run the table is the map that the history describes. No key was issued twice, and
the keys that have values are the ones that were issued and not removed, each with its latest
value; no value was removed twice. The counter is their number, and unless an entry ran out of
generations there are as many entries as there ever were values at one time. The next insertion
uses a key that was never issued, if one is left; a removal answers the value of its key; and what
happens to one key leaves every other key alone. None of them ends in a fault. -/
theorem refines_history (history : KeyHistory α) (table : KeyTable α)
    (run : Run history table) :
    history.issued.Nodup ∧
    (∀ key, table.get? key = history.value? key) ∧
    (∀ key, (∃ value, table.get? key = some value) ↔
      key ∈ history.issued ∧ key ∉ history.removed) ∧
    history.removed.Nodup ∧
    table.live = history.current.length ∧
    (table.Unretired → table.entries.size = history.peak) ∧
    (∀ value, (fieldLimit < table.entries.size ∧ table.insert value = .ok none) ∨
      ∃ key after, table.insert value = .ok (some (key, after)) ∧ key ∉ history.issued ∧
        after.get? key = some value ∧
        ∀ other, other ≠ key → after.get? other = table.get? other) ∧
    (∀ key, (table.get? key = none ∧ table.remove key = .ok none) ∨
      ∃ value after, table.get? key = some value ∧
        table.remove key = .ok (some (value, after)) ∧ after.get? key = none ∧
        ∀ other, other ≠ key → after.get? other = table.get? other) ∧
    ∀ key value, (table.get? key = none → table.update key value = table) ∧
      (∀ old, table.get? key = some old → (table.update key value).get? key = some value) ∧
      ∀ other, other ≠ key → (table.update key value).get? other = table.get? other := by
  have follows := follows_of_run run
  refine ⟨follows.distinct, follows.values,
    fun key => (follows.current key).trans Follows.mem_current_iff, follows.once,
    Follows.live_eq follows.sound follows.distinct follows.current,
    fun unretired => (follows.tallied unretired).2, fun value => ?_, fun key => ?_,
    fun key value => ⟨fun none => ?_, fun old found => table.get?_update_self key old value found,
      fun other different => table.get?_update_other key other value different.symm⟩⟩
  · obtain ⟨chain, _, chained⟩ := follows.sound.chained
    rcases follows.sound.insert value with full | ⟨key, after, done, inserts, _⟩
    · rcases table.insert_cases value chained with ⟨_, most, _⟩ | ⟨_, _, done⟩ |
        ⟨_, _, _, _, _, _, _, done⟩
      · exact Or.inl ⟨most, full⟩
      · cases full.symm.trans done
      · cases full.symm.trans done
    · refine Or.inr ⟨key, after, done, fun member => ?_, inserts.get?_self, inserts.get?_other⟩
      exact inserts.unspent (follows.spent key (List.mem_append_left _ member))
  · rcases follows.sound.remove key with absent | ⟨value, after, found, done, removes, _⟩
    · exact Or.inl absent
    · exact Or.inr ⟨value, after, found, done, removes.get?_self, removes.get?_other⟩
  · rw [update, none]

/-- The entry of a removed value came back under the next generation, and its old key stays dead. -/
theorem history_refined_after_recycling :
    ∃ (history : KeyHistory Nat) (table : KeyTable Nat),
      Run history table ∧ history.issued = [1, 4294967296, 0] ∧ history.removed = [0] ∧
        history.issued.Nodup ∧ table.get? 0 = none ∧ table.get? 1 = some 9 ∧
        table.entries.size = 2 ∧ history.peak = 2 := by
  have first := Run.start.step _ _ _ _ (.insert (7 : Nat)) rfl
  have second := first.step _ _ _ _ (.insert 8) rfl
  have removed := second.step _ _ _ _ (.remove 0) rfl
  have third := removed.step _ _ _ _ (.insert 6) rfl
  have changed := third.step _ _ _ _ (.update 1 9) rfl
  have refined := refines_history _ _ changed
  exact ⟨_, _, changed, rfl, rfl, refined.1, (refined.2.1 0).trans rfl, (refined.2.1 1).trans rfl,
    rfl, rfl⟩

end KeyTable

end Allotment
