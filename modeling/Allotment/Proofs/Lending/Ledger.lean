/-
The ledger that allocators are checked against. It trusts the overlap test, so the first thing
said here is that the test answers exactly whether some word is in both ranges, whichever of them
comes first, and whether they touch, lie inside each other or are equal.

From it follows what the ledger keeps. A block is recorded only if it is apart from all others,
and taking a block out changes the places of the rest but not which blocks there are. So a handle
names at most one of them, and a release by handle takes out the one that is meant.
-/

import Allotment.Block.Ledger
import Allotment.Proofs.Lending.History
import Mathlib.Data.List.Perm.Basic

namespace Allotment

/-! ### The overlap test -/

namespace Block

/-- The block has words, and the end of its range can be counted. -/
structure IsRange (block : Block) : Prop where
  positive : 0 < block.size
  ends : block.handle.offset.toNat + block.size < sizeLimit

/-- Two blocks of a chunk and an epoch share a word exactly if the later start is before the
earlier end. -/
theorem sharesWord_iff (first second : Block) :
    first.SharesWord second ↔
      first.handle.chunk = second.handle.chunk ∧ first.handle.epoch = second.handle.epoch ∧
        max first.handle.offset.toNat second.handle.offset.toNat <
          min (first.handle.offset.toNat + first.size)
            (second.handle.offset.toNat + second.size) := by
  constructor
  · rintro ⟨chunk, epoch, position, inFirst, inSecond⟩
    have reached : max first.handle.offset.toNat second.handle.offset.toNat ≤ position :=
      Nat.max_le.mpr ⟨inFirst.1, inSecond.1⟩
    exact ⟨chunk, epoch, Nat.lt_of_le_of_lt reached (Nat.lt_min.mpr ⟨inFirst.2, inSecond.2⟩)⟩
  · rintro ⟨chunk, epoch, before⟩
    obtain ⟨beforeFirst, beforeSecond⟩ := Nat.lt_min.mp before
    exact ⟨chunk, epoch, max first.handle.offset.toNat second.handle.offset.toNat,
      ⟨Nat.le_max_left _ _, beforeFirst⟩, ⟨Nat.le_max_right _ _, beforeSecond⟩⟩

instance (first second : Block) : Decidable (first.SharesWord second) :=
  decidable_of_iff _ (sharesWord_iff first second).symm

instance (first second : Block) : Decidable (first.Apart second) :=
  inferInstanceAs (Decidable (¬ _))

/-- Of two ranges the test answers whether they share a word. An empty block would not do: inside
of a range it starts before the range ends, and the range before it does. -/
theorem overlaps_eq {first second : Block} (firstRange : first.IsRange)
    (secondRange : second.IsRange) :
    first.overlaps second = .ok (decide (first.SharesWord second)) := by
  have firstWords := firstRange.positive
  have secondWords := secondRange.positive
  unfold overlaps
  by_cases joint : first.handle.chunk = second.handle.chunk ∧
      first.handle.epoch = second.handle.epoch
  · rw [if_pos joint, addSizes_eq_ok _ _ firstRange.ends, addSizes_eq_ok _ _ secondRange.ends]
    have shared : first.SharesWord second ↔
        first.handle.offset.toNat < second.handle.offset.toNat + second.size ∧
          second.handle.offset.toNat < first.handle.offset.toNat + first.size := by
      rw [sharesWord_iff]
      exact ⟨fun ⟨_, _, before⟩ => by omega, fun before => ⟨joint.1, joint.2, by omega⟩⟩
    by_cases before : first.handle.offset.toNat < second.handle.offset.toNat + second.size
    · simp only [if_true, Except.map, shared, before, true_and]
    · simp only [if_false, shared, before, false_and, decide_false]
  · rw [if_neg joint, decide_eq_false fun shared => joint ⟨shared.1, shared.2.1⟩]

/-- The order of the two ranges does not matter. -/
theorem overlaps_comm {first second : Block} (firstRange : first.IsRange)
    (secondRange : second.IsRange) : second.overlaps first = first.overlaps second := by
  rw [overlaps_eq firstRange secondRange, overlaps_eq secondRange firstRange]
  exact congrArg Except.ok (decide_eq_decide.mpr ⟨SharesWord.symm, SharesWord.symm⟩)

end Block

namespace Ledger

/-! ### What a call does -/

section Calls

variable (ledger : Ledger)

/-- Among ranges the first one that shares a word is found. -/
theorem clash?_eq {block : Block} (range : block.IsRange) (blocks : List Block)
    (ranges : ∀ recorded ∈ blocks, recorded.IsRange) :
    clash? block blocks = .ok (blocks.find? (block.SharesWord ·)) := by
  induction blocks with
  | nil => rfl
  | cons recorded rest inductionHypothesis =>
    have compared := Block.overlaps_eq range (ranges recorded List.mem_cons_self)
    have others := inductionHypothesis fun other member =>
      ranges other (List.mem_cons_of_mem _ member)
    unfold clash?
    by_cases shared : block.SharesWord recorded
    · rw [compared, List.find?_cons, decide_eq_true shared]
    · rw [compared, List.find?_cons, decide_eq_false shared]
      exact others

/-- A range goes to the end of the ledger if it is apart from all blocks there; otherwise the
first block that it shares a word with is answered. -/
theorem record_cases (ranges : ∀ recorded ∈ ledger.blocks, recorded.IsRange) (block : Block)
    (range : block.IsRange) :
    ((∀ recorded ∈ ledger.blocks, block.Apart recorded) ∧
      ledger.record block = .ok (.ok ⟨ledger.blocks ++ [block]⟩)) ∨
    ∃ earlier clash later, ledger.blocks = earlier ++ clash :: later ∧
      (∀ recorded ∈ earlier, block.Apart recorded) ∧ block.SharesWord clash ∧
      ledger.record block = .ok (.error clash) := by
  have searched := clash?_eq range ledger.blocks ranges
  unfold record
  cases found : ledger.blocks.find? (block.SharesWord ·) with
  | none =>
    rw [searched, found]
    refine Or.inl ⟨fun recorded member shared => ?_, rfl⟩
    exact List.find?_eq_none.mp found recorded member (decide_eq_true shared)
  | some clash =>
    rw [searched, found]
    obtain ⟨shared, earlier, later, split, passed⟩ := List.find?_eq_some_iff_append.mp found
    refine Or.inr ⟨earlier, clash, later, split, fun recorded member => ?_,
      of_decide_eq_true shared, rfl⟩
    exact of_decide_eq_false ((Bool.not_eq_true' _).mp (passed recorded member))

/-- What lies inside the ledger is taken out, and the others stay. -/
theorem releaseAt_of_lt (index : Nat) (inside : index < ledger.blocks.length) :
    ∃ rest, ledger.releaseAt index = .ok (ledger.blocks[index], rest) ∧
      (ledger.blocks[index] :: rest.blocks).Perm ledger.blocks := by
  obtain ⟨left, taken, same⟩ := Bag.exists_take ledger.blocks index inside
  exact ⟨⟨left⟩, by rw [releaseAt, taken]; rfl, same⟩

theorem releaseAt_of_le (index : Nat) (past : ledger.blocks.length ≤ index) :
    ledger.releaseAt index = .error (.takePastEnd index ledger.blocks.length) := by
  rw [releaseAt, (Bag.take_eq_error_iff ledger.blocks index).mpr past]
  rfl

/-- A handle is not found exactly if no block has it; otherwise a block of that handle is taken
out, and the others stay. -/
theorem release_cases (handle : Handle) :
    ((∀ block ∈ ledger.blocks, block.handle ≠ handle) ∧ ledger.release handle = .ok none) ∨
    ∃ size rest, ledger.release handle = .ok (some (size, rest)) ∧
      (⟨handle, size⟩ :: rest.blocks).Perm ledger.blocks := by
  unfold release
  cases found : ledger.blocks.findIdx? (·.handle == handle) with
  | none =>
    refine Or.inl ⟨fun block member => ?_, rfl⟩
    exact beq_eq_false_iff_ne.mp (List.findIdx?_eq_none_iff.mp found block member)
  | some index =>
    obtain ⟨inside, names, _⟩ := List.findIdx?_eq_some_iff_getElem.mp found
    obtain ⟨rest, taken, same⟩ := ledger.releaseAt_of_lt index inside
    have named : ledger.blocks[index] = ⟨handle, ledger.blocks[index].size⟩ := by
      rw [← beq_iff_eq.mp names]
    refine Or.inr ⟨ledger.blocks[index].size, rest, ?_, named ▸ same⟩
    simp only [taken, Except.map]

end Calls

/-! ### Calls in order -/

/-- A call of a ledger. -/
inductive Command where
  | record (block : Block)
  | release (handle : Handle)
  | releaseAt (index : Nat)

/-- What a call of a ledger answers. -/
inductive Answer where
  | recorded
  | clash (recorded : Block)
  | released (size : Option Nat)
  | taken (block : Block)

/-- Carries out a command. A refused block and a handle that is not found leave the ledger as it
is. -/
def perform (ledger : Ledger) : Command → Except Fault (Answer × Ledger)
  | .record block => (ledger.record block).map fun
    | .ok next => (.recorded, next)
    | .error clash => (.clash clash, ledger)
  | .release handle => (ledger.release handle).map fun
    | some (size, rest) => (.released (some size), rest)
    | none => (.released none, ledger)
  | .releaseAt index => (ledger.releaseAt index).map fun (block, rest) => (.taken block, rest)

/-- What an answer says that happened. -/
def Command.deeds : Command → Answer → History
  | .record block, .recorded => [.lent block]
  | .release handle, .released (some size) => [.returned ⟨handle, size⟩]
  | .releaseAt _, .taken block => [.returned block]
  | _, _ => []

/-- Only ranges are recorded; handles and places may be any. -/
def Command.OfRange : Command → Prop
  | .record block => block.IsRange
  | _ => True

/-- The histories and ledgers that commands lead to, from the empty ledger on. A command that ends
in a fault leads nowhere. -/
inductive Run : History → Ledger → Prop
  | start : Run [] empty
  | step (history : History) (before after : Ledger) (command : Command) (answer : Answer)
    (run : Run history before) (range : command.OfRange)
    (performed : before.perform command = .ok (answer, after)) :
    Run (command.deeds answer ++ history) after

/-! ### What every ledger keeps -/

/-- The ledger has the blocks that are on loan by the history, and they are ranges that share no
word. -/
structure Sound (history : History) (ledger : Ledger) : Prop where
  loans : ledger.blocks.Perm history.loans
  ranges : ∀ block ∈ ledger.blocks, block.IsRange
  apart : ledger.blocks.Pairwise Block.Apart

namespace Sound

variable {history : History} {ledger : Ledger} (sound : Sound history ledger)

include sound

theorem distinct : (ledger.blocks.map (·.handle)).Nodup :=
  Block.nodup_handles sound.apart fun block member => (sound.ranges block member).positive

theorem recorded {block : Block} (range : block.IsRange)
    (apart : ∀ recorded ∈ ledger.blocks, block.Apart recorded) :
    Sound (.lent block :: history) ⟨ledger.blocks ++ [block]⟩ where
  loans := (List.perm_append_singleton _ _).trans (sound.loans.cons block)
  ranges other member := by
    rcases List.mem_append.mp member with older | same
    · exact sound.ranges other older
    · exact List.mem_singleton.mp same ▸ range
  apart := List.pairwise_append.mpr ⟨sound.apart, List.pairwise_singleton _ _,
    fun other member _ same => List.mem_singleton.mp same ▸ (apart other member).symm⟩

/-- The places of the blocks that stay do not matter. -/
theorem taken {block : Block} {rest : Ledger} (same : (block :: rest.blocks).Perm ledger.blocks) :
    Sound (.returned block :: history) rest where
  loans := (List.cons_perm_iff_perm_erase.mp (same.trans sound.loans)).2
  ranges other member := sound.ranges other (same.mem_iff.mp (List.mem_cons_of_mem _ member))
  apart := ((same.pairwise_iff Block.Apart.symm).mpr sound.apart).of_cons

theorem perform {command : Command} {answer : Answer} {after : Ledger}
    (range : command.OfRange) (performed : ledger.perform command = .ok (answer, after)) :
    Sound (command.deeds answer ++ history) after := by
  cases command with
  | record block =>
    rcases ledger.record_cases sound.ranges block range with
      ⟨apart, recorded⟩ | ⟨_, _, _, _, _, _, refused⟩
    · rw [Ledger.perform, recorded] at performed
      cases performed
      exact sound.recorded range apart
    · rw [Ledger.perform, refused] at performed
      cases performed
      exact sound
  | release handle =>
    rcases ledger.release_cases handle with ⟨_, missing⟩ | ⟨size, rest, released, same⟩
    · rw [Ledger.perform, missing] at performed
      cases performed
      exact sound
    · rw [Ledger.perform, released] at performed
      cases performed
      exact sound.taken same
  | releaseAt index =>
    by_cases inside : index < ledger.blocks.length
    · obtain ⟨rest, taken, same⟩ := ledger.releaseAt_of_lt index inside
      rw [Ledger.perform, taken] at performed
      cases performed
      exact sound.taken same
    · rw [Ledger.perform, ledger.releaseAt_of_le index (Nat.le_of_not_lt inside)] at performed
      cases performed

/-- A range is recorded exactly if it shares no word with a recorded block. Otherwise the first
block that it shares one with is answered. -/
theorem perform_record {block : Block} (range : block.IsRange) :
    ((∃ next, ledger.perform (.record block) = .ok (.recorded, next) ∧
        next.blocks = ledger.blocks ++ [block]) ↔
      ∀ recorded ∈ ledger.blocks, block.Apart recorded) ∧
    ((∃ recorded ∈ ledger.blocks, block.SharesWord recorded) →
      ∃ earlier clash later, ledger.blocks = earlier ++ clash :: later ∧
        (∀ recorded ∈ earlier, block.Apart recorded) ∧ block.SharesWord clash ∧
        ledger.perform (.record block) = .ok (.clash clash, ledger)) := by
  rcases ledger.record_cases sound.ranges block range with
    ⟨apart, recorded⟩ | ⟨earlier, clash, later, split, passed, shared, refused⟩
  · refine ⟨⟨fun _ => apart, fun _ => ⟨_, by rw [Ledger.perform, recorded]; rfl, rfl⟩⟩, ?_⟩
    rintro ⟨other, member, shared⟩
    exact absurd shared (apart other member)
  · have answered : ledger.perform (.record block) = .ok (.clash clash, ledger) := by
      rw [Ledger.perform, refused]
      rfl
    refine ⟨⟨fun ⟨next, done, _⟩ => ?_, fun apart => ?_⟩,
      fun _ => ⟨earlier, clash, later, split, passed, shared, answered⟩⟩
    · rw [answered] at done
      cases done
    · exact absurd shared (apart clash (split ▸ List.mem_append_right _ List.mem_cons_self))

/-- A release by handle takes out the one block of that handle. -/
theorem perform_release {block : Block} (member : block ∈ ledger.blocks) :
    ∃ rest, ledger.perform (.release block.handle) = .ok (.released (some block.size), rest) ∧
      (block :: rest.blocks).Perm ledger.blocks ∧
      ∀ other ∈ rest.blocks, other.handle ≠ block.handle := by
  rcases ledger.release_cases block.handle with ⟨missing, _⟩ | ⟨size, rest, released, same⟩
  · exact absurd rfl (missing block member)
  · have found : ⟨block.handle, size⟩ = block := Block.eq_of_handle_eq sound.distinct
      (same.mem_iff.mp List.mem_cons_self) member rfl
    obtain rfl : size = block.size := congrArg Block.size found
    obtain ⟨_, left⟩ := List.cons_perm_iff_perm_erase.mp same
    exact ⟨rest, by rw [Ledger.perform, released]; rfl, same, fun other present =>
      Block.handle_ne_of_mem_erase sound.distinct member (left.mem_iff.mp present)⟩

end Sound

theorem sound_of_run {history : History} {ledger : Ledger} (run : Run history ledger) :
    Sound history ledger := by
  induction run with
  | start => exact ⟨.refl _, nofun, .nil⟩
  | step history before after command answer run range performed inductionHypothesis =>
    exact inductionHypothesis.perform range performed

/-- Of two ranges, in either order, the overlap test answers whether some word of one chunk and
one epoch is in both. So after any records of ranges and any releases a ledger has the blocks that
were recorded and not released since, no two of them share a word, and no two have the same
handle. A range is recorded exactly if it shares no word with any of them; otherwise the first one
that it shares a word with is answered, and nothing changes. A release by handle takes out the one
block of that handle and answers its size, or nothing changes because there is none; a release by
place takes out the block there, or is a fault past the end. All other blocks stay. -/
theorem refuses_exactly_what_overlaps :
    (∀ first second : Block, first.IsRange → second.IsRange →
      (first.overlaps second = .ok true ↔ first.SharesWord second) ∧
      (first.overlaps second = .ok false ↔ first.Apart second) ∧
      second.overlaps first = first.overlaps second) ∧
    ∀ (history : History) (ledger : Ledger), Run history ledger →
      ledger.blocks.Perm history.loans ∧
      ledger.blocks.Pairwise Block.Apart ∧
      (ledger.blocks.map (·.handle)).Nodup ∧
      (∀ block : Block, block.IsRange →
        ((∃ next, ledger.perform (.record block) = .ok (.recorded, next) ∧
            next.blocks = ledger.blocks ++ [block]) ↔
          ∀ recorded ∈ ledger.blocks, block.Apart recorded) ∧
        ((∃ recorded ∈ ledger.blocks, block.SharesWord recorded) →
          ∃ earlier clash later, ledger.blocks = earlier ++ clash :: later ∧
            (∀ recorded ∈ earlier, block.Apart recorded) ∧ block.SharesWord clash ∧
            ledger.perform (.record block) = .ok (.clash clash, ledger))) ∧
      (∀ block ∈ ledger.blocks, ∃ rest,
        ledger.perform (.release block.handle) = .ok (.released (some block.size), rest) ∧
          (block :: rest.blocks).Perm ledger.blocks ∧
          ∀ other ∈ rest.blocks, other.handle ≠ block.handle) ∧
      (∀ handle, (∀ block ∈ ledger.blocks, block.handle ≠ handle) →
        ledger.perform (.release handle) = .ok (.released none, ledger)) ∧
      (∀ (index : Nat) (inside : index < ledger.blocks.length), ∃ rest,
        ledger.perform (.releaseAt index) = .ok (.taken ledger.blocks[index], rest) ∧
          (ledger.blocks[index] :: rest.blocks).Perm ledger.blocks) ∧
      ∀ index, ledger.blocks.length ≤ index →
        ledger.perform (.releaseAt index) =
          .error (.takePastEnd index ledger.blocks.length) := by
  refine ⟨fun first second firstRange secondRange => ?_, fun history ledger run => ?_⟩
  · have answered := Block.overlaps_eq firstRange secondRange
    refine ⟨?_, ?_, Block.overlaps_comm firstRange secondRange⟩
    · rw [answered, Except.ok.injEq, decide_eq_true_iff]
    · rw [answered, Except.ok.injEq, decide_eq_false_iff_not]
      rfl
  · have sound := sound_of_run run
    refine ⟨sound.loans, sound.apart, sound.distinct, fun block range => sound.perform_record range,
      fun block member => sound.perform_release member, fun handle missing => ?_,
      fun index inside => ?_, fun index past => ?_⟩
    · rcases ledger.release_cases handle with ⟨_, answered⟩ | ⟨size, rest, _, same⟩
      · rw [perform, answered]
        rfl
      · exact absurd rfl (missing ⟨handle, size⟩ (same.mem_iff.mp List.mem_cons_self))
    · obtain ⟨rest, taken, same⟩ := ledger.releaseAt_of_lt index inside
      exact ⟨rest, by rw [perform, taken]; rfl, same⟩
    · rw [perform, ledger.releaseAt_of_le index past]
      rfl

/-- Of three blocks that touch, the first is released, so that the last one takes its place, and
then released once more in vain. A block across the other two is refused for the one that moved,
and a block in the gap is recorded. -/
theorem overlap_refused_after_move :
    ∃ (history : History) (ledger : Ledger), Run history ledger ∧
      ledger.blocks = [⟨⟨0, 6, 0⟩, 3⟩, ⟨⟨0, 4, 0⟩, 2⟩] ∧
      history.loans = [⟨⟨0, 6, 0⟩, 3⟩, ⟨⟨0, 4, 0⟩, 2⟩] ∧
      ledger.blocks.Pairwise Block.Apart ∧
      Block.overlaps ⟨⟨0, 5, 0⟩, 2⟩ ⟨⟨0, 6, 0⟩, 3⟩ = .ok true ∧
      Block.SharesWord ⟨⟨0, 5, 0⟩, 2⟩ ⟨⟨0, 6, 0⟩, 3⟩ ∧
      ledger.perform (.record ⟨⟨0, 5, 0⟩, 2⟩) = .ok (.clash ⟨⟨0, 6, 0⟩, 3⟩, ledger) ∧
      ∃ next, ledger.perform (.record ⟨⟨0, 0, 0⟩, 4⟩) = .ok (.recorded, next) := by
  have first : Block.IsRange ⟨⟨0, 0, 0⟩, 4⟩ := ⟨by decide, by decide⟩
  have middle : Block.IsRange ⟨⟨0, 4, 0⟩, 2⟩ := ⟨by decide, by decide⟩
  have last : Block.IsRange ⟨⟨0, 6, 0⟩, 3⟩ := ⟨by decide, by decide⟩
  have across : Block.IsRange ⟨⟨0, 5, 0⟩, 2⟩ := ⟨by decide, by decide⟩
  have one := Run.start.step _ _ _ (.record _) _ first rfl
  have two := one.step _ _ _ (.record _) _ middle rfl
  have three := two.step _ _ _ (.record _) _ last rfl
  have released := three.step _ _ _ (.release ⟨0, 0, 0⟩) _ trivial rfl
  have missing := released.step _ _ _ (.release ⟨0, 0, 0⟩) _ trivial rfl
  obtain ⟨test, ledgers⟩ := refuses_exactly_what_overlaps
  obtain ⟨_, apart, _, recording, _⟩ := ledgers _ _ missing
  have shared := (test _ _ across last).1
  obtain ⟨next, done, _⟩ := (recording _ first).1.mpr (by decide)
  exact ⟨_, _, missing, rfl, rfl, apart, rfl, shared.mp rfl, rfl, next, done⟩

end Ledger

end Allotment
