/-
What a drive has to keep to so that its replays come to an end. A relation says what is
held in a state; lending adds to it, taking back removes from it, and nothing else counts.
Then a replay of a trace that releases only what it holds never ends in a fault, and gives
back whatever is left. If no loan is refused, what is left is what the trace lent and did
not release.

A state must have a place for one more loan whenever the trace asks for one. That is a
condition on the states that the replay comes to, so it is carried along the trace.
-/

import Allotment.Proofs.Churn.Drive

namespace Allotment

namespace Churn

namespace Drive

variable {σ τ : Type} (drive : Drive σ τ)

/-! ### Places along a trace -/

/-- Whenever the trace asks for a loan, the state that was reached then is ready for it. -/
def Supplied (Ready : σ → Prop) (trace : List Op) (held : List τ) (state : σ) : Prop :=
  ∀ earlier size later, trace = earlier ++ .allocate size :: later →
    ∀ between next events, drive.run earlier held state = .done between next events → Ready next

section Supply

variable {drive} {Ready : σ → Prop} {rest : List Op} {held : List τ} {state next : σ}
  {events : List Event}

theorem Supplied.ready {size : Nat}
    (supplied : drive.Supplied Ready (.allocate size :: rest) held state) : Ready state :=
  supplied [] size rest rfl held state [] rfl

theorem Supplied.lent {size : Nat} {loan : τ}
    (supplied : drive.Supplied Ready (.allocate size :: rest) held state)
    (lent : drive.lend size state = .done (some loan) next events) :
    drive.Supplied Ready rest (held ++ [loan]) next := by
  intro earlier other later split between after logged reached
  refine supplied (.allocate size :: earlier) other later (congrArg _ split) between after
    (events ++ logged) ?_
  rw [run, lent]
  show (drive.run earlier (held ++ [loan]) next).after events = _
  rw [reached, Step.after]

theorem Supplied.taken {index : Nat} {loan : τ} {left : List τ}
    (supplied : drive.Supplied Ready (.release index :: rest) held state)
    (taken : Bag.take held index = .ok (loan, left))
    (back : drive.takeBack loan state = .done () next events) :
    drive.Supplied Ready rest left next := by
  intro earlier other later split between after logged reached
  refine supplied (.release index :: earlier) other later (congrArg _ split) between after
    (events ++ logged) ?_
  rw [run, taken]
  show (drive.takeBack loan state).andThen _ = _
  rw [back]
  show (drive.run earlier left next).after events = _
  rw [reached, Step.after]

end Supply

/-! ### The laws -/

/-- Lending and taking back are done, and account for what is held, in any order. Loans are of
permitted sizes, from states that are ready. -/
structure Keeps (Permits : Nat → Prop) (Ready : σ → Prop) (Holds : List τ → σ → Prop) : Prop where
  perm : ∀ held other state, Holds held state → held.Perm other → Holds other state
  lent : ∀ held state size, Holds held state → Permits size → Ready state →
    ∃ answer next events, drive.lend size state = .done answer next events ∧
      Holds (held ++ answer.toList) next
  taken : ∀ loan left state, Holds (loan :: left) state →
    ∃ next events, drive.takeBack loan state = .done () next events ∧ Holds left next

/-- No loan is refused. -/
def Grants (Permits : Nat → Prop) (Ready : σ → Prop) (Holds : List τ → σ → Prop) : Prop :=
  ∀ held state size, Holds held state → Permits size → Ready state →
    ∀ next events, drive.lend size state ≠ .done none next events

namespace Keeps

variable {drive} {Permits : Nat → Prop} {Ready : σ → Prop} {Holds : List τ → σ → Prop}
  (keeps : drive.Keeps Permits Ready Holds)

include keeps

/-- The operations of a trace are carried out, up to a loan that is refused. If none is, what the
trace lent is held or was released. -/
theorem run (trace : List Op) (held : List τ) (state : σ) (holds : Holds held state)
    (inRange : InRange held.length trace)
    (permitted : ∀ size, .allocate size ∈ trace → Permits size)
    (supplied : drive.Supplied Ready trace held state) :
    ∃ left next events, drive.run trace held state = .done left next events ∧ Holds left next ∧
      (drive.Grants Permits Ready Holds →
        left.length + releases trace = held.length + allocations trace) := by
  induction trace generalizing held state with
  | nil => exact ⟨held, state, [], rfl, holds, fun _ => rfl⟩
  | cons op rest inductionHypothesis =>
    have permittedRest : ∀ size, .allocate size ∈ rest → Permits size :=
      fun size member => permitted size (List.mem_cons_of_mem _ member)
    cases op with
    | allocate size =>
      have permits := permitted size List.mem_cons_self
      obtain ⟨answer, next, events, lent, holdsNext⟩ :=
        keeps.lent held state size holds permits supplied.ready
      cases answer with
      | none =>
        refine ⟨held, next, events, ?_, List.append_nil held ▸ holdsNext, fun grants => ?_⟩
        · rw [Drive.run, lent]
          exact congrArg _ (List.append_nil events)
        · exact absurd lent (grants held state size holds permits supplied.ready next events)
      | some loan =>
        have length : (held ++ [loan]).length = held.length + 1 := List.length_append
        obtain ⟨left, last, logged, done, holdsLast, count⟩ :=
          inductionHypothesis (held ++ [loan]) next holdsNext (length ▸ inRange) permittedRest
            (supplied.lent lent)
        refine ⟨left, last, events ++ logged, ?_, holdsLast, fun grants => ?_⟩
        · rw [Drive.run, lent]
          show (drive.run rest (held ++ [loan]) next).after events = _
          rw [done, Step.after]
        · have counted := count grants
          show left.length + releases rest = held.length + (allocations rest + 1)
          omega
    | release index =>
      obtain ⟨inside, inRangeRest⟩ := inRange
      obtain ⟨left, taken, same⟩ := Bag.exists_take held index inside
      -- The bag moves its last loan into the gap, and what is held does not depend on the order.
      obtain ⟨next, events, back, holdsNext⟩ :=
        keeps.taken held[index] left state (keeps.perm _ _ state holds same.symm)
      have length : left.length + 1 = held.length := same.length_eq
      obtain ⟨final, last, logged, done, holdsLast, count⟩ :=
        inductionHypothesis left next holdsNext (by rwa [← length] at inRangeRest) permittedRest
          (supplied.taken taken back)
      refine ⟨final, last, events ++ logged, ?_, holdsLast, fun grants => ?_⟩
      · rw [Drive.run, taken]
        show (drive.takeBack held[index] state).andThen _ = _
        rw [back]
        show (drive.run rest left next).after events = _
        rw [done, Step.after]
      · have counted := count grants
        show final.length + (releases rest + 1) = held.length + allocations rest
        omega

/-- Whatever is held can be given back. -/
theorem giveBack (held : List τ) (state : σ) (holds : Holds held state) :
    ∃ next events, drive.giveBack held state = .done () next events ∧ Holds [] next := by
  induction held generalizing state with
  | nil => exact ⟨state, [], rfl, holds⟩
  | cons loan rest inductionHypothesis =>
    obtain ⟨next, events, back, holdsNext⟩ := keeps.taken loan rest state holds
    obtain ⟨last, logged, done, holdsLast⟩ := inductionHypothesis next holdsNext
    refine ⟨last, events ++ logged, ?_, holdsLast⟩
    rw [Drive.giveBack, back]
    show (drive.giveBack rest next).after events = _
    rw [done, Step.after]

/-- A replay is done and holds nothing in the end. If no loan is refused, its answer is how many
more loans than releases the trace has. -/
theorem replay (trace : List Op) (state : σ) (holds : Holds [] state) (inRange : InRange 0 trace)
    (permitted : ∀ size, .allocate size ∈ trace → Permits size)
    (supplied : drive.Supplied Ready trace [] state) :
    ∃ number next events, drive.replay trace state = .done number next events ∧ Holds [] next ∧
      (drive.Grants Permits Ready Holds → number + releases trace = allocations trace) := by
  obtain ⟨left, between, events, done, holdsLeft, count⟩ :=
    keeps.run trace [] state holds inRange permitted supplied
  obtain ⟨next, logged, given, holdsNext⟩ := keeps.giveBack left between holdsLeft
  refine ⟨left.length, next, events ++ logged, ?_, holdsNext, fun grants => ?_⟩
  · rw [Drive.replay, done]
    show ((drive.giveBack left between).mapAnswer _).after events = _
    rw [given, Step.mapAnswer, Step.after]
  · have counted := count grants
    rwa [List.length_nil, Nat.zero_add] at counted

/-- Where no loan is refused, as many are left at the end of the trace as it lent and did not
release, and all of them are given back. -/
theorem replay_granted (grants : drive.Grants Permits Ready Holds) (trace : List Op) (state : σ)
    (holds : Holds [] state) (inRange : InRange 0 trace)
    (permitted : ∀ size, .allocate size ∈ trace → Permits size)
    (supplied : drive.Supplied Ready trace [] state) :
    ∃ next events, drive.replay trace state =
      .done (allocations trace - releases trace) next events ∧ Holds [] next := by
  obtain ⟨number, next, events, done, holdsNext, count⟩ :=
    keeps.replay trace state holds inRange permitted supplied
  refine ⟨next, events, ?_, holdsNext⟩
  rw [← count grants, Nat.add_sub_cancel, done]

end Keeps

/-! ### Places that are counted -/

/-- Each loan takes up at most one place, and a return takes up none. -/
structure Measured (places : σ → Nat) : Prop where
  lent : ∀ size state answer next events,
    drive.lend size state = .done answer next events → places next ≤ places state + 1
  taken : ∀ loan state next events,
    drive.takeBack loan state = .done () next events → places next ≤ places state

variable {drive}

/-- A replay takes up at most one place for each loan that the trace asks for. -/
theorem Measured.run {places : σ → Nat} (measured : drive.Measured places) (trace : List Op)
    (held left : List τ) (state next : σ) (events : List Event)
    (done : drive.run trace held state = .done left next events) :
    places next ≤ places state + allocations trace := by
  induction trace generalizing held state events with
  | nil =>
    cases done
    exact Nat.le_refl _
  | cons op rest inductionHypothesis =>
    cases op with
    | allocate size =>
      obtain ⟨answer, between, logged, further, lent, continued, _⟩ := Step.exists_of_andThen done
      have more := measured.lent size state answer between logged lent
      show places next ≤ places state + (allocations rest + 1)
      cases answer with
      | none =>
        cases continued
        omega
      | some loan =>
        have most := inductionHypothesis _ _ _ continued
        omega
    | release index =>
      rw [Drive.run] at done
      cases taken : Bag.take held index with
      | error reason =>
        rw [taken] at done
        cases done
      | ok pair =>
        obtain ⟨loan, kept⟩ := pair
        rw [taken] at done
        obtain ⟨_, between, logged, _, back, continued, _⟩ := Step.exists_of_andThen done
        have same := measured.taken loan state between logged back
        exact Nat.le_trans (inductionHypothesis _ _ _ continued) (Nat.add_le_add_right same _)

/-- A trace with no more loans than there are places is supplied with them. -/
theorem Measured.supplied {places : σ → Nat} (measured : drive.Measured places) (limit : Nat)
    (trace : List Op) (held : List τ) (state : σ) (few : places state + allocations trace ≤ limit) :
    drive.Supplied (fun next => places next < limit) trace held state := by
  intro earlier size later split between next events done
  have most := measured.run earlier held between state next events done
  rw [split, allocations_append] at few
  change places state + (allocations earlier + (allocations later + 1)) ≤ limit at few
  show places next < limit
  omega

end Drive

end Churn

end Allotment
