/-
Steps: the outcome of one operation on a state. A step is either done, with an
answer, the next state and the events it logged, or it ends in a fault, and then
there is no next state. A refused request is done: its answer is the refusal, and
its next state shows that nothing changed.
-/

import Allotment.Outcome.Event
import Allotment.Outcome.Fault

namespace Allotment

/-- The outcome of one operation. -/
inductive Step (σ α : Type) where
  | done (answer : α) (next : σ) (events : List Event)
  | fault (reason : Fault) (events : List Event)
deriving DecidableEq

namespace Step

variable {σ τ α β : Type}

/-- The request is granted, silently. -/
abbrev granted (answer : α) (next : σ) : Step σ (Except Refusal α) :=
  .done (.ok answer) next []

/-- The request is refused, silently; the state is the one it had. -/
abbrev refused (cause : Refusal) (same : σ) : Step σ (Except Refusal α) :=
  .done (.error cause) same []

/-- Events that were logged before the step. -/
def after (earlier : List Event) : Step σ α → Step σ α
  | .done answer next events => .done answer next (earlier ++ events)
  | .fault reason events => .fault reason (earlier ++ events)

/-- Goes on from a step that is done; a fault stays a fault. -/
def andThen (step : Step σ α) (continuation : α → σ → Step τ β) : Step τ β :=
  match step with
  | .done answer next events => (continuation answer next).after events
  | .fault reason events => .fault reason events

/-- Changes the answer alone. -/
def mapAnswer (change : α → β) : Step σ α → Step σ β
  | .done answer next events => .done (change answer) next events
  | .fault reason events => .fault reason events

/-- Sees the state of a part as the state of the whole around it. -/
def within (whole : σ → τ) : Step σ α → Step τ α
  | .done answer next events => .done answer (whole next) events
  | .fault reason events => .fault reason events

/-- The step does not end in a fault. -/
def IsDone : Step σ α → Prop
  | .done .. => True
  | .fault .. => False

instance (step : Step σ α) : Decidable step.IsDone :=
  match step with
  | .done .. => .isTrue trivial
  | .fault .. => .isFalse id

@[simp] theorem after_nil (step : Step σ α) : step.after [] = step := by
  cases step <;> rfl

theorem after_after (step : Step σ α) (first second : List Event) :
    (step.after second).after first = step.after (first ++ second) := by
  cases step with
  | done answer next events => rw [after, after, after, List.append_assoc]
  | fault reason events => rw [after, after, after, List.append_assoc]

/-- Steps in a row are done if each of them is. -/
theorem exists_of_andThen {step : Step σ α} {continuation : α → σ → Step τ β} {answer : β}
    {next : τ} {events : List Event}
    (done : step.andThen continuation = .done answer next events) :
    ∃ first between earlier later, step = .done first between earlier ∧
      continuation first between = .done answer next later ∧ events = earlier ++ later := by
  cases step with
  | fault reason earlier => cases done
  | done first between earlier =>
    change (continuation first between).after earlier = _ at done
    cases continued : continuation first between with
    | fault reason later =>
      rw [continued] at done
      cases done
    | done last after later =>
      rw [continued] at done
      cases done
      exact ⟨first, between, earlier, later, rfl, continued, rfl⟩

theorem after_andThen (step : Step σ α) (earlier : List Event)
    (continuation : α → σ → Step τ β) :
    (step.after earlier).andThen continuation = (step.andThen continuation).after earlier := by
  cases step with
  | done answer next events => exact (after_after _ _ _).symm
  | fault reason events => rfl

/-- It does not matter how steps in a row are grouped. -/
theorem andThen_assoc {ρ γ : Type} (step : Step σ α) (continuation : α → σ → Step τ β)
    (further : β → τ → Step ρ γ) :
    (step.andThen continuation).andThen further =
      step.andThen fun answer next => (continuation answer next).andThen further := by
  cases step with
  | done answer next events => exact after_andThen _ _ _
  | fault reason events => rfl

theorem mapAnswer_andThen {γ : Type} (step : Step σ α) (change : α → γ)
    (continuation : γ → σ → Step τ β) :
    (step.mapAnswer change).andThen continuation =
      step.andThen fun answer next => continuation (change answer) next := by
  cases step <;> rfl

@[simp] theorem isDone_mapAnswer (step : Step σ α) (change : α → β) :
    (step.mapAnswer change).IsDone ↔ step.IsDone := by
  cases step <;> rfl

@[simp] theorem isDone_within (step : Step σ α) (whole : σ → τ) :
    (step.within whole).IsDone ↔ step.IsDone := by
  cases step <;> rfl

@[simp] theorem isDone_after (step : Step σ α) (earlier : List Event) :
    (step.after earlier).IsDone ↔ step.IsDone := by
  cases step <;> rfl

theorem mapAnswer_eq_done_iff (step : Step σ α) (change : α → β) (answer : β) (next : σ)
    (events : List Event) :
    step.mapAnswer change = .done answer next events ↔
      ∃ original, step = .done original next events ∧ change original = answer := by
  cases step with
  | fault reason logged => exact ⟨nofun, nofun⟩
  | done original after logged =>
    constructor
    · intro equal
      cases equal
      exact ⟨original, rfl, rfl⟩
    · rintro ⟨_, equal, rfl⟩
      cases equal
      rfl

theorem within_eq_done_iff (step : Step σ α) (whole : σ → τ) (answer : α) (next : τ)
    (events : List Event) :
    step.within whole = .done answer next events ↔
      ∃ part, step = .done answer part events ∧ whole part = next := by
  cases step with
  | fault reason logged => exact ⟨nofun, nofun⟩
  | done original after logged =>
    constructor
    · intro equal
      cases equal
      exact ⟨after, rfl, rfl⟩
    · rintro ⟨_, equal, rfl⟩
      cases equal
      rfl

end Step

end Allotment
