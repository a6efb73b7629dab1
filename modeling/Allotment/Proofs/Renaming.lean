/-
Runs that are each other's image under a renaming. A renaming takes states to states,
answers to answers and faults to faults. Where one step is the image of another for every
command, a whole run is the image of another, by induction on the commands.

The log is no part of what is compared: its entries are text, in which names cannot be
exchanged.
-/

import Allotment.Outcome.Step

namespace Allotment

/-! ### One step -/

namespace Step

variable {σ α β : Type}

/-- The second step does to the renamed state what the first one does, up to the log. -/
inductive Renamed (state : σ → σ) (answer : α → α) (fault : Fault → Fault) :
    Step σ α → Step σ α → Prop
  | done {value image : α} {next nextImage : σ} {events logged : List Event}
    (answers : image = answer value) (states : nextImage = state next) :
    Renamed state answer fault (.done value next events) (.done image nextImage logged)
  | fault {reason image : Fault} {events logged : List Event} (reasons : image = fault reason) :
    Renamed state answer fault (.fault reason events) (.fault image logged)

namespace Renamed

variable {state : σ → σ} {answer : α → α} {changed : β → β} {fault : Fault → Fault}
  {first second : Step σ α}

theorem mapAnswer (renamed : Renamed state answer fault first second) (change : α → β)
    (agree : ∀ value, change (answer value) = changed (change value)) :
    Renamed state changed fault (first.mapAnswer change) (second.mapAnswer change) := by
  cases renamed with
  | done answers states => exact .done ((congrArg change answers).trans (agree _)) states
  | fault reasons => exact .fault reasons

theorem after {earlier before : List Event} (renamed : Renamed state answer fault first second) :
    Renamed state answer fault (first.after earlier) (second.after before) := by
  cases renamed with
  | done answers states => exact .done answers states
  | fault reasons => exact .fault reasons

theorem andThen (renamed : Renamed state answer fault first second)
    {continuation other : α → σ → Step σ β}
    (following : ∀ value next, Renamed state changed fault (continuation value next)
      (other (answer value) (state next))) :
    Renamed state changed fault (first.andThen continuation) (second.andThen other) := by
  cases renamed with
  | done answers states =>
    subst answers states
    exact (following _ _).after
  | fault reasons => exact .fault reasons

/-- Both steps choose alike, and each choice is renamed. -/
theorem ite {condition other : Prop} [Decidable condition] [Decidable other]
    (same : other ↔ condition) {third fourth : Step σ α}
    (chosen : Renamed state answer fault first second)
    (otherwise : Renamed state answer fault third fourth) :
    Renamed state answer fault (if condition then first else third)
      (if other then second else fourth) := by
  by_cases holds : condition
  · rw [if_pos holds, if_pos (same.mpr holds)]
    exact chosen
  · rw [if_neg holds, if_neg (mt same.mp holds)]
    exact otherwise

end Renamed

end Step

/-! ### Whole runs -/

/-- What several commands came to: the answers in their order, and the last state, or the fault
that ended the run. -/
structure Outcome (σ α : Type) where
  answers : List α
  ending : Except Fault σ

namespace Outcome

variable {σ α : Type}

/-- The outcome with one more answer before the others. -/
def before (answer : α) (outcome : Outcome σ α) : Outcome σ α :=
  { outcome with answers := answer :: outcome.answers }

/-- The outcome under other names. -/
def rename (state : σ → σ) (answer : α → α) (fault : Fault → Fault) (outcome : Outcome σ α) :
    Outcome σ α where
  answers := outcome.answers.map answer
  ending := (outcome.ending.map state).mapError fault

end Outcome

variable {σ α Command : Type}

/-- Carries out commands one after the other, up to the first fault. -/
def runAll (perform : σ → Command → Step σ α) : σ → List Command → Outcome σ α
  | last, [] => ⟨[], .ok last⟩
  | current, command :: rest =>
    match perform current command with
    | .done answer next _ => (runAll perform next rest).before answer
    | .fault reason _ => ⟨[], .error reason⟩

/-- Where each step is the image of another, so are the runs. -/
theorem runAll_renamed {perform : σ → Command → Step σ α} {state : σ → σ} {answer : α → α}
    {fault : Fault → Fault} {rename : Command → Command}
    (each : ∀ current command, Step.Renamed state answer fault (perform current command)
      (perform (state current) (rename command)))
    (current : σ) (commands : List Command) :
    runAll perform (state current) (commands.map rename) =
      (runAll perform current commands).rename state answer fault := by
  -- Along the commands, the second state stays the image of the first.
  induction commands generalizing current with
  | nil => rfl
  | cons command rest inductionHypothesis =>
    have step := each current command
    rw [List.map_cons, runAll, runAll]
    generalize perform current command = original at step
    generalize perform (state current) (rename command) = image at step
    cases step with
    | done answers states =>
      subst answers states
      exact congrArg (Outcome.before _) (inductionHypothesis _)
    | fault reasons =>
      subst reasons
      rfl

/-- Where every command is the image of another, any commands may be asked of the image: they come
to the image of what the others come to. -/
theorem runAll_of_renamed {perform : σ → Command → Step σ α} {state : σ → σ} {answer : α → α}
    {fault : Fault → Fault} {rename : Command → Command}
    (each : ∀ current command, Step.Renamed state answer fault (perform current command)
      (perform (state current) (rename command)))
    {origin : Command → Command} (restores : ∀ command, rename (origin command) = command)
    (current : σ) (commands : List Command) :
    runAll perform (state current) commands =
      (runAll perform current (commands.map origin)).rename state answer fault := by
  have images : (commands.map origin).map rename = commands := by
    rw [List.map_map]
    exact List.map_id'' restores commands
  have renamed := runAll_renamed each current (commands.map origin)
  rwa [images] at renamed

end Allotment
