/-
Replays, whatever they are carried out on. All of them lend, keep what they were lent in
a bag, take back what the trace names, and at the end take back the rest; they differ in
what lending and taking back is. A drive is these two, and the replays of a trace on word
allocators, on item pools and on plain values are the replays of three drives.

What a drive has to keep to is said in `Keeps`. Every replay of a trace that releases only
what it holds is then done, and ends with nothing held.
-/

import Allotment.Churn.Replay

namespace Allotment

namespace Churn

/-! ### Traces that release what they hold -/

/-- With so many blocks held, every release of the trace names one that is held then. -/
def InRange : Nat → List Op → Prop
  | _, [] => True
  | held, .allocate _ :: rest => InRange (held + 1) rest
  | held, .release index :: rest => index < held ∧ InRange (held - 1) rest

instance decidableInRange : (held : Nat) → (trace : List Op) → Decidable (InRange held trace)
  | _, [] => .isTrue trivial
  | held, .allocate _ :: rest => decidableInRange (held + 1) rest
  | held, .release index :: rest =>
    have := decidableInRange (held - 1) rest
    inferInstanceAs (Decidable (index < held ∧ InRange (held - 1) rest))

/-- How many loans a trace asks for. -/
def allocations : List Op → Nat
  | [] => 0
  | .allocate _ :: rest => allocations rest + 1
  | .release _ :: rest => allocations rest

/-- How many releases a trace asks for. -/
def releases : List Op → Nat
  | [] => 0
  | .allocate _ :: rest => releases rest
  | .release _ :: rest => releases rest + 1

theorem allocations_append (first second : List Op) :
    allocations (first ++ second) = allocations first + allocations second := by
  induction first with
  | nil => exact (Nat.zero_add _).symm
  | cons op rest inductionHypothesis =>
    cases op with
    | allocate size =>
      show allocations (rest ++ second) + 1 = allocations rest + 1 + allocations second
      omega
    | release index => exact inductionHypothesis

theorem releases_append (first second : List Op) :
    releases (first ++ second) = releases first + releases second := by
  induction first with
  | nil => exact (Nat.zero_add _).symm
  | cons op rest inductionHypothesis =>
    cases op with
    | allocate size => exact inductionHypothesis
    | release index =>
      show releases (rest ++ second) + 1 = releases rest + 1 + releases second
      omega

/-- A trace that releases only what it holds has no more releases than loans. -/
theorem InRange.releases_le {held : Nat} {trace : List Op} (inRange : InRange held trace) :
    releases trace ≤ held + allocations trace := by
  induction trace generalizing held with
  | nil => exact Nat.zero_le _
  | cons op rest inductionHypothesis =>
    cases op with
    | allocate size =>
      have fewer := inductionHypothesis inRange
      show releases rest ≤ held + (allocations rest + 1)
      omega
    | release index =>
      obtain ⟨inside, inRangeRest⟩ := inRange
      have fewer := inductionHypothesis inRangeRest
      show releases rest + 1 ≤ held + allocations rest
      omega

section Loans

variable (sizes : List Nat)

/-- A trace of nothing but loans. -/
theorem inRange_loans (held : Nat) : InRange held (sizes.map .allocate) := by
  induction sizes generalizing held with
  | nil => trivial
  | cons size rest inductionHypothesis => exact inductionHypothesis (held + 1)

theorem allocations_loans : allocations (sizes.map .allocate) = sizes.length := by
  induction sizes with
  | nil => rfl
  | cons size rest inductionHypothesis => exact congrArg (· + 1) inductionHypothesis

theorem releases_loans : releases (sizes.map .allocate) = 0 := by
  induction sizes with
  | nil => rfl
  | cons size rest inductionHypothesis => exact inductionHypothesis

end Loans

/-! ### Drives -/

/-- What a replay is carried out on: how a block of a size is lent, if it is, and how a loan is
taken back. -/
structure Drive (σ τ : Type) where
  lend : Nat → σ → Step σ (Option τ)
  takeBack : τ → σ → Step σ Unit

namespace Drive

variable {σ τ : Type} (drive : Drive σ τ)

/-- Carries out operations; answers what is held at the end. -/
def run : List Op → List τ → σ → Step σ (List τ)
  | [], held, state => .done held state []
  | .allocate size :: rest, held, state =>
    (drive.lend size state).andThen fun answer next =>
      match answer with
      | none => .done held next []
      | some loan => run rest (held ++ [loan]) next
  | .release index :: rest, held, state =>
    match Bag.take held index with
    | .error reason => .fault reason []
    | .ok (loan, left) =>
      (drive.takeBack loan state).andThen fun _ next => run rest left next

/-- Takes loans back, one after the other. -/
def giveBack : List τ → σ → Step σ Unit
  | [], state => .done () state []
  | loan :: rest, state => (drive.takeBack loan state).andThen fun _ next => giveBack rest next

/-- Replays a trace. -/
def replay (trace : List Op) (state : σ) : Step σ Nat :=
  (drive.run trace [] state).andThen fun held next =>
    (drive.giveBack held next).mapAnswer fun _ => held.length

/-! ### The three kinds of replays -/

/-- Blocks of a word allocator, each with its size in its first word. -/
def words [Allocator σ] (memory : Memory) : Drive σ Block where
  lend size allocator := (Allocator.allocate memory allocator size).andThen fun answer next =>
    match answer with
    | .error _ => .done none next []
    | .ok handle => .done (some ⟨handle, size⟩) (stamp next handle size) []
  takeBack block allocator := Allocator.deallocate allocator block.handle block.size

/-- Items of a pool. -/
def items (memory : Memory) : Drive (ItemPool Quad) ItemHandle where
  lend size pool := (pool.allocate memory ⟨size.toUInt64⟩).mapAnswer Except.toOption
  takeBack handle pool := (pool.deallocate handle).mapAnswer fun _ => ()

/-- Plain values, which need no store. -/
def plain : Drive Unit Quad where
  lend size store := .done (some ⟨size.toUInt64⟩) store []
  takeBack _ store := .done () store []

theorem runWords_eq [Allocator σ] (memory : Memory) (trace : List Op) (held : List Block)
    (allocator : σ) :
    runWords memory trace held allocator = (words memory).run trace held allocator := by
  induction trace generalizing held allocator with
  | nil => rfl
  | cons op rest inductionHypothesis =>
    cases op with
    | allocate size =>
      rw [runWords, run, words, Step.andThen_assoc]
      congr 1
      funext answer next
      cases answer with
      | error cause => rfl
      | ok handle => exact (inductionHypothesis _ _).trans (Step.after_nil _).symm
    | release index =>
      rw [runWords, run]
      cases Bag.take held index with
      | error reason => rfl
      | ok taken =>
        obtain ⟨block, left⟩ := taken
        simp only [inductionHypothesis]
        rfl

theorem replayWords_eq [Allocator σ] (memory : Memory) (allocator : σ) (trace : List Op) :
    replayWords memory allocator trace = (words memory).replay trace allocator := by
  have gives : ∀ (held : List Block) (state : σ),
      Churn.giveBack held state = (words memory).giveBack held state := by
    intro held
    induction held with
    | nil => exact fun _ => rfl
    | cons block rest inductionHypothesis =>
      intro state
      rw [Churn.giveBack, giveBack]
      simp only [inductionHypothesis]
      rfl
  rw [replayWords, replay, runWords_eq]
  simp only [gives]

theorem runItems_eq (memory : Memory) (trace : List Op) (held : List ItemHandle)
    (pool : ItemPool Quad) :
    runItems memory trace held pool = (items memory).run trace held pool := by
  induction trace generalizing held pool with
  | nil => rfl
  | cons op rest inductionHypothesis =>
    cases op with
    | allocate size =>
      rw [runItems, run, items, Step.mapAnswer_andThen]
      congr 1
      funext answer next
      cases answer with
      | error returned => rfl
      | ok handle => exact inductionHypothesis _ _
    | release index =>
      rw [runItems, run]
      cases Bag.take held index with
      | error reason => rfl
      | ok taken =>
        obtain ⟨handle, left⟩ := taken
        simp only [inductionHypothesis, items, Step.mapAnswer_andThen]

theorem replayItems_eq (memory : Memory) (pool : ItemPool Quad) (trace : List Op) :
    replayItems memory pool trace = (items memory).replay trace pool := by
  have gives : ∀ (held : List ItemHandle) (state : ItemPool Quad),
      takeOut held state = (items memory).giveBack held state := by
    intro held
    induction held with
    | nil => exact fun _ => rfl
    | cons handle rest inductionHypothesis =>
      intro state
      rw [takeOut, giveBack, items, Step.mapAnswer_andThen]
      simp only [inductionHypothesis]
      rfl
  rw [replayItems, replay, runItems_eq]
  simp only [gives]

/-- The values that are kept are those that the drive holds. -/
theorem runPlain_eq (trace : List Op) (held : List Quad) : plain.run trace held () =
    match runPlain trace held with
    | .error reason => .fault reason []
    | .ok left => .done left () [] := by
  induction trace generalizing held with
  | nil => rfl
  | cons op rest inductionHypothesis =>
    cases op with
    | allocate size => exact (Step.after_nil _).trans (inductionHypothesis _)
    | release index =>
      rw [runPlain, run]
      cases Bag.take held index with
      | error reason => rfl
      | ok taken => exact (Step.after_nil _).trans (inductionHypothesis _)

end Drive

end Churn

end Allotment
