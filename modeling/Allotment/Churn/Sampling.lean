/-
Drawing from a stream: a number below a bound, each with the same chance, and a yes
or no at given odds. The odds are the bits of a float, decoded exactly: a yes is a
draw below the chance's share of all 64-bit numbers.
-/

import Allotment.Churn.Stream
import Allotment.Outcome.Fault

namespace Allotment.Churn

/-- Why drawing did not come to an end: a precondition is broken, or the whole stream was
read without an acceptable number. -/
inductive Halt where
  | fault (reason : Fault)
  | endless
deriving DecidableEq

/-- How many numbers of 64 bits there are. -/
def wordRange : Nat := 2 ^ 64

/-! ### A number below a bound -/

/-- The largest low half of a product that is accepted: the bound with its highest bit moved
to the top, less one. -/
def acceptanceZone (bound : Nat) : Nat :=
  (bound <<< (63 - bound.log2)) - 1

/-- Reads numbers until the low half of number times bound is accepted, at most so many
times; the high half of that product is the result. -/
def drawWithin (bound : Nat) : Nat → Draws → Except Halt (Nat × Draws)
  | 0, _ => .error .endless
  | attempts + 1, draws =>
    let product := draws.next.1.toNat * bound
    if product % wordRange ≤ acceptanceZone bound then
      .ok (product / wordRange, draws.next.2)
    else drawWithin bound attempts draws.next.2

/-- Draws a number below a bound. -/
def drawBelow (bound : Nat) (draws : Draws) : Except Halt (Nat × Draws) :=
  if bound = 0 then .error (.fault .emptyRange) else drawWithin bound period draws

/-- A drawn number is below the bound, since it is the high half of a product with it. -/
theorem drawWithin_lt (bound attempts result : Nat) (draws later : Draws)
    (positive : 0 < bound) (drawn : drawWithin bound attempts draws = .ok (result, later)) :
    result < bound := by
  induction attempts generalizing draws with
  | zero => exact nomatch drawn
  | succ attempts inductionHypothesis =>
    rw [drawWithin] at drawn
    split at drawn
    · cases drawn
      have small := draws.next.1.toNat_lt
      exact Nat.div_lt_of_lt_mul (Nat.mul_lt_mul_of_pos_right small positive)
    · exact inductionHypothesis _ drawn

/-! ### A yes or no -/

/-- The bits of a 64-bit float. -/
structure Odds where
  bits : UInt64
deriving DecidableEq

/-- Odds that can be drawn at: always yes without a draw, or yes for a draw below a
threshold. -/
inductive Chance where
  | always
  | below (threshold : Nat)
deriving DecidableEq

namespace Odds

/-- The float one. -/
def one : Odds := ⟨0x3FF0000000000000⟩

/-- The exponent field of the float. -/
def exponent (odds : Odds) : Nat :=
  (odds.bits.toNat / 2 ^ 52) % 2 ^ 11

/-- The fraction field of the float. -/
def fraction (odds : Odds) : Nat :=
  odds.bits.toNat % 2 ^ 52

/-- The sign bit of the float is set. -/
def isNegative (odds : Odds) : Bool :=
  2 ^ 63 ≤ odds.bits.toNat

/-- The whole part of the float times 2^64, for a float from zero to one. A float below the
normal ones is far below 2^-64. -/
def threshold (odds : Odds) : Nat :=
  if odds.exponent = 0 then 0
  else ((2 ^ 52 + odds.fraction) <<< odds.exponent) / 2 ^ 1011

/-- The chance that the odds stand for; floats outside zero to one, and those that are no
number, stand for none. Zero has two signs. -/
def chance? (odds : Odds) : Option Chance :=
  if odds = one then some .always
  else if odds.isNegative then
    if odds.exponent = 0 ∧ odds.fraction = 0 then some (.below 0) else none
  else if odds.exponent < 1023 then some (.below odds.threshold)
  else none

/-- Draws a yes or no. -/
def draw (odds : Odds) (draws : Draws) : Except Halt (Bool × Draws) :=
  match odds.chance? with
  | none => .error (.fault .invalidProbability)
  | some .always => .ok (true, draws)
  | some (.below threshold) => .ok (draws.next.1.toNat < threshold, draws.next.2)

end Odds

end Allotment.Churn
