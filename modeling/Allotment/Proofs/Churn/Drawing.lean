/-
Traces as they are drawn. The generator draws one operation after the other and counts the
blocks on loan as it goes; a release names one of so many. What is drawn at random decides
which operations come, but not whether they fit: an index is the high half of a product with
the number of blocks, so it is below that number whatever was drawn.

The states of the generator are those that its steps lead to. In each of them the count is
what the operations drawn so far say, the loans less the releases. So the count the generator
keeps by itself and the list that a replay keeps by the trace are of one length.
-/

import Allotment.Churn.Trace
import Allotment.Proofs.Churn.Drive
import Allotment.Proofs.Churn.Odds

namespace Allotment.Churn

/-! ### Draws -/

/-- Reading on without an end is the only way not to find a number. -/
theorem drawWithin_error (bound attempts : Nat) (draws : Draws) (halt : Halt)
    (failed : drawWithin bound attempts draws = .error halt) : halt = .endless := by
  induction attempts generalizing draws with
  | zero =>
    cases failed
    rfl
  | succ attempts inductionHypothesis =>
    rw [drawWithin] at failed
    split at failed
    · cases failed
    · exact inductionHypothesis _ failed

theorem drawBelow_cases (bound : Nat) (draws : Draws) (positive : 0 < bound) :
    drawBelow bound draws = .error .endless ∨
      ∃ result later, drawBelow bound draws = .ok (result, later) ∧ result < bound := by
  rw [drawBelow, if_neg (Nat.ne_of_gt positive)]
  cases drawn : drawWithin bound period draws with
  | error halt => exact Or.inl (congrArg Except.error (drawWithin_error _ _ _ _ drawn))
  | ok pair =>
    exact Or.inr ⟨pair.1, pair.2, rfl, drawWithin_lt _ _ _ _ _ positive drawn⟩

/-- Odds that stand for a chance are always drawn at. -/
theorem Odds.exists_draw (odds : Odds) (chance : Chance) (known : odds.chance? = some chance)
    (draws : Draws) : ∃ answer later, odds.draw draws = .ok (answer, later) := by
  rw [draw, known]
  cases chance with
  | always => exact ⟨true, draws, rfl⟩
  | below threshold => exact ⟨_, _, rfl⟩

/-- With so many blocks on loan the operation can be carried out, at one of the sizes if it is a
loan, and it leaves so many. -/
def Op.Fits (sizes : List Nat) (live still : Nat) : Op → Prop
  | .allocate size => size ∈ sizes ∧ still = live + 1
  | .release index => index < live ∧ still + 1 = live

namespace Profile

/-! ### One operation -/

section Operation

variable (profile : Profile)

/-- What is drawn is a size of the profile. -/
theorem drawSize_cases (draws : Draws) (sized : profile.sizes ≠ []) :
    profile.drawSize draws = .error .endless ∨
      ∃ size later, profile.drawSize draws = .ok (size, later) ∧ size ∈ profile.sizes := by
  rcases drawBelow_cases profile.sizes.length draws (List.length_pos_iff.mpr sized) with
    failed | ⟨choice, later, drawn, inside⟩
  · refine Or.inl ?_
    rw [drawSize, failed]
    rfl
  · refine Or.inr ⟨profile.sizes[choice], later, ?_, List.getElem_mem inside⟩
    simp only [drawSize, drawn, bind, Except.bind, List.getElem?_eq_getElem inside]
    rfl

/-- A release is drawn only while something is on loan. -/
theorem exists_drawRelease (live : Nat) (draws : Draws) (chance : Chance)
    (known : profile.freeOdds.chance? = some chance) :
    ∃ isRelease later, profile.drawRelease live draws = .ok (isRelease, later) ∧
      (isRelease = true → 0 < live) := by
  unfold drawRelease
  by_cases idle : live = 0
  · rw [if_pos idle]
    exact ⟨false, draws, rfl, nofun⟩
  · rw [if_neg idle]
    obtain ⟨isRelease, later, drawn⟩ := profile.freeOdds.exists_draw chance known draws
    exact ⟨isRelease, later, drawn, fun _ => Nat.pos_of_ne_zero idle⟩

/-- The next operation fits: it is the release of one of the blocks on loan or a loan of a size of
the profile, and the count goes with it. -/
theorem drawOp_cases (live : Nat) (draws : Draws) (sized : profile.sizes ≠ []) (chance : Chance)
    (known : profile.freeOdds.chance? = some chance) :
    profile.drawOp live draws = .error .endless ∨
      ∃ op still later, profile.drawOp live draws = .ok (op, still, later) ∧
        op.Fits profile.sizes live still := by
  obtain ⟨isRelease, drawn, decided, lending⟩ :=
    profile.exists_drawRelease live draws chance known
  unfold drawOp
  rw [decided]
  cases isRelease with
  | true =>
    have positive := lending rfl
    rcases drawBelow_cases live drawn positive with failed | ⟨index, later, found, inside⟩
    · exact Or.inl (by simp only [bind, Except.bind, if_true, failed])
    · refine Or.inr ⟨.release index, live - 1, later, ?_, inside, Nat.sub_add_cancel positive⟩
      simp only [bind, Except.bind, if_true, found]
      rfl
  | false =>
    rcases profile.drawSize_cases drawn sized with failed | ⟨size, later, found, member⟩
    · exact Or.inl (by simp only [bind, Except.bind, Bool.false_eq_true, if_false, failed])
    · refine Or.inr ⟨.allocate size, live + 1, later, ?_, member, rfl⟩
      simp only [bind, Except.bind, Bool.false_eq_true, if_false, found]
      rfl

/-- The next operation stands before those that are drawn after it. -/
theorem drawOps_succ (count live : Nat) (draws : Draws) (op : Op) (still : Nat) (later : Draws)
    (next : profile.drawOp live draws = .ok (op, still, later)) :
    profile.drawOps (count + 1) live draws =
      (profile.drawOps count still later).map (op :: ·) := by
  rw [drawOps, next]
  show (profile.drawOps count still later).bind _ = _
  cases profile.drawOps count still later with
  | error halt => rfl
  | ok ops => rfl

end Operation

/-! ### The generator -/

/-- The states of the generator: what was drawn so far, how many blocks it counts as on loan, and
how far the stream is read. -/
inductive Drawn (profile : Profile) (seed : UInt64) : List Op → Nat → Draws → Prop
  | start : Drawn profile seed [] 0 (.ofSeed seed)
  | step (earlier : List Op) (live : Nat) (draws : Draws) (op : Op) (still : Nat) (later : Draws)
    (drawn : Drawn profile seed earlier live draws)
    (next : profile.drawOp live draws = .ok (op, still, later)) :
    Drawn profile seed (earlier ++ [op]) still later

section Generator

variable {profile : Profile} {seed : UInt64} {chance : Chance} (sized : profile.sizes ≠ [])
  (known : profile.freeOdds.chance? = some chance)

include sized known

theorem fits_of_drawOp {live still : Nat} {draws later : Draws} {op : Op}
    (next : profile.drawOp live draws = .ok (op, still, later)) :
    op.Fits profile.sizes live still := by
  rcases profile.drawOp_cases live draws sized chance known with failed | ⟨_, _, _, done, fits⟩
  · cases failed.symm.trans next
  · cases done.symm.trans next
    exact fits

/-- The count is that of the loans less the releases. -/
theorem Drawn.live_add {earlier : List Op} {live : Nat} {draws : Draws}
    (drawn : Drawn profile seed earlier live draws) :
    live + releases earlier = allocations earlier := by
  induction drawn with
  | start => rfl
  | step earlier live draws op still later drawn next inductionHypothesis =>
    have fits := fits_of_drawOp sized known next
    rw [releases_append, allocations_append]
    cases op with
    | release index =>
      have fewer : still + 1 = live := fits.2
      show still + (releases earlier + 1) = allocations earlier
      omega
    | allocate size =>
      have more : still = live + 1 := fits.2
      show still + releases earlier = allocations earlier + 1
      omega

/-- Drawing fails only by reading on without an end. -/
theorem drawOps_error (count live : Nat) (draws : Draws) (halt : Halt)
    (failed : profile.drawOps count live draws = .error halt) : halt = .endless := by
  induction count generalizing live draws with
  | zero => cases failed
  | succ count inductionHypothesis =>
    rcases profile.drawOp_cases live draws sized chance known with endless |
      ⟨_, still, later, next, _⟩
    · rw [drawOps, endless] at failed
      cases failed
      rfl
    · rw [profile.drawOps_succ _ _ _ _ _ _ next] at failed
      cases rest : profile.drawOps count still later with
      | error other =>
        rw [rest] at failed
        cases failed
        exact inductionHypothesis still later rest
      | ok ops =>
        rw [rest] at failed
        cases failed

omit sized known in
/-- So many operations are drawn, each in the state that those before it led to. -/
theorem drawOps_ok (count : Nat) (earlier : List Op) (live : Nat) (draws : Draws)
    (drawn : Drawn profile seed earlier live draws) (ops : List Op)
    (done : profile.drawOps count live draws = .ok ops) :
    ops.length = count ∧ ∀ front op back, ops = front ++ op :: back →
      ∃ live draws still later, Drawn profile seed (earlier ++ front) live draws ∧
        profile.drawOp live draws = .ok (op, still, later) := by
  induction count generalizing earlier live draws ops with
  | zero =>
    cases done
    exact ⟨rfl, fun front op back same => absurd same (by simp)⟩
  | succ count inductionHypothesis =>
    cases next : profile.drawOp live draws with
    | error halt =>
      rw [drawOps, next] at done
      cases done
    | ok triple =>
      obtain ⟨first, still, later⟩ := triple
      rw [profile.drawOps_succ _ _ _ _ _ _ next] at done
      cases rest : profile.drawOps count still later with
      | error halt =>
        rw [rest] at done
        cases done
      | ok others =>
        rw [rest] at done
        cases done
        obtain ⟨length, states⟩ :=
          inductionHypothesis _ _ _ (drawn.step _ _ _ first still later next) others rest
        refine ⟨congrArg (· + 1) length, fun front op back same => ?_⟩
        cases front with
        | nil =>
          cases same
          exact ⟨live, draws, still, later, (List.append_nil earlier).symm ▸ drawn, next⟩
        | cons other front =>
          cases same
          have reached := states front op back rfl
          rwa [List.append_assoc] at reached

end Generator

/-! ### Whole traces -/

/-- For a profile with a size and odds from zero to one, where there is room for the trace and no
draw reads on without an end: the trace has as many operations as the profile says, every loan is
of one of its sizes, and every release names one of the blocks that the operations before it left
on loan. The operations from the start on are those of the states of the generator, and in every
state its count and the releases make up the loans, so it never falls below zero. -/
theorem trace_well_formed (profile : Profile) (seed : UInt64) (sized : profile.sizes ≠ [])
    (value : ℚ) (odds : profile.freeOdds.value? = some value) (least : 0 ≤ value)
    (most : value ≤ 1) (room : profile.ops * opBytes < pieceLimit)
    (ends : profile.trace seed ≠ .error .endless) :
    ∃ ops, profile.trace seed = .ok ops ∧ ops.length = profile.ops ∧
      (∀ size, .allocate size ∈ ops → size ∈ profile.sizes) ∧
      (∀ earlier index later, ops = earlier ++ .release index :: later →
        index < allocations earlier - releases earlier) ∧
      (∀ earlier later, ops = earlier ++ later →
        ∃ live draws, Drawn profile seed earlier live draws) ∧
      ∀ earlier live draws, Drawn profile seed earlier live draws →
        live + releases earlier = allocations earlier := by
  have known := profile.freeOdds.chance?_of_value value odds least most
  have granted := (reserveEntries_eq_ok_iff profile.ops opBytes).mpr room
  rw [trace, granted] at ends ⊢
  cases done : profile.drawOps profile.ops 0 (.ofSeed seed) with
  | error halt =>
    cases drawOps_error sized known profile.ops 0 _ halt done
    exact absurd done ends
  | ok ops =>
    obtain ⟨length, states⟩ := drawOps_ok profile.ops [] 0 _ .start ops done
    refine ⟨ops, rfl, length, fun size member => ?_, fun earlier index later same => ?_,
      fun earlier later same => ?_, fun _ _ _ drawn => drawn.live_add sized known⟩
    · obtain ⟨earlier, later, same⟩ := List.append_of_mem member
      obtain ⟨_, _, _, _, _, next⟩ := states earlier _ later same
      exact (fits_of_drawOp sized known next).1
    · obtain ⟨live, _, _, _, drawn, next⟩ := states earlier _ later same
      have inside : index < live := (fits_of_drawOp sized known next).1
      have count : live + releases earlier = allocations earlier := drawn.live_add sized known
      omega
    · rcases List.eq_nil_or_concat earlier with rfl | ⟨front, op, rfl⟩
      · exact ⟨_, _, .start⟩
      · rw [List.concat_eq_append, List.append_assoc] at same
        obtain ⟨_, _, still, drawnLater, drawn, next⟩ := states front op later same
        rw [List.concat_eq_append]
        exact ⟨still, drawnLater, drawn.step _ _ _ op still drawnLater next⟩

/-- Two blocks are lent, and both are released again, the later one first. -/
theorem trace_well_formed_steady :
    ∃ ops, (Profile.steady 5).trace 1 = .ok ops ∧
      ops = [.allocate 16, .allocate 16, .release 1, .release 0, .allocate 25] ∧
      ops.length = 5 ∧
      1 < allocations [.allocate 16, .allocate 16] - releases [.allocate 16, .allocate 16] := by
  have drawn : ((Profile.steady 5).trace 1).toOption =
      some [.allocate 16, .allocate 16, .release 1, .release 0, .allocate 25] := by
    decide +kernel
  have ends : (Profile.steady 5).trace 1 ≠ .error .endless := fun endless => by
    rw [endless] at drawn
    cases drawn
  have half : (Profile.steady 5).freeOdds.chance? = some (.below (2 ^ 63)) := by decide +kernel
  obtain ⟨value, odds, least, most, _⟩ := (Odds.chance?_eq_some_iff _ _).mp half
  obtain ⟨ops, done, length, _, indices, _⟩ :=
    trace_well_formed (Profile.steady 5) 1 (by decide) value odds least most (by decide) ends
  rw [done] at drawn
  cases drawn
  exact ⟨_, done, rfl, length, indices [.allocate 16, .allocate 16] 1 _ rfl⟩

/-- For 2^59 operations no memory can give the room for the trace, and there is none. -/
theorem trace_overflows :
    (∃ value, Odds.value? ⟨0x3FE0000000000000⟩ = some value ∧ 0 ≤ value ∧ value ≤ 1) ∧
      Profile.trace ⟨2 ^ 59, ⟨0x3FE0000000000000⟩, [1]⟩ 1 = .error (.fault .capacityOverflow) ∧
      ¬ ∃ ops, Profile.trace ⟨2 ^ 59, ⟨0x3FE0000000000000⟩, [1]⟩ 1 = .ok ops ∧
        ops.length = 2 ^ 59 := by
  have half : Odds.chance? ⟨0x3FE0000000000000⟩ = some (.below (2 ^ 63)) := by decide +kernel
  obtain ⟨value, odds, least, most, _⟩ := (Odds.chance?_eq_some_iff _ _).mp half
  refine ⟨⟨value, odds, least, most⟩, rfl, ?_⟩
  rintro ⟨ops, done, _⟩
  cases done

end Profile

end Allotment.Churn
