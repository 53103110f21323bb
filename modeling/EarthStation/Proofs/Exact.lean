import EarthStation.Pass
import EarthStation.Proofs.Visibility.Seen
import Mathlib.Analysis.Real.Sqrt
import Mathlib.Algebra.Order.Floor.Semiring
import Mathlib.Data.Rat.Cast.OfScientific
import Mathlib.Tactic.Linarith
import Mathlib.Tactic.NormNum

/-!
# Exact — the search read in exact arithmetic

* `Scalar ℝ`, `Timeline ℝ ℝ`: real numbers as scalars, and as instants counted in minutes.
* `abs_roundAway_sub_le`, `le_roundAway`, `roundAway_le`: how far rounding moves a number.
* `stepBound_eq`, `walk_succ` and the equations of the constants: what the definitions of the search
  say of real numbers.
-/

namespace EarthStation

/-- The nearest whole number, halves away from zero. -/
noncomputable def roundAway (x : ℝ) : ℤ := if 0 ≤ x then ⌊x + 1 / 2⌋ else ⌈x - 1 / 2⌉

noncomputable instance : Scalar ℝ where
  decideLT := inferInstance
  decideLE := inferInstance
  natural n := n
  isFinite _ := true
  round x := roundAway x
  nearestIn lo hi x := max lo (min hi (roundAway x))
  ceiling x := ⌈x⌉₊
  wrap x y := x - |y| * ⌊x / |y|⌋
  sqrt := Real.sqrt

/-- Instants in minutes. -/
noncomputable instance : Timeline ℝ ℝ where
  later t minutes := t + minutes

/-! ## Rounding -/

theorem abs_roundAway_sub_le (x : ℝ) : |(roundAway x : ℝ) - x| ≤ 1 / 2 := by
  rw [abs_le]
  unfold roundAway
  split
  · have hlow := Int.lt_floor_add_one (x + 1 / 2)
    have hhigh := Int.floor_le (x + 1 / 2)
    constructor <;> linarith
  · have hlow := Int.le_ceil (x - 1 / 2)
    have hhigh := Int.ceil_lt_add_one (x - 1 / 2)
    constructor <;> linarith

theorem le_roundAway {k : ℤ} {x : ℝ} (h : k ≤ x) : k ≤ roundAway x := by
  have hnear := (abs_le.mp (abs_roundAway_sub_le x)).1
  have hlt : (k : ℝ) < roundAway x + 1 := by linarith
  exact Int.lt_add_one_iff.mp (by exact_mod_cast hlt)

theorem roundAway_le {k : ℤ} {x : ℝ} (h : x ≤ k) : roundAway x ≤ k := by
  have hnear := (abs_le.mp (abs_roundAway_sub_le x)).2
  have hlt : (roundAway x : ℝ) < k + 1 := by linarith
  exact Int.lt_add_one_iff.mp (by exact_mod_cast hlt)

/-- Halves are rounded up to what is not negative. -/
theorem lt_roundAway {x : ℝ} (h : 0 ≤ roundAway x) : x - 1 / 2 < roundAway x := by
  rcases lt_or_ge x 0 with hneg | hnonneg
  · have hround : (0 : ℝ) ≤ roundAway x := by exact_mod_cast h
    linarith
  · have hfloor := Int.lt_floor_add_one (x + 1 / 2)
    unfold roundAway
    rw [if_pos hnonneg]
    linarith

/-! ## Maxima and distances -/

theorem scalarMax_eq (x y : ℝ) : Scalar.max x y = max x y := by
  have h : Scalar.max x y = if y ≤ x then x else if y ≤ y then y else x := rfl
  rw [h, if_pos (le_refl y), max_def']

theorem scalarAbs_eq (x : ℝ) : Scalar.abs x = |x| := by
  have h : Scalar.abs x = if x < ((0 : ℕ) : ℝ) then -x else x := rfl
  rw [h, Nat.cast_zero]
  split
  · exact (abs_of_neg ‹_›).symm
  · exact (abs_of_nonneg (not_lt.mp ‹_›)).symm

/-! ## The search -/

theorem isStep_eq (step : ℝ) : isStep step = decide (0 < step) := by
  have h : isStep step = (!decide (step ≤ ((0 : ℕ) : ℝ)) && true) := rfl
  rw [h, Nat.cast_zero, Bool.and_true]
  by_cases hs : 0 < step
  · simp [hs]
  · simp [hs, not_lt.mp hs]

namespace Visibility

theorem stepBound_eq (horizon step : ℝ) : stepBound horizon step = ⌈horizon / step⌉₊ + 2 := rfl

theorem coarseStep_eq : (coarseStep : ℝ) = 1 := Nat.cast_one

theorem refinements_eq : (refinements : List (ℝ × ℝ)) = [(10, 1 / 10), (1, 1 / 120)] := by
  have h : (refinements : List (ℝ × ℝ)) =
      [(((10 : ℕ) : ℝ), 0.1), (((1 : ℕ) : ℝ), 0.5 / ((60 : ℕ) : ℝ))] := rfl
  rw [h]
  norm_num

theorem ofElevation_of_neg {elevation : ℝ} (h : elevation < 0) :
    Heading.ofElevation elevation = .forward := by
  have h' : elevation < ((0 : ℕ) : ℝ) := by simpa using h
  exact if_pos h'

theorem ofElevation_of_nonneg {elevation : ℝ} (h : 0 ≤ elevation) :
    Heading.ofElevation elevation = .backward := by
  have h' : ¬ elevation < ((0 : ℕ) : ℝ) := by simpa using h
  exact if_neg h'

theorem ofElevation_of_pos {elevation : ℝ} (h : 0 < elevation) :
    Heading.ofElevation elevation = .backward :=
  ofElevation_of_nonneg h.le

theorem stays_forward_eq (elevation : ℝ) :
    Heading.forward.stays elevation = decide (elevation < 0) := by
  have h : Heading.forward.stays elevation = decide (elevation < ((0 : ℕ) : ℝ)) := rfl
  rw [h, Nat.cast_zero]

theorem stays_backward_eq (elevation : ℝ) :
    Heading.backward.stays elevation = decide (0 < elevation) := by
  have h : Heading.backward.stays elevation = decide (((0 : ℕ) : ℝ) < elevation) := rfl
  rw [h, Nat.cast_zero]

theorem minutes_forward_eq (elapsed : ℝ) : Heading.forward.minutes elapsed = elapsed := rfl

theorem minutes_backward_eq (elapsed : ℝ) : Heading.backward.minutes elapsed = -elapsed := rfl

theorem walk_succ (e : Ephemeris ℝ ℝ) (start horizon step : ℝ) (heading : Heading) (fuel k : ℕ)
    (elevation : ℝ) :
    walk e start horizon step heading (fuel + 1) k elevation =
      if heading.stays elevation then
        if horizon ≤ (k + 1 : ℕ) * step then pure none
        else do
          let next ← e.look (start + heading.minutes ((k + 1 : ℕ) * step))
          walk e start horizon step heading fuel (k + 1) next.elevationDeg
      else pure (some (heading.minutes (k * step))) := rfl

end Visibility

namespace Pass

theorem lossElevation_eq : (lossElevation : ℝ) = -5 := by
  have h : (lossElevation : ℝ) = -((5 : ℕ) : ℝ) := rfl
  rw [h, Nat.cast_ofNat]

theorem highElevation_eq : (highElevation : ℝ) = 30 := Nat.cast_ofNat

theorem longestSweep_eq : (longestSweep : ℝ) = 1440 := Nat.cast_ofNat

theorem sweepStep_eq : (sweepStep : ℝ) = 1 / 4 := by
  have h : (sweepStep : ℝ) = 0.25 := rfl
  rw [h]
  norm_num

end Pass

end EarthStation
