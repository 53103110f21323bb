import EarthStation.Proofs.Binary64.Arithmetic
import Mathlib.Algebra.Order.Floor.Semifield
import Mathlib.Data.Rat.Floor
import Mathlib.Tactic.FieldSimp

/-!
# Whole — doubles rounded to whole numbers

* `Binary64.nearest_eq`: the nearest whole number of a value that is not negative, in bounds.
* `Binary64.value_round`: the rounded double has that value exactly.
* `Binary64.nearest_bounds`: the nearest whole number lies between the same whole numbers as the value.
-/

namespace EarthStation.Binary64

/-! ## A value and a half, without its fraction -/

theorem floor_half_natural (n : ℕ) : ⌊(n : ℚ) + 1 / 2⌋₊ = n := by
  rw [Nat.floor_eq_iff (by positivity)]
  constructor <;> linarith

theorem floor_half_le {v : ℚ} {b : ℕ} (h : v ≤ b) : ⌊v + 1 / 2⌋₊ ≤ b := by
  calc ⌊v + 1 / 2⌋₊ ≤ ⌊(b : ℚ) + 1 / 2⌋₊ := Nat.floor_mono (by linarith)
    _ = b := floor_half_natural b

theorem le_floor_half {v : ℚ} {a : ℕ} (h : (a : ℚ) ≤ v) : a ≤ ⌊v + 1 / 2⌋₊ := by
  calc a = ⌊(a : ℚ) + 1 / 2⌋₊ := (floor_half_natural a).symm
    _ ≤ ⌊v + 1 / 2⌋₊ := Nat.floor_mono (by linarith)

theorem halfUp_eq {num den : ℕ} (hden : 0 < den) :
    halfUp num den = ⌊(num : ℚ) / den + 1 / 2⌋₊ := by
  have hden' : (den : ℚ) ≠ 0 := by exact_mod_cast hden.ne'
  have hsum : (num : ℚ) / den + 1 / 2 = ((2 * num + den : ℕ) : ℚ) / (2 * den : ℕ) := by
    push_cast
    field_simp
  rw [hsum, Nat.floor_div_eq_div]
  rfl

/-! ## Mantissa and exponent -/

theorem fraction_spec (m : ℕ) (e : ℤ) :
    0 < (fraction m e).2 ∧ (m : ℚ) * 2 ^ e = (fraction m e).1 / (fraction m e).2 := by
  unfold fraction
  by_cases he : 0 ≤ e
  · rw [if_pos he]
    refine ⟨one_pos, ?_⟩
    obtain ⟨k, rfl⟩ := Int.eq_ofNat_of_zero_le he
    simp
  · rw [if_neg he]
    refine ⟨Nat.pow_pos two_pos, ?_⟩
    obtain ⟨k, hk⟩ : ∃ k : ℕ, e = -(k : ℤ) := ⟨(-e).toNat, by omega⟩
    subst hk
    simp [zpow_neg, div_eq_mul_inv]

/-- Half upwards of mantissa and exponent is what stands before the point of the value and a half. -/
theorem halfUp_fraction (m : ℕ) (e : ℤ) :
    halfUp (fraction m e).1 (fraction m e).2 = ⌊(m : ℚ) * 2 ^ e + 1 / 2⌋₊ := by
  obtain ⟨hden, hfraction⟩ := fraction_spec m e
  rw [halfUp_eq hden, hfraction]

theorem mantissa_lt {x : Float} {negative : Bool} {m : ℕ} {e : ℤ}
    (h : decode x = .finite negative m e) : m < 2 ^ 53 := by
  have hfraction : x.toBits.toNat % Nat.pow 2 52 < 2 ^ 52 := Nat.mod_lt _ (by decide)
  have hpow : Nat.pow 2 52 = 2 ^ 52 := rfl
  unfold decode at h
  dsimp only at h
  split_ifs at h <;> injection h <;> omega

/-- A value that is not negative is its magnitude, and only zero can still have a sign. -/
theorem decode_nonneg {x : Float} (hx : x.isFinite = true) (h : 0 ≤ value x) :
    ∃ (negative : Bool) (m : ℕ) (e : ℤ), decode x = .finite negative m e ∧ value x = m * 2 ^ e ∧
      (negative = true → m = 0) := by
  obtain ⟨negative, m, e, hdecode, hvalue⟩ := decode_finite hx
  refine ⟨negative, m, e, hdecode, ?_⟩
  have hpower := two_zpow_pos e
  cases negative with
  | false => exact ⟨hvalue, by simp⟩
  | true =>
    have hvalue' : value x = -(m * 2 ^ e) := hvalue
    have hnonneg : (0 : ℚ) ≤ m * 2 ^ e := by positivity
    have hzero : (m : ℚ) * 2 ^ e = 0 := by linarith
    refine ⟨by linarith, fun _ => ?_⟩
    rcases mul_eq_zero.mp hzero with hm | he
    · exact_mod_cast hm
    · exact absurd he hpower.ne'

/-! ## Roundings -/

/-- **The nearest whole number** of a value that is not negative, brought below a bound. -/
theorem nearest_eq {x : Float} (hx : x.isFinite = true) (h : 0 ≤ value x) (hi : ℕ) :
    nearest 0 hi x = (min ⌊value x + 1 / 2⌋₊ hi : ℕ) := by
  obtain ⟨negative, m, e, hdecode, hvalue, hsign⟩ := decode_nonneg hx h
  have hnearest : nearest 0 hi x =
      confine 0 hi (if negative then -(⌊value x + 1 / 2⌋₊ : ℤ) else ⌊value x + 1 / 2⌋₊) := by
    unfold nearest
    rw [hdecode]
    dsimp only
    rw [halfUp_fraction, hvalue]
  rw [hnearest]
  unfold confine
  cases negative with
  | false =>
    rw [if_neg Bool.false_ne_true]
    split_ifs <;> omega
  | true =>
    have hzero : ⌊value x + 1 / 2⌋₊ = 0 := by
      rw [hvalue, hsign rfl]
      norm_num
    rw [hzero]
    simp

/-- **A double is rounded to the nearest whole number** exactly. -/
theorem value_round {x : Float} (hx : x.isFinite = true) (h : 0 ≤ value x) :
    Defined (Binary64.round x) ∧ value (Binary64.round x) = ⌊value x + 1 / 2⌋₊ := by
  obtain ⟨negative, m, e, hdecode, hvalue, hsign⟩ := decode_nonneg hx h
  unfold Binary64.round
  rw [hdecode]
  dsimp only
  split
  · -- what has no fraction stays as it is
    rename_i he
    obtain ⟨k, rfl⟩ := Int.eq_ofNat_of_zero_le he
    have hwhole : value x = (m * 2 ^ k : ℕ) := by
      rw [hvalue]
      push_cast
      simp
    refine ⟨defined_of_finite hx, ?_⟩
    rw [hwhole, floor_half_natural]
  · -- and what has one is small enough for a double
    rename_i he
    rw [halfUp_fraction, ← hvalue]
    have hless : value x ≤ m := by
      rw [hvalue]
      exact mul_le_of_le_one_right (Nat.cast_nonneg m) (zpow_le_one_of_nonpos₀ one_le_two (by omega))
    have hsmall := (floor_half_le hless).trans_lt (mantissa_lt hdecode)
    have hnear := near_encode negative ⌊value x + 1 / 2⌋₊ 0
    rw [zpow_zero, mul_one] at hnear
    cases negative with
    | false => exact ⟨hnear.defined, (hnear.natural hsmall).1⟩
    | true =>
      have hzero : ⌊value x + 1 / 2⌋₊ = 0 := by
        rw [hvalue, hsign rfl]
        norm_num
      rw [hzero] at hnear ⊢
      have hnear' : Near (0 : ℕ) (encode true 0 0) := by simpa [signOf] using hnear
      exact ⟨hnear.defined, (hnear'.natural (by norm_num)).1⟩

/-- The nearest whole number lies between the same whole numbers as a value that is not negative. -/
theorem nearest_bounds {x : Float} (hx : x.isFinite = true) {a b hi : ℕ} (ha : (a : ℚ) ≤ value x)
    (hb : value x ≤ b) (hhi : b ≤ hi) :
    (a : ℤ) ≤ nearest 0 hi x ∧ nearest 0 hi x ≤ b := by
  have hnonneg : 0 ≤ value x := (Nat.cast_nonneg a).trans ha
  rw [nearest_eq hx hnonneg, min_eq_left ((floor_half_le hb).trans hhi)]
  exact ⟨by exact_mod_cast le_floor_half ha, by exact_mod_cast floor_half_le hb⟩

end EarthStation.Binary64
