import EarthStation.Binary64
import Mathlib.Algebra.Order.Field.Power
import Mathlib.Tactic.Linarith
import Mathlib.Tactic.NormNum
import Mathlib.Tactic.Positivity
import Mathlib.Tactic.Ring

/-!
# Rounding — which doubles an exact value is rounded between

* `Binary64.Dyadic`: the values that doubles can have, without a bound on their size.
* `Binary64.Canonical`: the mantissas and exponents that unpacked doubles have.
* `Binary64.shift_bounds`: shifting out bits and rounding is off by less than one.
* `Binary64.roundWithAccuracy_spec`, `Binary64.round_spec`: a rounded value is canonical, and no double
  lies strictly between it and the exact value.

It does not matter here which of the two neighbours is taken.
-/

namespace EarthStation.Binary64

open Float.Model Float.Model.UnpackedFloat

/-! ## Values -/

/-- A magnitude with a sign. -/
def signed (s : Sign) (q : ℚ) : ℚ :=
  match s with
  | .positive => q
  | .negative => -q

@[simp] theorem signed_positive (q : ℚ) : signed .positive q = q := rfl

@[simp] theorem signed_negative (q : ℚ) : signed .negative q = -q := rfl

/-- The least power of two that is too large for a double. -/
@[irreducible]
def beyond : ℚ := 2 ^ (1024 : ℤ)

/-- The value of an unpacked double, where an infinity stands for what is too large. -/
def unpackedValue : UnpackedFloat → ℚ
  | .infinity s => signed s beyond
  | .notANumber => 0
  | .zero _ => 0
  | .finite s m e _ => signed s (m * 2 ^ e)

@[simp] theorem unpackedValue_infinity (s : Sign) :
    unpackedValue (.infinity s) = signed s beyond := rfl

@[simp] theorem unpackedValue_finite (s : Sign) (m : ℕ) (e : ℤ) (hm : 0 < m) :
    unpackedValue (.finite s m e hm) = signed s (m * 2 ^ e) := rfl

/-- A value of 53 bits that is not too fine for a double. -/
def Dyadic (B : ℚ) : Prop :=
  ∃ (s : Sign) (b : ℕ) (f : ℤ), b < 2 ^ 53 ∧ -1074 ≤ f ∧ B = signed s (b * 2 ^ f)

theorem signed_neg (s : Sign) (q : ℚ) : signed (-s) q = -signed s q := by
  cases s
  · exact (neg_neg q).symm
  · rfl

theorem Dyadic.neg {B : ℚ} (h : Dyadic B) : Dyadic (-B) := by
  obtain ⟨s, b, f, hb, hf, rfl⟩ := h
  exact ⟨-s, b, f, hb, hf, (signed_neg s _).symm⟩

theorem dyadic_natural {n : ℕ} (hn : n < 2 ^ 53) : Dyadic n :=
  ⟨.positive, n, 0, hn, by norm_num, by rw [zpow_zero, mul_one, signed_positive]⟩

theorem dyadic_zero : Dyadic 0 := by exact_mod_cast dyadic_natural (n := 0) (by norm_num)

/-- Mantissa and exponent of an unpacked double: 53 bits that are used up unless the exponent is the
least one. -/
structure Canonical (m : ℕ) (e : ℤ) : Prop where
  small : m < 2 ^ 53
  least : -1074 ≤ e
  full : e = -1074 ∨ 2 ^ 52 ≤ m

/-- Holds of the numbers that are not infinite, in the form that they are unpacked to. -/
def Proper : UnpackedFloat → Prop
  | .infinity _ => False
  | .notANumber => False
  | .zero _ => True
  | .finite _ m e _ => Canonical m e

theorem Proper.dyadic {f : UnpackedFloat} (h : Proper f) : Dyadic (unpackedValue f) := by
  cases f with
  | infinity s => cases h
  | notANumber => cases h
  | zero s => exact dyadic_zero
  | finite s m e hm => exact ⟨s, m, e, h.small, h.least, rfl⟩

theorem two_zpow_pos (e : ℤ) : (0 : ℚ) < 2 ^ e := zpow_pos two_pos e

theorem two_zpow_add (n : ℕ) (e : ℤ) : (2 : ℚ) ^ (e + n) = 2 ^ n * 2 ^ e := by
  rw [zpow_add₀ two_ne_zero, zpow_natCast, mul_comm]

theorem beyond_eq {n : ℕ} {e : ℤ} (h : e + n = 1024) : beyond = 2 ^ n * 2 ^ e := by
  unfold beyond
  rw [← h, two_zpow_add]

theorem beyond_pos : 0 < beyond := by
  unfold beyond
  exact two_zpow_pos 1024

/-! ## Shifting -/

/-- A mantissa that has been shifted by `n` bits; the residual bits tell whether something was lost. -/
structure Shifted (m n : ℕ) (em : ExtendedMantissa) : Prop where
  mantissa : em.mantissa = m / 2 ^ n
  lost : (em.roundBit || em.stickyBit) = decide (m % 2 ^ n ≠ 0)

theorem Shifted.one {m n : ℕ} {em : ExtendedMantissa} (h : Shifted m n em) :
    Shifted m (n + 1) em.shiftRightOne where
  mantissa := by
    change em.mantissa / 2 = m / 2 ^ (n + 1)
    rw [h.mantissa, Nat.div_div_eq_div_mul, pow_succ]
  lost := by
    change (em.mantissa % 2 != 0 || (em.roundBit || em.stickyBit)) = _
    have hsplit := Nat.mod_pow_succ (b := 2) (k := n) (x := m)
    have hpos : 0 < 2 ^ n := by positivity
    rw [h.lost, h.mantissa, hsplit, Bool.eq_iff_iff]
    rcases Nat.mod_two_eq_zero_or_one (m / 2 ^ n) with hbit | hbit <;> simp [hbit]

theorem shifted_start (m : ℕ) : Shifted m 0 (.ofMantissaAndAccuracy m .exact) where
  mantissa := by simp [ExtendedMantissa.ofMantissaAndAccuracy]
  lost := by simp [ExtendedMantissa.ofMantissaAndAccuracy, Nat.mod_one]

theorem shifted (m n : ℕ) : Shifted m n (ExtendedMantissa.ofMantissaAndAccuracy m .exact >>> n) := by
  induction n with
  | zero => exact shifted_start m
  | succ n ih => exact ih.one

/-- A rounded mantissa is the mantissa, or one more if something was lost. -/
theorem roundedMantissa_bounds (em : ExtendedMantissa) :
    em.mantissa ≤ em.roundedMantissa ∧
      em.roundedMantissa ≤ em.mantissa + if em.roundBit || em.stickyBit then 1 else 0 := by
  obtain ⟨m, roundBit, stickyBit⟩ := em
  have hparity : m % 2 ≤ 1 := by omega
  cases roundBit <;> cases stickyBit <;>
    simp [ExtendedMantissa.roundedMantissa, ExtendedMantissa.accuracy,
      Accuracy.roundToNearestEven, hparity]

/-- **Shifting out `n` bits and rounding is off by less than one.** -/
theorem shift_bounds (m n : ℕ) :
    m < ((ExtendedMantissa.ofMantissaAndAccuracy m .exact >>> n).roundedMantissa + 1) * 2 ^ n ∧
      (ExtendedMantissa.ofMantissaAndAccuracy m .exact >>> n).roundedMantissa * 2 ^ n < m + 2 ^ n := by
  have hshift := shifted m n
  obtain ⟨hlow, hhigh⟩ := roundedMantissa_bounds
    (ExtendedMantissa.ofMantissaAndAccuracy m .exact >>> n)
  rw [hshift.mantissa] at hlow hhigh
  rw [hshift.lost] at hhigh
  set q := (ExtendedMantissa.ofMantissaAndAccuracy m .exact >>> n).roundedMantissa
  have hsplit := Nat.div_add_mod m (2 ^ n)
  have hmod := Nat.mod_lt m (y := 2 ^ n) (by positivity)
  constructor
  · have hle : (m / 2 ^ n + 1) * 2 ^ n ≤ (q + 1) * 2 ^ n := Nat.mul_le_mul_right _ (by omega)
    rw [Nat.add_mul, Nat.mul_comm (m / 2 ^ n)] at hle
    omega
  · by_cases hexact : m % 2 ^ n = 0
    · have hq : q ≤ m / 2 ^ n := by simpa [hexact] using hhigh
      have hle : q * 2 ^ n ≤ m / 2 ^ n * 2 ^ n := Nat.mul_le_mul_right _ hq
      rw [Nat.mul_comm (m / 2 ^ n)] at hle
      have hpos : 0 < 2 ^ n := by positivity
      omega
    · have hq : q ≤ m / 2 ^ n + 1 := by simpa [hexact] using hhigh
      have hle : q * 2 ^ n ≤ (m / 2 ^ n + 1) * 2 ^ n := Nat.mul_le_mul_right _ hq
      rw [Nat.add_mul, Nat.mul_comm (m / 2 ^ n)] at hle
      omega

/-! ## Rounding -/

/-- The exponent that a value is rounded at. -/
def target (m : ℕ) (e : ℤ) : ℤ := max (m.log2 + 1 + e - 53) (-1074)

/-- A mantissa is shifted until its exponent is at the target. -/
theorem shiftToTarget_eq (m : ℕ) (e : ℤ) :
    shiftToTargetExponent .binary64 m e .exact =
      (ExtendedMantissa.ofMantissaAndAccuracy m .exact >>> (target m e - e).toNat,
        e + (target m e - e).toNat) := rfl

/-- A mantissa of 53 bits at an exponent that is not too low stays as it is. -/
theorem target_le {m : ℕ} {e : ℤ} (hm : m < 2 ^ 53) (he : -1074 ≤ e) : target m e ≤ e := by
  have hlog : m.log2 ≤ 52 := by
    rcases Nat.eq_zero_or_pos m with rfl | hpos
    · simp
    · have := (Nat.log2_lt hpos.ne').mpr hm
      omega
  unfold target
  omega

/-- Above the least exponent a value is rounded to 53 bits. -/
theorem le_of_target {m n : ℕ} {e : ℤ} (hm : 0 < m) (hn : target m e = e + n)
    (hleast : -1074 < target m e) : 2 ^ 52 * 2 ^ n ≤ m := by
  have hlog : m.log2 = 52 + n := by
    unfold target at hn hleast
    omega
  have hself := Nat.log2_self_le hm.ne'
  rwa [hlog, pow_add] at hself

/-- A value on a grid is a multiple of the step of a finer one. -/
theorem multiple_of_le {b : ℕ} {e f : ℤ} (h : e ≤ f) : ∃ k : ℕ, (b : ℚ) * 2 ^ f = k * 2 ^ e := by
  obtain ⟨k, rfl⟩ : ∃ k : ℕ, f = e + k := ⟨(f - e).toNat, by omega⟩
  refine ⟨b * 2 ^ k, ?_⟩
  rw [two_zpow_add]
  push_cast
  ring

/-- A value of 53 bits on a finer grid than `e` is less than a full mantissa at `e`. -/
theorem lt_full {b : ℕ} {e f : ℤ} (hb : b < 2 ^ 53) (h : f < e) : (b : ℚ) * 2 ^ f < 2 ^ 52 * 2 ^ e := by
  have hstep : (2 : ℚ) ^ f * 2 ≤ 2 ^ e := by
    rw [← zpow_add_one₀ two_ne_zero]
    exact zpow_le_zpow_right₀ one_le_two (by omega)
  have hb' : (b : ℚ) < 2 ^ 53 := by exact_mod_cast hb
  have hpos := two_zpow_pos f
  calc (b : ℚ) * 2 ^ f < 2 ^ 53 * 2 ^ f := mul_lt_mul_of_pos_right hb' hpos
    _ = 2 ^ 52 * (2 ^ f * 2) := by ring
    _ ≤ 2 ^ 52 * 2 ^ e := mul_le_mul_of_nonneg_left hstep (by norm_num)

/-- No value of 53 bits lies strictly between a value and one that it is rounded to. -/
structure Neighbour (v r : ℚ) : Prop where
  le : ∀ B, Dyadic B → v ≤ B → r ≤ B
  ge : ∀ B, Dyadic B → B ≤ v → B ≤ r

theorem Neighbour.neg {v r : ℚ} (h : Neighbour v r) : Neighbour (-v) (-r) where
  le B hB hv := neg_le.mp (h.ge (-B) hB.neg (neg_le.mp hv))
  ge B hB hv := le_neg.mp (h.le (-B) hB.neg (le_neg.mp hv))

theorem Neighbour.signed {v r : ℚ} (h : Neighbour v r) (s : Sign) :
    Neighbour (signed s v) (Binary64.signed s r) := by
  cases s with
  | positive => exact h
  | negative => exact h.neg

theorem coarser (k n : ℕ) (e : ℤ) : (k : ℚ) * 2 ^ (e + n) = (k * 2 ^ n : ℕ) * 2 ^ e := by
  rw [two_zpow_add]
  push_cast
  ring

/-- What is rounded stays below a value of 53 bits that it was below. -/
theorem rounded_le {m n q b : ℕ} {e f : ℤ} (hm : 0 < m) (hn : target m e = e + n)
    (hhigh : q * 2 ^ n < m + 2 ^ n) (hb : b < 2 ^ 53) (hf : -1074 ≤ f)
    (hB : (m : ℚ) * 2 ^ e ≤ b * 2 ^ f) : (q : ℚ) * 2 ^ (e + n) ≤ b * 2 ^ f := by
  have he := two_zpow_pos e
  rcases lt_or_ge f (e + n) with hft | hft
  · -- a finer value has fewer bits than the magnitude
    have hfull : ((2 ^ 52 * 2 ^ n : ℕ) : ℚ) * 2 ^ e ≤ m * 2 ^ e := by
      refine mul_le_mul_of_nonneg_right ?_ he.le
      exact_mod_cast le_of_target hm hn (by omega)
    have hsmall := lt_full hb hft
    have hfull' := coarser (2 ^ 52) n e
    push_cast at hfull hfull'
    linarith
  · obtain ⟨k, hk⟩ := multiple_of_le (b := b) hft
    rw [hk] at hB ⊢
    rw [coarser] at hB
    have hmk : m ≤ k * 2 ^ n := by exact_mod_cast le_of_mul_le_mul_right hB he
    have hqk : q < k + 1 := by
      refine Nat.lt_of_mul_lt_mul_right (a := 2 ^ n) ?_
      rw [Nat.add_mul]
      omega
    refine mul_le_mul_of_nonneg_right ?_ (two_zpow_pos _).le
    exact_mod_cast Nat.lt_succ_iff.mp hqk

/-- It stays above one that it was above. -/
theorem le_rounded {m n q b : ℕ} {e f : ℤ} (hm : 0 < m) (hn : target m e = e + n)
    (hlow : m < (q + 1) * 2 ^ n) (hb : b < 2 ^ 53) (hf : -1074 ≤ f)
    (hB : (b : ℚ) * 2 ^ f ≤ m * 2 ^ e) : (b : ℚ) * 2 ^ f ≤ q * 2 ^ (e + n) := by
  have hgrid := two_zpow_pos (e + n)
  rcases lt_or_ge f (e + n) with hft | hft
  · have hfull := le_of_target hm hn (by omega)
    have hq : 2 ^ 52 < q + 1 := Nat.lt_of_mul_lt_mul_right (a := 2 ^ n) (by omega)
    have hq' : (2 : ℚ) ^ 52 * 2 ^ (e + n) ≤ q * 2 ^ (e + n) := by
      refine mul_le_mul_of_nonneg_right ?_ hgrid.le
      exact_mod_cast Nat.lt_succ_iff.mp hq
    exact (lt_full hb hft).le.trans hq'
  · obtain ⟨k, hk⟩ := multiple_of_le (b := b) hft
    rw [hk] at hB ⊢
    rw [coarser] at hB
    have hmk : k * 2 ^ n ≤ m := by exact_mod_cast le_of_mul_le_mul_right hB (two_zpow_pos e)
    have hkq : k < q + 1 := Nat.lt_of_mul_lt_mul_right (a := 2 ^ n) (by omega)
    refine mul_le_mul_of_nonneg_right ?_ hgrid.le
    exact_mod_cast Nat.lt_succ_iff.mp hkq

/-- **Rounding at the target exponent leads to a neighbour.** -/
theorem neighbour_of_bounds {m n q : ℕ} {e : ℤ} (hm : 0 < m) (hn : target m e = e + n)
    (hlow : m < (q + 1) * 2 ^ n) (hhigh : q * 2 ^ n < m + 2 ^ n) :
    Neighbour (m * 2 ^ e) (q * 2 ^ (e + n)) := by
  have hm' : (0 : ℚ) < m := by exact_mod_cast hm
  have hpos := mul_pos hm' (two_zpow_pos e)
  constructor
  · rintro B ⟨s, b, f, hb, hf, rfl⟩ hB
    cases s with
    | positive => exact rounded_le hm hn hhigh hb hf hB
    | negative =>
      have hnonneg : (0 : ℚ) ≤ b * 2 ^ f := by positivity
      rw [signed_negative] at hB
      linarith
  · rintro B ⟨s, b, f, hb, hf, rfl⟩ hB
    cases s with
    | positive => exact le_rounded hm hn hlow hb hf hB
    | negative =>
      have hnonneg : (0 : ℚ) ≤ b * 2 ^ f := by positivity
      have hnonneg' : (0 : ℚ) ≤ q * 2 ^ (e + n) := by positivity
      rw [signed_negative]
      linarith

/-- A result that is a number, a neighbour of the exact value, and in the form of an unpacked double; its
exponent may be too large for a double. -/
structure Rounds (v : ℚ) (f : UnpackedFloat) : Prop where
  proper : Proper f
  near : Neighbour v (unpackedValue f)

/-- A mantissa of 53 bits, or the power of two behind them, is brought into canonical form without any
loss. -/
theorem second_shift {q : ℕ} {e : ℤ} (hq : q ≤ 2 ^ 53) (he : -1074 ≤ e)
    (hfull : e = -1074 ∨ 2 ^ 52 ≤ q) :
    Canonical (shiftToTargetExponent .binary64 q e .exact).1.mantissa
        (shiftToTargetExponent .binary64 q e .exact).2 ∧
      ((shiftToTargetExponent .binary64 q e .exact).1.mantissa : ℚ) *
        2 ^ (shiftToTargetExponent .binary64 q e .exact).2 = q * 2 ^ e := by
  rw [shiftToTarget_eq, (shifted q _).mantissa]
  rcases hq.lt_or_eq with hlt | rfl
  · have hstay := target_le hlt he
    have hzero : (target q e - e).toNat = 0 := by omega
    rw [hzero, pow_zero, Nat.div_one, Nat.cast_zero, add_zero]
    exact ⟨⟨hlt, he, hfull⟩, rfl⟩
  · have hone : (target (2 ^ 53) e - e).toNat = 1 := by
      unfold target
      rw [Nat.log2_two_pow]
      omega
    rw [hone]
    refine ⟨⟨by norm_num, by push_cast; omega, by norm_num⟩, ?_⟩
    rw [two_zpow_add]
    push_cast
    norm_num
    ring

/-- A magnitude rounded at its target exponent has 53 bits, or is the power of two behind them. -/
theorem rounded_bits {m n q : ℕ} {e : ℤ} (hm : 0 < m) (hn : target m e = e + n)
    (hlow : m < (q + 1) * 2 ^ n) (hhigh : q * 2 ^ n < m + 2 ^ n) :
    q ≤ 2 ^ 53 ∧ -1074 ≤ e + (n : ℤ) ∧ (e + (n : ℤ) = -1074 ∨ 2 ^ 52 ≤ q) := by
  have hleast : -1074 ≤ e + (n : ℤ) := by
    rw [← hn]
    exact le_max_right _ _
  have hbits : m < 2 ^ 53 * 2 ^ n := by
    have hlog : m.log2 < 53 + n := by
      have := le_max_left ((m.log2 : ℤ) + 1 + e - 53) (-1074)
      unfold target at hn
      omega
    rw [← pow_add]
    exact (Nat.log2_lt hm.ne').mp hlog
  refine ⟨?_, hleast, ?_⟩
  · refine Nat.lt_succ_iff.mp (Nat.lt_of_mul_lt_mul_right (a := 2 ^ n) ?_)
    rw [Nat.succ_mul]
    omega
  · by_cases hend : e + (n : ℤ) = -1074
    · exact Or.inl hend
    · have hlarge := le_of_target hm hn (by omega)
      have hq : 2 ^ 52 < q + 1 := Nat.lt_of_mul_lt_mul_right (a := 2 ^ n) (by omega)
      exact Or.inr (Nat.lt_succ_iff.mp hq)

/-- A mantissa is shifted twice, since the first rounding can carry. -/
theorem roundWithAccuracy_eq (s : Sign) {m q : ℕ} {e f : ℤ} {first : ExtendedMantissa}
    (hfirst : shiftToTargetExponent .binary64 m e .exact = (first, f))
    (hq : first.roundedMantissa = q) :
    roundWithAccuracy .binary64 s m e .exact =
      if h : (shiftToTargetExponent .binary64 q f .exact).1.mantissa = 0 then .zero s
      else .finite s (shiftToTargetExponent .binary64 q f .exact).1.mantissa
        (shiftToTargetExponent .binary64 q f .exact).2 (Nat.pos_of_ne_zero h) := by
  subst hq
  obtain ⟨rfl, rfl⟩ : (shiftToTargetExponent .binary64 m e .exact).1 = first ∧
      (shiftToTargetExponent .binary64 m e .exact).2 = f :=
    ⟨congrArg Prod.fst hfirst, congrArg Prod.snd hfirst⟩
  rfl

/-- A neighbour in canonical form is a result, also if it is zero. -/
theorem rounds_canonical {s : Sign} {v : ℚ} {m : ℕ} {e : ℤ} (h : Canonical m e)
    (hnear : Neighbour v (signed s (m * 2 ^ e))) :
    Rounds v (if h : m = 0 then .zero s else .finite s m e (Nat.pos_of_ne_zero h)) := by
  by_cases hzero : m = 0
  · rw [dif_pos hzero]
    refine ⟨trivial, ?_⟩
    rw [hzero, Nat.cast_zero, zero_mul] at hnear
    cases s with
    | positive => exact hnear
    | negative => rwa [signed_negative, neg_zero] at hnear
  · rw [dif_neg hzero]
    exact ⟨h, hnear⟩

/-- **Rounding to fewer bits** leads to a neighbour, if the exponent is not above its target. -/
theorem roundWithAccuracy_spec (s : Sign) {m : ℕ} {e : ℤ} (hm : 0 < m) (he : e ≤ target m e) :
    Rounds (signed s (m * 2 ^ e)) (roundWithAccuracy .binary64 s m e .exact) := by
  obtain ⟨n, hn⟩ : ∃ n : ℕ, target m e = e + n := ⟨(target m e - e).toNat, by omega⟩
  have hfirst : shiftToTargetExponent .binary64 m e .exact =
      (ExtendedMantissa.ofMantissaAndAccuracy m .exact >>> n, e + n) := by
    rw [shiftToTarget_eq, show (target m e - e).toNat = n by omega]
  obtain ⟨hlow, hhigh⟩ := shift_bounds m n
  have hnear := neighbour_of_bounds hm hn hlow hhigh
  obtain ⟨hsmall, hleast, hfull⟩ := rounded_bits hm hn hlow hhigh
  obtain ⟨hcanonical, hvalue⟩ := second_shift hsmall hleast hfull
  have hnear' := hnear.signed s
  rw [← hvalue] at hnear'
  rw [roundWithAccuracy_eq s hfirst rfl]
  exact rounds_canonical hcanonical hnear'

theorem log2_mul_pow {m : ℕ} (hm : m ≠ 0) (k : ℕ) : (m * 2 ^ k).log2 = m.log2 + k := by
  induction k with
  | zero => rw [pow_zero, Nat.mul_one, Nat.add_zero]
  | succ k ih =>
    rw [pow_succ, ← Nat.mul_assoc, Nat.mul_comm _ 2, Nat.log2_two_mul (by positivity), ih,
      Nat.add_assoc]

/-- **Rounding to a double** leads to a neighbour. -/
theorem round_spec (s : Sign) {m : ℕ} (hm : 0 < m) (e : ℤ) :
    Rounds (signed s (m * 2 ^ e)) (UnpackedFloat.round .binary64 s m e) := by
  have hround : UnpackedFloat.round .binary64 s m e =
      roundWithAccuracy .binary64 s (m <<< (e - target m e).toNat)
        (e - ((e - target m e).toNat : ℤ)) .exact := rfl
  set k := (e - target m e).toNat with hk
  have hshift : m <<< k = m * 2 ^ k := Nat.shiftLeft_eq m k
  have hvalue : ((m * 2 ^ k : ℕ) : ℚ) * 2 ^ (e - (k : ℤ)) = m * 2 ^ e := by
    have hsplit := two_zpow_add k (e - (k : ℤ))
    rw [sub_add_cancel] at hsplit
    rw [hsplit]
    push_cast
    ring
  have hlog : (m * 2 ^ k).log2 = m.log2 + k := log2_mul_pow hm.ne' k
  have htarget : e - (k : ℤ) ≤ target (m * 2 ^ k) (e - (k : ℤ)) := by
    unfold target at hk ⊢
    rw [hlog]
    push_cast
    omega
  rw [hround, hshift, ← hvalue]
  exact roundWithAccuracy_spec s (by positivity) htarget

/-- A whole number of steps is rounded to a neighbour. -/
theorem normalize_spec (n : ℤ) (e : ℤ) :
    Rounds (n * 2 ^ e) (UnpackedFloat.normalize .binary64 n e .positive) := by
  unfold UnpackedFloat.normalize
  rcases lt_trichotomy n 0 with hneg | rfl | hpos
  · rw [Int.compare_eq_lt.mpr hneg]
    have hround := round_spec .negative (m := (-n).toNat) (by omega) e
    have hcast : (((-n).toNat : ℕ) : ℚ) = -n := by
      have hcast' : (((-n).toNat : ℕ) : ℤ) = -n := Int.toNat_of_nonneg (by omega)
      exact_mod_cast congrArg (fun z : ℤ => (z : ℚ)) hcast'
    rw [signed_negative, hcast, neg_mul, neg_neg] at hround
    exact hround
  · rw [Int.compare_eq_eq.mpr rfl, Int.cast_zero, zero_mul]
    exact ⟨trivial, fun B _ hB => hB, fun B _ hB => hB⟩
  · rw [Int.compare_eq_gt.mpr hpos]
    have hround := round_spec .positive (m := n.toNat) (by omega) e
    have hcast : ((n.toNat : ℕ) : ℚ) = n := by
      have hcast' : ((n.toNat : ℕ) : ℤ) = n := Int.toNat_of_nonneg (by omega)
      exact_mod_cast congrArg (fun z : ℤ => (z : ℚ)) hcast'
    rw [signed_positive, hcast] at hround
    exact hround

end EarthStation.Binary64
