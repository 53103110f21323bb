import EarthStation.Proofs.Binary64.Packing
import Mathlib.Order.Compare

/-!
# Order — doubles are ordered by their values

* `Binary64.value`: the value of a double as a rational number.
* `Binary64.le_iff`, `Binary64.lt_iff`: the comparisons of doubles are those of their values.
* `Binary64.Near`: a double that an exact value is rounded to.
-/

namespace EarthStation.Binary64

open Float.Model Float.Model.UnpackedFloat

/-! ## Unpacked numbers -/

/-- A larger exponent makes a larger number. -/
theorem Canonical.lt_of_exponent {m m' : ℕ} {e e' : ℤ} (h : Canonical m e) (h' : Canonical m' e')
    (he : e < e') : (m : ℚ) * 2 ^ e < m' * 2 ^ e' := by
  have hleast := h.least
  have hfull : 2 ^ 52 ≤ m' := by
    rcases h'.full with heq | hfull
    · omega
    · exact hfull
  have hfull' : (2 : ℚ) ^ 52 ≤ m' := by exact_mod_cast hfull
  exact (lt_full h.small he).trans_le (mul_le_mul_of_nonneg_right hfull' (two_zpow_pos e').le)

/-- Magnitudes compare as their exponents do, and then as their mantissas. -/
theorem compare_magnitudes {m m' : ℕ} {e e' : ℤ} (h : Canonical m e) (h' : Canonical m' e') :
    (compare e e').then (compare m m') = compare ((m : ℚ) * 2 ^ e) (m' * 2 ^ e') := by
  rcases lt_trichotomy e e' with hlt | rfl | hgt
  · rw [compare_lt_iff_lt.mpr hlt, compare_lt_iff_lt.mpr (h.lt_of_exponent h' hlt)]
    rfl
  · have hpos := two_zpow_pos e
    rw [compare_eq_iff_eq.mpr rfl]
    rcases lt_trichotomy m m' with hlt | rfl | hgt
    · have hlt' : (m : ℚ) * 2 ^ e < m' * 2 ^ e :=
        mul_lt_mul_of_pos_right (by exact_mod_cast hlt) hpos
      rw [compare_lt_iff_lt.mpr hlt, compare_lt_iff_lt.mpr hlt']
      rfl
    · rw [compare_eq_iff_eq.mpr rfl, compare_eq_iff_eq.mpr rfl]
      rfl
    · have hgt' : (m' : ℚ) * 2 ^ e < m * 2 ^ e :=
        mul_lt_mul_of_pos_right (by exact_mod_cast hgt) hpos
      rw [compare_gt_iff_gt.mpr hgt, compare_gt_iff_gt.mpr hgt']
      rfl
  · rw [compare_gt_iff_gt.mpr hgt, compare_gt_iff_gt.mpr (h'.lt_of_exponent h hgt)]
    rfl

theorem swap_compare (v w : ℚ) : (compare v w).swap = compare (-v) (-w) := by
  rcases lt_trichotomy v w with hlt | rfl | hgt
  · rw [compare_lt_iff_lt.mpr hlt, compare_gt_iff_gt.mpr (neg_lt_neg hlt)]
    rfl
  · rw [compare_eq_iff_eq.mpr rfl, compare_eq_iff_eq.mpr rfl]
    rfl
  · rw [compare_gt_iff_gt.mpr hgt, compare_lt_iff_lt.mpr (neg_lt_neg hgt)]
    rfl

/-- A magnitude of a double is positive, and less than what counts as infinite. -/
theorem Canonical.magnitude {m : ℕ} {e : ℤ} (h : Canonical m e) (hm : 0 < m) (he : e ≤ 971) :
    (0 : ℚ) < m * 2 ^ e ∧ (m : ℚ) * 2 ^ e < beyond := by
  have hpos := two_zpow_pos e
  have hm' : (0 : ℚ) < m := by exact_mod_cast hm
  refine ⟨mul_pos hm' hpos, ?_⟩
  have hlt := lt_full h.small (show e < 972 by omega)
  have hsplit : beyond = 2 ^ 52 * 2 ^ (972 : ℤ) := beyond_eq rfl
  rwa [hsplit]

theorem less {v w : ℚ} (h : v < w) : some Ordering.lt = some (compare v w) :=
  congrArg some (compare_lt_iff_lt.mpr h).symm

theorem greater {v w : ℚ} (h : w < v) : some Ordering.gt = some (compare v w) :=
  congrArg some (compare_gt_iff_gt.mpr h).symm

theorem same (v : ℚ) : some Ordering.eq = some (compare v v) :=
  congrArg some (compare_eq_iff_eq.mpr rfl).symm

/-- An infinity lies beyond everything but itself. -/
theorem compare_infinity (s : Sign) {b : UnpackedFloat} (hb : Number b) :
    (UnpackedFloat.infinity s).compare b = some (compare (signed s beyond) (unpackedValue b)) := by
  have hlarge := beyond_pos
  cases b with
  | notANumber => cases hb
  | infinity s' =>
    cases s <;> cases s'
    · exact same _
    · exact less ((neg_neg_of_pos hlarge).trans hlarge)
    · exact greater ((neg_neg_of_pos hlarge).trans hlarge)
    · exact same _
  | zero s' =>
    cases s
    · exact less (neg_neg_of_pos hlarge)
    · exact greater hlarge
  | finite s' m' e' hm' =>
    obtain ⟨hpos, hsmall⟩ := hb.1.magnitude hm' hb.2
    cases s <;> cases s'
    · exact less (neg_lt_neg hsmall)
    · exact less ((neg_neg_of_pos hlarge).trans hpos)
    · exact greater ((neg_neg_of_pos hpos).trans hlarge)
    · exact greater hsmall

/-- A zero of either sign lies between the negative numbers and the positive ones. -/
theorem compare_zero (s : Sign) {b : UnpackedFloat} (hb : Number b) :
    (UnpackedFloat.zero s).compare b = some (compare 0 (unpackedValue b)) := by
  have hlarge := beyond_pos
  cases b with
  | notANumber => cases hb
  | infinity s' =>
    cases s'
    · exact greater (neg_neg_of_pos hlarge)
    · exact less hlarge
  | zero s' => exact same _
  | finite s' m' e' hm' =>
    obtain ⟨hpos, -⟩ := hb.1.magnitude hm' hb.2
    cases s'
    · exact greater (neg_neg_of_pos hpos)
    · exact less hpos

/-- Finite numbers of one sign compare by their magnitudes. -/
theorem compare_finite {s : Sign} {m : ℕ} {e : ℤ} {hm : 0 < m} {b : UnpackedFloat}
    (ha : Number (.finite s m e hm)) (hb : Number b) :
    (UnpackedFloat.finite s m e hm).compare b =
      some (compare (signed s (m * 2 ^ e)) (unpackedValue b)) := by
  have hlarge := beyond_pos
  obtain ⟨hpos, hsmall⟩ := ha.1.magnitude hm ha.2
  cases b with
  | notANumber => cases hb
  | infinity s' =>
    cases s <;> cases s'
    · exact greater (neg_lt_neg hsmall)
    · exact less ((neg_neg_of_pos hpos).trans hlarge)
    · exact greater ((neg_neg_of_pos hlarge).trans hpos)
    · exact less hsmall
  | zero s' =>
    cases s
    · exact less (neg_neg_of_pos hpos)
    · exact greater hpos
  | finite s' m' e' hm' =>
    obtain ⟨hpos', -⟩ := hb.1.magnitude hm' hb.2
    cases s <;> cases s'
    · refine congrArg some ?_
      rw [compare_magnitudes ha.1 hb.1, swap_compare]
      rfl
    · exact less ((neg_neg_of_pos hpos).trans hpos')
    · exact greater ((neg_neg_of_pos hpos').trans hpos)
    · exact congrArg some (compare_magnitudes ha.1 hb.1)

/-- **Numbers compare as their values do.** -/
theorem compare_unpacked {a b : UnpackedFloat} (ha : Number a) (hb : Number b) :
    a.compare b = some (compare (unpackedValue a) (unpackedValue b)) := by
  cases a with
  | notANumber => cases ha
  | infinity s => exact compare_infinity s hb
  | zero s => exact compare_zero s hb
  | finite s m e hm => exact compare_finite ha hb

/-! ## Doubles -/

/-- The value of a double. -/
def value (x : Float) : ℚ := unpackedValue x.toModel.unpack

/-- Holds of doubles that are not undefined. -/
def Defined (x : Float) : Prop := x.toModel.unpack ≠ .notANumber

theorem Defined.number {x : Float} (h : Defined x) : Number x.toModel.unpack := unpack_number h

theorem defined_of_finite {x : Float} (h : x.isFinite = true) : Defined x := by
  have hfinite : x.toModel.unpack.isFinite = true := h
  intro hnan
  rw [hnan] at hfinite
  cases hfinite

theorem compare_undefined {a b : UnpackedFloat} (h : a = .notANumber ∨ b = .notANumber) :
    a.compare b = none := by
  rcases h with rfl | rfl
  · rfl
  · cases a with
    | infinity s => cases s <;> rfl
    | notANumber => rfl
    | zero s => rfl
    | finite s m e hm => cases s <;> rfl

/-- **Doubles are ordered by their values.** -/
theorem le_iff {x y : Float} : x ≤ y ↔ Defined x ∧ Defined y ∧ value x ≤ value y := by
  have hle : x ≤ y ↔ (x.toModel.unpack.compare y.toModel.unpack).any (·.isLE) = true := by
    change Float.le x y = true ↔ _
    unfold Float.le
    rw [decide_eq_true_iff]
    rfl
  rw [hle]
  by_cases hx : Defined x
  · by_cases hy : Defined y
    · rw [compare_unpacked hx.number hy.number, Option.any_some]
      change (compare (value x) (value y)).isLE = true ↔ _
      rw [Ordering.isLE_iff_ne_gt, compare_gt_iff_gt, not_lt]
      exact ⟨fun h => ⟨hx, hy, h⟩, fun h => h.2.2⟩
    · rw [compare_undefined (Or.inr (not_not.mp hy))]
      exact ⟨fun h => (Bool.false_ne_true h).elim, fun h => absurd h.2.1 hy⟩
  · rw [compare_undefined (Or.inl (not_not.mp hx))]
    exact ⟨fun h => (Bool.false_ne_true h).elim, fun h => absurd h.1 hx⟩

theorem lt_iff {x y : Float} : x < y ↔ Defined x ∧ Defined y ∧ value x < value y := by
  have hlt : x < y ↔ (x.toModel.unpack.compare y.toModel.unpack == some .lt) = true := by
    change Float.lt x y = true ↔ _
    unfold Float.lt
    rw [decide_eq_true_iff]
    rfl
  rw [hlt, beq_iff_eq]
  by_cases hx : Defined x
  · by_cases hy : Defined y
    · rw [compare_unpacked hx.number hy.number, Option.some.injEq]
      change compare (value x) (value y) = .lt ↔ _
      rw [compare_lt_iff_lt]
      exact ⟨fun h => ⟨hx, hy, h⟩, fun h => h.2.2⟩
    · rw [compare_undefined (Or.inr (not_not.mp hy))]
      exact ⟨fun h => (by cases h), fun h => absurd h.2.1 hy⟩
  · rw [compare_undefined (Or.inl (not_not.mp hx))]
    exact ⟨fun h => (by cases h), fun h => absurd h.1 hx⟩

theorem beq_iff {x y : Float} : (x == y) = true ↔ Defined x ∧ Defined y ∧ value x = value y := by
  have hbeq : (x == y) = (x.toModel.unpack.compare y.toModel.unpack == some .eq) := rfl
  rw [hbeq, beq_iff_eq]
  by_cases hx : Defined x
  · by_cases hy : Defined y
    · rw [compare_unpacked hx.number hy.number, Option.some.injEq]
      change compare (value x) (value y) = .eq ↔ _
      rw [compare_eq_iff_eq]
      exact ⟨fun h => ⟨hx, hy, h⟩, fun h => h.2.2⟩
    · rw [compare_undefined (Or.inr (not_not.mp hy))]
      exact ⟨fun h => (by cases h), fun h => absurd h.2.1 hy⟩
  · rw [compare_undefined (Or.inl (not_not.mp hx))]
    exact ⟨fun h => (by cases h), fun h => absurd h.1 hx⟩

theorem not_lt_iff {x y : Float} (hx : Defined x) (hy : Defined y) : ¬ x < y ↔ y ≤ x := by
  rw [lt_iff, le_iff]
  exact ⟨fun h => ⟨hy, hx, not_lt.mp fun hlt => h ⟨hx, hy, hlt⟩⟩,
    fun h hlt => absurd hlt.2.2 (not_lt.mpr h.2.2)⟩

/-- Finite doubles are those whose value is not too large. -/
theorem isFinite_iff {x : Float} : x.isFinite = true ↔ Defined x ∧ |value x| < beyond := by
  have hfinite : x.isFinite = x.toModel.unpack.isFinite := rfl
  have hbeyond := beyond_pos
  rw [hfinite]
  constructor
  · intro h
    have hx : Defined x := defined_of_finite h
    refine ⟨hx, ?_⟩
    have hnumber := hx.number
    unfold value
    cases hu : x.toModel.unpack with
    | infinity s => rw [hu] at h; cases h
    | notANumber => exact absurd hu hx
    | zero s => exact abs_zero.trans_lt hbeyond
    | finite s m e hm =>
      rw [hu] at hnumber
      obtain ⟨hpos, hsmall⟩ := hnumber.1.magnitude hm hnumber.2
      cases s with
      | positive => rwa [unpackedValue_finite, signed_positive, abs_of_pos hpos]
      | negative => rwa [unpackedValue_finite, signed_negative, abs_neg, abs_of_pos hpos]
  · rintro ⟨hx, hsmall⟩
    unfold value at hsmall
    cases hu : x.toModel.unpack with
    | infinity s =>
      rw [hu] at hsmall
      cases s with
      | positive =>
        rw [unpackedValue_infinity, signed_positive, abs_of_pos hbeyond] at hsmall
        exact absurd hsmall (lt_irrefl _)
      | negative =>
        rw [unpackedValue_infinity, signed_negative, abs_neg, abs_of_pos hbeyond] at hsmall
        exact absurd hsmall (lt_irrefl _)
    | notANumber => exact absurd hu hx
    | zero s => rfl
    | finite s m e hm => rfl

/-! ## Rounded values -/

/-- A double that an exact value is rounded to: no double of 53 bits lies strictly between them. -/
structure Near (v : ℚ) (x : Float) : Prop where
  defined : Defined x
  le : ∀ B, Dyadic B → -beyond ≤ B → v ≤ B → value x ≤ B
  ge : ∀ B, Dyadic B → B ≤ beyond → B ≤ v → B ≤ value x

/-- A magnitude whose exponent is too large for a double counts as infinite. -/
theorem Canonical.overflow {m : ℕ} {e : ℤ} (h : Canonical m e) (he : 971 < e) :
    beyond ≤ (m : ℚ) * 2 ^ e := by
  have hfull : 2 ^ 52 ≤ m := by
    rcases h.full with heq | hfull
    · omega
    · exact hfull
  have hfull' : (2 : ℚ) ^ 52 ≤ m := by exact_mod_cast hfull
  have hexponent : (2 : ℚ) ^ (972 : ℤ) ≤ 2 ^ e := zpow_le_zpow_right₀ one_le_two (by omega)
  have hsplit : beyond = 2 ^ 52 * 2 ^ (972 : ℤ) := beyond_eq rfl
  rw [hsplit]
  exact mul_le_mul hfull' hexponent (two_zpow_pos 972).le (by positivity)

/-- A neighbour that is packed is near, even if it becomes infinite. -/
theorem near_of_rounds {v : ℚ} {f : UnpackedFloat} {x : Float} (h : Rounds v f)
    (hx : x.toModel = .pack f) : Near v x := by
  obtain ⟨hproper, hle, hge⟩ := h
  have hunpack : x.toModel.unpack = stored f := by rw [hx, unpack_pack hproper]
  have hdefined : Defined x := by
    have hnumber := number_stored hproper
    rw [← hunpack] at hnumber
    intro hnan
    rw [hnan] at hnumber
    exact hnumber
  have hbeyond := beyond_pos
  by_cases hstored : stored f = f
  · have hvalue : value x = unpackedValue f := by rw [value, hunpack, hstored]
    exact ⟨hdefined, fun B hB _ hv => by rw [hvalue]; exact hle B hB hv,
      fun B hB _ hv => by rw [hvalue]; exact hge B hB hv⟩
  · -- only a large exponent is not stored as it is
    cases f with
    | infinity s => cases hproper
    | notANumber => cases hproper
    | zero s => exact absurd rfl hstored
    | finite s m e hm =>
      have hlarge : 971 < e := by
        by_contra hsmall
        exact hstored (if_neg hsmall)
      have hmagnitude := hproper.overflow hlarge
      have hvalue : value x = signed s beyond := by
        rw [value, hunpack]
        exact congrArg unpackedValue (if_pos hlarge)
      rw [unpackedValue_finite] at hle hge
      refine ⟨hdefined, fun B hB hB' hv => ?_, fun B hB hB' hv => ?_⟩
      · rw [hvalue]
        have hbound := hle B hB hv
        cases s with
        | positive => exact hmagnitude.trans hbound
        | negative => exact hB'
      · rw [hvalue]
        have hbound := hge B hB hv
        cases s with
        | positive => exact hB'
        | negative => exact hbound.trans (neg_le_neg hmagnitude)

theorem Near.nonneg {v : ℚ} {x : Float} (h : Near v x) (hv : 0 ≤ v) : 0 ≤ value x :=
  h.ge 0 dyadic_zero beyond_pos.le hv

end EarthStation.Binary64
