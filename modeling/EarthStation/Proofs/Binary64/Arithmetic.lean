import EarthStation.Proofs.Binary64.Order

/-!
# Arithmetic — sums, differences, products and roundings of doubles

* `Binary64.near_add`, `Binary64.near_sub`, `Binary64.near_mul`, `Binary64.near_encode`,
  `Binary64.near_natural`: each is near the exact result.
* `Binary64.value_neg`, `Binary64.value_abs`, `Binary64.value_distance`: signs are exact.
* `Binary64.distance_self_le`, `Binary64.distance_le_of_not_lt`: distances within a bound.
* `Binary64.wrap_bounds`: a remainder lies between zero and the divisor.
-/

namespace EarthStation.Binary64

open Float.Model Float.Model.UnpackedFloat

/-! ## Sums and products -/

theorem rounds_self {f : UnpackedFloat} (h : Proper f) : Rounds (unpackedValue f) f :=
  ⟨h, fun _ _ hv => hv, fun _ _ hv => hv⟩

theorem signed_apply (s : Sign) (n : ℕ) : ((s.apply n : ℤ) : ℚ) = signed s n := by
  cases s
  · exact Int.cast_neg _
  · rfl

/-- A magnitude on a finer grid. -/
theorem decreaseExponent_value (s : Sign) (m : ℕ) {e e' : ℤ} (h : e' ≤ e) :
    ((s.apply (decreaseExponent m e e').1 : ℤ) : ℚ) * 2 ^ e' = signed s (m * 2 ^ e) := by
  obtain ⟨k, rfl⟩ : ∃ k : ℕ, e = e' + k := ⟨(e - e').toNat, by omega⟩
  have hshift : (decreaseExponent m (e' + k) e').1 = m * 2 ^ k := by
    change m <<< (e' + (k : ℤ) - e').toNat = m * 2 ^ k
    rw [Nat.shiftLeft_eq, show (e' + (k : ℤ) - e').toNat = k by omega]
  rw [signed_apply, hshift, two_zpow_add]
  cases s
  · rw [signed_negative, signed_negative]
    push_cast
    ring
  · rw [signed_positive, signed_positive]
    push_cast
    ring

theorem rounds_add {a b : UnpackedFloat} (ha : Proper a) (hb : Proper b) :
    Rounds (unpackedValue a + unpackedValue b) (UnpackedFloat.add .binary64 a b) := by
  cases a with
  | infinity s => cases ha
  | notANumber => cases ha
  | zero s =>
    cases b with
    | infinity s' => cases hb
    | notANumber => cases hb
    | zero s' =>
      have hzero (t : Sign) : Rounds (0 + 0) (.zero t) := by
        rw [add_zero]
        exact rounds_self (f := .zero t) trivial
      change Rounds (0 + 0) (if s == s' then .zero s else .zero .positive)
      split <;> exact hzero _
    | finite s' m' e' hm' =>
      change Rounds (0 + _) _
      rw [zero_add]
      exact rounds_self hb
  | finite s m e hm =>
    cases b with
    | infinity s' => cases hb
    | notANumber => cases hb
    | zero s' =>
      change Rounds (_ + 0) _
      rw [add_zero]
      exact rounds_self ha
    | finite s' m' e' hm' =>
      have hround := normalize_spec (s.apply (decreaseExponent m e (min e e')).1 +
        s'.apply (decreaseExponent m' e' (min e e')).1) (min e e')
      rw [Int.cast_add, add_mul, decreaseExponent_value s m (min_le_left e e'),
        decreaseExponent_value s' m' (min_le_right e e')] at hround
      exact hround

/-- **A sum is near the exact one.** -/
theorem near_add {x y : Float} (hx : x.isFinite = true) (hy : y.isFinite = true) :
    Near (value x + value y) (x + y) :=
  near_of_rounds (rounds_add ((defined_of_finite hx).number.proper hx)
    ((defined_of_finite hy).number.proper hy)) rfl

/-- A difference is the sum with the negated number. -/
theorem difference_eq_sum (a b : UnpackedFloat) :
    UnpackedFloat.sub .binary64 a b = UnpackedFloat.add .binary64 a b.neg := by
  have happly (s : Sign) (n : ℕ) : (-s).apply n = -(s.apply n : ℤ) := by
    cases s
    · exact (Int.neg_neg _).symm
    · rfl
  cases a with
  | finite s m e hm =>
    cases b with
    | finite s' m' e' hm' =>
      -- both are sums on the finer of the two grids
      change normalize .binary64 (s.apply (decreaseExponent m e (min e e')).1 -
          s'.apply (decreaseExponent m' e' (min e e')).1) (min e e') .positive =
        normalize .binary64 (s.apply (decreaseExponent m e (min e e')).1 +
          (-s').apply (decreaseExponent m' e' (min e e')).1) (min e e') .positive
      rw [happly, Int.sub_eq_add_neg]
    | _ => rfl
  | _ => cases b <;> rfl

theorem rounds_sub {a b : UnpackedFloat} (ha : Proper a) (hb : Proper b) :
    Rounds (unpackedValue a - unpackedValue b) (UnpackedFloat.sub .binary64 a b) := by
  have hneg : Proper b.neg ∧ unpackedValue b.neg = -unpackedValue b := by
    cases b with
    | infinity s => cases hb
    | notANumber => cases hb
    | zero s => exact ⟨trivial, neg_zero.symm⟩
    | finite s m e hm => exact ⟨hb, signed_neg s _⟩
  rw [difference_eq_sum, sub_eq_add_neg, ← hneg.2]
  exact rounds_add ha hneg.1

/-- **A difference is near the exact one.** -/
theorem near_sub {x y : Float} (hx : x.isFinite = true) (hy : y.isFinite = true) :
    Near (value x - value y) (x - y) :=
  near_of_rounds (rounds_sub ((defined_of_finite hx).number.proper hx)
    ((defined_of_finite hy).number.proper hy)) rfl

theorem signed_mul (s s' : Sign) (v w : ℚ) : signed (s * s') (v * w) = signed s v * signed s' w := by
  cases s <;> cases s'
  · exact (neg_mul_neg v w).symm
  · exact (neg_mul v w).symm
  · exact (mul_neg v w).symm
  · rfl

/-- The exponent of a product is not above its target. -/
theorem product_target {m m' : ℕ} {e e' : ℤ} (hm : 0 < m) (hm' : 0 < m') (h : Canonical m e)
    (h' : Canonical m' e') : e + e' ≤ target (m * m') (e + e') := by
  have hleast := h.least
  have hleast' := h'.least
  have hbits (k : ℕ) (hk : 2 ^ k ≤ m * m') : k ≤ (m * m').log2 := by
    exact (Nat.le_log2 (Nat.mul_pos hm hm').ne').mpr hk
  unfold target
  by_cases hlow : e = -1074 ∧ e' = -1074
  · omega
  · have hfull : 2 ^ 52 ≤ m * m' := by
      rcases h.full with heq | hfull
      · rcases h'.full with heq' | hfull'
        · exact absurd ⟨heq, heq'⟩ hlow
        · exact hfull'.trans (Nat.le_mul_of_pos_left m' hm)
      · exact hfull.trans (Nat.le_mul_of_pos_right m hm')
    have hlog := hbits 52 hfull
    omega

theorem rounds_mul {a b : UnpackedFloat} (ha : Proper a) (hb : Proper b) :
    Rounds (unpackedValue a * unpackedValue b) (UnpackedFloat.mul .binary64 a b) := by
  have hzero (s : Sign) : Rounds 0 (.zero s) := rounds_self (f := .zero s) trivial
  cases a with
  | infinity s => cases ha
  | notANumber => cases ha
  | zero s =>
    change Rounds (0 * _) _
    rw [zero_mul]
    cases b with
    | infinity s' => cases hb
    | notANumber => cases hb
    | zero s' => exact hzero _
    | finite s' m' e' hm' => exact hzero _
  | finite s m e hm =>
    cases b with
    | infinity s' => cases hb
    | notANumber => cases hb
    | zero s' =>
      change Rounds (_ * 0) _
      rw [mul_zero]
      exact hzero _
    | finite s' m' e' hm' =>
      have hround := roundWithAccuracy_spec (s * s') (Nat.mul_pos hm hm')
        (product_target hm hm' ha hb)
      have hvalue : (((m * m' : ℕ) : ℚ)) * 2 ^ (e + e') = (m * 2 ^ e) * (m' * 2 ^ e') := by
        rw [zpow_add₀ two_ne_zero]
        push_cast
        ring
      rw [hvalue, signed_mul] at hround
      exact hround

/-- **A product is near the exact one.** -/
theorem near_mul {x y : Float} (hx : x.isFinite = true) (hy : y.isFinite = true) :
    Near (value x * value y) (x * y) :=
  near_of_rounds (rounds_mul ((defined_of_finite hx).number.proper hx)
    ((defined_of_finite hy).number.proper hy)) rfl

/-! ## Other sources of doubles -/

theorem natural_lt_beyond {n : ℕ} (hn : n < 2 ^ 53) : (n : ℚ) < beyond := by
  have hn' : (n : ℚ) < 2 ^ 53 := by exact_mod_cast hn
  have hsplit : beyond = 2 ^ 53 * 2 ^ (971 : ℤ) := beyond_eq rfl
  have hone : (1 : ℚ) ≤ 2 ^ (971 : ℤ) := one_le_zpow₀ one_le_two (by norm_num)
  rw [hsplit]
  exact hn'.trans_le (le_mul_of_one_le_right (by norm_num) hone)

/-- A number that is not large is finite. -/
theorem finite_of_abs_le {x : Float} (h : Defined x) {n : ℕ} (hn : n < 2 ^ 53) (hle : |value x| ≤ n) :
    x.isFinite = true :=
  isFinite_iff.mpr ⟨h, hle.trans_lt (natural_lt_beyond hn)⟩

/-- Rounding does not lead across whole numbers of 53 bits. -/
theorem Near.between {v : ℚ} {x : Float} (h : Near v x) {a b : ℕ} (ha : (a : ℚ) ≤ v) (hb : v ≤ b)
    (hbits : b < 2 ^ 53) : x.isFinite = true ∧ (a : ℚ) ≤ value x ∧ value x ≤ b := by
  have hbeyond := beyond_pos
  have hlarge := natural_lt_beyond hbits
  have ha' : (0 : ℚ) ≤ a := Nat.cast_nonneg a
  have hab : a ≤ b := by exact_mod_cast ha.trans hb
  have hlow := h.ge a (dyadic_natural (by omega)) (by linarith) ha
  have hhigh := h.le b (dyadic_natural hbits) (by linarith) hb
  exact ⟨isFinite_iff.mpr ⟨h.defined, abs_lt.mpr ⟨by linarith, by linarith⟩⟩, hlow, hhigh⟩

/-- A double near a whole number of 53 bits is that number. -/
theorem Near.natural {n : ℕ} {x : Float} (h : Near n x) (hn : n < 2 ^ 53) :
    value x = n ∧ x.isFinite = true := by
  obtain ⟨hfinite, hlow, hhigh⟩ := h.between le_rfl le_rfl hn
  exact ⟨le_antisymm hhigh hlow, hfinite⟩

/-- A number of 53 bits is converted from a word, and multiplied by one. -/
theorem near_natural_small {n : ℕ} (hn : n < 2 ^ 53) : Near n (Scalar.natural n : Float) := by
  have hword : n.toUInt64.toNat = n := Nat.mod_eq_of_lt (by omega)
  have hround := normalize_spec n 0
  rw [zpow_zero, mul_one, Int.cast_natCast] at hround
  have hconvert : (n.toUInt64.toFloat).toModel = .pack (UnpackedFloat.normalize .binary64 n 0 .positive) := by
    change Float.Model.pack (UnpackedFloat.normalize .binary64 (n.toUInt64.toNat : ℤ) 0 .positive) = _
    rw [hword]
  obtain ⟨hvalue, hfinite⟩ := (near_of_rounds hround hconvert).natural hn
  have hone : value (Float.ofBits 0x3FF0000000000000) = 1 := by
    have hunpack : (Float.ofBits 0x3FF0000000000000).toModel.unpack =
        .finite .positive (2 ^ 52) (-52) (by positivity) := rfl
    have hsplit := two_zpow_add 52 (-52)
    rw [value, hunpack, unpackedValue_finite, signed_positive, Nat.cast_pow, Nat.cast_ofNat, ← hsplit]
    norm_num
  have hproduct := near_mul hfinite (y := Float.ofBits 0x3FF0000000000000) rfl
  rw [hvalue, hone, mul_one] at hproduct
  have hnatural : (Scalar.natural n : Float) =
      n.toUInt64.toFloat * Float.ofBits 0x3FF0000000000000 := by
    change Float.ofScientific n false 0 = _
    unfold Float.ofScientific
    rw [dif_pos ⟨hn, by decide⟩]
    rfl
  rwa [hnatural]

/-- A number of more bits is written with 53 bits to spare, and rounded. -/
theorem near_natural_large {n : ℕ} (hn : ¬ n < 2 ^ 53) : Near n (Scalar.natural n : Float) := by
  have hpos : 0 < n := by omega
  have hshift : n <<< 53 * 10 ^ 0 = n * 2 ^ 53 := by
    rw [Nat.shiftLeft_eq, pow_zero, Nat.mul_one]
  have htarget : (-53 : ℤ) ≤ target (n * 2 ^ 53) (-53) := by
    unfold target
    rw [log2_mul_pow hpos.ne']
    omega
  have hround := roundWithAccuracy_spec .positive (Nat.mul_pos hpos (by positivity)) htarget
  have hvalue : ((n * 2 ^ 53 : ℕ) : ℚ) * 2 ^ (-53 : ℤ) = n := by
    have hsplit := two_zpow_add 53 (-53)
    rw [Nat.cast_mul, Nat.cast_pow, Nat.cast_ofNat, mul_assoc, ← hsplit]
    norm_num
  rw [hvalue, signed_positive] at hround
  refine near_of_rounds hround ?_
  have hmodel : (Scalar.natural n : Float).toModel =
      .pack (UnpackedFloat.ofScientific .binary64 n 0) := by
    change (Float.ofScientific n false 0).toModel = _
    unfold Float.ofScientific
    rw [dif_neg (by omega)]
    rfl
  have hproduct : UnpackedFloat.ofScientific .binary64 n 0 =
      roundWithAccuracy .binary64 .positive (n <<< 53 * 10 ^ 0) (-53) .exact := by
    have hbits : ((2 : ℤ) ^ Format.binary64.exponentBits) = 2048 := rfl
    unfold UnpackedFloat.ofScientific
    rw [dif_neg hpos.ne', hbits, if_neg (by omega), if_neg (by omega), if_pos le_rfl]
    rfl
  rw [hmodel, hproduct, hshift]

/-- **A whole number is near the exact one.** -/
theorem near_natural (n : ℕ) : Near n (Scalar.natural n : Float) := by
  by_cases hn : n < 2 ^ 53
  · exact near_natural_small hn
  · exact near_natural_large hn

theorem value_natural {n : ℕ} (hn : n < 2 ^ 53) : value (Scalar.natural n : Float) = n :=
  ((near_natural n).natural hn).1

theorem finite_natural {n : ℕ} (hn : n < 2 ^ 53) : (Scalar.natural n : Float).isFinite = true :=
  ((near_natural n).natural hn).2

theorem zero_le_iff {x : Float} : (Scalar.natural 0 : Float) ≤ x ↔ Defined x ∧ 0 ≤ value x := by
  rw [le_iff, value_natural (by norm_num), Nat.cast_zero]
  exact ⟨fun h => h.2, fun h => ⟨(near_natural 0).defined, h⟩⟩

/-- **An encoded value is near the exact one.** -/
theorem near_encode (negative : Bool) (m : ℕ) (e : ℤ) :
    Near (signed (signOf negative) (m * 2 ^ e)) (encode negative m e) := by
  unfold encode
  by_cases hm : m = 0
  · have hvalue : signed (signOf negative) ((m : ℚ) * 2 ^ e) = 0 := by
      rw [hm, Nat.cast_zero, zero_mul]
      cases negative <;> simp [signOf]
    rw [if_pos hm, hvalue]
    cases negative with
    | false => exact near_of_rounds (rounds_self (f := .zero .positive) trivial) rfl
    | true => exact near_of_rounds (rounds_self (f := .zero .negative) trivial) rfl
  · rw [if_neg hm]
    exact near_of_rounds (round_spec _ (Nat.pos_of_ne_zero hm) e) (by cases negative <;> rfl)

/-! ## Signs -/

theorem neg_unpack {f : UnpackedFloat} (h : Number f) :
    (Float.Model.pack f.neg).unpack = f.neg := by
  cases f with
  | infinity s => exact unpack_pack_infinity _
  | notANumber => cases h
  | zero s => exact unpack_pack (f := .zero _) trivial
  | finite s m e hm =>
    rw [unpack_pack (f := UnpackedFloat.neg (.finite s m e hm)) h.1]
    exact if_neg (not_lt.mpr h.2)

theorem value_neg {x : Float} (h : Defined x) : Defined (-x) ∧ value (-x) = -value x := by
  have hunpack : (-x).toModel.unpack = _ := neg_unpack h.number
  unfold Defined value
  rw [hunpack]
  cases hu : x.toModel.unpack with
  | notANumber => exact absurd hu h
  | infinity s => exact ⟨fun hnan => (by cases hnan), signed_neg s beyond⟩
  | zero s => exact ⟨fun hnan => (by cases hnan), neg_zero.symm⟩
  | finite s m e hm => exact ⟨fun hnan => (by cases hnan), signed_neg s _⟩

theorem abs_unpack {f : UnpackedFloat} (h : Number f) :
    (Float.Model.pack f.abs).unpack = f.abs := by
  cases f with
  | infinity s => exact unpack_pack_infinity _
  | notANumber => cases h
  | zero s => exact unpack_pack (f := .zero _) trivial
  | finite s m e hm =>
    rw [unpack_pack (f := UnpackedFloat.abs (.finite s m e hm)) h.1]
    exact if_neg (not_lt.mpr h.2)

theorem value_zero : Defined 0.0 ∧ value 0.0 = 0 := by
  have hunpack : (0.0 : Float).toModel.unpack = .zero .positive := rfl
  refine ⟨fun hnan => ?_, by rw [value, hunpack]; rfl⟩
  rw [hunpack] at hnan
  cases hnan

theorem value_abs {x : Float} (h : Defined x) : Defined x.abs ∧ value x.abs = |value x| := by
  have hunpack : x.abs.toModel.unpack = _ := abs_unpack h.number
  have hbeyond := beyond_pos
  unfold Defined value
  rw [hunpack]
  have hnumber := h.number
  cases hu : x.toModel.unpack with
  | notANumber => exact absurd hu h
  | infinity s =>
    refine ⟨fun hnan => (by cases hnan), ?_⟩
    cases s with
    | negative => exact ((abs_neg beyond).trans (abs_of_pos hbeyond)).symm
    | positive => exact (abs_of_pos hbeyond).symm
  | zero s => exact ⟨fun hnan => (by cases hnan), abs_zero.symm⟩
  | finite s m e hm =>
    rw [hu] at hnumber
    obtain ⟨hpos, -⟩ := hnumber.1.magnitude hm hnumber.2
    refine ⟨fun hnan => (by cases hnan), ?_⟩
    cases s with
    | negative => exact ((abs_neg ((m : ℚ) * 2 ^ e)).trans (abs_of_pos hpos)).symm
    | positive => exact (abs_of_pos hpos).symm

/-! ## Distances -/

theorem value_distance {x : Float} (h : Defined x) :
    Defined (Scalar.abs x) ∧ value (Scalar.abs x) = |value x| := by
  obtain ⟨hneg, hvalue⟩ := value_neg h
  have hzero : value (Scalar.natural 0 : Float) = 0 := value_natural (by norm_num)
  have hsign : x < (Scalar.natural 0 : Float) ↔ value x < 0 := by
    rw [lt_iff, hzero]
    exact ⟨fun hlt => hlt.2.2, fun hlt => ⟨h, (near_natural 0).defined, hlt⟩⟩
  unfold Scalar.abs
  split
  · rename_i hlt
    exact ⟨hneg, hvalue.trans (abs_of_neg (hsign.mp hlt)).symm⟩
  · rename_i hge
    have hnonneg : 0 ≤ value x := not_lt.mp fun hlt => hge (hsign.mpr hlt)
    exact ⟨h, (abs_of_nonneg hnonneg).symm⟩

/-- A finite number is at no distance from itself. -/
theorem distance_self_le {x r : Float} (hx : x.isFinite = true) (hr : (0 : Float) ≤ r) :
    Scalar.abs (x - x) ≤ r := by
  have hnear := near_sub hx hx
  rw [sub_self] at hnear
  have hzero : value (x - x) = 0 := (Near.natural (n := 0) (by simpa using hnear) (by norm_num)).1
  obtain ⟨hdefined, hvalue⟩ := value_distance hnear.defined
  have hr' : (Scalar.natural 0 : Float) ≤ r := hr
  obtain ⟨hrd, hrv⟩ := zero_le_iff.mp hr'
  rw [hzero, abs_zero] at hvalue
  exact le_iff.mpr ⟨hdefined, hrd, hvalue.trans_le hrv⟩

/-- A distance between finite numbers that is not above a bound is within it. -/
theorem distance_le_of_not_lt {x y r : Float} (hx : x.isFinite = true) (hy : y.isFinite = true)
    (hr : Defined r) (h : ¬ r < Scalar.abs (x - y)) : Scalar.abs (x - y) ≤ r :=
  (not_lt_iff hr (value_distance (near_sub hx hy).defined).1).mp h

/-! ## Results that are not negative -/

theorem infinite_of_nonneg {x : Float} (hx : Defined x) (hnonneg : 0 ≤ value x)
    (hlarge : ¬ x.isFinite = true) : x.toModel.unpack = .infinity .positive := by
  have hfinite : x.isFinite = x.toModel.unpack.isFinite := rfl
  have hbeyond := beyond_pos
  unfold value at hnonneg
  rw [hfinite] at hlarge
  cases hu : x.toModel.unpack with
  | infinity s =>
    cases s with
    | positive => rfl
    | negative =>
      rw [hu, unpackedValue_infinity, signed_negative] at hnonneg
      linarith
  | notANumber => exact absurd hu hx
  | zero s => exact absurd (by rw [hu]; rfl) hlarge
  | finite s m e hm => exact absurd (by rw [hu]; rfl) hlarge

/-- What is packed from an infinity is not negative. -/
theorem nonneg_of_infinity {x : Float}
    (h : x.toModel = .pack (.infinity .positive)) : Defined x ∧ 0 ≤ value x := by
  have hunpack : x.toModel.unpack = .infinity .positive := by rw [h, unpack_pack_infinity]
  refine ⟨fun hnan => ?_, ?_⟩
  · rw [hunpack] at hnan
    cases hnan
  · rw [value, hunpack]
    exact beyond_pos.le

/-- A sum of doubles that are not negative is not negative, and not undefined. -/
theorem sum_nonneg {a b : Float} (ha : Defined a ∧ 0 ≤ value a) (hb : Defined b ∧ 0 ≤ value b) :
    Defined (a + b) ∧ 0 ≤ value (a + b) := by
  have hsum : (a + b).toModel = .pack (.add .binary64 a.toModel.unpack b.toModel.unpack) := rfl
  by_cases ha' : a.isFinite = true
  · by_cases hb' : b.isFinite = true
    · have hnear := near_add ha' hb'
      exact ⟨hnear.defined, hnear.nonneg (add_nonneg ha.2 hb.2)⟩
    · rw [infinite_of_nonneg hb.1 hb.2 hb'] at hsum
      refine nonneg_of_infinity (hsum.trans ?_)
      have hfinite : a.toModel.unpack.isFinite = true := ha'
      cases hu : a.toModel.unpack with
      | infinity s => rw [hu] at hfinite; cases hfinite
      | notANumber => rw [hu] at hfinite; cases hfinite
      | zero s => rfl
      | finite s m e hm => rfl
  · rw [infinite_of_nonneg ha.1 ha.2 ha'] at hsum
    refine nonneg_of_infinity (hsum.trans ?_)
    by_cases hb' : b.isFinite = true
    · have hfinite : b.toModel.unpack.isFinite = true := hb'
      cases hu : b.toModel.unpack with
      | infinity s => rw [hu] at hfinite; cases hfinite
      | notANumber => rw [hu] at hfinite; cases hfinite
      | zero s => rfl
      | finite s m e hm => rfl
    · rw [infinite_of_nonneg hb.1 hb.2 hb']
      rfl

/-- So is the product of a whole number and a positive double. -/
theorem product_nonneg {x : Float} (n : ℕ) (hfinite : x.isFinite = true) (hpos : 0 < value x) :
    Defined (Scalar.natural n * x) ∧ 0 ≤ value (Scalar.natural n * x) := by
  have hnatural := near_natural n
  have hnonneg : 0 ≤ value (Scalar.natural n : Float) := hnatural.nonneg (Nat.cast_nonneg n)
  by_cases hn : (Scalar.natural n : Float).isFinite = true
  · have hnear := near_mul hn hfinite
    exact ⟨hnear.defined, hnear.nonneg (mul_nonneg hnonneg hpos.le)⟩
  · have hproduct : (Scalar.natural n * x).toModel =
        .pack (.mul .binary64 (Scalar.natural n : Float).toModel.unpack x.toModel.unpack) := rfl
    rw [infinite_of_nonneg hnatural.defined hnonneg hn] at hproduct
    refine nonneg_of_infinity (hproduct.trans ?_)
    have hfinite' : x.toModel.unpack.isFinite = true := hfinite
    unfold value at hpos
    cases hu : x.toModel.unpack with
    | infinity s => rw [hu] at hfinite'; cases hfinite'
    | notANumber => rw [hu] at hfinite'; cases hfinite'
    | zero s =>
      rw [hu] at hpos
      exact absurd hpos (lt_irrefl _)
    | finite s m e hm =>
      rw [hu] at hpos
      cases s with
      | positive => rfl
      | negative =>
        have hmagnitude : (0 : ℚ) ≤ m * 2 ^ e := by positivity
        rw [unpackedValue_finite, signed_negative] at hpos
        linarith

/-! ## Remainders -/

theorem decode_finite {x : Float} (h : x.isFinite = true) :
    ∃ (negative : Bool) (m : ℕ) (e : ℤ), decode x = .finite negative m e ∧
      value x = signed (signOf negative) (m * 2 ^ e) := by
  have hfinite : x.toModel.unpack.isFinite = true := h
  unfold value
  rw [decode_eq]
  cases hu : x.toModel.unpack with
  | infinity s => rw [hu] at hfinite; cases hfinite
  | notANumber => rw [hu] at hfinite; cases hfinite
  | zero s =>
    refine ⟨_, 0, -1074, rfl, ?_⟩
    rw [Nat.cast_zero, zero_mul]
    cases s
    · exact neg_zero.symm
    · rfl
  | finite s m e hm =>
    refine ⟨_, m, e, rfl, ?_⟩
    cases s <;> rfl

theorem abs_signed (s : Sign) {q : ℚ} (hq : 0 ≤ q) : |signed s q| = q := by
  cases s
  · exact (abs_neg q).trans (abs_of_nonneg hq)
  · exact abs_of_nonneg hq

/-- **A remainder is near a magnitude below that of the divisor**, with the sign of the dividend. -/
theorem near_remainder {x y : Float} (hx : x.isFinite = true) (hy : y.isFinite = true)
    (hzero : value y ≠ 0) :
    ∃ s r, Near (signed s r) (remainder x y) ∧ 0 ≤ r ∧ r < |value y| := by
  obtain ⟨negative, m, e, hdecode, -⟩ := decode_finite hx
  obtain ⟨negative', n, f, hdecode', hvalue'⟩ := decode_finite hy
  have hn : n ≠ 0 := by
    rintro rfl
    rw [Nat.cast_zero, zero_mul] at hvalue'
    refine hzero (hvalue'.trans ?_)
    cases negative' <;> simp [signOf]
  obtain ⟨k, hk⟩ : ∃ k : ℕ, f = min e f + k := ⟨(f - min e f).toNat, by omega⟩
  have hmagnitude : |value y| = (n * 2 ^ k : ℕ) * 2 ^ min e f := by
    rw [hvalue', abs_signed _ (by positivity)]
    conv_lhs => rw [hk, two_zpow_add]
    push_cast
    ring
  have hremainder : remainder x y =
      encode negative (m * 2 ^ (e - min e f).toNat % (n * 2 ^ k)) (min e f) := by
    unfold remainder
    rw [hdecode, hdecode']
    simp only [if_neg hn, Nat.pow_eq]
    rw [show (f - min e f).toNat = k by omega]
  have hless := Nat.mod_lt (m * 2 ^ (e - min e f).toNat) (y := n * 2 ^ k) (by positivity)
  refine ⟨_, _, hremainder ▸ near_encode negative _ (min e f), by positivity, ?_⟩
  rw [hmagnitude]
  exact mul_lt_mul_of_pos_right (by exact_mod_cast hless) (two_zpow_pos _)

/-- **A wrapped value lies between zero and the divisor**, where rounding can lead to the divisor
itself. -/
theorem wrap_bounds {x y : Float} (hx : x.isFinite = true) (hy : y.isFinite = true)
    (hzero : value y ≠ 0) :
    Defined (wrap x y) ∧ 0 ≤ value (wrap x y) ∧ value (wrap x y) ≤ |value y| := by
  have hbeyond := beyond_pos
  obtain ⟨hy', hlarge⟩ := isFinite_iff.mp hy
  obtain ⟨habs, hvabs⟩ := value_abs hy'
  have hdyadic : Dyadic |value y| := by
    have h := (hy'.number.proper hy).dyadic
    rcases abs_choice (value y) with heq | heq
    · rw [heq]
      exact h
    · rw [heq]
      exact h.neg
  have hnonneg := abs_nonneg (value y)
  obtain ⟨s, r, hnear, hr, hr'⟩ := near_remainder hx hy hzero
  have hlow : -|value y| ≤ value (remainder x y) :=
    hnear.ge _ hdyadic.neg (by linarith) (by cases s <;> simp <;> linarith)
  have hhigh : value (remainder x y) ≤ |value y| :=
    hnear.le _ hdyadic (by linarith) (by cases s <;> simp <;> linarith)
  have hwrap : wrap x y = if remainder x y < 0.0 then remainder x y + y.abs else remainder x y := rfl
  rw [hwrap]
  by_cases hneg : remainder x y < 0.0
  · rw [if_pos hneg]
    have hless := (lt_iff.mp hneg).2.2
    rw [value_zero.2] at hless
    have hfinite : (remainder x y).isFinite = true :=
      isFinite_iff.mpr ⟨hnear.defined, abs_lt.mpr ⟨by linarith, by linarith⟩⟩
    have hfinite' : y.abs.isFinite = true :=
      isFinite_iff.mpr ⟨habs, by rwa [hvabs, abs_abs]⟩
    have hsum := near_add hfinite hfinite'
    rw [hvabs] at hsum
    exact ⟨hsum.defined, hsum.nonneg (by linarith),
      hsum.le _ hdyadic (by linarith) (by linarith)⟩
  · rw [if_neg hneg]
    have hle := (le_iff.mp ((not_lt_iff hnear.defined value_zero.1).mp hneg)).2.2
    rw [value_zero.2] at hle
    exact ⟨hnear.defined, hle, hhigh⟩

end EarthStation.Binary64
