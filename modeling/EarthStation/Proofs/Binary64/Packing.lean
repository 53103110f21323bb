import EarthStation.Proofs.Binary64.Rounding

/-!
# Packing — the bits of a double

* `Binary64.ofFields`: the unpacked double with given bit fields.
* `Binary64.unpack_pack`: what is packed is unpacked again, but for exponents that are too large.
* `Binary64.unpack_number`: a double is unpacked to a number in canonical form.
* `Binary64.decode_eq`: the exact value that the program reads off the bits is the one unpacked.
-/

namespace EarthStation.Binary64

open Float.Model Float.Model.UnpackedFloat

/-! ## Bit fields -/

/-- The unpacked double with a sign, an exponent field and a fraction field. -/
def ofFields (s : Sign) (exponent fraction : ℕ) : UnpackedFloat :=
  if exponent = 2047 then (if fraction = 0 then .infinity s else .notANumber)
  else if exponent = 0 then
    (if h : fraction = 0 then .zero s else .finite s fraction (-1074) (Nat.pos_of_ne_zero h))
  else .finite s (2 ^ 52 + fraction) (exponent - 1075) (by positivity)

theorem toNat_unpackMantissa (b : BitVec 64) :
    (@unpackMantissa Format.binary64 b).toNat = b.toNat % 2 ^ 52 := by
  simp [unpackMantissa, BitVec.extractLsb_toNat]

theorem toNat_unpackExponent (b : BitVec 64) :
    (@unpackExponent Format.binary64 b).toNat = b.toNat / 2 ^ 52 % 2 ^ 11 := by
  simp [unpackExponent, BitVec.extractLsb_toNat, Nat.shiftRight_eq_div_pow]

theorem toNat_unpackSign (b : BitVec 64) :
    (@unpackSign Format.binary64 b).toNat = b.toNat / 2 ^ 63 := by
  have hb := b.isLt
  have hbit : (@unpackSign Format.binary64 b).toNat = (b.extractLsb 63 63).toNat := rfl
  rw [hbit, BitVec.extractLsb_toNat, Nat.shiftRight_eq_div_pow]
  omega

/-- The sign that a bit stands for. -/
def signOf (negative : Bool) : Sign := if negative then .negative else .positive

theorem ofBitVec_eq (b : BitVec 1) : Sign.ofBitVec b = signOf (decide (b.toNat = 1)) := by
  rcases BitVec.eq_zero_or_eq_one b with rfl | rfl <;> rfl

theorem unpack_fields (b : BitVec 64) :
    UnpackedFloat.unpack .binary64 b = ofFields (signOf (decide (2 ^ 63 ≤ b.toNat)))
      (b.toNat / 2 ^ 52 % 2 ^ 11) (b.toNat % 2 ^ 52) := by
  have hsign : Sign.ofBitVec (@unpackSign Format.binary64 b) =
      signOf (decide (2 ^ 63 ≤ b.toNat)) := by
    have hb := b.isLt
    rw [ofBitVec_eq, toNat_unpackSign]
    congr 1
    rw [decide_eq_decide]
    omega
  have hmantissa := toNat_unpackMantissa b
  have hexponent := toNat_unpackExponent b
  have hleading : (1#1 ++ @unpackMantissa Format.binary64 b).toNat = 2 ^ 52 + b.toNat % 2 ^ 52 := by
    rw [BitVec.toNat_append, ← Nat.shiftLeft_add_eq_or_of_lt (BitVec.isLt _), hmantissa]
    rfl
  have hzero : @unpackMantissa Format.binary64 b = 0#52 ↔ b.toNat % 2 ^ 52 = 0 := by
    rw [← hmantissa, BitVec.toNat_eq]
    rfl
  have hmost : @unpackExponent Format.binary64 b = -1#11 ↔ b.toNat / 2 ^ 52 % 2 ^ 11 = 2047 := by
    rw [← hexponent, BitVec.toNat_eq]
    rfl
  have hleast : @unpackExponent Format.binary64 b = 0#11 ↔ b.toNat / 2 ^ 52 % 2 ^ 11 = 0 := by
    rw [← hexponent, BitVec.toNat_eq]
    rfl
  unfold UnpackedFloat.unpack ofFields
  dsimp only
  by_cases hinf : b.toNat / 2 ^ 52 % 2 ^ 11 = 2047
  · rw [if_pos (hmost.mpr hinf), if_pos hinf, hsign]
    by_cases hfraction : b.toNat % 2 ^ 52 = 0
    · rw [if_pos (hzero.mpr hfraction), if_pos hfraction]
    · rw [if_neg (mt hzero.mp hfraction), if_neg hfraction]
  · rw [if_neg (mt hmost.mp hinf), if_neg hinf]
    by_cases hsub : b.toNat / 2 ^ 52 % 2 ^ 11 = 0
    · rw [if_pos (hleast.mpr hsub), if_pos hsub]
      by_cases hfraction : b.toNat % 2 ^ 52 = 0
      · rw [dif_pos (hzero.mpr hfraction), dif_pos hfraction, hsign]
      · rw [dif_neg (mt hzero.mp hfraction), dif_neg hfraction, UnpackedFloat.finite.injEq,
          hexponent, hsub]
        exact ⟨hsign, hmantissa, rfl⟩
    · rw [if_neg (mt hleast.mp hsub), if_neg hsub, UnpackedFloat.finite.injEq, hexponent]
      exact ⟨hsign, hleading, rfl⟩

theorem toNat_append {n m : ℕ} (x : BitVec n) (y : BitVec m) :
    (x ++ y).toNat = x.toNat * 2 ^ m + y.toNat := by
  rw [BitVec.toNat_append, ← Nat.shiftLeft_add_eq_or_of_lt y.isLt, Nat.shiftLeft_eq]

theorem unpack_components (s : Sign) (exponent : BitVec 11) (mantissa : BitVec 52) :
    UnpackedFloat.unpack .binary64 (packComponents .binary64 s exponent mantissa) =
      ofFields s exponent.toNat mantissa.toNat := by
  have hbits : (packComponents .binary64 s exponent mantissa).toNat =
      (s.toBitVec.toNat * 2 ^ 11 + exponent.toNat) * 2 ^ 52 + mantissa.toNat := by
    unfold packComponents
    rw [toNat_append, toNat_append]
  have hexponent := exponent.isLt
  have hmantissa := mantissa.isLt
  have hsign : signOf (decide (2 ^ 63 ≤ (packComponents .binary64 s exponent mantissa).toNat)) = s := by
    rw [hbits]
    cases s with
    | negative =>
      have hone : (Sign.toBitVec .negative).toNat = 1 := rfl
      rw [hone, decide_eq_true (by omega)]
      rfl
    | positive =>
      have hzero : (Sign.toBitVec .positive).toNat = 0 := rfl
      rw [hzero, decide_eq_false (by omega)]
      rfl
  rw [unpack_fields, hsign, hbits]
  congr 1 <;> omega

/-! ## There and back -/

/-- What becomes of an unpacked number when it is packed: an exponent that is too large makes it
infinite. -/
def stored : UnpackedFloat → UnpackedFloat
  | .finite s m e hm => if 971 < e then .infinity s else .finite s m e hm
  | f => f

theorem stored_finite (s : Sign) {m : ℕ} (e : ℤ) (hm : 0 < m) :
    stored (.finite s m e hm) = if 971 < e then .infinity s else .finite s m e hm := rfl

theorem pack_finite (s : Sign) {m : ℕ} (e : ℤ) (hm : 0 < m) :
    UnpackedFloat.pack .binary64 (.finite s m e hm) =
      if 2 ^ 11 ≤ (e + 1075).toNat + 1 then packedInfinity .binary64 s
      else if m.log2 + 1 = 53 then
        packComponents .binary64 s (BitVec.ofNat 11 (e + 1075).toNat) (BitVec.ofNat 52 m)
      else packComponents .binary64 s 0#11 (BitVec.ofNat 52 m) := by
  have hbias : e + 1075 = e + (Format.binary64.exponentBias : ℤ) + ((52 : ℕ) : ℤ) := by
    have hbias' : (Format.binary64.exponentBias : ℤ) = 1023 := rfl
    omega
  rw [hbias]
  rfl

theorem unpack_pack_finite {s : Sign} {m : ℕ} {e : ℤ} {hm : 0 < m} (h : Canonical m e) :
    UnpackedFloat.unpack .binary64 (UnpackedFloat.pack .binary64 (.finite s m e hm)) =
      stored (.finite s m e hm) := by
  obtain ⟨hsmall, hleast, hfull⟩ := h
  rw [pack_finite, stored_finite]
  by_cases hlarge : 971 < e
  · rw [if_pos hlarge, if_pos (by omega)]
    exact unpack_components s _ _
  · rw [if_neg hlarge, if_neg (by omega)]
    by_cases hnormal : 2 ^ 52 ≤ m
    · have hlog : m.log2 = 52 := (Nat.log2_eq_iff hm.ne').mpr ⟨hnormal, hsmall⟩
      have hexponent : (BitVec.ofNat 11 (e + 1075).toNat).toNat = (e + 1075).toNat := by
        rw [BitVec.toNat_ofNat]
        omega
      have hmantissa : (BitVec.ofNat 52 m).toNat = m - 2 ^ 52 := by
        rw [BitVec.toNat_ofNat]
        omega
      rw [if_pos (by omega), unpack_components, hexponent, hmantissa]
      unfold ofFields
      rw [if_neg (by omega), if_neg (by omega), UnpackedFloat.finite.injEq]
      exact ⟨rfl, by omega, by omega⟩
    · have hlog := (Nat.log2_lt hm.ne').mpr (not_le.mp hnormal)
      have hmantissa : (BitVec.ofNat 52 m).toNat = m := by
        rw [BitVec.toNat_ofNat]
        omega
      obtain rfl : e = -1074 := by omega
      rw [if_neg (by omega), unpack_components, hmantissa]
      unfold ofFields
      rw [if_neg (by decide), if_pos (by decide), dif_neg hm.ne']

/-- **What is packed is unpacked again**, but for exponents that are too large. -/
theorem unpack_pack {f : UnpackedFloat} (h : Proper f) : (Float.Model.pack f).unpack = stored f := by
  cases f with
  | infinity s => cases h
  | notANumber => cases h
  | zero s => exact unpack_components s _ _
  | finite s m e hm => exact unpack_pack_finite h

theorem unpack_pack_infinity (s : Sign) :
    (Float.Model.pack (.infinity s)).unpack = .infinity s := unpack_components s _ _

/-- Holds of what doubles are unpacked to, but for undefined ones. -/
def Number : UnpackedFloat → Prop
  | .infinity _ => True
  | .notANumber => False
  | .zero _ => True
  | .finite _ m e _ => Canonical m e ∧ e ≤ 971

theorem number_stored {f : UnpackedFloat} (h : Proper f) : Number (stored f) := by
  cases f with
  | infinity s => cases h
  | notANumber => cases h
  | zero s => exact trivial
  | finite s m e hm =>
    rw [stored_finite]
    by_cases hlarge : 971 < e
    · rw [if_pos hlarge]
      exact trivial
    · rw [if_neg hlarge]
      exact ⟨h, not_lt.mp hlarge⟩

theorem Number.proper {f : UnpackedFloat} (h : Number f) (hfinite : f.isFinite = true) : Proper f := by
  cases f with
  | infinity s => cases hfinite
  | notANumber => cases h
  | zero s => exact trivial
  | finite s m e hm => exact h.1

/-- Fields of 11 and 52 bits hold no more than a double. -/
theorem ofFields_number {s : Sign} {exponent fraction : ℕ} (hexponent : exponent < 2 ^ 11)
    (hfraction : fraction < 2 ^ 52) (hdefined : ofFields s exponent fraction ≠ .notANumber) :
    Number (ofFields s exponent fraction) := by
  unfold ofFields at hdefined ⊢
  by_cases hinf : exponent = 2047
  · rw [if_pos hinf] at hdefined ⊢
    by_cases hzero : fraction = 0
    · rw [if_pos hzero]
      exact trivial
    · rw [if_neg hzero] at hdefined
      exact absurd rfl hdefined
  · rw [if_neg hinf]
    by_cases hsub : exponent = 0
    · rw [if_pos hsub]
      by_cases hzero : fraction = 0
      · rw [dif_pos hzero]
        exact trivial
      · rw [dif_neg hzero]
        exact ⟨⟨by omega, le_rfl, Or.inl rfl⟩, by omega⟩
    · rw [if_neg hsub]
      exact ⟨⟨by omega, by omega, Or.inr (by omega)⟩, by omega⟩

/-- **A double is unpacked to a number in canonical form**, unless it is undefined. -/
theorem unpack_number {x : Float} (h : x.toModel.unpack ≠ .notANumber) : Number x.toModel.unpack := by
  have hfields : x.toModel.unpack = _ := unpack_fields x.toModel.toBits.toBitVec
  rw [hfields] at h ⊢
  exact ofFields_number (Nat.mod_lt _ (by positivity)) (Nat.mod_lt _ (by positivity)) h

/-! ## The exact value -/

/-- The exact value that is read off the bits. -/
def ofUnpacked : UnpackedFloat → Binary64
  | .infinity s => .infinite (s == .negative)
  | .notANumber => .undefined
  | .zero s => .finite (s == .negative) 0 (-1074)
  | .finite s m e _ => .finite (s == .negative) m e

/-- **The program reads off the bits what is unpacked from them.** -/
theorem decode_eq (x : Float) : decode x = ofUnpacked x.toModel.unpack := by
  have hfields : x.toModel.unpack = _ := unpack_fields x.toModel.toBits.toBitVec
  have hbits : x.toModel.toBits.toBitVec.toNat = x.toBits.toNat := rfl
  have hsign (negative : Bool) : negative = (signOf negative == .negative) := by
    cases negative <;> rfl
  have hfinite (negative : Bool) {m : ℕ} (e : ℤ) (hm : 0 < m) :
      Binary64.finite negative m e = ofUnpacked (.finite (signOf negative) m e hm) :=
    congrArg (Binary64.finite · m e) (hsign negative)
  rw [hfields, hbits]
  unfold decode
  simp only [Nat.pow_eq]
  unfold ofFields
  by_cases hinf : x.toBits.toNat / 2 ^ 52 % 2 ^ 11 = 2047
  · rw [if_pos hinf, if_pos hinf]
    split
    · exact congrArg Binary64.infinite (hsign _)
    · rfl
  · rw [if_neg hinf, if_neg hinf]
    by_cases hsub : x.toBits.toNat / 2 ^ 52 % 2 ^ 11 = 0
    · rw [if_pos hsub, if_pos hsub]
      by_cases hzero : x.toBits.toNat % 2 ^ 52 = 0
      · rw [dif_pos hzero, hzero]
        exact congrArg (Binary64.finite · 0 (-1074)) (hsign _)
      · rw [dif_neg hzero]
        exact hfinite _ _ _
    · rw [if_neg hsub, if_neg hsub]
      exact hfinite _ _ _

end EarthStation.Binary64
