import EarthStation.Proofs.Rotator.Reply
import EarthStation.Proofs.Rotator.Tenths

/-!
# Report — what replies report, in exact degrees

* `Rotator.IsReport`, `Rotator.isReport_iff`: the bytes that are a reply, with or without more behind it.
* `Rotator.Digits.number`, `Rotator.Digits.ofNumber`: four digits and the number of tenths that they count.
* `Rotator.encodeResponse_eq`: the reply that reports a position.
* `Rotator.decodeResponse_exact`: replies are told from all other bytes, no two of them are confused, and
  each reports its position to the nearest tenth.
-/

namespace EarthStation.Rotator

open Wire (Bytes)

/-! ## Replies -/

/-- Holds of twelve bytes or more that begin as a reply and have digits where a reply has them. -/
structure IsReport (bytes : Bytes) : Prop where
  long : 12 ≤ bytes.length
  start : bytes[0]? = some 0x57
  digits : ∀ i ∈ [1, 2, 3, 4, 6, 7, 8, 9], ∃ d, bytes[i]? = some d ∧ d ≤ 9

theorem Reply.isReport (r : Reply) (rest : Bytes) : IsReport (r.bytes ++ rest) := by
  have hdigit (d : Fin 10) : digitByte d ≤ 9 := UInt8.not_lt.mp (digitByte_le d)
  refine ⟨by simp [responseLength], rfl, ?_⟩
  simp [Reply.bytes, Digits.bytes, hdigit]

theorem IsReport.exists_reply {bytes : Bytes} (h : IsReport bytes) :
    ∃ (r : Reply) (rest : Bytes), bytes = r.bytes ++ rest := by
  have hplace {i : ℕ} {d : UInt8} (hi : i ∈ [1, 2, 3, 4, 6, 7, 8, 9]) (hd : bytes[i]? = some d) :
      ∃ k, d = digitByte k := by
    obtain ⟨d', hd', hle⟩ := h.digits i hi
    obtain rfl := Option.some.inj (hd'.symm.trans hd)
    obtain ⟨k, hk⟩ := exists_digitByte (UInt8.not_lt.mpr hle)
    exact ⟨k, hk.symm⟩
  match bytes, h.long, h.start, @hplace with
  | first :: a₁ :: a₂ :: a₃ :: a₄ :: b :: e₁ :: e₂ :: e₃ :: e₄ :: c :: z :: rest, _, hstart, hplace =>
    obtain rfl := Option.some.inj hstart
    obtain ⟨d₁, rfl⟩ := hplace (i := 1) (by simp) rfl
    obtain ⟨d₂, rfl⟩ := hplace (i := 2) (by simp) rfl
    obtain ⟨d₃, rfl⟩ := hplace (i := 3) (by simp) rfl
    obtain ⟨d₄, rfl⟩ := hplace (i := 4) (by simp) rfl
    obtain ⟨d₆, rfl⟩ := hplace (i := 6) (by simp) rfl
    obtain ⟨d₇, rfl⟩ := hplace (i := 7) (by simp) rfl
    obtain ⟨d₈, rfl⟩ := hplace (i := 8) (by simp) rfl
    obtain ⟨d₉, rfl⟩ := hplace (i := 9) (by simp) rfl
    exact ⟨⟨⟨d₁, d₂, d₃, d₄⟩, ⟨d₆, d₇, d₈, d₉⟩, b, c, z⟩, rest, rfl⟩

theorem isReport_iff {bytes : Bytes} :
    IsReport bytes ↔ ∃ (r : Reply) (rest : Bytes), bytes = r.bytes ++ rest := by
  refine ⟨IsReport.exists_reply, ?_⟩
  rintro ⟨r, rest, rfl⟩
  exact r.isReport rest

section

variable {α : Type} [Scalar α]

theorem decodeResponse_short {bytes : Bytes} (h : bytes.length < 12) :
    (decodeResponse bytes : Except (Fault α) (Position α)) = .error (.shortResponse bytes.length) := by
  unfold decodeResponse
  split
  · simp only [List.length_cons] at h
    omega
  · rfl

theorem decodeResponse_of_not_isReport {bytes : Bytes} (hlong : 12 ≤ bytes.length)
    (h : ¬ IsReport bytes) : ∃ detail,
      (decodeResponse bytes : Except (Fault α) (Position α)) = .error (.malformed detail) := by
  refine decodeResponse_malformed hlong fun r hprefix => h ?_
  obtain ⟨rest, rfl⟩ := hprefix
  exact r.isReport rest

/-- A position is read from reports only. -/
theorem exists_reply_of_decodeResponse {bytes : Bytes} {p : Position α}
    (h : decodeResponse bytes = .ok p) :
    ∃ (r : Reply) (rest : Bytes), bytes = r.bytes ++ rest ∧ r.position = p := by
  by_cases hreport : IsReport bytes
  · obtain ⟨r, rest, rfl⟩ := hreport.exists_reply
    exact ⟨r, rest, rfl, Except.ok.inj ((decodeResponse_reply r rest).symm.trans h)⟩
  · rcases lt_or_ge bytes.length 12 with hshort | hlong
    · cases h.symm.trans (decodeResponse_short (α := α) hshort)
    · obtain ⟨detail, hdetail⟩ := decodeResponse_of_not_isReport (α := α) hlong hreport
      cases h.symm.trans hdetail

end

/-! ## Numbers of tenths -/

namespace Digits

/-- The number of tenths that digits count. -/
def number (d : Digits) : ℕ := 1000 * d.hundreds + 100 * d.tens + 10 * d.units + d.tenths

theorem number_injective : Function.Injective number := by
  rintro ⟨a, b, c, d⟩ ⟨a', b', c', d'⟩ h
  simp only [number] at h
  simp only [mk.injEq, Fin.ext_iff]
  omega

theorem degrees_eq (d : Digits) : (d.degrees : ℝ) = d.number / 10 - 360 := by
  have h : (d.degrees : ℝ) = ((d.hundreds : ℕ) : ℝ) * ((100 : ℕ) : ℝ)
      + ((d.tens : ℕ) : ℝ) * ((10 : ℕ) : ℝ) + ((d.units : ℕ) : ℝ)
      + ((d.tenths : ℕ) : ℝ) / ((10 : ℕ) : ℝ) - ((360 : ℕ) : ℝ) := rfl
  rw [h, number]
  push_cast
  ring

theorem degrees_injective : Function.Injective (degrees : Digits → ℝ) := by
  intro d d' h
  rw [degrees_eq, degrees_eq] at h
  have hnumber : (d.number : ℝ) = d'.number := by linarith
  exact number_injective (by exact_mod_cast hnumber)

/-- The last digit of a number. -/
def lastDigit (n : ℕ) : Fin 10 := ⟨n % 10, Nat.mod_lt n (by decide)⟩

/-- The last four digits of a number. -/
def ofNumber (n : ℕ) : Digits :=
  ⟨lastDigit (n / 1000), lastDigit (n / 100), lastDigit (n / 10), lastDigit n⟩

theorem number_ofNumber {n : ℕ} (h : n ≤ 9999) : (ofNumber n).number = n := by
  simp only [number, ofNumber, lastDigit]
  omega

end Digits

/-- The reply that reports a position. -/
theorem encodeResponse_eq {α : Type} [Scalar α] (p : Position α) :
    encodeResponse p = Reply.bytes
      ⟨.ofNumber (tenths (UInt32.size - 1) p.azimuthDeg),
        .ofNumber (tenths (UInt32.size - 1) p.elevationDeg), 0x0A, 0x0A, 0x20⟩ := rfl

/-! ## Reports -/

theorem digitByte_injective : Function.Injective digitByte := by
  decide

/-- Two replies report one position just if they have the same digits. -/
theorem Reply.position_eq_iff (r r' : Reply) (rest rest' : Bytes) :
    (r.position : Position ℝ) = r'.position ↔
      ∀ i ∈ [1, 2, 3, 4, 6, 7, 8, 9], (r.bytes ++ rest)[i]? = (r'.bytes ++ rest')[i]? := by
  have hdigits : (r.position : Position ℝ) = r'.position ↔
      r.azimuth = r'.azimuth ∧ r.elevation = r'.elevation := by
    rw [position, position, Position.mk.injEq, Digits.degrees_injective.eq_iff,
      Digits.degrees_injective.eq_iff]
  obtain ⟨⟨a₁, a₂, a₃, a₄⟩, ⟨e₁, e₂, e₃, e₄⟩, b, c, z⟩ := r
  obtain ⟨⟨a₁', a₂', a₃', a₄'⟩, ⟨e₁', e₂', e₃', e₄'⟩, b', c', z'⟩ := r'
  rw [hdigits]
  simp [Reply.bytes, Digits.bytes, digitByte_injective.eq_iff, and_assoc]

/-- What is to be said of bytes that are taken for a reply. -/
structure DecodedExactly (bytes : Bytes) : Prop where
  accepted : (∃ p : Position ℝ, decodeResponse bytes = .ok p) ↔ IsReport bytes
  short : bytes.length < 12 →
    (decodeResponse bytes : Except (Fault ℝ) (Position ℝ)) = .error (.shortResponse bytes.length)
  malformed : 12 ≤ bytes.length → ¬ IsReport bytes → ∃ detail,
    (decodeResponse bytes : Except (Fault ℝ) (Position ℝ)) = .error (.malformed detail)
  /-- The digits, and nothing else, tell the position. -/
  determined : ∀ (other : Bytes) (p q : Position ℝ), decodeResponse bytes = .ok p →
    decodeResponse other = .ok q → (p = q ↔ ∀ i ∈ [1, 2, 3, 4, 6, 7, 8, 9], bytes[i]? = other[i]?)

theorem decodedExactly (bytes : Bytes) : DecodedExactly bytes where
  accepted := by
    rw [isReport_iff]
    constructor
    · rintro ⟨p, h⟩
      obtain ⟨r, rest, hbytes, -⟩ := exists_reply_of_decodeResponse h
      exact ⟨r, rest, hbytes⟩
    · rintro ⟨r, rest, rfl⟩
      exact ⟨_, decodeResponse_reply r rest⟩
  short := decodeResponse_short
  malformed := decodeResponse_of_not_isReport
  determined other p q hp hq := by
    obtain ⟨r, rest, rfl, rfl⟩ := exists_reply_of_decodeResponse hp
    obtain ⟨r', rest', rfl, rfl⟩ := exists_reply_of_decodeResponse hq
    exact r.position_eq_iff r' rest rest'

/-- Holds of angles that four digits have room for, once they are rounded. -/
def FourDigits (angle : ℝ) : Prop :=
  0 ≤ roundedTenths angle ∧ roundedTenths angle ≤ 9999

/-- The digits of an angle in a reply stand for the rounded angle. -/
theorem degrees_encoded {angle : ℝ} (h : FourDigits angle) :
    (Digits.ofNumber (tenths (UInt32.size - 1) angle)).degrees = toTenths angle := by
  have hfits : roundedTenths angle ≤ (UInt32.size - 1 : ℕ) := h.2.trans (by decide)
  have hcount : (tenths (UInt32.size - 1) angle : ℤ) = roundedTenths angle := tenths_eq h.1 hfits
  have hsmall : tenths (UInt32.size - 1) angle ≤ 9999 := by
    have hle : (tenths (UInt32.size - 1) angle : ℤ) ≤ 9999 := hcount.trans_le h.2
    exact_mod_cast hle
  have hreal : (tenths (UInt32.size - 1) angle : ℝ) = roundedTenths angle := by exact_mod_cast hcount
  rw [Digits.degrees_eq, Digits.number_ofNumber hsmall, hreal]
  rfl

theorem decodeResponse_encodeResponse {p : Position ℝ} (hazimuth : FourDigits p.azimuthDeg)
    (helevation : FourDigits p.elevationDeg) :
    decodeResponse (encodeResponse p) = .ok ⟨toTenths p.azimuthDeg, toTenths p.elevationDeg⟩ := by
  have hreply := decodeResponse_reply (α := ℝ)
    ⟨.ofNumber (tenths (UInt32.size - 1) p.azimuthDeg),
      .ofNumber (tenths (UInt32.size - 1) p.elevationDeg), 0x0A, 0x0A, 0x20⟩ []
  rwa [List.append_nil, ← encodeResponse_eq, Reply.position, degrees_encoded hazimuth,
    degrees_encoded helevation] at hreply

/-- **Replies are exact.**  Of all bytes just those with twelve or more, the start of a reply and digits
in their eight places report a position, and that tells those digits and nothing else.  A position that
there is room for is reported with its angles rounded to the nearest tenth, which leaves whole tenths as
they are. -/
theorem decodeResponse_exact :
    (∀ bytes, DecodedExactly bytes) ∧
      (∀ p : Position ℝ, FourDigits p.azimuthDeg → FourDigits p.elevationDeg →
        decodeResponse (encodeResponse p) =
          .ok ⟨toTenths p.azimuthDeg, toTenths p.elevationDeg⟩) ∧
      ∀ angle, FourDigits angle → NearestTenth angle (toTenths angle) ∧
        ((∃ k : ℤ, angle = k / 10) → toTenths angle = angle) := by
  refine ⟨decodedExactly, fun p => decodeResponse_encodeResponse, fun angle h => ?_⟩
  have hnear : NearestTenth angle (toTenths angle) := nearestTenth_toTenths h.1
  exact ⟨hnear, hnear.eq_of_whole⟩

/-- The widest angles that there is room for, a little outside the whole tenths at either end. -/
theorem decodeResponse_exact_widest :
    FourDigits 639.94 ∧ FourDigits (-360.04) ∧
      decodeResponse (encodeResponse (⟨639.94, -360.04⟩ : Position ℝ)) =
        .ok (⟨639.9, -360⟩ : Position ℝ) := by
  have hhigh : FourDigits 639.94 := by norm_num [FourDigits, roundedTenths, roundAway]
  have hlow : FourDigits (-360.04) := by norm_num [FourDigits, roundedTenths, roundAway]
  refine ⟨hhigh, hlow, ?_⟩
  rw [decodeResponse_exact.2.1 ⟨639.94, -360.04⟩ hhigh hlow]
  norm_num [toTenths, roundedTenths, roundAway]

end EarthStation.Rotator
