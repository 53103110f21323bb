import EarthStation.Proofs.Binary64.Whole
import EarthStation.Proofs.Exchange
import EarthStation.Proofs.Radio.Digits

/-!
# Codec — numbers and frequencies to bytes and back

* `Radio.encodeFrequency_eq_ok_iff`: which frequencies are written, and how.
* `Radio.Bcd.Bijective`, `Radio.FrequencyExact`: what is written is read back, and the other way round.
* `Radio.codec_exact`: both hold, in either order of the bytes.
-/

namespace EarthStation.Radio

open Binary64
open Wire (Bytes)

/-! ## Frequencies -/

theorem not_lt_zero_iff {x : Float} (hx : x.isFinite = true) :
    ¬ x < (Scalar.natural 0 : Float) ↔ 0 ≤ value x := by
  rw [not_lt_iff (defined_of_finite hx) (near_natural 0).defined, zero_le_iff]
  exact ⟨fun h => h.2, fun h => ⟨defined_of_finite hx, h⟩⟩

/-- **A frequency is written** just if it is finite, not negative and has at most ten digits once it
is rounded. -/
theorem encodeFrequency_eq_ok_iff {hz : Float} {bytes : Bytes} :
    encodeFrequency hz = .ok bytes ↔
      (hz.isFinite = true ∧ 0 ≤ value hz ∧ ⌊value hz + 1 / 2⌋₊ < 10 ^ 10) ∧
        Bcd.pairs frequencyBytes ⌊value hz + 1 / 2⌋₊ = bytes := by
  have hunfold : encodeFrequency hz =
      if (hz.isFinite && !decide (hz < (Scalar.natural 0 : Float))) = true then
        (Bcd.encode .reverse frequencyBytes (nearest 0 (UInt64.size - 1 : ℕ) hz).toNat).mapError
          fun _ : Fault Float => Fault.value hz
      else .error (Fault.value hz) := rfl
  have hroom : 100 ^ frequencyBytes = 10 ^ 10 := rfl
  rw [hunfold]
  by_cases hfinite : hz.isFinite = true
  · by_cases hnonneg : 0 ≤ value hz
    · have hcheck : (hz.isFinite && !decide (hz < (Scalar.natural 0 : Float))) = true := by
        simp [hfinite, (not_lt_zero_iff hfinite).mpr hnonneg]
      have hbits : UInt64.size - 1 = 2 ^ 64 - 1 := rfl
      rw [if_pos hcheck, nearest_eq hfinite hnonneg, Int.toNat_natCast, mapError_eq_ok_iff,
        Bcd.encode_eq_ok_iff, hbits]
      generalize ⌊value hz + 1 / 2⌋₊ = n
      rw [hroom]
      constructor
      · rintro ⟨hn, rfl⟩
        have hmin : min n (2 ^ 64 - 1) = n := by omega
        rw [hmin] at hn ⊢
        exact ⟨⟨hfinite, hnonneg, hn⟩, rfl⟩
      · rintro ⟨⟨-, -, hn⟩, rfl⟩
        have hmin : min n (2 ^ 64 - 1) = n := by omega
        rw [hmin]
        exact ⟨hn, rfl⟩
    · have hcheck : ¬ (hz.isFinite && !decide (hz < (Scalar.natural 0 : Float))) = true := by
        simp [hfinite, not_not.mp (mt (not_lt_zero_iff hfinite).mp hnonneg)]
      rw [if_neg hcheck]
      simp [hnonneg]
  · simp [hfinite]

theorem decodeFrequency_eq {bytes : Bytes} (h : bytes.length = frequencyBytes) {n : ℕ}
    (hn : (Bcd.decode .reverse bytes : Except (Fault Float) ℕ) = .ok n) :
    decodeFrequency bytes = .ok (Scalar.natural n : Float) := by
  unfold decodeFrequency
  rw [if_pos h, hn]
  rfl

/-! ## The codec -/

/-- The two halves of a byte are decimal digits. -/
def Bcd.Decimal (b : UInt8) : Prop := b.toNat / 16 ≤ 9 ∧ b.toNat % 16 ≤ 9

/-- Numbers of 64 bits and bytes of decimal digits stand for each other, in one order of the bytes. -/
structure Bcd.Bijective (α : Type) [Scalar α] (order : DigitOrder) : Prop where
  /-- A number is written just if there is room for its digits. -/
  room : ∀ (count : ℕ) (v : UInt64),
    (∃ bytes, (encode order count v.toNat : Except (Fault α) Bytes) = .ok bytes) ↔
      v.toNat < 100 ^ count
  written : ∀ (count : ℕ) (v : UInt64) (bytes : Bytes),
    (encode order count v.toNat : Except (Fault α) Bytes) = .ok bytes →
      bytes.length = count ∧ ∀ b ∈ bytes, Decimal b
  turned : ∀ (count : ℕ) (v : UInt64),
    (encode .forward count v.toNat : Except (Fault α) Bytes) =
      (encode .reverse count v.toNat).map List.reverse
  /-- What is written is read back, and no step of the decoder leaves 64 bits. -/
  readBack : ∀ (count : ℕ) (v : UInt64) (bytes : Bytes),
    (encode order count v.toNat : Except (Fault α) Bytes) = .ok bytes →
      (decode order bytes : Except (Fault α) ℕ) = .ok v.toNat ∧ Fits α order bytes
  /-- Bytes that are few enough for 64 bits are read just if they hold digits, and without a step that
  leaves 64 bits. -/
  readable : ∀ bytes : Bytes, bytes.length ≤ 9 →
    ((∃ n, (decode order bytes : Except (Fault α) ℕ) = .ok n) ↔ ∀ b ∈ bytes, Decimal b) ∧
      ((∀ b ∈ bytes, Decimal b) → Fits α order bytes)
  writtenBack : ∀ (bytes : Bytes) (n : ℕ), bytes.length ≤ 9 →
    (decode order bytes : Except (Fault α) ℕ) = .ok n →
      (encode order bytes.length n : Except (Fault α) Bytes) = .ok bytes

/-- Frequencies are written if they are finite, not negative and of ten digits, and read back as whole
hertz. -/
structure FrequencyExact : Prop where
  accepted : ∀ hz : Float, (∃ bytes, encodeFrequency hz = .ok bytes) ↔
    hz.isFinite = true ∧ (0 : Float) ≤ hz ∧ Scalar.round hz < (10000000000 : Float)
  readBack : ∀ (hz : Float) (bytes : Bytes), encodeFrequency hz = .ok bytes →
    ∃ f : Float, decodeFrequency bytes = .ok f ∧ (f == Scalar.round hz) = true ∧
      value f = ⌊value hz + 1 / 2⌋₊

/-- There is room for the digits of nine bytes in 64 bits. -/
theorem Bcd.room_of_length {bytes : Bytes} (h : bytes.length ≤ 9) : 100 ^ bytes.length ≤ UInt64.size :=
  calc 100 ^ bytes.length ≤ 100 ^ 9 := Nat.pow_le_pow_right (by norm_num) h
    _ ≤ UInt64.size := by decide

theorem Bcd.bijective {α : Type} [Scalar α] (order : DigitOrder) : Bijective α order where
  room count v := by
    constructor
    · rintro ⟨bytes, h⟩
      exact (encode_eq_ok_iff.mp h).1
    · intro h
      exact ⟨_, encode_eq_ok_iff.mpr ⟨h, rfl⟩⟩
  written count v bytes h := by
    obtain ⟨-, rfl⟩ := encode_eq_ok_iff.mp h
    refine ⟨?_, fun b hb => ?_⟩
    · rw [length_arrange, length_pairs]
    · exact isPair_iff.mp (isPair_of_mem_pairs (mem_arrange.mp hb))
  turned count v := encode_reverse count v.toNat
  readBack count v bytes h := decode_of_encode v.toNat_lt h
  readable bytes hlength := by
    refine ⟨⟨?_, fun h => ?_⟩, fun h => ?_⟩
    · rintro ⟨n, h⟩ b hb
      exact isPair_iff.mp ((decode_eq_ok_iff.mp h).1 b hb)
    · exact ⟨_, decode_eq_ok_iff.mpr ⟨fun b hb => isPair_iff.mpr (h b hb), rfl⟩⟩
    · have hpairs (b : UInt8) (hb : b ∈ bytes) : isPair b = true := isPair_iff.mpr (h b hb)
      exact fits_of_lt hpairs (ofPairs_arrange_lt (room_of_length hlength) hpairs)
  writtenBack bytes n hlength h := encode_of_decode (room_of_length hlength) h

theorem frequencyExact : FrequencyExact where
  accepted hz := by
    have hbound : (10000000000 : Float) = Scalar.natural 10000000000 := rfl
    have hzero : (0 : Float) = Scalar.natural 0 := rfl
    obtain ⟨hdefined, hvalue⟩ : Defined (Scalar.natural 10000000000 : Float) ∧
        value (Scalar.natural 10000000000) = (10000000000 : ℕ) :=
      ⟨(near_natural _).defined, value_natural (by norm_num)⟩
    rw [hbound, hzero]
    constructor
    · rintro ⟨bytes, h⟩
      obtain ⟨⟨hfinite, hnonneg, hdigits⟩, -⟩ := encodeFrequency_eq_ok_iff.mp h
      obtain ⟨hround, hrounded⟩ := value_round hfinite hnonneg
      refine ⟨hfinite, ?_, lt_iff.mpr ⟨hround, hdefined, ?_⟩⟩
      · exact zero_le_iff.mpr ⟨defined_of_finite hfinite, hnonneg⟩
      · rw [hvalue]
        calc value (Binary64.round hz) = (⌊value hz + 1 / 2⌋₊ : ℕ) := hrounded
          _ < (10000000000 : ℕ) := by exact_mod_cast hdigits
    · rintro ⟨hfinite, hnonneg, hdigits⟩
      have hnonneg' : 0 ≤ value hz := (zero_le_iff.mp hnonneg).2
      obtain ⟨-, hrounded⟩ := value_round hfinite hnonneg'
      have hless : value (Binary64.round hz) < value (Scalar.natural 10000000000) :=
        (lt_iff.mp hdigits).2.2
      rw [hvalue, hrounded] at hless
      exact ⟨_, encodeFrequency_eq_ok_iff.mpr
        ⟨⟨hfinite, hnonneg', by exact_mod_cast hless⟩, rfl⟩⟩
  readBack hz bytes h := by
    obtain ⟨⟨hfinite, hnonneg, hdigits⟩, rfl⟩ := encodeFrequency_eq_ok_iff.mp h
    obtain ⟨hround, hrounded⟩ := value_round hfinite hnonneg
    have hwritten : (Bcd.encode .reverse frequencyBytes ⌊value hz + 1 / 2⌋₊ :
        Except (Fault Float) Bytes) = .ok (Bcd.pairs frequencyBytes ⌊value hz + 1 / 2⌋₊) :=
      Bcd.encode_eq_ok_iff.mpr ⟨hdigits, rfl⟩
    have hbits : ⌊value hz + 1 / 2⌋₊ < UInt64.size := hdigits.trans (by decide)
    have hread := (Bcd.decode_of_encode hbits hwritten).1
    have hnatural : value (Scalar.natural ⌊value hz + 1 / 2⌋₊) = (⌊value hz + 1 / 2⌋₊ : ℕ) :=
      value_natural (hdigits.trans (by norm_num))
    refine ⟨_, decodeFrequency_eq (Bcd.length_pairs _ _) hread, beq_iff.mpr ⟨?_, hround, ?_⟩,
      hnatural⟩
    · exact (near_natural _).defined
    · rw [hnatural]
      exact hrounded.symm

/-- **The codec is exact.**  In either order of the bytes, 64-bit numbers that fit are written in
decimal digits and read back without overflow, and bytes of decimal digits are read and written back.
Frequencies are written exactly if they are finite, not negative and below ten thousand million once
they are rounded, and what is read back is the rounded frequency. -/
theorem codec_exact {α : Type} [Scalar α] (order : DigitOrder) :
    Bcd.Bijective α order ∧ FrequencyExact :=
  ⟨Bcd.bijective order, frequencyExact⟩

/-- The largest frequency that is written, a fraction above a whole one. -/
theorem codec_exact_largest :
    encodeFrequency (9999999999.4 : Float) = .ok [0x99, 0x99, 0x99, 0x99, 0x99] ∧
      ∃ f : Float, decodeFrequency [0x99, 0x99, 0x99, 0x99, 0x99] = .ok f ∧
        (f == Scalar.round (9999999999.4 : Float)) = true := by
  have hwritten : encodeFrequency (9999999999.4 : Float) = .ok [0x99, 0x99, 0x99, 0x99, 0x99] := by
    decide +kernel
  obtain ⟨f, hread, hsame, -⟩ := (codec_exact (α := Float) .reverse).2.readBack _ _ hwritten
  exact ⟨hwritten, f, hread, hsame⟩

end EarthStation.Radio
