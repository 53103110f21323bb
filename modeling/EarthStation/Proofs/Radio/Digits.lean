import EarthStation.Radio.Bcd
import Mathlib.Data.List.Induction
import Mathlib.Tactic.Ring

/-!
# Digits — numbers in bytes of two decimal digits

* `Radio.Bcd.pairs`, `Radio.Bcd.ofPairs`: the bytes of a number, and the number of bytes, told by place
  value; `ofPairs_pairs`, `pairs_ofPairs`: they are inverse to each other.
* `Radio.Bcd.splitOff_eq`: the encoder comes to the bytes, and a remainder is left just if they are too few.
* `Radio.Bcd.Fits`: no step of the decoder leaves 64 bits; `foldl_extend`: the number that it comes to.
* `Radio.Bcd.encode_eq_ok_iff`, `Radio.Bcd.decode_eq_ok_iff`: when a number is written, and when bytes
  are read.
-/

namespace EarthStation.Radio.Bcd

open Wire (Bytes)

/-! ## Bytes of two digits -/

theorem toNat_pair {digits : UInt8} (h : digits.toNat < 100) :
    (pair digits).toNat = 16 * (digits.toNat / 10) + digits.toNat % 10 := by
  have hlow : digits.toNat % 10 < 2 ^ 4 := by omega
  have hhigh : (digits.toNat / 10) <<< 4 % 2 ^ 8 = (digits.toNat / 10) <<< 4 := by
    rw [Nat.shiftLeft_eq]
    omega
  have hten : (10 : UInt8).toNat = 10 := rfl
  have hfour : (4 : UInt8).toNat % 8 = 4 := rfl
  unfold pair
  rw [UInt8.toNat_or, UInt8.toNat_shiftLeft, UInt8.toNat_div, UInt8.toNat_mod, hten, hfour, hhigh,
    ← Nat.shiftLeft_add_eq_or_of_lt hlow, Nat.shiftLeft_eq]
  omega

theorem toNat_upper (b : UInt8) : (upper b).toNat = b.toNat / 16 := by
  have hfour : (4 : UInt8).toNat % 8 = 4 := rfl
  unfold upper
  rw [UInt8.toNat_shiftRight, hfour, Nat.shiftRight_eq_div_pow]

theorem toNat_lower (b : UInt8) : (lower b).toNat = b.toNat % 16 :=
  (UInt8.toNat_and b 0x0F).trans (Nat.and_two_pow_sub_one_eq_mod b.toNat 4)

theorem isPair_iff {b : UInt8} : isPair b = true ↔ b.toNat / 16 ≤ 9 ∧ b.toNat % 16 ≤ 9 := by
  have hnine : (9 : UInt8).toNat = 9 := rfl
  unfold isPair
  simp only [Bool.not_eq_true', Bool.or_eq_false_iff, decide_eq_false_iff_not, UInt8.lt_iff_toNat_lt,
    toNat_upper, toNat_lower, hnine, not_lt]

/-- The number in a byte with two decimal digits. -/
def ofPair (b : UInt8) : ℕ := 10 * (b.toNat / 16) + b.toNat % 16

theorem ofPair_eq (b : UInt8) : ofPair b = (upper b).toNat * 10 + (lower b).toNat := by
  rw [toNat_upper, toNat_lower]
  unfold ofPair
  omega

theorem ofPair_lt {b : UInt8} (h : isPair b = true) : ofPair b < 100 := by
  rw [isPair_iff] at h
  unfold ofPair
  omega

/-- The byte of the last two digits of a number. -/
def lastPair (n : ℕ) : UInt8 := pair (UInt8.ofNat (n % 100))

theorem toNat_lastPair (n : ℕ) : (lastPair n).toNat = 16 * (n / 10 % 10) + n % 10 := by
  have hdigits : (UInt8.ofNat (n % 100)).toNat = n % 100 := by
    rw [UInt8.toNat_ofNat']
    omega
  have hroom : (UInt8.ofNat (n % 100)).toNat < 100 := by omega
  unfold lastPair
  rw [toNat_pair hroom, hdigits]
  omega

theorem isPair_lastPair (n : ℕ) : isPair (lastPair n) = true := by
  rw [isPair_iff, toNat_lastPair]
  omega

theorem ofPair_lastPair (n : ℕ) : ofPair (lastPair n) = n % 100 := by
  unfold ofPair
  rw [toNat_lastPair]
  omega

/-- The two digits of a byte are the last two of the number that it stands for. -/
theorem lastPair_add {b : UInt8} (h : isPair b = true) (n : ℕ) :
    lastPair (ofPair b + 100 * n) = b := by
  rw [isPair_iff] at h
  apply UInt8.toNat_inj.mp
  rw [toNat_lastPair]
  unfold ofPair
  omega

/-! ## Place values -/

/-- The last `2 * count` digits of a number, least significant pair first. -/
def pairs : (count n : ℕ) → Bytes
  | 0, _ => []
  | count + 1, n => lastPair n :: pairs count (n / 100)

/-- The number that bytes stand for, least significant pair first. -/
def ofPairs : Bytes → ℕ
  | [] => 0
  | b :: rest => ofPair b + 100 * ofPairs rest

theorem length_pairs (count n : ℕ) : (pairs count n).length = count := by
  induction count generalizing n with
  | zero => rfl
  | succ count ih => simp [pairs, ih]

theorem isPair_of_mem_pairs {count n : ℕ} {b : UInt8} (h : b ∈ pairs count n) : isPair b = true := by
  induction count generalizing n with
  | zero => cases h
  | succ count ih =>
    rcases List.mem_cons.mp h with rfl | h
    · exact isPair_lastPair n
    · exact ih h

/-- **What is read is what was written**, as far as there was room for it. -/
theorem ofPairs_pairs (count n : ℕ) : ofPairs (pairs count n) = n % 100 ^ count := by
  induction count generalizing n with
  | zero => simp [pairs, ofPairs, Nat.mod_one]
  | succ count ih =>
    rw [pairs, ofPairs, ofPair_lastPair, ih, pow_succ', Nat.mod_mul]

/-- **What is written is what was read**, in as many bytes. -/
theorem pairs_ofPairs {bytes : Bytes} (h : ∀ b ∈ bytes, isPair b = true) :
    pairs bytes.length (ofPairs bytes) = bytes := by
  induction bytes with
  | nil => rfl
  | cons b rest ih =>
    have hb := h b List.mem_cons_self
    have hrest : (ofPair b + 100 * ofPairs rest) / 100 = ofPairs rest := by
      have := ofPair_lt hb
      omega
    rw [List.length_cons, pairs, ofPairs, lastPair_add hb, hrest,
      ih fun b' hmem => h b' (List.mem_cons_of_mem b hmem)]

theorem ofPairs_lt {bytes : Bytes} (h : ∀ b ∈ bytes, isPair b = true) :
    ofPairs bytes < 100 ^ bytes.length := by
  rw [← pairs_ofPairs h, length_pairs, ofPairs_pairs]
  exact Nat.mod_lt _ (Nat.pow_pos (by decide))

theorem ofPairs_append (bytes rest : Bytes) :
    ofPairs (bytes ++ rest) = ofPairs bytes + 100 ^ bytes.length * ofPairs rest := by
  induction bytes with
  | nil => simp [ofPairs]
  | cons b bytes ih =>
    rw [List.cons_append, ofPairs, ofPairs, ih, List.length_cons, pow_succ']
    ring

/-! ## The encoder -/

/-- **The encoder splits off the last pairs of digits**, and what remains are the digits before them. -/
theorem splitOff_eq (count n : ℕ) (bytes : Bytes) :
    splitOff count n bytes = (bytes ++ pairs count n, n / 100 ^ count) := by
  induction count generalizing n bytes with
  | zero => simp [splitOff, pairs]
  | succ count ih =>
    have hpair : pair (UInt8.ofNat (n % 100)) = lastPair n := rfl
    rw [splitOff, ih, hpair, List.append_assoc, List.singleton_append, ← pairs, Nat.div_div_eq_div_mul,
      ← pow_succ']

/-- Nothing remains of a number just if there is room for it. -/
theorem remaining_eq_zero_iff {count n : ℕ} : n / 100 ^ count = 0 ↔ n < 100 ^ count :=
  Nat.div_eq_zero_iff_lt (Nat.pow_pos (by decide))

/-! ## The decoder -/

/-- One more byte adds its two digits, as long as there is room in 64 bits. -/
theorem toNat_extend (n : UInt64) (b : UInt8) :
    (extend n b).toNat = (n.toNat * 100 + ofPair b) % UInt64.size := by
  have hsize : UInt64.size = 2 ^ 64 := rfl
  have hhundred : (100 : UInt64).toNat = 100 := rfl
  have hten : (10 : UInt64).toNat = 10 := rfl
  unfold extend
  rw [ofPair_eq, UInt64.toNat_add, UInt64.toNat_add, UInt64.toNat_mul, UInt64.toNat_mul,
    UInt8.toNat_toUInt64, UInt8.toNat_toUInt64, hhundred, hten, hsize]
  omega

/-- **The decoder comes to the number that the bytes stand for**, as far as there is room in 64 bits. -/
theorem foldl_extend (bytes : Bytes) :
    (bytes.foldl extend 0).toNat = ofPairs bytes.reverse % UInt64.size := by
  induction bytes using List.reverseRecOn with
  | nil => rfl
  | append_singleton bytes b ih =>
    have hsize : UInt64.size = 18446744073709551616 := rfl
    rw [List.foldl_append, List.foldl_cons, List.foldl_nil, toNat_extend, ih, List.reverse_append,
      List.reverse_singleton, List.singleton_append, ofPairs, hsize]
    omega

section

variable {α : Type}

/-- The decoder stops at the first byte that holds no digits. -/
theorem readOn_eq (n : UInt64) (bytes : Bytes) :
    (readOn n bytes : Except (Fault α) UInt64) =
      match bytes.find? fun b => !isPair b with
      | some bad => .error (.framing (.digits bad))
      | none => .ok (bytes.foldl extend n) := by
  induction bytes generalizing n with
  | nil => rfl
  | cons b rest ih =>
    cases hb : isPair b with
    | true => simp [readOn, hb, ih]
    | false => simp [readOn, hb]

theorem readOn_of_pairs (n : UInt64) {bytes : Bytes} (h : ∀ b ∈ bytes, isPair b = true) :
    (readOn n bytes : Except (Fault α) UInt64) = .ok (bytes.foldl extend n) := by
  have hnone : bytes.find? (fun b => !isPair b) = none := by
    rw [List.find?_eq_none]
    simpa using h
  rw [readOn_eq, hnone]

/-- No step of the decoder leaves 64 bits: there is room for each byte behind what it has read before. -/
def Fits (α : Type) (order : DigitOrder) (bytes : Bytes) : Prop :=
  ∀ front b rest, order.leading bytes = front ++ b :: rest →
    ∃ n : UInt64, (readOn 0 front : Except (Fault α) UInt64) = .ok n ∧
      n.toNat * 100 + (upper b).toNat * 10 + (lower b).toNat < UInt64.size

/-! ## Both orders -/

theorem arrange_arrange (order : DigitOrder) (bytes : Bytes) :
    order.arrange (order.arrange bytes) = bytes := by
  cases order with
  | forward => exact List.reverse_reverse bytes
  | reverse => rfl

theorem length_arrange (order : DigitOrder) (bytes : Bytes) :
    (order.arrange bytes).length = bytes.length := by
  cases order with
  | forward => exact List.length_reverse
  | reverse => rfl

theorem mem_arrange {order : DigitOrder} {bytes : Bytes} {b : UInt8} :
    b ∈ order.arrange bytes ↔ b ∈ bytes := by
  cases order with
  | forward => exact List.mem_reverse
  | reverse => exact Iff.rfl

/-- The decoder and the encoder go through the bytes in opposite directions. -/
theorem reverse_leading (order : DigitOrder) (bytes : Bytes) :
    (order.leading bytes).reverse = order.arrange bytes := by
  cases order with
  | forward => rfl
  | reverse => exact List.reverse_reverse bytes

theorem mem_leading {order : DigitOrder} {bytes : Bytes} {b : UInt8} :
    b ∈ order.leading bytes ↔ b ∈ bytes := by
  rw [← List.mem_reverse, reverse_leading, mem_arrange]

/-- **A number is written just if there is room for it.** -/
theorem encode_eq_ok_iff [Scalar α] {order : DigitOrder} {count n : ℕ} {bytes : Bytes} :
    (encode order count n : Except (Fault α) Bytes) = .ok bytes ↔
      n < 100 ^ count ∧ order.arrange (pairs count n) = bytes := by
  unfold encode
  rw [splitOff_eq, List.nil_append, ← remaining_eq_zero_iff]
  dsimp only
  split
  · rename_i hnone
    simp [hnone]
  · rename_i hsome
    simp [hsome]

theorem encode_reverse [Scalar α] (count n : ℕ) :
    (encode .forward count n : Except (Fault α) Bytes) =
      (encode .reverse count n).map List.reverse := by
  unfold encode
  dsimp only
  split <;> rfl

/-- **Bytes are read just if all of them are of two digits.** -/
theorem decode_eq_ok_iff {order : DigitOrder} {bytes : Bytes} {n : ℕ} :
    (decode order bytes : Except (Fault α) ℕ) = .ok n ↔
      (∀ b ∈ bytes, isPair b = true) ∧ ofPairs (order.arrange bytes) % UInt64.size = n := by
  have hall : (order.leading bytes).find? (fun b => !isPair b) = none ↔
      ∀ b ∈ bytes, isPair b = true := by
    rw [List.find?_eq_none]
    simp [mem_leading]
  unfold decode
  rw [readOn_eq, ← hall, ← reverse_leading, ← foldl_extend]
  cases (order.leading bytes).find? fun b => !isPair b <;> simp [Except.map]

/-- **No step of the decoder leaves 64 bits** if the number that the bytes stand for does not. -/
theorem fits_of_lt {order : DigitOrder} {bytes : Bytes} (h : ∀ b ∈ bytes, isPair b = true)
    (hroom : ofPairs (order.arrange bytes) < UInt64.size) : Fits α order bytes := by
  intro front b rest hsplit
  have hfront (b' : UInt8) (hb' : b' ∈ front) : isPair b' = true :=
    h b' (mem_leading.mp (hsplit ▸ List.mem_append_left _ hb'))
  have hstep : ofPair b + 100 * ofPairs front.reverse ≤ ofPairs (order.arrange bytes) := by
    -- behind this byte the decoder only multiplies and adds
    have hpow : 0 < 100 ^ rest.reverse.length := Nat.pow_pos (by decide)
    rw [← reverse_leading, hsplit, List.reverse_append, List.reverse_cons, List.append_assoc,
      ofPairs_append, List.singleton_append, ofPairs]
    exact (Nat.le_mul_of_pos_left _ hpow).trans (Nat.le_add_left _ _)
  refine ⟨_, readOn_of_pairs 0 hfront, ?_⟩
  have hread := foldl_extend front
  rw [Nat.mod_eq_of_lt (by omega)] at hread
  rw [hread, Nat.add_assoc, ← ofPair_eq]
  omega

/-- A number of 64 bits is read back as it was written. -/
theorem decode_of_encode [Scalar α] {order : DigitOrder} {count n : ℕ} {bytes : Bytes}
    (hn : n < UInt64.size) (h : (encode order count n : Except (Fault α) Bytes) = .ok bytes) :
    (decode order bytes : Except (Fault α) ℕ) = .ok n ∧ Fits α order bytes := by
  obtain ⟨hroom, rfl⟩ := encode_eq_ok_iff.mp h
  have hvalue : ofPairs (order.arrange (order.arrange (pairs count n))) = n := by
    rw [arrange_arrange, ofPairs_pairs, Nat.mod_eq_of_lt hroom]
  have hpairs (b : UInt8) (hb : b ∈ order.arrange (pairs count n)) : isPair b = true :=
    isPair_of_mem_pairs (mem_arrange.mp hb)
  refine ⟨decode_eq_ok_iff.mpr ⟨hpairs, ?_⟩, fits_of_lt hpairs ?_⟩
  · rw [hvalue, Nat.mod_eq_of_lt hn]
  · rw [hvalue]
    exact hn

/-- Bytes of digits that are few enough stand for a number of 64 bits. -/
theorem ofPairs_arrange_lt {order : DigitOrder} {bytes : Bytes}
    (hroom : 100 ^ bytes.length ≤ UInt64.size) (h : ∀ b ∈ bytes, isPair b = true) :
    ofPairs (order.arrange bytes) < UInt64.size := by
  have harranged (b : UInt8) (hb : b ∈ order.arrange bytes) : isPair b = true := h b (mem_arrange.mp hb)
  have hvalue := ofPairs_lt harranged
  rw [length_arrange] at hvalue
  exact hvalue.trans_le hroom

/-- Bytes that are few enough for 64 bits are written as they were read. -/
theorem encode_of_decode [Scalar α] {order : DigitOrder} {bytes : Bytes} {n : ℕ}
    (hroom : 100 ^ bytes.length ≤ UInt64.size)
    (h : (decode order bytes : Except (Fault α) ℕ) = .ok n) :
    (encode order bytes.length n : Except (Fault α) Bytes) = .ok bytes := by
  obtain ⟨hpairs, rfl⟩ := decode_eq_ok_iff.mp h
  have harranged : ∀ b ∈ order.arrange bytes, isPair b = true :=
    fun b hb => hpairs b (mem_arrange.mp hb)
  have hvalue := ofPairs_lt harranged
  have hwritten := pairs_ofPairs harranged
  rw [length_arrange] at hvalue hwritten
  rw [Nat.mod_eq_of_lt (ofPairs_arrange_lt hroom hpairs)]
  refine encode_eq_ok_iff.mpr ⟨hvalue, ?_⟩
  rw [hwritten, arrange_arrange]

end

end EarthStation.Radio.Bcd
