import EarthStation.Rotator.Frame

/-!
# Reply — the replies that report a position

* `Rotator.Reply`: eight digits and what stands between them.
* `Rotator.decodeResponse_reply`: what a reply reports.
* `Rotator.decodeResponse_malformed`: twelve bytes that are no reply report nothing.
-/

namespace EarthStation.Rotator

open Wire (Bytes)

/-- The four digits of an angle. -/
structure Digits where
  hundreds : Fin 10
  tens : Fin 10
  units : Fin 10
  tenths : Fin 10
deriving DecidableEq, Repr

/-- A digit as it is sent. -/
def digitByte (d : Fin 10) : UInt8 := UInt8.ofNat d

theorem digitByte_le (d : Fin 10) : ¬ 9 < digitByte d := by
  revert d
  decide

theorem exists_digitByte {b : UInt8} (h : ¬ 9 < b) : ∃ d, digitByte d = b := by
  have hb : b.toNat < 10 := by
    have := UInt8.not_lt.mp h
    have : b.toNat ≤ 9 := this
    omega
  exact ⟨⟨b.toNat, hb⟩, by simp [digitByte]⟩

namespace Digits

def bytes (d : Digits) : Bytes :=
  [digitByte d.hundreds, digitByte d.tens, digitByte d.units, digitByte d.tenths]

/-- The angle that digits stand for. -/
def degrees {α : Type} [Scalar α] (d : Digits) : α :=
  Scalar.natural d.hundreds * 100 + Scalar.natural d.tens * 10 + Scalar.natural d.units
    + Scalar.natural d.tenths / 10 - angleOffset

end Digits

/-- A reply: the digits of two angles, and the bytes that are not looked at. -/
structure Reply where
  azimuth : Digits
  elevation : Digits
  afterAzimuth : UInt8
  afterElevation : UInt8
  last : UInt8
deriving DecidableEq, Repr

namespace Reply

def bytes (r : Reply) : Bytes :=
  startByte :: r.azimuth.bytes ++ r.afterAzimuth :: r.elevation.bytes ++ [r.afterElevation, r.last]

/-- The position that a reply reports. -/
def position {α : Type} [Scalar α] (r : Reply) : Position α :=
  ⟨r.azimuth.degrees, r.elevation.degrees⟩

@[simp] theorem length_bytes (r : Reply) : r.bytes.length = responseLength := rfl

/-- Where the digits of a reply stand. -/
def digitPlaces : List Nat := [1, 2, 3, 4, 6, 7, 8, 9]

theorem getElem?_ne_startByte (r : Reply) {i : Nat} (h : i ∈ digitPlaces) :
    r.bytes[i]? ≠ some startByte := by
  have hdigit (d : Fin 10) : digitByte d ≠ startByte := by
    revert d
    decide
  simp only [digitPlaces, List.mem_cons, List.not_mem_nil, or_false] at h
  rcases h with rfl | rfl | rfl | rfl | rfl | rfl | rfl | rfl <;>
    exact fun h => hdigit _ (Option.some.inj h)

/-- **No reply begins inside a reply**: the start of the next one would be a digit, or a digit its
own start. -/
theorem not_isPrefix_drop (s r r' : Reply) (rest : Bytes) {i : Nat} (hpos : 0 < i)
    (hlt : i < responseLength) : ¬ s.bytes <+: r.bytes.drop i ++ (r'.bytes ++ rest) := by
  rintro ⟨tail, htail⟩
  have hplaces : ∀ i < 12, 0 < i → i ∈ digitPlaces ∨ 12 - i ∈ digitPlaces := by decide
  have hlt : i < 12 := hlt
  have hr : (r.bytes.drop i).length = 12 - i := by rw [List.length_drop]; rfl
  have hs : s.bytes.length = 12 := rfl
  rcases hplaces i hlt hpos with hi | hi
  · have hhead : r.bytes[i]? = some startByte := by
      have h0 := congrArg (fun bytes => bytes[0]?) htail
      rw [List.getElem?_append_left (by omega), List.getElem?_append_left (by omega),
        List.getElem?_drop] at h0
      exact h0.symm
    exact r.getElem?_ne_startByte hi hhead
  · have hnext : s.bytes[12 - i]? = some startByte := by
      have hi' := congrArg (fun bytes => bytes[12 - i]?) htail
      rw [List.getElem?_append_left (by omega), List.getElem?_append_right (by omega), hr,
        Nat.sub_self] at hi'
      exact hi'
    exact s.getElem?_ne_startByte hi hnext

end Reply

variable {α : Type} [Scalar α]

theorem decodeAngle_digits (d : Digits) :
    (decodeAngle (digitByte d.hundreds) (digitByte d.tens) (digitByte d.units)
      (digitByte d.tenths) : Except (Fault α) α) = .ok d.degrees := by
  have htoNat (i : Fin 10) : (digitByte i).toNat = i := by
    revert i
    decide
  simp [decodeAngle, digitByte_le, htoNat, Digits.degrees]

/-- **What a reply reports**, whatever follows it. -/
theorem decodeResponse_reply (r : Reply) (rest : Bytes) :
    decodeResponse (r.bytes ++ rest) = .ok (r.position : Position α) := by
  simp [Reply.bytes, Digits.bytes, decodeResponse, decodeAngle_digits, Reply.position]

theorem decodeAngle_cases (b₁ b₂ b₃ b₄ : UInt8) :
    (∃ d : Digits, d.bytes = [b₁, b₂, b₃, b₄]) ∨
      ∃ detail, (decodeAngle b₁ b₂ b₃ b₄ : Except (Fault α) α) = .error (.malformed detail) := by
  unfold decodeAngle
  split
  · exact .inr ⟨_, rfl⟩
  · rename_i hnone
    simp only [List.find?_eq_none, List.mem_cons, List.not_mem_nil, or_false, decide_eq_true_eq,
      forall_eq_or_imp, forall_eq] at hnone
    obtain ⟨h₁, h₂, h₃, h₄⟩ := hnone
    obtain ⟨d₁, rfl⟩ := exists_digitByte h₁
    obtain ⟨d₂, rfl⟩ := exists_digitByte h₂
    obtain ⟨d₃, rfl⟩ := exists_digitByte h₃
    obtain ⟨d₄, rfl⟩ := exists_digitByte h₄
    exact .inl ⟨⟨d₁, d₂, d₃, d₄⟩, rfl⟩

/-- **Twelve bytes that are no reply** report nothing. -/
theorem decodeResponse_malformed {bytes : Bytes} (hlength : responseLength ≤ bytes.length)
    (h : ∀ r : Reply, ¬ r.bytes <+: bytes) :
    ∃ detail, (decodeResponse bytes : Except (Fault α) (Position α)) =
      .error (.malformed detail) := by
  match bytes, hlength, h with
  | first :: a₁ :: a₂ :: a₃ :: a₄ :: b :: e₁ :: e₂ :: e₃ :: e₄ :: c :: z :: rest, _, h =>
    by_cases hfirst : first = startByte
    · subst hfirst
      rcases decodeAngle_cases (α := α) a₁ a₂ a₃ a₄ with ⟨azimuth, hazimuth⟩ | ⟨detail, hdetail⟩
      · obtain ⟨rfl, rfl, rfl, rfl, -⟩ := by simpa only [Digits.bytes, List.cons.injEq] using hazimuth
        rcases decodeAngle_cases (α := α) e₁ e₂ e₃ e₄ with ⟨elevation, helevation⟩ | ⟨detail, hdetail⟩
        · refine absurd ?_ (h ⟨azimuth, elevation, b, c, z⟩)
          rw [Reply.bytes, helevation]
          exact ⟨rest, rfl⟩
        · exact ⟨detail, by simp [decodeResponse, decodeAngle_digits, hdetail]⟩
      · exact ⟨detail, by simp [decodeResponse, hdetail]⟩
    · exact ⟨.startByte first, by simp [decodeResponse, hfirst]⟩

end EarthStation.Rotator
