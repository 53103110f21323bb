import EarthStation.Scalar
import EarthStation.Radio.Fault

/-!
# Bcd — numbers with two decimal digits in a byte

* `Radio.Bcd.encode`, `Radio.Bcd.decode`: numbers as bytes, in either order of the bytes.
* `Radio.encodeFrequency`, `Radio.decodeFrequency`: whole hertz in five bytes.
-/

namespace EarthStation.Radio

open Wire (Bytes)

variable {α : Type}

/-- Which pair of digits comes first. -/
inductive DigitOrder where
  /-- The most significant pair. -/
  | forward
  /-- The least significant pair. -/
  | reverse
deriving DecidableEq, Repr

namespace DigitOrder

/-- Bytes in the given order, for bytes with the least significant first; it is its own inverse. -/
def arrange : DigitOrder → Bytes → Bytes
  | forward, bytes => bytes.reverse
  | reverse, bytes => bytes

/-- Bytes with the most significant first, for bytes in the given order. -/
def leading : DigitOrder → Bytes → Bytes
  | forward, bytes => bytes
  | reverse, bytes => bytes.reverse

end DigitOrder

namespace Bcd

/-! ## Writing -/

/-- The byte that holds two decimal digits, the higher one in the upper half. -/
def pair (digits : UInt8) : UInt8 := (digits / 10) <<< 4 ||| digits % 10

/-- Splits pairs of digits off a number, the least significant first, behind bytes that are there; with
them comes what remains of the number. -/
def splitOff : (count remaining : Nat) → Bytes → Bytes × Nat
  | 0, remaining, bytes => (bytes, remaining)
  | count + 1, remaining, bytes =>
    splitOff count (remaining / 100) (bytes ++ [pair (UInt8.ofNat (remaining % 100))])

/-- A number in `count` bytes; one of which something remains is refused. -/
def encode [Scalar α] (order : DigitOrder) (count n : Nat) : Except (Fault α) Bytes :=
  let (bytes, remaining) := splitOff count n []
  if remaining = 0 then .ok (order.arrange bytes) else .error (.value (Scalar.natural n))

/-! ## Reading -/

/-- The upper half of a byte. -/
def upper (b : UInt8) : UInt8 := b >>> 4

/-- The lower half of a byte. -/
def lower (b : UInt8) : UInt8 := b &&& 0x0F

/-- Holds of bytes with two decimal digits. -/
def isPair (b : UInt8) : Bool := !(decide (9 < upper b) || decide (9 < lower b))

/-- The number with the two digits of one more byte behind it, in 64 bits. -/
def extend (n : UInt64) (b : UInt8) : UInt64 :=
  n * 100 + (upper b).toUInt64 * 10 + (lower b).toUInt64

/-- Reads on behind the number that was read so far, the most significant byte first.  A byte that holds
no digits is reported. -/
def readOn (n : UInt64) : Bytes → Except (Fault α) UInt64
  | [] => .ok n
  | b :: rest => if isPair b then readOn (extend n b) rest else .error (.framing (.digits b))

/-- The number that bytes stand for. -/
def decode (order : DigitOrder) (bytes : Bytes) : Except (Fault α) Nat :=
  (readOn 0 (order.leading bytes)).map UInt64.toNat

end Bcd

/-- The number of bytes of a frequency. -/
def frequencyBytes : Nat := 5

variable [Scalar α]

/-- Whole hertz, the nearest to the given ones. -/
def encodeFrequency (hz : α) : Except (Fault α) Bytes :=
  if Scalar.isFinite hz && !decide (hz < 0) then
    (Bcd.encode .reverse frequencyBytes (Scalar.nearestIn 0 (UInt64.size - 1 : Nat) hz).toNat).mapError
      fun _ : Fault α => .value hz
  else .error (.value hz)

def decodeFrequency (bytes : Bytes) : Except (Fault α) α :=
  if bytes.length = frequencyBytes then (Bcd.decode .reverse bytes).map Scalar.natural
  else .error (.framing (.frequencyLength bytes.length))

end EarthStation.Radio
