/-!
# Scalar — the numbers the station computes with

* `Scalar α`: the operations that pointing, pass search, Doppler and the device codecs use.
* `Scalar.abs`, `Scalar.max`, `Scalar.clamp`: operations that follow from the order.

The program runs on `Float`.  A statement that reads the arithmetic as exact uses an ordered
field, so no definition above this file names a concrete number type unless it has to.
-/

namespace EarthStation

/-- A type of numbers with the arithmetic, the order and the roundings that the station needs. -/
class Scalar (α : Type) extends Add α, Sub α, Mul α, Div α, Neg α, LT α, LE α, OfScientific α where
  decideLT : DecidableLT α
  decideLE : DecidableLE α
  /-- A whole number as a scalar. -/
  natural : Nat → α
  /-- Holds of proper numbers: neither infinite nor undefined. -/
  isFinite : α → Bool
  /-- The nearest whole number, halves away from zero. -/
  round : α → α
  /-- The nearest whole number, halves away from zero, brought into `[lo, hi]`; an undefined
  value counts as zero. -/
  nearestIn : (lo hi : Int) → α → Int
  /-- A whole number that is not below the given value, zero for negative ones. -/
  ceiling : α → Nat
  /-- The remainder in `[0, |y|)` of the division by `y`. -/
  wrap : (x y : α) → α
  sqrt : α → α

-- A number type that brings its own operations is read by those.
attribute [instance (10)] Scalar.toAdd Scalar.toSub Scalar.toMul Scalar.toDiv Scalar.toNeg Scalar.toLT
  Scalar.toLE Scalar.toOfScientific

namespace Scalar

variable {α : Type} [Scalar α]

instance (priority := 10) : DecidableLT α := decideLT

instance (priority := 10) : DecidableLE α := decideLE

instance (priority := 10) instOfNatScalar (n : Nat) : OfNat α n := ⟨natural n⟩

/-- The distance from zero. -/
def abs (x : α) : α := if x < 0 then -x else x

/-- The larger of two values; an undefined value (one that is not `≤` itself) loses. -/
def max (x y : α) : α := if y ≤ x then x else if y ≤ y then y else x

/-- `x` moved to the nearer end when it is outside `[lo, hi]`. -/
def clamp (x lo hi : α) : α := if x < lo then lo else if hi < x then hi else x

/-- Holds of values from `lo` to `hi`, both included. -/
def within (x lo hi : α) : Bool := decide (lo ≤ x) && decide (x ≤ hi)

end Scalar

end EarthStation
