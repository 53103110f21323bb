import EarthStation.Scalar

/-!
# Binary64 — the exact value of a double

* `Binary64.decode`: the sign, mantissa and exponent of a double, or which non-number it is.
* `nearest`, `remainder`, `round`: roundings and remainders worked out on that exact value.
* the instance `Scalar Float`, on which the program runs.

A finite double is `± mantissa * 2 ^ exponent`, so whole-number arithmetic answers every question
about it without rounding.
-/

namespace EarthStation

/-- The value of a double. -/
inductive Binary64 where
  | undefined
  | infinite (negative : Bool)
  /-- `mantissa * 2 ^ exponent`, negated if `negative`. -/
  | finite (negative : Bool) (mantissa : Nat) (exponent : Int)
deriving DecidableEq, Repr

namespace Binary64

/-- Reads the three fields of the 64 bit pattern. -/
def decode (x : Float) : Binary64 :=
  let bits := x.toBits.toNat
  let negative := decide (Nat.pow 2 63 ≤ bits)
  let exponent : Nat := bits / Nat.pow 2 52 % Nat.pow 2 11
  let fraction := bits % Nat.pow 2 52
  if exponent = 2047 then
    if fraction = 0 then .infinite negative else .undefined
  else if exponent = 0 then .finite negative fraction (-1074)
  else .finite negative (Nat.pow 2 52 + fraction) ((exponent : Int) - 1075)

/-- The double nearest to `± mantissa * 2 ^ exponent`. -/
def encode (negative : Bool) (mantissa : Nat) (exponent : Int) : Float :=
  if mantissa = 0 then (if negative then -0.0 else 0.0)
  else
    .ofModel (.pack (.round .binary64 (if negative then .negative else .positive)
      mantissa exponent))

/-- `mantissa * 2 ^ exponent` as numerator and denominator. -/
def fraction (mantissa : Nat) (exponent : Int) : Nat × Nat :=
  if 0 ≤ exponent then (mantissa * Nat.pow 2 exponent.toNat, 1)
  else (mantissa, Nat.pow 2 (-exponent).toNat)

/-- `num / den` to the nearest whole number, halves upwards. -/
def halfUp (num den : Nat) : Nat := (2 * num + den) / (2 * den)

/-- `num / den` to the nearest whole number, halves to the even neighbour. -/
def halfEven (num den : Nat) : Nat :=
  let q := num / den
  let r := 2 * (num % den)
  if r < den then q else if den < r then q + 1 else q + q % 2

/-- Brings `n` into `[lo, hi]`. -/
def confine (lo hi n : Int) : Int := if n < lo then lo else if hi < n then hi else n

/-- The nearest whole number, halves away from zero, brought into `[lo, hi]`. -/
def nearest (lo hi : Int) (x : Float) : Int :=
  match decode x with
  | .undefined => confine lo hi 0
  | .infinite negative => if negative then lo else hi
  | .finite negative m e =>
    let (num, den) := fraction m e
    let n : Int := halfUp num den
    confine lo hi (if negative then -n else n)

/-- The nearest whole number as a double; what has no fraction stays as it is. -/
def round (x : Float) : Float :=
  match decode x with
  | .finite negative m e =>
    if 0 ≤ e then x else
      let (num, den) := fraction m e
      encode negative (halfUp num den) 0
  | _ => x

/-- A whole number not below `x`; `2 ^ 64` stands in for what is not finite. -/
def ceiling (x : Float) : Nat :=
  match decode x with
  | .finite true _ _ => 0
  | .finite false m e =>
    let (num, den) := fraction m e
    (num + den - 1) / den
  | .infinite true => 0
  | _ => UInt64.size

/-- The remainder of `x / y` with the sign of `x`; it is always exact. -/
def remainder (x y : Float) : Float :=
  match decode x, decode y with
  | .finite negative m e, .finite _ n f =>
    if n = 0 then 0.0 / 0.0 else
      let low := min e f
      let a := m * Nat.pow 2 (e - low).toNat
      let b := n * Nat.pow 2 (f - low).toNat
      encode negative (a % b) low
  | .finite _ _ _, .infinite _ => x
  | _, _ => 0.0 / 0.0

/-- The remainder of `x / y` brought into `[0, |y|]`: a negative one is raised by `|y|`, which can
round up to `|y|` itself. -/
def wrap (x y : Float) : Float :=
  let r := remainder x y
  if r < 0.0 then r + y.abs else r

end Binary64

instance : Scalar Float where
  decideLT := inferInstance
  decideLE := inferInstance
  natural := Float.ofNat
  isFinite := Float.isFinite
  round := Binary64.round
  nearestIn := Binary64.nearest
  ceiling := Binary64.ceiling
  wrap := Binary64.wrap
  sqrt := Float.sqrt

end EarthStation
