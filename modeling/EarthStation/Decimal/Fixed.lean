import EarthStation.Binary64

/-!
# Fixed — decimals with a given number of places

* `Decimal.fixed`: the exact value of a double rounded to a number of places, a tie going to the
  even digit.
* `Decimal.padLeft`, `Decimal.padRight`: blanks up to a field width.
-/

namespace EarthStation.Decimal

/-- The digits of a natural number in base ten, most significant first. -/
def digits (n : Nat) : List Char := (Nat.toDigits 10 n)

/-- `units` hundredths, thousandths, ... (as `places` says) with a point in front of the last
`places` digits. -/
def pointed (places units : Nat) : List Char :=
  let ds := digits units
  let ds := List.replicate (places + 1 - ds.length) '0' ++ ds
  if places = 0 then ds
  else ds.take (ds.length - places) ++ '.' :: ds.drop (ds.length - places)

/-- A double with exactly `places` digits after the point.  A negative sign stays, also where every
digit is zero. -/
def fixed (places : Nat) (x : Float) : String :=
  match Binary64.decode x with
  | .undefined => "NaN"
  | .infinite negative => if negative then "-inf" else "inf"
  | .finite negative m e =>
    let (num, den) := Binary64.fraction m e
    let text := String.ofList (pointed places (Binary64.halfEven (num * Nat.pow 10 places) den))
    if negative then "-" ++ text else text

/-- Blanks in front of `s` up to `width` characters. -/
def padLeft (width : Nat) (s : String) : String :=
  String.ofList (List.replicate (width - s.length) ' ') ++ s

/-- Blanks behind `s` up to `width` characters. -/
def padRight (width : Nat) (s : String) : String :=
  s ++ String.ofList (List.replicate (width - s.length) ' ')

end EarthStation.Decimal
