import EarthStation.Decimal.Fixed

/-!
# Shortest — the fewest digits that read back

* `Decimal.shortest`: the shortest decimal, and the nearest of that length, among those that round
  to a given double.
* `Decimal.plain`: that decimal in positional notation, as messages show it.
* `Decimal.exponential`: that decimal as exported numbers show it, with an exponent for very large
  and very small values.

A double `m * 2 ^ e` is what every decimal between the midpoints to its neighbours reads back as;
the midpoints themselves do so when `m` is even.
-/

namespace EarthStation.Decimal

/-- A positive decimal `mantissa * 10 ^ exponent`. -/
structure Scientific where
  mantissa : Nat
  exponent : Int
deriving DecidableEq, Repr

/-- The numbers that round to one double, as an interval with a common denominator `den`. -/
structure RoundingInterval where
  low : Nat
  value : Nat
  high : Nat
  den : Nat
  closed : Bool

namespace RoundingInterval

/-- The interval of `m * 2 ^ e`.  Below a power of two the gap to the lower neighbour is half as
wide as the gap above, except for the smallest exponent. -/
def ofBinary (m : Nat) (e : Int) : RoundingInterval :=
  let narrow := m = Nat.pow 2 52 ∧ e ≠ -1074
  let (scale, den) := Binary64.fraction 1 (e - 2)
  { low := (if narrow then 4 * m - 1 else 4 * m - 2) * scale
    value := 4 * m * scale
    high := (4 * m + 2) * scale
    den := den
    closed := m % 2 = 0 }

/-- Holds if `n / d` lies in the interval. -/
def contains (i : RoundingInterval) (n d : Nat) : Bool :=
  let a := i.low * d
  let x := n * i.den
  let b := i.high * d
  if i.closed then decide (a ≤ x) && decide (x ≤ b) else decide (a < x) && decide (x < b)

/-- The point of the grid of multiples of `10 ^ k` in the interval that is nearest to the value, if
there is one; the two neighbours of the value are the only candidates. -/
def onGrid? (i : RoundingInterval) (k : Int) : Option Nat :=
  let up := Nat.pow 10 k.toNat
  let down := Nat.pow 10 (-k).toNat
  -- the value in units of the grid is `num / den`
  let num := i.value * down
  let den := i.den * up
  let floor := num / den
  let lowHit := i.contains (floor * up) down
  let highHit := i.contains ((floor + 1) * up) down
  let r := 2 * (num % den)
  let preferLow := decide (r < den) || (decide (r = den) && floor % 2 == 0)
  if lowHit && (preferLow || !highHit) then some floor
  else if highHit then some (floor + 1)
  else none

/-- The first grid with a hit, from coarse to fine. -/
def search (i : RoundingInterval) : (tries : Nat) → (k : Int) → Scientific
  | 0, k => ⟨i.value * Nat.pow 10 (-k).toNat / (i.den * Nat.pow 10 k.toNat), k⟩
  | tries + 1, k =>
    match i.onGrid? k with
    | some n => if n = 0 then search i tries (k - 1) else ⟨n, k⟩
    | none => search i tries (k - 1)

end RoundingInterval

/-- The number of decimal digits of `n`. -/
def digitCount (n : Nat) : Nat := (digits n).length

/-- The place of the leading digit of `num / den`, give or take one, from above. -/
def leadingPlace (num den : Nat) : Int :=
  (digitCount num : Int) - digitCount den + 1

/-- The shortest decimal that reads back as `m * 2 ^ e`, for `m > 0`. -/
def shortest (m : Nat) (e : Int) : Scientific :=
  let i := RoundingInterval.ofBinary m e
  i.search 22 (leadingPlace i.value i.den)

/-- Drops trailing zeros of the digits, at most `tries` of them. -/
def Scientific.trim : (tries : Nat) → Scientific → Scientific
  | 0, d => d
  | tries + 1, d =>
    if d.mantissa ≠ 0 ∧ d.mantissa % 10 = 0 then trim tries ⟨d.mantissa / 10, d.exponent + 1⟩ else d

/-- Positional notation of a decimal, without a point when it is whole. -/
def Scientific.positional (d : Scientific) : List Char :=
  if 0 ≤ d.exponent then digits (d.mantissa * Nat.pow 10 d.exponent.toNat)
  else pointed (-d.exponent).toNat d.mantissa

/-- A double in positional notation with the fewest digits that read back. -/
def plain (x : Float) : String :=
  match Binary64.decode x with
  | .undefined => "NaN"
  | .infinite negative => if negative then "-inf" else "inf"
  | .finite negative m e =>
    let text := if m = 0 then ['0'] else (shortest m e).positional
    String.ofList (if negative then '-' :: text else text)

/-- A double as exported data shows it: whole numbers end in `.0`, an exponent is used from `10 ^ 16`
up and below `10 ^ -5`. -/
def exponential (x : Float) : String :=
  match Binary64.decode x with
  | .undefined => "null"
  | .infinite _ => "null"
  | .finite negative m e =>
    let text :=
      if m = 0 then ['0', '.', '0'] else
        let d := (shortest m e).trim 20
        let ds := digits d.mantissa
        let place : Int := (ds.length : Int) + d.exponent
        if 0 ≤ d.exponent ∧ place ≤ 16 then
          ds ++ List.replicate d.exponent.toNat '0' ++ ['.', '0']
        else if -5 < place ∧ place ≤ 16 then pointed (-d.exponent).toNat d.mantissa
        else
          let power := place - 1
          let mantissa := match ds with
            | [] => []
            | [c] => [c]
            | c :: rest => c :: '.' :: rest
          mantissa ++ 'e' :: (toString power).toList
    String.ofList (if negative then '-' :: text else text)

end EarthStation.Decimal
