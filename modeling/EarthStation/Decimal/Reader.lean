import EarthStation.Binary64

/-!
# Reader — decimal numerals

* `Decimal.Numeral`: what a text stands for before it is rounded to a double.
* `Decimal.Numeral.ofChars?`: the grammar of numerals.
* `Decimal.readFloat?`, `Decimal.readNatural?`, `Decimal.readInteger?`: the numbers that texts
  stand for.

A numeral is an optional sign, digits with at most one point and at least one digit, and an
optional exponent; or, after the optional sign, one of the words `inf`, `infinity`, `nan` in any
case.  No blanks are allowed.
-/

namespace EarthStation.Decimal

/-- Holds of the ten ASCII digits. -/
def isDigit (c : Char) : Bool := decide ('0' ≤ c) && decide (c ≤ '9')

/-- The value of an ASCII digit. -/
def digitValue (c : Char) : Nat := c.toNat - '0'.toNat

/-- The number that digits stand for. -/
def natural (ds : List Char) : Nat := ds.foldl (fun n c => 10 * n + digitValue c) 0

/-- What a numeral stands for. -/
inductive Numeral where
  | undefined
  | infinite (negative : Bool)
  /-- `mantissa * 10 ^ exponent`, negated if `negative`. -/
  | finite (negative : Bool) (mantissa : Nat) (exponent : Int)
deriving DecidableEq, Repr

/-- An optional sign and the rest; the flag holds for a minus. -/
def signed : List Char → Bool × List Char
  | '-' :: rest => (true, rest)
  | '+' :: rest => (false, rest)
  | cs => (false, cs)

namespace Numeral

/-- The exponent part of a numeral: nothing, or the letter and a signed whole number. -/
def exponent? : List Char → Option Int
  | [] => some 0
  | c :: rest =>
    if c = 'e' ∨ c = 'E' then
      let (negative, ds) := signed rest
      if ds.isEmpty || !ds.all isDigit then none
      else
        let n : Int := natural ds
        some (if negative then -n else n)
    else none

/-- The digits, the point and the exponent of a numeral without sign. -/
def unsigned? (negative : Bool) (cs : List Char) : Option Numeral :=
  let whole := cs.takeWhile isDigit
  let rest := cs.dropWhile isDigit
  let (decimals, rest) := match rest with
    | '.' :: rest => (rest.takeWhile isDigit, rest.dropWhile isDigit)
    | rest => ([], rest)
  if whole.isEmpty && decimals.isEmpty then none
  else (exponent? rest).map fun e =>
    .finite negative (natural (whole ++ decimals)) (e - decimals.length)

/-- Reads a numeral. -/
def ofChars? (cs : List Char) : Option Numeral :=
  let (negative, rest) := signed cs
  let word := String.ofList (rest.map Char.toLower)
  if word = "inf" ∨ word = "infinity" then some (.infinite negative)
  else if word = "nan" then some .undefined
  else unsigned? negative rest

/-- The nearest double. -/
def toFloat : Numeral → Float
  | undefined => 0.0 / 0.0
  | infinite negative => if negative then -1.0 / 0.0 else 1.0 / 0.0
  | finite negative m e =>
    let x := Float.ofScientific m (decide (e < 0)) e.natAbs
    if negative then -x else x

end Numeral

/-- The double that a text stands for. -/
def readFloat? (cs : List Char) : Option Float := (Numeral.ofChars? cs).map Numeral.toFloat

/-- The natural number below `bound` that a text of digits, with an optional plus, stands for. -/
def readNatural? (bound : Nat) (cs : List Char) : Option Nat :=
  let ds := match cs with
    | '+' :: rest => rest
    | cs => cs
  if ds.isEmpty || !ds.all isDigit then none
  else if natural ds < bound then some (natural ds) else none

/-- The whole number in `[lo, hi]` that a text of digits with an optional sign stands for. -/
def readInteger? (lo hi : Int) (cs : List Char) : Option Int :=
  let (negative, ds) := signed cs
  if ds.isEmpty || !ds.all isDigit then none
  else
    let n : Int := if negative then -(natural ds : Int) else natural ds
    if lo ≤ n ∧ n ≤ hi then some n else none

end EarthStation.Decimal
