import EarthStation.Instant
import EarthStation.Decimal.Reader
import EarthStation.Text.Blank

/-!
# Elements — two-line element sets

* `Orbit.Elements`: the mean elements of an orbit at an epoch.
* `Orbit.Elements.Fault`: what can be wrong with the lines.
* `Orbit.Elements.ofLines`: reads the two lines, column by column.

Columns are counted in bytes from zero.
-/

namespace EarthStation.Orbit

/-- The mean elements of an orbit; angles in degrees, the mean motion in turns a day. -/
structure Elements where
  number : Nat
  /-- Nanoseconds from the beginning of 1970 to the epoch. -/
  epochNanos : Int
  /-- The drag term, per Earth radius. -/
  drag : Float
  inclination : Float
  ascendingNode : Float
  eccentricity : Float
  perigee : Float
  meanAnomaly : Float
  meanMotion : Float

namespace Elements

/-- What can be wrong with element lines. -/
inductive Fault where
  | lineLength
  | lineNumber
  | separator
  | checksum
  | field (name : String)
  | numbersDiffer
  | meanMotion
  | eccentricity
deriving DecidableEq, Repr

def Fault.message : Fault → String
  | lineLength => "a line does not have 69 characters"
  | lineNumber => "a line does not begin with its number"
  | separator => "a blank between two fields is missing"
  | checksum => "a checksum does not match"
  | field name => "the " ++ name ++ " cannot be read"
  | numbersDiffer => "the lines have different catalog numbers"
  | meanMotion => "the mean motion is not positive"
  | eccentricity => "the eccentricity is not between zero and one"

/-- The bytes of a line. -/
abbrev Line := List UInt8

/-- The bytes in the columns `first` to `last - 1`. -/
def columns (line : Line) (first last : Nat) : Line := (line.drop first).take (last - first)

/-- Bytes as text. -/
def text? (bytes : Line) : Option (List Char) :=
  (String.fromUTF8? ⟨bytes.toArray⟩).map String.toList

def isAsciiBlank (c : Char) : Bool :=
  c == ' ' || c == '\t' || c == '\n' || c == '\r' || c == '\x0c'

/-- A field without leading blanks. -/
def field? (line : Line) (first last : Nat) : Option (List Char) :=
  (text? (columns line first last)).map (·.dropWhile isAsciiBlank)

def float? (line : Line) (first last : Nat) : Option Float :=
  (field? line first last).bind Decimal.readFloat?

def natural? (bound : Nat) (line : Line) (first last : Nat) : Option Nat :=
  (field? line first last).bind (Decimal.readNatural? bound)

/-- A number whose leading point is not written. -/
def pointed? (line : Line) (first last : Nat) : Option Float := do
  match ← field? line first last with
  | '-' :: ds => Decimal.readFloat? ('-' :: '.' :: ds)
  | '+' :: ds => Decimal.readFloat? ('+' :: '.' :: ds)
  | ds => Decimal.readFloat? ('.' :: ds)

/-- A whole power of ten; a negative one is the reciprocal of a positive one. -/
def powerOfTen (n : Int) : Float :=
  let p := Float.ofNat (Nat.pow 10 n.natAbs)
  if n < 0 then 1.0 / p else p

/-- A number whose leading point is not written, followed by an exponent of ten. -/
def scaled? (line : Line) (first middle last : Nat) : Option Float := do
  let mantissa ← pointed? line first middle
  let exponent ← (field? line middle last).bind (Decimal.readInteger? (-128) 127)
  pure (mantissa * powerOfTen exponent)

/-- The value of a letter that stands for the two leading digits of a catalog number; `I` and `O`
are not used. -/
def letterValue? (c : Char) : Option Nat :=
  if 'A' ≤ c ∧ c ≤ 'H' then some (c.toNat - 'A'.toNat + 10)
  else if 'J' ≤ c ∧ c ≤ 'N' then some (c.toNat - 'J'.toNat + 18)
  else if 'P' ≤ c ∧ c ≤ 'Z' then some (c.toNat - 'P'.toNat + 23)
  else none

/-- The catalog number of a line. -/
def catalogNumber? (line : Line) : Option Nat := do
  let cs ← field? line 2 7
  match cs with
  | c :: rest =>
    match (if cs.length = 5 then letterValue? c else none) with
    | some leading =>
      let n ← Decimal.readNatural? UInt64.size rest
      pure (leading * 10000 + n)
    | none => Decimal.readNatural? UInt64.size cs
  | [] => none

/-- The sum of the digits and of one for each minus, modulo ten. -/
def checksum (line : Line) : Nat :=
  (line.foldl
    (fun n b =>
      if 48 ≤ b.toNat ∧ b.toNat ≤ 57 then n + (b.toNat - 48) else if b = 45 then n + 1 else n)
    0) % 10

/-- Holds if a line has a blank in each of the given columns. -/
def hasBlanks (l : Line) (columns : List Nat) : Bool := columns.all fun i => l[i]? == some 32

/-- Turns `none` into a fault. -/
def require {β : Type} (name : String) (b : Option β) : Except Fault β :=
  match b with
  | some b => .ok b
  | none => .error (.field name)

def check (condition : Bool) (fault : Fault) : Except Fault Unit :=
  if condition then .ok () else .error fault

/-- The designator of the launch: blank, or beginning with a two-digit year. -/
def hasDesignator (line : Line) : Bool :=
  (columns line 9 17).all (fun b => isAsciiBlank (Char.ofNat b.toNat))
    || ((natural? 256 line 9 11).isSome && (text? (columns line 11 17)).isSome)

/-- The epoch in nanoseconds after the beginning of 1970, from a two-digit year and a day of the
year that begins with one. -/
def epoch? (year : Nat) (day : Float) : Option Int :=
  let year : Int := if year < 57 then 2000 + year else 1900 + year
  let whole := Binary64.nearest 0 400 (day.floor)
  let fraction := day - Float.ofInt whole
  if 1 ≤ whole ∧ whole ≤ (if CalendarDate.isLeap year then 366 else 365) then
    some ((CalendarDate.daysToYear year + whole - 1) * 86400000000000
      + Binary64.nearest leastSigned greatestSigned (fraction * 24.0 * 60.0 * 60.0 * 1e9))
  else none

/-- Reads the two lines of an element set. -/
def ofBytes (line1 line2 : Line) : Except Fault Elements := do
  check (line1.length == 69 && line2.length == 69) .lineLength
  check (line1.head? == some 49 && line2.head? == some 50) .lineNumber
  check (hasBlanks line1 [1, 8, 17, 32, 43, 52, 61, 63] && hasBlanks line2 [1, 7, 16, 25, 33, 42, 51])
    .separator
  check ((line1[68]?.map UInt8.toNat) == some (48 + checksum (line1.take 68))
    && (line2[68]?.map UInt8.toNat) == some (48 + checksum (line2.take 68))) .checksum
  let number ← require "catalog number" (catalogNumber? line1)
  let number2 ← require "catalog number" (catalogNumber? line2)
  check (number == number2) .numbersDiffer
  check (line1[7]? == some 85 || line1[7]? == some 67 || line1[7]? == some 83)
    (.field "classification")
  check (hasDesignator line1) (.field "international designator")
  let year ← require "epoch year" (natural? 256 line1 18 20)
  let day ← require "epoch day" (float? line1 20 32)
  let epochNanos ← require "epoch day" (epoch? year day)
  let _ ← require "change of mean motion" (float? line1 33 43)
  let _ ← require "second change of mean motion" (scaled? line1 44 50 52)
  let drag ← require "drag term" (scaled? line1 53 59 61)
  let _ ← require "ephemeris type" (natural? 256 line1 62 63)
  let _ ← require "element set number" (natural? UInt64.size line1 64 68)
  let inclination ← require "inclination" (float? line2 8 16)
  let ascendingNode ← require "ascending node" (float? line2 17 25)
  let eccentricity ← require "eccentricity" (pointed? line2 26 33)
  let perigee ← require "argument of perigee" (float? line2 34 42)
  let meanAnomaly ← require "mean anomaly" (float? line2 43 51)
  let meanMotion ← require "mean motion" (float? line2 52 63)
  let _ ← require "revolution number" (natural? UInt64.size line2 63 68)
  pure
    { number, epochNanos, drag, inclination, ascendingNode, eccentricity, perigee, meanAnomaly,
      meanMotion }

/-- Reads the two lines of an element set; blanks at their ends do not matter. -/
def ofLines (line1 line2 : String) : Except Fault Elements :=
  let bytes (s : String) : Line := (String.ofList (Text.trimEnd s.toList)).toUTF8.toList
  ofBytes (bytes line1) (bytes line2)

end Elements

end EarthStation.Orbit
