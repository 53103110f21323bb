import EarthStation.Decimal.Reader
import EarthStation.Instant
import EarthStation.Text.Blank

/-!
# Duration — spans of time as texts

* `Duration.ofText?`: the nanoseconds that a text such as `1h 30m` stands for.

A text is a sequence of numbers with units.  Numbers are whole or have a decimal fraction; blanks may
stand between digits and after units.  A fraction must come to whole nanoseconds, from hours upwards
to whole seconds.  All quantities are kept in 64 bits: a text whose parts do not fit is refused.
-/

namespace EarthStation.Duration

/-- What one unit amounts to: a number of seconds or a number of nanoseconds. -/
inductive Amount where
  | seconds (count : Nat)
  | nanos (count : Nat)
deriving DecidableEq, Repr

structure TimeUnit where
  /-- What a whole number counts. -/
  whole : Amount
  /-- What a fraction is a fraction of, where fractions are allowed. -/
  part : Option Amount
deriving DecidableEq, Repr

/-- A unit of less than an hour: its fractions come to whole nanoseconds. -/
def TimeUnit.short (whole : Amount) (nanos : Nat) : TimeUnit := ⟨whole, some (.nanos nanos)⟩

/-- A unit of an hour or more: its fractions come to whole seconds. -/
def TimeUnit.long (seconds : Nat) : TimeUnit := ⟨.seconds seconds, some (.seconds seconds)⟩

def TimeUnit.ofName? (name : String) : Option TimeUnit :=
  if ["nanos", "nsec", "ns"].contains name then some ⟨.nanos 1, none⟩
  else if ["usec", "us", "µs"].contains name then some (.short (.nanos 1000) 1000)
  else if ["millis", "msec", "ms"].contains name then some (.short (.nanos nanosPerMilli) nanosPerMilli)
  else if ["seconds", "second", "secs", "sec", "s"].contains name then
    some (.short (.seconds 1) nanosPerSecond)
  else if ["minutes", "minute", "mins", "min", "m"].contains name then
    some (.short (.seconds 60) (60 * nanosPerSecond))
  else if ["hours", "hour", "hrs", "hr", "h"].contains name then some (.long 3600)
  else if ["days", "day", "d"].contains name then some (.long 86400)
  else if ["weeks", "week", "wks", "wk", "w"].contains name then some (.long 604800)
  else if ["months", "month", "M"].contains name then some (.long 2630016)
  else if ["years", "year", "yrs", "yr", "y"].contains name then some (.long 31557600)
  else none

/-- A number that fits into 64 bits. -/
def fitting (n : Nat) : Option Nat := if n < UInt64.size then some n else none

/-- Adds an amount, taken `num / den` times, to a number of nanoseconds. -/
def addAmount (total num den : Nat) : Amount → Option Nat
  | .seconds count => do
    let product ← fitting (num * count)
    if product % den = 0 then do
      let seconds ← fitting (total / nanosPerSecond + product / den)
      pure (seconds * nanosPerSecond + total % nanosPerSecond)
    else none
  | .nanos count => do
    let product ← fitting (num * count)
    if product % den = 0 then do
      let nanos ← fitting (total % nanosPerSecond + product / den)
      let seconds ← fitting (total / nanosPerSecond + nanos / nanosPerSecond)
      pure (seconds * nanosPerSecond + nanos % nanosPerSecond)
    else none

/-- The digits of a fraction. -/
abbrev Fraction := Option (List Char)

/-- Adds a number with its unit to a number of nanoseconds. -/
def addSpan (total : Nat) (digits : List Char) (fraction : Fraction) (unit : List Char) :
    Option Nat := do
  let number ← fitting (Decimal.natural digits)
  let unit ← TimeUnit.ofName? (String.ofList unit)
  let total ← addAmount total number 1 unit.whole
  match fraction, unit.part with
  | none, _ => pure total
  | some _, none => none
  | some digits, some part => do
    let num ← fitting (Decimal.natural digits)
    let den ← fitting (Nat.pow 10 digits.length)
    addAmount total num den part

/-- Holds of the characters of units. -/
def isUnitLetter (c : Char) : Bool :=
  decide ('a' ≤ c ∧ c ≤ 'z') || decide ('A' ≤ c ∧ c ≤ 'Z') || c == 'µ'

/-- Holds of what may stand in a number. -/
def isDigitOrBlank (c : Char) : Bool := Decimal.isDigit c || Text.isBlank c

/-- The digits in front of a text, with blanks among them dropped, and the rest. -/
def digitsOf (cs : List Char) : List Char × List Char :=
  ((cs.takeWhile isDigitOrBlank).filter Decimal.isDigit, cs.dropWhile isDigitOrBlank)

/-- The fraction behind a number, and the rest. -/
def fractionOf : List Char → Option (Fraction × List Char)
  | '.' :: rest =>
    let (digits, rest) := digitsOf rest
    if digits.isEmpty then none else some (some digits, rest)
  | rest => some (none, rest)

/-- Reads on where a number is expected; `fuel` bounds the number of spans. -/
def readOn : (fuel total : Nat) → List Char → Option Nat
  | 0, _, _ => none
  | fuel + 1, total, cs =>
    match cs with
    | [] => none
    | c :: _ =>
      if Decimal.isDigit c then do
        let (digits, rest) := digitsOf cs
        let (fraction, rest) ← fractionOf rest
        let total ← addSpan total digits fraction (rest.takeWhile isUnitLetter)
        match rest.dropWhile isUnitLetter with
        | [] => pure total
        | next :: rest =>
          if Text.isBlank next then
            match Text.trimStart rest with
            | [] => pure total
            | rest => readOn fuel total rest
          else readOn fuel total (next :: rest)
      else none

/-- The nanoseconds that a text stands for. -/
def ofText? (text : String) : Option Nat :=
  if text = "0" then some 0
  else readOn (text.length + 1) 0 (Text.trimStart text.toList)

end EarthStation.Duration
