import EarthStation.Binary64
import EarthStation.Decimal.Reader
import EarthStation.Text.Blank

/-!
# Frequency — frequencies as texts

* `Frequency.ofText?`: reads a number with an optional unit.
-/

namespace EarthStation.Frequency

/-- Holds of the 52 ASCII letters. -/
def isLetter (c : Char) : Bool := decide ('a' ≤ c ∧ c ≤ 'z') || decide ('A' ≤ c ∧ c ≤ 'Z')

/-- The hertz in a unit; none is needed for hertz. -/
def scale? (unit : List Char) : Option Float :=
  match String.ofList (unit.map Char.toLower) with
  | "" | "hz" => some 1.0
  | "khz" => some 1e3
  | "mhz" => some 1e6
  | "ghz" => some 1e9
  | _ => none

/-- The whole hertz that a text stands for: a number up to the first letter, then a unit in any case.
Only positive finite frequencies are read. -/
def ofText? (text : String) : Option Float := do
  let text := Text.trim text.toList
  let value ← Decimal.readFloat? (Text.trim (text.takeWhile fun c => !isLetter c))
  let scale ← scale? (Text.trim (text.dropWhile fun c => !isLetter c))
  let hz := Binary64.round (value * scale)
  if hz.isFinite && 0.0 < hz then some hz else none

end EarthStation.Frequency
