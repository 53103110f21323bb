import EarthStation.PassSearch

/-!
# PassTable — passes as text

* `PassTable.table`: how many satellites were looked at, and one line for each pass.
* `PassTable.json`: the passes as an array of objects.
* `PassTable.jsonString`: a text between quotes.
-/

namespace EarthStation.PassTable

open PassSearch (Found)

abbrev Listed := PassSearch.Pass Instant Float

/-! ## A table -/

/-- An amount with a number of decimals in a column of a given width. -/
def column (width places : Nat) (x : Float) : String := Decimal.padLeft width (Decimal.fixed places x)

/-- The line of a pass, without its line feed. -/
def line (p : Listed) : String :=
  Decimal.padRight 24 p.satellite ++ " " ++ column 7 1 p.minutesAway ++ " min  "
    ++ p.riseTime.stamp ++ "  max el " ++ column 4 1 p.maxElevationDeg
    ++ "  rise az " ++ column 5 1 p.riseAzimuthDeg ++ "  " ++ column 5 1 p.durationMinutes
    ++ " min  " ++ column 6 0 p.maxAltitudeKm ++ " km"

/-- The line above the passes. -/
def heading (f : Found Instant Float) : String :=
  toString f.scanned ++ " satellites scanned, " ++ toString f.checked ++ " in the altitude band, "
    ++ toString f.passes.length ++ " passes"

def table (f : Found Instant Float) : String :=
  String.join ((heading f :: f.passes.map line).map (· ++ "\n"))

/-! ## Objects -/

/-- Four hexadecimal digits in lower case. -/
def fourHexDigits (n : Nat) : List Char :=
  let ds := Nat.toDigits 16 n
  List.replicate (4 - ds.length) '0' ++ ds

/-- A character inside quotes. -/
def jsonChar (c : Char) : List Char :=
  match c with
  | '"' => ['\\', '"']
  | '\\' => ['\\', '\\']
  | '\n' => ['\\', 'n']
  | '\r' => ['\\', 'r']
  | '\t' => ['\\', 't']
  | '\x08' => ['\\', 'b']
  | '\x0c' => ['\\', 'f']
  | c => if c.toNat < 32 then '\\' :: 'u' :: fourHexDigits c.toNat else [c]

/-- A text between quotes. -/
def jsonString (s : String) : String :=
  String.ofList ('"' :: s.toList.flatMap jsonChar ++ ['"'])

/-- Digits behind a point: none, three or six, as few as will do. -/
def fraction (micros : Nat) : String :=
  let padded (width n : Nat) : String :=
    let ds := Nat.toDigits 10 n
    String.ofList ('.' :: List.replicate (width - ds.length) '0' ++ ds)
  if micros = 0 then ""
  else if micros % 1000 = 0 then padded 3 (micros / 1000)
  else padded 6 micros

/-- An instant as one word, as in `2025-06-01T12:30:00.500Z`. -/
def timestamp (t : Instant) : String :=
  let stamp := t.stamp.map fun c => if c = ' ' then 'T' else c
  stamp ++ fraction (t.micros % 1000000).toNat ++ "Z"

/-- The members of the object of a pass, each with its value as text. -/
def members (p : Listed) : List (String × String) :=
  [("satellite", jsonString p.satellite), ("minutes_away", Decimal.exponential p.minutesAway),
    ("max_elevation_deg", Decimal.exponential p.maxElevationDeg),
    ("max_altitude_km", Decimal.exponential p.maxAltitudeKm),
    ("duration_minutes", Decimal.exponential p.durationMinutes),
    ("rise_azimuth_deg", Decimal.exponential p.riseAzimuthDeg),
    ("rise_time", jsonString (timestamp p.riseTime))]

/-- The object of a pass, indented. -/
def object (p : Listed) : String :=
  let member (m : String × String) : String := "    " ++ jsonString m.1 ++ ": " ++ m.2
  "  \x7b\n" ++ String.intercalate ",\n" ((members p).map member) ++ "\n  \x7d"

/-- The passes as an indented array. -/
def json (passes : List Listed) : String :=
  match passes with
  | [] => "[]\n"
  | passes => "[\n" ++ String.intercalate ",\n" (passes.map object) ++ "\n]\n"

end EarthStation.PassTable
