import EarthStation.PassSearch
import EarthStation.Text.Lines
import EarthStation.Text.Quoted

/-!
# Catalog — the element sets at hand

* `Catalog.Record`: a name and two element lines.
* `Catalog.ofText`: reads records of three lines, or of two where the name is missing.
* `Catalog.render`: writes them back.
* `Catalog.find`: the first record whose name begins in a given way.
* `Catalog.select`: the satellite to track, by name or by its next or best pass.
-/

namespace EarthStation.Catalog

/-- A name and the two lines of an element set. -/
structure Record where
  name : String
  line1 : String
  line2 : String
deriving DecidableEq, Repr

/-- Holds of the first lines of element sets. -/
def isFirst (line : List Char) : Bool := ['1', ' '].isPrefixOf line

/-- Holds of the second lines of element sets. -/
def isSecond (line : List Char) : Bool := ['2', ' '].isPrefixOf line

/-- The first `count` bytes of a text, if they end between two characters. -/
def takeBytes : (count : Nat) → List Char → Option (List Char)
  | 0, _ => some []
  | _ + 1, [] => none
  | count + 1, c :: cs =>
    if c.utf8Size ≤ count + 1 then (takeBytes (count + 1 - c.utf8Size) cs).map (c :: ·) else none
termination_by count => count
decreasing_by have := c.utf8Size_pos; omega

/-- The catalog number of a first line: its columns 2 to 6. -/
def numberField (line : List Char) : List Char :=
  Text.trim ((takeBytes 5 (line.drop 2)).getD [])

/-- The name of a record without a name line. -/
def numberName (line : List Char) : String := String.ofList ("NORAD ".toList ++ numberField line)

/-- The lines that count: without trailing blanks, and not blank. -/
def significantLines (text : List Char) : List (List Char) :=
  ((Text.lines text).map Text.trimEnd).filter fun line => !(Text.trim line).isEmpty

def expected (which : String) (line : List Char) : String :=
  "expected element line " ++ which ++ ", found " ++ Text.quoted (String.ofList line)

/-- The records of significant lines, the first of which has the given number. -/
def ofLines (number : Nat) : List (List Char) → Except CatalogError (List Record)
  | [] => .ok []
  | line :: rest =>
    if isFirst line then
      let name := numberName line
      match rest with
      | [] => .error (.truncated name)
      | second :: rest =>
        if isSecond second then
          (ofLines (number + 2) rest).map
            (⟨name, String.ofList line, String.ofList second⟩ :: ·)
        else .error (.invalidElements name (expected "2" second))
    else if isSecond line then
      .error (.invalidElements ("line " ++ toString number)
        "element line 2 without a preceding line 1")
    else
      let name := String.ofList (Text.trim line)
      match rest with
      | [] => .error (.truncated name)
      | first :: rest =>
        if isFirst first then
          match rest with
          | [] => .error (.truncated name)
          | second :: rest =>
            if isSecond second then
              (ofLines (number + 3) rest).map
                (⟨name, String.ofList first, String.ofList second⟩ :: ·)
            else .error (.invalidElements name (expected "2" second))
        else .error (.invalidElements name (expected "1" first))

/-- Reads a catalog. -/
def ofText (text : String) : Except CatalogError (List Record) :=
  ofLines 1 (significantLines text.toList)

/-- The lines of a record. -/
def Record.lines (r : Record) : List String := [r.name, r.line1, r.line2]

/-- Writes a catalog with a name line for each record. -/
def render (records : List Record) : String :=
  String.join ((records.flatMap Record.lines).map (· ++ "\n"))

/-- The first record whose name begins with the given text. -/
def find (records : List Record) (name : String) : Except CatalogError Record :=
  match records.find? fun r => name.toList.isPrefixOf r.name.toList with
  | some r => .ok r
  | none => .error (.notFound name)

/-! ## The satellite to track -/

/-- Why there is no satellite to track. -/
inductive SelectionError (α : Type) where
  | catalog (cause : CatalogError)
  | prediction (cause : PredictionError α)
  | noPass
deriving Repr

section

variable {τ α σ : Type} [Scalar α] [Timeline τ α] [PassSearch.PatternReader]

/-- The satellite whose name begins with `target`, or the one with the soonest pass for `next` and
with the highest pass for `best`.  `build` makes a satellite of a record and `seen` its ephemeris. -/
def select (records : List Record) (build : Record → Except CatalogError σ)
    (seen : σ → Ephemeris τ α) (criteria : PassSearch.Criteria α) (start : τ) (target : String) :
    Except (SelectionError α) σ :=
  let named (name : String) : Except (SelectionError α) σ :=
    ((find records name).bind build).mapError .catalog
  let chosen (pick : PassSearch.Found τ α → Option (PassSearch.Pass τ α)) :
      Except (SelectionError α) σ := do
    let found ← (PassSearch.run (records.map fun r => (build r).map seen) criteria
      (.standard start criteria)).mapError .prediction
    match pick found with
    | none => .error .noPass
    | some pass =>
      match records.find? fun r => r.name = pass.satellite with
      | some r => (build r).mapError .catalog
      | none => named pass.satellite
  if target = "next" then chosen PassSearch.Found.soonest
  else if target = "best" then chosen PassSearch.Found.best
  else named target

end

end EarthStation.Catalog
