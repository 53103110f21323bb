import EarthStation.Binary64
import EarthStation.Decimal.Reader
import EarthStation.Text.Blank
import EarthStation.Text.Lines

/-!
# StatusTable — the frequencies and the state of satellites

* `StatusTable.Entry`: the eight fields of a line.
* `StatusTable.ofText`, `StatusTable.render`: reads and writes tables.
* `StatusTable.lookup`: the entry of a satellite.
-/

namespace EarthStation.StatusTable

/-- A line of the table: `name;id;uplink;downlink;beacon;mode;callsign;status`. -/
structure Entry where
  name : String
  id : String
  uplinkMHz : String
  downlinkMHz : String
  beaconMHz : String
  mode : String
  callsign : String
  status : String
deriving DecidableEq, Repr

namespace Entry

def fields (e : Entry) : List String :=
  [e.name, e.id, e.uplinkMHz, e.downlinkMHz, e.beaconMHz, e.mode, e.callsign, e.status]

/-- An entry from its fields in order; missing ones are empty. -/
def ofFields (fields : List String) : Entry where
  name := fields.getD 0 ""
  id := fields.getD 1 ""
  uplinkMHz := fields.getD 2 ""
  downlinkMHz := fields.getD 3 ""
  beaconMHz := fields.getD 4 ""
  mode := fields.getD 5 ""
  callsign := fields.getD 6 ""
  status := fields.getD 7 ""

/-- Reads a line; separators beyond the seventh belong to the last field. -/
def ofLine (line : List Char) : Entry :=
  ofFields ((Text.splitAtMost ';' 7 line).map fun f => String.ofList (Text.trim f))

/-- The line of an entry. -/
def line (e : Entry) : String := String.intercalate ";" e.fields

/-- The frequency in hertz that the digits at the beginning of a field give in megahertz. -/
def leadingHz (field : String) : Option Float := do
  let figure := field.toList.takeWhile fun c => Decimal.isDigit c || c == '.'
  let mhz ← Decimal.readFloat? figure
  if mhz > 0.0 then some (Binary64.round (mhz * 1e6)) else none

def uplinkHz (e : Entry) : Option Float := leadingHz e.uplinkMHz

def downlinkHz (e : Entry) : Option Float := leadingHz e.downlinkMHz

def beaconHz (e : Entry) : Option Float := leadingHz e.beaconMHz

end Entry

/-- Holds of lines that are no entries: comments and blank ones. -/
def isSkipped (line : List Char) : Bool :=
  line.head? == some '#' || (Text.trim line).isEmpty

/-- Reads a table. -/
def ofText (text : String) : List Entry :=
  ((Text.lines text.toList).filter fun line => !isSkipped line).map Entry.ofLine

/-- Writes a table. -/
def render (entries : List Entry) : String :=
  String.join (entries.map fun e => e.line ++ "\n")

/-- Holds if one of two names begins with the other and neither is a mere accident of an entry
without name. -/
def resembles (name : List Char) (e : Entry) : Bool :=
  !e.name.isEmpty && (e.name.toList.isPrefixOf name || name.isPrefixOf e.name.toList)

/-- The entry of a satellite: the first with exactly its name, else the first with a name that
begins it or that it begins. -/
def lookup (entries : List Entry) (name : String) : Option Entry :=
  let name := Text.trim name.toList
  match entries.find? fun e => e.name.toList = name with
  | some e => some e
  | none => entries.find? (resembles name)

end EarthStation.StatusTable
