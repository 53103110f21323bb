import EarthStation.Capture
import EarthStation.Catalog
import EarthStation.Config

/-!
# Failure — why a command ended early

* `Program.Failure`: the cause.
* `Program.Failure.message`: its wording.
-/

namespace EarthStation.Program

/-- Why a command ended early. -/
inductive Failure where
  | config (cause : Config.Fault)
  | catalog (cause : CatalogError)
  /-- The file of orbital elements holds none. -/
  | noElements (path : String)
  | prediction (cause : PredictionError Float)
  /-- The search for a satellite to track found no pass. -/
  | noPass
  | rotator (cause : Rotator.Fault Float)
  | radio (cause : Radio.Fault Float)
  | capture (cause : Capture.Fault)
  | io (cause : IoError)

namespace Failure

def message : Failure → String
  | config cause => cause.message
  | catalog cause => cause.message
  | noElements path => "no element sets in " ++ path
  | prediction cause => cause.message
  | noPass => "no pass matches the search filters"
  | rotator cause => "rotator error: " ++ cause.message
  | radio cause => "radio error: " ++ cause.message
  | capture cause => "capture error: " ++ cause.message
  | io cause => cause.message

/-- The line that is shown for a failure. -/
def line (f : Failure) : String := "Error: " ++ f.message

def ofSelection : Catalog.SelectionError Float → Failure
  | .catalog cause => catalog cause
  | .prediction cause => prediction cause
  | .noPass => noPass

end Failure

end EarthStation.Program
