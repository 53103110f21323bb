import EarthStation.Config
import EarthStation.Duration
import EarthStation.Yaml.Document

/-!
# Document — configurations as YAML documents

* `Config.Section`: a mapping whose keys are names.
* `Config.ofValue?`: the configuration that a YAML value describes.
* `Config.ofText`: the configuration that a text describes.

What a document does not mention keeps its standard value, and names that mean nothing are ignored.
-/

namespace EarthStation.Config

open Yaml (Value)

/-! ## Single values -/

def boolean? : Value → Option Bool
  | .tagged _ v => boolean? v
  | .bool b => some b
  | _ => none

def text? : Value → Option String
  | .tagged _ v => text? v
  | .string s => some s
  | _ => none

/-- A number, whole or not. -/
def number? : Value → Option Float
  | .tagged _ v => number? v
  | .integer n => some (Float.ofInt n)
  | .float x => some x
  | _ => none

/-- A whole number below `2 ^ bits`. -/
def natural? (bits : Nat) : Value → Option Nat
  | .tagged _ v => natural? bits v
  | .integer n => if 0 ≤ n ∧ n < Nat.pow 2 bits then some n.toNat else none
  | _ => none

def duration? (v : Value) : Option Nat := (text? v).bind Duration.ofText?

/-- A value that may be null. -/
def optional? {β : Type} (read : Value → Option β) : Value → Option (Option β)
  | .null => some none
  | v => (read v).map some

/-- The name of a mode, as a text or as a tag without a value. -/
def mode? : Value → Option Radio.Mode
  | .string name => Radio.Mode.ofName? name
  | .tagged name .null => Radio.Mode.ofName? name
  | _ => none

/-! ## Sections -/

/-- A mapping whose keys are names. -/
abbrev Section := List (String × Value)

/-- A section; null stands for an empty one. -/
def Section.ofValue? : Value → Option Section
  | .tagged _ v => Section.ofValue? v
  | .null => some []
  | .mapping entries => entries.mapM fun e => (text? e.1).map fun name => (name, e.2)
  | _ => none

/-- The value of a name, or the standard where it is not mentioned. -/
def Section.get? {β : Type} (s : Section) (name : String) (read : Value → Option β) (standard : β) :
    Option β :=
  match s.lookup name with
  | some v => read v
  | none => some standard

/-- The value of a name that has to be mentioned. -/
def Section.require? {β : Type} (s : Section) (name : String) (read : Value → Option β) : Option β :=
  (s.lookup name).bind read

def stationOf? (v : Value) : Option StationSection := do
  let s ← Section.ofValue? v
  let d := StationSection.standard
  pure
    { name := ← s.get? "name" (optional? text?) d.name
      coordinates := ← s.get? "coordinates" (optional? text?) d.coordinates
      latitudeDeg := ← s.get? "latitude_deg" number? d.latitudeDeg
      longitudeDeg := ← s.get? "longitude_deg" number? d.longitudeDeg
      altitudeM := ← s.get? "altitude_m" number? d.altitudeM }

def catalogOf? (v : Value) : Option CatalogSection := do
  let s ← Section.ofValue? v
  let d := CatalogSection.standard
  pure
    { elementsPath := ← s.get? "tle_path" text? d.elementsPath
      statusPath := ← s.get? "status_path" (optional? text?) d.statusPath }

def trackingOf? (v : Value) : Option TrackingSection := do
  let s ← Section.ofValue? v
  let d := TrackingSection.standard
  pure
    { tickNanos := ← s.get? "tick" duration? d.tickNanos
      prepMinutes := ← s.get? "prep_minutes" number? d.prepMinutes
      idleTimeoutNanos := ← s.get? "idle_timeout" duration? d.idleTimeoutNanos
      lockoutTicks := ← s.get? "lockout_ticks" (natural? 32) d.lockoutTicks
      azimuthThresholdDeg := ← s.get? "azimuth_threshold_deg" number? d.azimuthThresholdDeg
      elevationThresholdDeg := ← s.get? "elevation_threshold_deg" number? d.elevationThresholdDeg
      dopplerResolutionHz := ← s.get? "doppler_resolution_hz" number? d.dopplerResolutionHz
      horizonMinutes := ← s.get? "horizon_minutes" number? d.horizonMinutes }

def serialOf? (s : Section) (d : SerialSection) : Option SerialSection := do
  pure
    { enabled := ← s.get? "enabled" boolean? d.enabled
      device := ← s.get? "device" text? d.device
      baudRate := ← s.get? "baud_rate" (natural? 32) d.baudRate
      timeoutNanos := ← s.get? "timeout" duration? d.timeoutNanos
      required := ← s.get? "required" boolean? d.required }

def rotatorOf? (v : Value) : Option RotatorSection := do
  let s ← Section.ofValue? v
  let d := RotatorSection.standard
  pure
    { serial := ← serialOf? s d.serial
      setResponds := ← s.get? "set_responds" boolean? d.setResponds }

def radioOf? (v : Value) : Option RadioSection := do
  let s ← Section.ofValue? v
  let d := RadioSection.standard
  pure
    { serial := ← serialOf? s d.serial
      mode := ← s.get? "mode" (optional? mode?) d.mode
      filter := ← s.get? "filter" (natural? 8) d.filter
      waterfall := ← s.get? "waterfall" boolean? d.waterfall }

/-- The auxiliary section, all of whose values have to be mentioned. -/
def auxiliaryOf? (v : Value) : Option AuxiliarySection := do
  let s ← Section.ofValue? v
  pure
    { frequency := ← s.require? "frequency" text?
      azimuthDeg := ← s.require? "azimuth_deg" number?
      elevationDeg := ← s.require? "elevation_deg" number? }

def frequenciesOf? (v : Value) : Option FrequencySection := do
  let s ← Section.ofValue? v
  let d := FrequencySection.standard
  pure
    { uplink := ← s.get? "uplink" (optional? text?) d.uplink
      downlink := ← s.get? "downlink" (optional? text?) d.downlink
      auxiliary := ← s.get? "auxiliary" (optional? auxiliaryOf?) d.auxiliary }

def captureOf? (v : Value) : Option CaptureSection := do
  let s ← Section.ofValue? v
  let d := CaptureSection.standard
  pure
    { device := ← s.get? "device" text? d.device
      rateHz := ← s.get? "rate_hz" (natural? 32) d.rateHz
      channels := ← s.get? "channels" (natural? 16) d.channels }

def searchOf? (v : Value) : Option (PassSearch.Criteria Float) := do
  let s ← Section.ofValue? v
  let d : PassSearch.Criteria Float := .standard
  pure
    { minAltitudeKm := ← s.get? "min_altitude_km" number? d.minAltitudeKm
      maxAltitudeKm := ← s.get? "max_altitude_km" number? d.maxAltitudeKm
      minMinutes := ← s.get? "min_minutes" number? d.minMinutes
      maxMinutes := ← s.get? "max_minutes" number? d.maxMinutes
      minElevationDeg := ← s.get? "min_elevation_deg" number? d.minElevationDeg
      maxElevationDeg := ← s.get? "max_elevation_deg" number? d.maxElevationDeg
      pattern := ← s.get? "pattern" (optional? text?) d.pattern
      ignoreCase := ← s.get? "ignore_case" boolean? d.ignoreCase
      withConstellations := ← s.get? "with_constellations" boolean? d.withConstellations }

/-- The configuration that a YAML value describes. -/
def ofValue? (v : Value) : Option Config := do
  let s ← Section.ofValue? v
  let d := Config.standard
  pure
    { station := ← s.get? "station" stationOf? d.station
      catalog := ← s.get? "catalog" catalogOf? d.catalog
      tracking := ← s.get? "tracking" trackingOf? d.tracking
      rotator := ← s.get? "rotator" rotatorOf? d.rotator
      radio := ← s.get? "radio" radioOf? d.radio
      frequencies := ← s.get? "frequencies" frequenciesOf? d.frequencies
      capture := ← s.get? "capture" captureOf? d.capture
      search := ← s.get? "search" searchOf? d.search }

/-- The configuration that a text describes, if it can be used. -/
def ofText : String → Except Fault Config := load fun text => (Value.ofText? text).bind ofValue?

end EarthStation.Config
