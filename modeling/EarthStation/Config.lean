import EarthStation.Exchange
import EarthStation.Frequency
import EarthStation.PassSearch
import EarthStation.Rotator.Frame
import EarthStation.Site
import EarthStation.Text.Quoted
import EarthStation.Tracking.Session

/-!
# Config — how the station is set up

* `Config`: the sections of a configuration, with their values where none are given.
* `Config.validate`, `Config.load`: whether a configuration can be used.
* `Config.StationSection.overridePosition`: another latitude or longitude for the station.
* `Config.settings`: what the tracking needs of it.
-/

namespace EarthStation

namespace Config

structure StationSection where
  name : Option String
  /-- Latitude and longitude as one text; it takes precedence over the separate values. -/
  coordinates : Option String
  latitudeDeg : Float
  longitudeDeg : Float
  altitudeM : Float

def StationSection.standard : StationSection where
  name := none
  coordinates := none
  latitudeDeg := Site.standard.latitudeDeg
  longitudeDeg := Site.standard.longitudeDeg
  altitudeM := Site.standard.altitudeM

structure CatalogSection where
  /-- The file with the orbital elements. -/
  elementsPath : String
  /-- The file with the frequencies of satellites. -/
  statusPath : Option String

def CatalogSection.standard : CatalogSection := ⟨"tle/amateur.txt", none⟩

structure TrackingSection where
  tickNanos : Nat
  prepMinutes : Float
  idleTimeoutNanos : Nat
  lockoutTicks : Nat
  azimuthThresholdDeg : Float
  elevationThresholdDeg : Float
  dopplerResolutionHz : Float
  horizonMinutes : Float

def TrackingSection.standard : TrackingSection :=
  let s : Tracking.Settings Float := .standard
  { tickNanos := s.tickNanos
    prepMinutes := s.prepMinutes
    idleTimeoutNanos := s.idleTimeoutNanos
    lockoutTicks := s.lockoutTicks
    azimuthThresholdDeg := s.azimuthThresholdDeg
    elevationThresholdDeg := s.elevationThresholdDeg
    dopplerResolutionHz := s.dopplerResolutionHz
    horizonMinutes := s.horizonMinutes }

/-- A device on a serial line. -/
structure SerialSection where
  enabled : Bool
  device : String
  baudRate : Nat
  timeoutNanos : Nat
  /-- Whether there is no run without it. -/
  required : Bool

structure RotatorSection where
  serial : SerialSection
  /-- Whether the firmware answers the command to go to a position. -/
  setResponds : Bool

def RotatorSection.standard : RotatorSection where
  serial :=
    { enabled := true
      device := "/dev/ttyUSB0"
      baudRate := 600
      timeoutNanos := 200 * nanosPerMilli
      required := false }
  setResponds := true

structure RadioSection where
  serial : SerialSection
  /-- The operating mode that is set when the radio is opened. -/
  mode : Option Radio.Mode
  filter : Nat
  waterfall : Bool

def RadioSection.standard : RadioSection where
  serial :=
    { enabled := true
      device := "/dev/ttyUSB1"
      baudRate := 19200
      timeoutNanos := 100 * nanosPerMilli
      required := false }
  mode := none
  filter := 1
  waterfall := false

structure AuxiliarySection where
  frequency : String
  azimuthDeg : Float
  elevationDeg : Float

/-- Frequencies with their units. -/
structure FrequencySection where
  uplink : Option String
  downlink : Option String
  auxiliary : Option AuxiliarySection

def FrequencySection.standard : FrequencySection := ⟨none, none, none⟩

structure CaptureSection where
  device : String
  rateHz : Nat
  channels : Nat

def CaptureSection.standard : CaptureSection := ⟨"hw:3,0", 48000, 2⟩

/-- Why a configuration cannot be used. -/
inductive Flaw where
  | coordinates (text : String)
  | latitude (degrees : Float)
  | tick
  | lockout
  | filter (slot : Nat)
  | negative (name : String)
  | band (name : String) (least greatest : Float)
  | frequency (name text : String)
  | auxiliary (fault : Rotator.Fault Float)

def Flaw.message : Flaw → String
  | coordinates text => "station coordinates " ++ Text.quoted text
  | latitude degrees => "latitude " ++ Decimal.plain degrees ++ " outside +-90"
  | tick => "tick period must be positive"
  | lockout => "lockout_ticks must be at least 1"
  | filter slot => "radio filter " ++ toString slot ++ " outside 1-3"
  | negative name => name ++ " must not be negative"
  | band name least greatest =>
    "search " ++ name ++ " band: " ++ Decimal.plain least ++ " > " ++ Decimal.plain greatest
  | frequency name text => name ++ " frequency " ++ Text.quoted text
  | auxiliary fault => fault.message

/-- Why there is no configuration. -/
inductive Fault where
  | io (cause : IoError)
  /-- The text is no YAML, or its values do not fit. -/
  | unreadable
  | invalid (flaw : Flaw)

def Fault.message : Fault → String
  | io cause => "IO error: " ++ cause.message
  | unreadable => "YAML parse error"
  | invalid flaw => "invalid configuration: " ++ flaw.message

namespace StationSection

/-- The place of the station. -/
def site (s : StationSection) : Except Flaw Site :=
  match s.coordinates with
  | some text =>
    match Site.ofCoordinates? text s.altitudeM with
    | some site => .ok site
    | none => .error (.coordinates text)
  | none => .ok ⟨s.latitudeDeg, s.longitudeDeg, s.altitudeM⟩

/-- Puts a place that is given as one text into the separate values.  A text that cannot be read changes
nothing. -/
def separate : Exchange StationSection Flaw Unit := do
  let s ← Exchange.get
  if s.coordinates.isSome then
    let site ← Exchange.ofExcept s.site
    Exchange.modify fun s =>
      { s with
        latitudeDeg := site.latitudeDeg
        longitudeDeg := site.longitudeDeg
        coordinates := none }

/-- Replaces latitude and longitude, as far as they are given. -/
def overridePosition (latitudeDeg longitudeDeg : Option Float) :
    Exchange StationSection Flaw Unit := do
  if latitudeDeg.isSome || longitudeDeg.isSome then
    separate
    if let some latitude := latitudeDeg then
      Exchange.modify fun s => { s with latitudeDeg := latitude }
    if let some longitude := longitudeDeg then
      Exchange.modify fun s => { s with longitudeDeg := longitude }

end StationSection

namespace FrequencySection

/-- The hertz of a frequency that may be missing. -/
def hertz (name : String) : Option String → Except Flaw (Option Float)
  | none => .ok none
  | some text =>
    match Frequency.ofText? text with
    | some hz => .ok (some hz)
    | none => .error (.frequency name text)

/-- The auxiliary frequency and direction, if there are any. -/
def auxiliaryTarget (s : FrequencySection) : Except Flaw (Option (Tracking.Auxiliary Float)) :=
  match s.auxiliary with
  | none => .ok none
  | some a =>
    match Frequency.ofText? a.frequency with
    | none => .error (.frequency "auxiliary" a.frequency)
    | some hz =>
      match Rotator.Position.checked ⟨a.azimuthDeg, a.elevationDeg⟩ with
      | .ok p => .ok (some ⟨hz, p⟩)
      | .error fault => .error (.auxiliary fault)

end FrequencySection

end Config

/-- How the station is set up. -/
structure Config where
  station : Config.StationSection
  catalog : Config.CatalogSection
  tracking : Config.TrackingSection
  rotator : Config.RotatorSection
  radio : Config.RadioSection
  frequencies : Config.FrequencySection
  capture : Config.CaptureSection
  search : PassSearch.Criteria Float

namespace Config

def standard : Config where
  station := .standard
  catalog := .standard
  tracking := .standard
  rotator := .standard
  radio := .standard
  frequencies := .standard
  capture := .standard
  search := .standard

/-- Fails with the flaw unless the condition holds. -/
def ensure (condition : Bool) (flaw : Flaw) : Except Flaw Unit :=
  if condition then .ok () else .error flaw

/-- The amounts that may not be negative, by name. -/
def amounts (t : TrackingSection) : List (String × Float) :=
  [("prep_minutes", t.prepMinutes), ("azimuth_threshold_deg", t.azimuthThresholdDeg),
    ("elevation_threshold_deg", t.elevationThresholdDeg),
    ("doppler_resolution_hz", t.dopplerResolutionHz), ("horizon_minutes", t.horizonMinutes)]

/-- The bands of the search, by name. -/
def bands (c : PassSearch.Criteria Float) : List (String × Float × Float) :=
  [("altitude", c.minAltitudeKm, c.maxAltitudeKm), ("minutes", c.minMinutes, c.maxMinutes),
    ("elevation", c.minElevationDeg, c.maxElevationDeg)]

/-- Fails with the first flaw of a configuration. -/
def validate (c : Config) : Except Flaw Unit := do
  let site ← c.station.site
  ensure (Scalar.within site.latitudeDeg (-90.0) 90.0) (.latitude site.latitudeDeg)
  ensure (c.tracking.tickNanos != 0) .tick
  ensure (c.tracking.lockoutTicks != 0) .lockout
  ensure (decide (1 ≤ c.radio.filter ∧ c.radio.filter ≤ 3)) (.filter c.radio.filter)
  (amounts c.tracking).forM fun (name, value) => ensure (decide (0.0 ≤ value)) (.negative name)
  (bands c.search).forM fun (name, least, greatest) =>
    ensure (!decide (greatest < least)) (.band name least greatest)
  let _ ← FrequencySection.hertz "uplink" c.frequencies.uplink
  let _ ← FrequencySection.hertz "downlink" c.frequencies.downlink
  let _ ← c.frequencies.auxiliaryTarget
  pure ()

/-- The configuration that a reader finds in a text, if it can be used. -/
def load (read : String → Option Config) (text : String) : Except Fault Config :=
  match read text with
  | none => .error .unreadable
  | some c => (c.validate.mapError Fault.invalid).map fun _ => c

/-- What the tracking needs of a configuration. -/
def settings (c : Config) : Except Flaw (Tracking.Settings Float) := do
  let t := c.tracking
  let uplinkHz ← FrequencySection.hertz "uplink" c.frequencies.uplink
  let downlinkHz ← FrequencySection.hertz "downlink" c.frequencies.downlink
  let auxiliary ← c.frequencies.auxiliaryTarget
  let standard : Tracking.Settings Float := .standard
  pure
    { standard with
      tickNanos := t.tickNanos
      prepMinutes := t.prepMinutes
      idleTimeoutNanos := t.idleTimeoutNanos
      lockoutTicks := t.lockoutTicks
      azimuthThresholdDeg := t.azimuthThresholdDeg
      elevationThresholdDeg := t.elevationThresholdDeg
      dopplerResolutionHz := t.dopplerResolutionHz
      horizonMinutes := t.horizonMinutes
      uplinkHz
      downlinkHz
      auxiliary }

end Config

end EarthStation
