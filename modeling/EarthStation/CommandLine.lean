import EarthStation.Arguments
import EarthStation.Config
import EarthStation.Lifetime

/-!
# CommandLine — what the program is asked to do

* `CommandLine.Command`: tracking a satellite, listing passes, estimating a lifetime.
* `CommandLine.Invocation.ofWords`: the command that the words of a command line ask for.
* `CommandLine.Command.configure`: a configuration with the options of a command applied.
-/

namespace EarthStation.CommandLine

open Arguments (Form Kind Refusal)

/-- Where the station stands and which elements are used. -/
structure SiteOptions where
  latitudeDeg : Option Float
  longitudeDeg : Option Float
  altitudeM : Option Float
  elementsPath : Option String

/-- Which passes are wanted. -/
structure FilterOptions where
  pattern : Option String
  ignoreCase : Bool
  noConstellations : Bool
  minElevationDeg : Option Float
  maxElevationDeg : Option Float
  minAltitudeKm : Option Float
  maxAltitudeKm : Option Float
  minMinutes : Option Float
  maxMinutes : Option Float

/-- A device on a serial line. -/
structure SerialOptions where
  device : Option String
  baudRate : Option Nat
  off : Bool

structure TrackOptions where
  target : String
  site : SiteOptions
  filter : FilterOptions
  uplink : Option String
  downlink : Option String
  prepMinutes : Option Float
  resolutionHz : Option Float
  azimuthThresholdDeg : Option Float
  elevationThresholdDeg : Option Float
  rotator : SerialOptions
  radio : SerialOptions
  /-- The file for the recording. -/
  record : Option String

structure PassesOptions where
  site : SiteOptions
  filter : FilterOptions
  all : Bool
  reverse : Bool
  json : Bool
  maxPasses : Option Nat

structure LifetimeOptions where
  name : String
  maxYears : Float
  site : SiteOptions
  stepMinutes : Float
  floorKm : Float
  /-- The file for the samples. -/
  samples : Option String

inductive Command where
  | track (options : TrackOptions)
  | passes (options : PassesOptions)
  | lifetime (options : LifetimeOptions)

structure Invocation where
  configPath : Option String
  command : Command

/-! ## Words -/

def commonOptions : List (String × Kind) := [("config", .path), (Arguments.helpName, .flag)]

def siteOptions : List (String × Kind) :=
  [("lat", .signedNumber), ("lon", .signedNumber), ("alt", .signedNumber), ("tle", .path)]

def filterOptions : List (String × Kind) :=
  [("pattern", .text), ("ignore-case", .flag), ("no-constellations", .flag),
    ("min-elevation", .number), ("max-elevation", .number), ("min-altitude", .number),
    ("max-altitude", .number), ("min-minutes", .number), ("max-minutes", .number)]

def helpLetter : Char × String := ('h', Arguments.helpName)

def ignoreCaseLetter : Char × String := ('i', "ignore-case")

/-- The words in front of a command. -/
def topForm : Form where
  options := commonOptions
  letters := [helpLetter]
  positions := []
  commands := ["track", "passes", "lifetime", Arguments.helpName]

def trackForm : Form where
  options :=
    commonOptions ++ siteOptions ++ filterOptions ++
      [("uplink", .text), ("downlink", .text), ("prep", .number), ("resolution", .number),
        ("az-threshold", .number), ("el-threshold", .number), ("rotator", .text),
        ("rotator-baud", .integer 32), ("radio", .text), ("radio-baud", .integer 32),
        ("no-rotator", .flag), ("no-radio", .flag), ("record", .path)]
  letters := [helpLetter, ignoreCaseLetter]
  positions := [("target", .text)]
  commands := []

def passesForm : Form where
  options :=
    commonOptions ++ siteOptions ++ filterOptions ++
      [("all", .flag), ("reverse", .flag), ("max-passes", .natural 64), ("json", .flag)]
  letters := [helpLetter, ignoreCaseLetter]
  positions := []
  commands := []

def lifetimeForm : Form where
  options :=
    commonOptions ++ siteOptions ++
      [("step", .number), ("min-altitude", .number), ("samples", .path)]
  letters := [helpLetter]
  positions := [("name", .text), ("max-years", .number)]
  commands := []

/-- The values of options and positions, by name. -/
abbrev Given := List (String × String)

namespace Given

def text? (g : Given) (name : String) : Option String := g.lookup name

def has (g : Given) (name : String) : Bool := (g.lookup name).isSome

def number? (g : Given) (name : String) : Option Float :=
  (g.lookup name).bind fun v => Decimal.readFloat? v.toList

def natural? (g : Given) (name : String) : Option Nat :=
  (g.lookup name).bind fun v => (Decimal.readInteger? 0 (UInt64.size - 1 : Nat) v.toList).map Int.toNat

def site (g : Given) : SiteOptions where
  latitudeDeg := g.number? "lat"
  longitudeDeg := g.number? "lon"
  altitudeM := g.number? "alt"
  elementsPath := g.text? "tle"

def filter (g : Given) : FilterOptions where
  pattern := g.text? "pattern"
  ignoreCase := g.has "ignore-case"
  noConstellations := g.has "no-constellations"
  minElevationDeg := g.number? "min-elevation"
  maxElevationDeg := g.number? "max-elevation"
  minAltitudeKm := g.number? "min-altitude"
  maxAltitudeKm := g.number? "max-altitude"
  minMinutes := g.number? "min-minutes"
  maxMinutes := g.number? "max-minutes"

def track (g : Given) : TrackOptions where
  target := (g.text? "target").getD ""
  site := g.site
  filter := g.filter
  uplink := g.text? "uplink"
  downlink := g.text? "downlink"
  prepMinutes := g.number? "prep"
  resolutionHz := g.number? "resolution"
  azimuthThresholdDeg := g.number? "az-threshold"
  elevationThresholdDeg := g.number? "el-threshold"
  rotator := ⟨g.text? "rotator", g.natural? "rotator-baud", g.has "no-rotator"⟩
  radio := ⟨g.text? "radio", g.natural? "radio-baud", g.has "no-radio"⟩
  record := g.text? "record"

def passes (g : Given) : PassesOptions where
  site := g.site
  filter := g.filter
  all := g.has "all"
  reverse := g.has "reverse"
  json := g.has "json"
  maxPasses := g.natural? "max-passes"

def lifetime (g : Given) : LifetimeOptions where
  name := (g.text? "name").getD ""
  maxYears := (g.number? "max-years").getD 0.0
  site := g.site
  stepMinutes := (g.number? "step").getD 1.0
  floorKm := (g.number? "min-altitude").getD Lifetime.standardFloor
  samples := g.text? "samples"

end Given

/-- The form of a command and what its words ask for. -/
def commandNamed? : String → Option (Form × (Given → Command))
  | "track" => some (trackForm, fun g => .track g.track)
  | "passes" => some (passesForm, fun g => .passes g.passes)
  | "lifetime" => some (lifetimeForm, fun g => .lifetime g.lifetime)
  | _ => none

/-- What asking for help about commands comes to. -/
def helpAbout (words : List String) : Refusal :=
  match words with
  | [] => .helpAsked
  | [word] => if topForm.commands.contains word then .helpAsked else .unknownCommand
  | _ => .unknownCommand

/-- The command that the words of a command line ask for.  The file with the configuration may be
named in front of the command and behind it; the latter counts. -/
def Invocation.ofWords (words : List String) : Except Refusal Invocation := do
  let top ← Arguments.takeWords topForm .start words
  match top.next with
  | none =>
    let scan ← top.scan.settle
    .error (if scan.given.isEmpty then .nothingGiven else .noCommand)
  | some (name, rest) =>
    match commandNamed? name with
    | none => .error (helpAbout rest)
    | some (form, command) =>
      let given : Given ← Arguments.read form rest
      let outer : Given ← Arguments.finish topForm top.scan
      pure
        { configPath := (given.text? "config").orElse fun _ => outer.text? "config"
          command := command given }

/-! ## Configurations -/

def SiteOptions.apply (o : SiteOptions) (c : Config) : Except Config.Flaw Config :=
  match Config.StationSection.overridePosition o.latitudeDeg o.longitudeDeg c.station with
  | (.error flaw, _) => .error flaw
  | (.ok _, station) =>
    .ok
      { c with
        station := { station with altitudeM := o.altitudeM.getD station.altitudeM }
        catalog := { c.catalog with elementsPath := o.elementsPath.getD c.catalog.elementsPath } }

def FilterOptions.apply (o : FilterOptions) (c : PassSearch.Criteria Float) :
    PassSearch.Criteria Float where
  minAltitudeKm := o.minAltitudeKm.getD c.minAltitudeKm
  maxAltitudeKm := o.maxAltitudeKm.getD c.maxAltitudeKm
  minMinutes := o.minMinutes.getD c.minMinutes
  maxMinutes := o.maxMinutes.getD c.maxMinutes
  minElevationDeg := o.minElevationDeg.getD c.minElevationDeg
  maxElevationDeg := o.maxElevationDeg.getD c.maxElevationDeg
  pattern := o.pattern.orElse fun _ => c.pattern
  ignoreCase := c.ignoreCase || o.ignoreCase
  withConstellations := c.withConstellations && !o.noConstellations

/-- A device that is named is used, unless it is switched off. -/
def SerialOptions.apply (o : SerialOptions) (p : Config.SerialSection) : Config.SerialSection :=
  { p with
    device := o.device.getD p.device
    enabled := (p.enabled || o.device.isSome) && !o.off
    baudRate := o.baudRate.getD p.baudRate }

def TrackOptions.apply (o : TrackOptions) (c : Config) : Except Config.Flaw Config :=
  (o.site.apply c).map fun c =>
    { c with
      search := o.filter.apply c.search
      frequencies :=
        { c.frequencies with
          uplink := o.uplink.orElse fun _ => c.frequencies.uplink
          downlink := o.downlink.orElse fun _ => c.frequencies.downlink }
      tracking :=
        { c.tracking with
          prepMinutes := o.prepMinutes.getD c.tracking.prepMinutes
          dopplerResolutionHz := o.resolutionHz.getD c.tracking.dopplerResolutionHz
          azimuthThresholdDeg := o.azimuthThresholdDeg.getD c.tracking.azimuthThresholdDeg
          elevationThresholdDeg := o.elevationThresholdDeg.getD c.tracking.elevationThresholdDeg }
      rotator := { c.rotator with serial := o.rotator.apply c.rotator.serial }
      radio := { c.radio with serial := o.radio.apply c.radio.serial } }

/-- A configuration with the options of a command applied, if it can be used then. -/
def Command.configure (command : Command) (c : Config) : Except Config.Flaw Config := do
  let c ← match command with
    | .track o => o.apply c
    | .passes o => (o.site.apply c).map fun c => { c with search := o.filter.apply c.search }
    | .lifetime o => o.site.apply c
  c.validate
  pure c

end EarthStation.CommandLine
