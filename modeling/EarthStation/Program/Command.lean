import EarthStation.CommandLine
import EarthStation.Config.Document
import EarthStation.LookAngle
import EarthStation.PassTable
import EarthStation.Pattern.Reader
import EarthStation.Program.Failure
import EarthStation.Program.Files
import EarthStation.StatusTable
import EarthStation.Tracking.Controller

/-!
# Command — what the commands of the program do

* `Program.configured`: the configuration that a command works with.
* `Program.passes`: lists the coming passes.
* `Program.lifetime`: estimates how long an orbit lasts.
* `Program.plan`: what a run of the tracking is going to do, before any device is opened.

All work on files that are reached through `Program.Files`, and fail with a `Program.Failure`.
-/

namespace EarthStation.Program

open CommandLine (Command LifetimeOptions PassesOptions TrackOptions)

variable {m : Type → Type} [Monad m]

/-- A step that may end the command. -/
abbrev Step (m : Type → Type) := ExceptT Failure m

/-- Goes on with an answer that is known, or fails. -/
def settled {ε β : Type} (fault : ε → Failure) (r : Except ε β) : Step m β :=
  ExceptT.mk (pure (r.mapError fault))

/-- The text of a file. -/
def text (files : Files m) (fault : IoError → Failure) (path : String) : Step m String :=
  ExceptT.mk ((fun r => r.mapError fault) <$> files.read path)

/-- The configuration for a command, from a file if one is named. -/
def configured (files : Files m) (configPath : Option String) (command : Command) :
    Step m Config := do
  let config ← match configPath with
    | none => pure Config.standard
    | some path => do
      let document ← text files (fun cause => .config (.io cause)) path
      settled Failure.config (Config.ofText document)
  settled (fun flaw => .config (.invalid flaw)) (command.configure config)

/-- The place of the station. -/
def site (config : Config) : Step m Site :=
  settled (fun flaw => .config (.invalid flaw)) config.station.site

/-- The orbital elements, of which there is at least one set. -/
def elements (files : Files m) (config : Config) : Step m (List Catalog.Record) := do
  let path := config.catalog.elementsPath
  let document ← text files (fun cause => .catalog (.read cause)) path
  let records ← settled Failure.catalog (Catalog.ofText document)
  if records.isEmpty then throw (.noElements path) else pure records

/-- Names are searched for regular expressions. -/
instance : PassSearch.PatternReader where
  read? ignoreCase text := (Pattern.ofString? ignoreCase text).map Pattern.Expression.found

/-- The satellite of a record. -/
def satellite (r : Catalog.Record) : Except CatalogError Satellite :=
  Satellite.ofLines r.name r.line1 r.line2

/-- Lists the coming passes. -/
def passes (files : Files m) (now : Instant) (configPath : Option String) (o : PassesOptions) :
    Step m String := do
  let config ← configured files configPath (.passes o)
  let site ← site config
  let records ← elements files config
  let options : PassSearch.Options Instant Float :=
    { PassSearch.Options.standard now config.search with
      findAll := o.all
      order := if o.reverse then .latestFirst else .soonestFirst }
  let entries := records.map fun r => (satellite r).map (Satellite.ephemeris site)
  let found ← settled Failure.prediction (PassSearch.run entries config.search options)
  let found :=
    match o.maxPasses with
    | some count => { found with passes := found.passes.take count }
    | none => found
  pure (if o.json then PassTable.json found.passes else PassTable.table found)

/-- The line that tells how long an orbit lasts. -/
def lifetimeLine (name : String) (years floorKm : Float) : String :=
  name ++ ": " ++ Decimal.fixed 3 years ++ " years above " ++ Decimal.fixed 1 floorKm ++ " km\n"

/-- Estimates how long an orbit lasts.  The samples are written also if the estimate fails. -/
def lifetime (files : Files m) (now : Instant) (configPath : Option String) (o : LifetimeOptions) :
    Step m String := do
  let config ← configured files configPath (.lifetime o)
  let site ← site config
  let records ← elements files config
  let found ← settled Failure.catalog ((Catalog.find records o.name).bind satellite)
  let ephemeris := found.ephemeris site
  let limits : Lifetime.Limits Float := ⟨o.maxYears, o.floorKm⟩
  let years ← match o.samples with
    | none =>
      settled Failure.prediction
        (Lifetime.estimate ephemeris now o.stepMinutes limits .none ()).years
    | some path => do
      ExceptT.mk ((fun r => r.mapError Failure.io) <$> files.write path "")
      let report := Lifetime.estimate ephemeris now o.stepMinutes limits (.lines none) ""
      let written ← ExceptT.lift (files.write path report.sink)
      let years ← settled Failure.prediction report.years
      settled Failure.io written
      pure years
  pure (lifetimeLine found.name years o.floorKm)

/-- What a run of the tracking is going to do. -/
structure Plan where
  satellite : Satellite
  site : Site
  settings : Tracking.Settings Float
  config : Config
  /-- The file for the recording. -/
  record : Option String

/-- The settings with the frequencies of the status table where none are configured. -/
def withStatus (entries : List StatusTable.Entry) (name : String) (s : Tracking.Settings Float) :
    Tracking.Settings Float :=
  match StatusTable.lookup entries name with
  | none => s
  | some entry =>
    { s with
      uplinkHz := s.uplinkHz.orElse fun _ => entry.uplinkHz
      downlinkHz := s.downlinkHz.orElse fun _ => entry.downlinkHz }

/-- What a run of the tracking is going to do. -/
def plan (files : Files m) (now : Instant) (configPath : Option String) (o : TrackOptions) :
    Step m Plan := do
  let config ← configured files configPath (.track o)
  let site ← site config
  let records ← elements files config
  let chosen ← settled Failure.ofSelection
    (Catalog.select records satellite (Satellite.ephemeris site) config.search now o.target)
  let settings ← settled (fun flaw => .config (.invalid flaw)) config.settings
  let settings ← match config.catalog.statusPath with
    | none => pure settings
    | some path => do
      let table ← text files (fun cause => .catalog (.read cause)) path
      pure (withStatus (StatusTable.ofText table) chosen.name settings)
  pure ⟨chosen, site, settings, config, o.record⟩

end EarthStation.Program
