import EarthStation.Pass
import EarthStation.Text.Blank

/-!
# PassSearch — scanning a catalog for passes

* `PassSearch.Criteria`, `PassSearch.Options`: which passes are wanted and how far to look.
* `PassSearch.PatternReader`: what is asked of an engine for regular expressions.
* `PassSearch.NameFilter`: which satellites are looked at.
* `PassSearch.passesOf`: the passes of one satellite.
* `PassSearch.run`: the passes of a catalog, in order of time.
-/

namespace EarthStation.PassSearch

variable {τ α : Type} [Scalar α] [Timeline τ α]

/-- Which passes are wanted. -/
structure Criteria (α : Type) where
  minAltitudeKm : α
  maxAltitudeKm : α
  minMinutes : α
  maxMinutes : α
  minElevationDeg : α
  maxElevationDeg : α
  pattern : Option String
  ignoreCase : Bool
  withConstellations : Bool
deriving DecidableEq, Repr

/-- Every pass of the next day. -/
def Criteria.standard : Criteria α where
  minAltitudeKm := 0
  maxAltitudeKm := 100000
  minMinutes := 0
  maxMinutes := 1440
  minElevationDeg := 0
  maxElevationDeg := 90
  pattern := none
  ignoreCase := false
  withConstellations := true

inductive Order where
  | soonestFirst
  | latestFirst
deriving DecidableEq, Repr

/-- From when on, how far and how finely passes are looked for. -/
structure Options (τ α : Type) where
  start : τ
  stepMinutes : α
  windowMinutes : α
  order : Order
  findAll : Bool
deriving Repr

/-- The first pass of each satellite within the longest time that the criteria admit. -/
def Options.standard (start : τ) (criteria : Criteria α) : Options τ α where
  start
  stepMinutes := Visibility.coarseStep
  windowMinutes := criteria.maxMinutes
  order := .soonestFirst
  findAll := false

/-! ## Names -/

/-- How the names of large constellations begin. -/
def constellations : List String :=
  ["COSMOS", "CENTISPACE", "FLOCK 4", "GAOFEN-", "GEESAT-", "GLOBALSTAR", "GONETS-", "HAWK-",
    "ICEYE-", "IRIDIUM", "JILIN-", "LEMUR-", "NUSAT-", "ONEWEB-", "QIANFAN-", "SITRO-AIS",
    "STARLINK", "YAOGAN"]

/-- Holds of names that begin like those of a large constellation. -/
def inConstellation (name : String) : Bool :=
  constellations.any fun c => c.toList.isPrefixOf name.toList

/-- An engine for regular expressions.  The search asks no more of it than whether a text is a pattern,
and in which names the pattern is found. -/
class PatternReader where
  read? : (ignoreCase : Bool) → (text : String) → Option (String → Bool)

/-- Which satellites are looked at. -/
structure NameFilter where
  /-- Holds of the names in which the pattern is found, if there is one. -/
  pattern : Option (String → Bool)
  withConstellations : Bool

/-- The filter that criteria ask for, or `none` if their pattern cannot be read. -/
def NameFilter.ofCriteria? [PatternReader] (c : Criteria α) : Option NameFilter :=
  match c.pattern with
  | none => some ⟨none, c.withConstellations⟩
  | some text =>
    (PatternReader.read? c.ignoreCase text).map fun found => ⟨some found, c.withConstellations⟩

def NameFilter.accepts (f : NameFilter) (name : String) : Bool :=
  (f.withConstellations || !inConstellation name)
    && match f.pattern with
      | some found => found name
      | none => true

/-! ## One satellite -/

/-- A pass that was found. -/
structure Pass (τ α : Type) where
  satellite : String
  minutesAway : α
  maxElevationDeg : α
  maxAltitudeKm : α
  durationMinutes : α
  riseAzimuthDeg : α
  riseTime : τ
deriving DecidableEq, Repr

/-- The minutes behind a rise that are skipped before the following pass is looked for. -/
def gapMinutes : α := 60

/-- Holds of passes that rise late enough, rise at all, and culminate inside the elevation band. -/
def admits (c : Criteria α) (minutesAway : α) (s : Pass.Summary τ α) : Bool :=
  !(decide (s.minutesAbove0 ≤ 0) || decide (c.maxElevationDeg < s.maxElevationDeg)
    || decide (s.maxElevationDeg < c.minElevationDeg) || decide (minutesAway < c.minMinutes))

def Pass.ofSummary (name : String) (minutesAway : α) (s : EarthStation.Pass.Summary τ α) :
    Pass τ α where
  satellite := name
  minutesAway
  maxElevationDeg := s.maxElevationDeg
  maxAltitudeKm := s.maxAltitudeKm
  durationMinutes := s.durationMinutes
  riseAzimuthDeg := s.riseAzimuthDeg
  riseTime := s.riseTime

/-- The passes of one satellite from `offset` minutes after the start on.  A pass in progress is
skipped, and so is what is left of the hour after its rise; an orbit that cannot be computed, or
that does not set, has no further passes. -/
def passesFrom (e : Ephemeris τ α) (name : String) (c : Criteria α) (o : Options τ α) :
    (fuel : Nat) → (offset : α) → Except (PredictionError α) (List (Pass τ α))
  | 0, _ => .ok []
  | fuel + 1, offset =>
    if offset < o.windowMinutes then
      match EarthStation.Pass.next e (Timeline.later o.start offset) (o.windowMinutes - offset)
          o.stepMinutes with
      | .ok (.upcoming minutes s) =>
        let found := if admits c (offset + minutes) s then
          [Pass.ofSummary name (offset + minutes) s] else []
        if !found.isEmpty && !o.findAll then .ok found
        else (passesFrom e name c o fuel (offset + (minutes + gapMinutes))).map (found ++ ·)
      | .ok (.inProgress since) =>
        passesFrom e name c o fuel (offset + Scalar.max (gapMinutes - since) o.stepMinutes)
      | .ok .notFound => .ok []
      | .error (.sweepIncomplete _) => .ok []
      | .error (.propagation _) => .ok []
      | .error cause => .error cause
    else .ok []

/-- A number of rounds that leads through the window: each moves on by an hour or a step. -/
def roundBound (o : Options τ α) : Nat :=
  Scalar.ceiling
    (o.windowMinutes / (if o.stepMinutes < gapMinutes then o.stepMinutes else gapMinutes)) + 2

/-- The passes of one satellite, the earliest first. -/
def passesOf (e : Ephemeris τ α) (name : String) (c : Criteria α) (o : Options τ α) :
    Except (PredictionError α) (List (Pass τ α)) :=
  passesFrom e name c o (roundBound o) 0

/-! ## A catalog -/

/-- What a scan found, with the number of satellites scanned and of those inside the altitude
band. -/
structure Found (τ α : Type) where
  passes : List (Pass τ α)
  scanned : Nat
  checked : Nat
deriving Repr

/-- Holds if a satellite has an altitude inside the band at the start. -/
def inBand (c : Criteria α) (o : Observation α) : Bool :=
  !(decide (o.altitudeKm < c.minAltitudeKm) || decide (c.maxAltitudeKm < o.altitudeKm))

/-- The name that a satellite is filtered by and reported under. -/
def listedName (e : Ephemeris τ α) : String := String.ofList (Text.trimEnd e.name.toList)

/-- Holds of satellites whose passes are looked for. -/
def isCandidate (f : NameFilter) (c : Criteria α) (o : Options τ α) (e : Ephemeris τ α) : Bool :=
  f.accepts (listedName e)
    && match e.observe o.start with
      | .ok seen => inBand c seen
      | .error _ => false

/-- Scans one entry of the catalog; an entry that cannot be loaded ends the scan. -/
def scan (f : NameFilter) (c : Criteria α) (o : Options τ α) (found : Found τ α)
    (entry : Except CatalogError (Ephemeris τ α)) : Except (PredictionError α) (Found τ α) :=
  match entry with
  | .error cause => .error (.catalog cause)
  | .ok e =>
    if isCandidate f c o e then do
      let passes ← passesOf e (listedName e) c o
      pure ⟨found.passes ++ passes, found.scanned + 1, found.checked + 1⟩
    else .ok { found with scanned := found.scanned + 1 }

/-- Whether a pass may stand before another one in a list. -/
def Order.precedes (order : Order) (a b : Pass τ α) : Bool :=
  match order with
  | .soonestFirst => decide (a.minutesAway ≤ b.minutesAway)
  | .latestFirst => decide (b.minutesAway ≤ a.minutesAway)

/-- The passes of a catalog in order of time; passes at the same time keep the order of the
catalog. -/
def run [PatternReader] (catalog : List (Except CatalogError (Ephemeris τ α))) (c : Criteria α)
    (o : Options τ α) : Except (PredictionError α) (Found τ α) :=
  match NameFilter.ofCriteria? c with
  | none => .error .invalidPattern
  | some f => do
    let found ← catalog.foldlM (scan f c o) ⟨[], 0, 0⟩
    pure { found with passes := found.passes.mergeSort o.order.precedes }

namespace Found

/-- The first pass that no earlier one of the list matches, as `beats kept next` says. -/
def pick (beats : Pass τ α → Pass τ α → Bool) (passes : List (Pass τ α)) : Option (Pass τ α) :=
  passes.foldl
    (fun kept next =>
      match kept with
      | some k => if beats k next then some k else some next
      | none => some next)
    none

/-- The pass that culminates highest, the first of those that do. -/
def best (f : Found τ α) : Option (Pass τ α) :=
  pick (fun a b => decide (b.maxElevationDeg ≤ a.maxElevationDeg)) f.passes

/-- The pass that rises first. -/
def soonest (f : Found τ α) : Option (Pass τ α) :=
  pick (fun a b => decide (a.minutesAway ≤ b.minutesAway)) f.passes

end Found

end EarthStation.PassSearch
