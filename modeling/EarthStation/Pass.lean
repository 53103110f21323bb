import EarthStation.Visibility

/-!
# Pass — one pass of a satellite

* `Pass.Summary`: what is gathered while a pass is walked.
* `Pass.characterize`: walks a pass from its rise to the loss of signal.
* `Pass.next`: the next pass from an instant on, or the one in progress.
-/

namespace EarthStation

variable {τ α : Type} [Scalar α] [Timeline τ α]

namespace Pass

/-- Below this elevation a pass is over. -/
def lossElevation : α := -5

/-- The elevation above which a satellite counts as high. -/
def highElevation : α := 30

/-- The longest sweep, in minutes, that is walked before giving up. -/
def longestSweep : α := 1440

/-- The grid on which a pass is walked. -/
def sweepStep : α := 0.25

/-- What is gathered while a pass is walked. -/
structure Summary (τ α : Type) where
  durationMinutes : α
  minutesAbove0 : α
  minutesAbove30 : α
  maxElevationDeg : α
  maxAltitudeKm : α
  riseAzimuthDeg : α
  riseTime : τ
deriving DecidableEq, Repr

/-- A summary under way; the flag tells whether the satellite has been above the horizon yet. -/
structure Sweep (τ α : Type) where
  summary : Summary τ α
  ascended : Bool
deriving DecidableEq, Repr

namespace Sweep

def start (t : τ) (o : Observation α) : Sweep τ α where
  summary :=
    { durationMinutes := 0
      minutesAbove0 := 0
      minutesAbove30 := 0
      maxElevationDeg := o.elevationDeg
      maxAltitudeKm := o.altitudeKm
      riseAzimuthDeg := o.azimuthDeg
      riseTime := t }
  ascended := false

/-- Counts one sample above the horizon. -/
def addVisible (s : Sweep τ α) (step : α) (t : τ) (o : Observation α) : Sweep τ α where
  summary :=
    { s.summary with
      minutesAbove0 := s.summary.minutesAbove0 + step
      minutesAbove30 :=
        if highElevation < o.elevationDeg then s.summary.minutesAbove30 + step
        else s.summary.minutesAbove30
      maxAltitudeKm := Scalar.max s.summary.maxAltitudeKm o.altitudeKm
      riseAzimuthDeg := if s.ascended then s.summary.riseAzimuthDeg else o.azimuthDeg
      riseTime := if s.ascended then s.summary.riseTime else t }
  ascended := true

/-- Counts one sample. -/
def add (s : Sweep τ α) (step : α) (t : τ) (o : Observation α) : Sweep τ α :=
  let s : Sweep τ α :=
    { s with
      summary :=
        { s.summary with
          durationMinutes := s.summary.durationMinutes + step
          maxElevationDeg := Scalar.max s.summary.maxElevationDeg o.elevationDeg } }
  if 0 < o.elevationDeg then s.addVisible step t o else s

end Sweep

/-- Walks on from the `k`-th sample, which is given. -/
def sweepFrom (e : Ephemeris τ α) (rise : τ) (step : α) :
    (fuel k : Nat) → τ → Observation α → Sweep τ α → Except (PredictionError α) (Summary τ α)
  | 0, _, _, _, _ => .error (.sweepIncomplete longestSweep)
  | fuel + 1, k, t, o, s =>
    if lossElevation < o.elevationDeg then
      let elapsed := Visibility.grid step (k + 1)
      if longestSweep < elapsed then .error (.sweepIncomplete longestSweep)
      else do
        let next := Timeline.later rise elapsed
        let o' ← e.observe next
        sweepFrom e rise step fuel (k + 1) next o' (s.add step t o)
    else .ok s.summary

/-- Walks a pass from its rise until the elevation has fallen to the loss of signal. -/
def characterize (e : Ephemeris τ α) (rise : τ) (step : α) :
    Except (PredictionError α) (Summary τ α) :=
  if isStep step then do
    let first ← e.observe rise
    sweepFrom e rise step (Visibility.stepBound longestSweep step) 0 rise first
      (Sweep.start rise first)
  else .error (.invalidStep step)

/-- What a search for the next pass found. -/
inductive Next (τ α : Type) where
  | upcoming (minutes : α) (summary : Summary τ α)
  | inProgress (minutesSinceRise : α)
  | notFound
deriving DecidableEq, Repr

/-- The next rise and the pass that it begins, or the time since the rise of the pass in progress. -/
def next (e : Ephemeris τ α) (start : τ) (horizon step : α) :
    Except (PredictionError α) (Next τ α) := do
  match ← (Visibility.refinedMinutesToCrossing e start horizon step).result with
  | none => pure .notFound
  | some minutes =>
    if minutes < 0 then pure (.inProgress (-minutes))
    else do
      let summary ← characterize e (Timeline.later start minutes) sweepStep
      pure (.upcoming minutes summary)

end Pass

end EarthStation
