import EarthStation.Ephemeris

/-!
# Synthetic — analytic ephemerides

* `Synthetic`: a satellite whose elevation is a half sine inside each of its windows.
* `Disturbance`: times at which observing fails, and a loss of altitude.

They exercise the search and the tracking without an orbit behind them.
-/

namespace EarthStation

/-- A time of visibility, in minutes after the epoch. -/
structure Window where
  rise : Float
  set : Float
  maxElevation : Float
  riseAzimuth : Float
  /-- Degrees per minute by which the elevation falls on after the set, down to the floor; zero drops
  straight to the floor. -/
  descentRate : Float

namespace Window

def contains (w : Window) (t : Float) : Bool := t ≥ w.rise && t ≤ w.set

def descends (w : Window) (t : Float) : Bool :=
  w.descentRate > 0.0 && t > w.set && (t - w.set) * w.descentRate < 30.0

/-- The part of the window that has gone by. -/
def phase (w : Window) (t : Float) : Float := (t - w.rise) / (w.set - w.rise)

def elevation (w : Window) (t : Float) : Float :=
  if w.contains t then w.maxElevation * (Instant.pi * w.phase t).sin
  else -w.descentRate * (t - w.set)

end Window

/-- A satellite that is at -30 degrees outside its windows and the descents after them. -/
structure Synthetic where
  name : String
  epoch : Instant
  windows : List Window
  altitudeKm : Float
  rangeRateKmS : Float

namespace Synthetic

/-- The window that rules the elevation: one that contains the instant, else one that is being left. -/
def active (s : Synthetic) (t : Float) : Option Window :=
  match s.windows.find? (·.contains t) with
  | some w => some w
  | none => s.windows.find? (·.descends t)

def elevation (s : Synthetic) (t : Float) : Float :=
  match s.active t with
  | some w => w.elevation t
  | none => -30.0

/-- The azimuth turns by half a circle during a window and waits at the next rise outside. -/
def azimuth (s : Synthetic) (t : Float) : Float :=
  match s.active t with
  | some w => Binary64.wrap (w.riseAzimuth + 180.0 * w.phase t) 360.0
  | none =>
    match s.windows.find? (fun w => w.rise > t) with
    | some w => w.riseAzimuth
    | none => 0.0

/-- Approaching in the first half of a window, receding in the second. -/
def rangeRate (s : Synthetic) (t : Float) : Float :=
  match s.windows.find? (·.contains t) with
  | some w => s.rangeRateKmS * (2.0 * w.phase t - 1.0)
  | none => s.rangeRateKmS

def observation (s : Synthetic) (t : Float) : Observation Float where
  azimuthDeg := s.azimuth t
  elevationDeg := s.elevation t
  altitudeKm := s.altitudeKm
  rangeRateKmS := s.rangeRate t

end Synthetic

/-- The minutes from one instant to another. -/
def Instant.minutesSince (t epoch : Instant) : Float := Float.ofInt (t.micros - epoch.micros) / 60e6

def Synthetic.ephemeris (s : Synthetic) : Ephemeris Instant Float where
  name := s.name
  observe t := .ok (s.observation (t.minutesSince s.epoch))

/-- What spoils the observations of a satellite. -/
structure Disturbance where
  epoch : Instant
  /-- Minutes after the epoch before which observing fails. -/
  failBefore : Option Float
  /-- Minutes after the epoch from which on observing fails. -/
  failAfter : Option Float
  failure : PredictionError Float
  decayKmPerDay : Float

namespace Disturbance

def fails (d : Disturbance) (t : Float) : Bool :=
  (match d.failBefore with | some limit => t < limit | none => false)
  || (match d.failAfter with | some limit => t ≥ limit | none => false)

/-- The same satellite with failures and loss of altitude. -/
def apply (d : Disturbance) (e : Ephemeris Instant Float) : Ephemeris Instant Float where
  name := e.name
  observe at_ :=
    let t := at_.minutesSince d.epoch
    if d.fails t then .error d.failure
    else (e.observe at_).map fun o =>
      { o with altitudeKm := o.altitudeKm - d.decayKmPerDay * (t / 1440.0) }

end Disturbance

end EarthStation
