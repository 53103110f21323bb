import EarthStation.Orbit.Propagator
import EarthStation.Site
import EarthStation.Ephemeris

/-!
# LookAngle — where a satellite stands in the sky

* `LookAngle`: position, sub-satellite point and direction of a satellite at an instant.
* `LookAngle.ofState`: works them out for a station.
* `Satellite`: an element set that can be propagated, and its ephemeris for a station.
-/

namespace EarthStation

/-- A satellite at an instant: its state, the point below it, and how the station sees it. -/
structure LookAngle where
  time : Instant
  state : Orbit.State
  speedKmS : Float
  latitudeDeg : Float
  longitudeDeg : Float
  altitudeKm : Float
  azimuthDeg : Float
  elevationDeg : Float
  rangeKm : Float
  rangeRateKmS : Float

namespace LookAngle

/-- The bearing of a direction, clockwise from north, in `[0, 360]`. -/
def azimuth (d : EastNorthUp Float) : Float := Binary64.wrap (degrees (d.east.atan2 d.north)) 360.0

/-- The look angle of a satellite with a given state. -/
def ofState (state : Orbit.State) (site : Site) (time : Instant) : LookAngle :=
  let sidereal := Turn.ofRadians time.sidereal
  let sight := site.horizon.sight sidereal site.earthFixed state.position state.velocity
  let below := Geodetic.ofEarthFixed (sidereal.position state.position)
  { time, state
    speedKmS := state.velocity.norm
    latitudeDeg := degrees below.latitude
    longitudeDeg := degrees below.longitude
    altitudeKm := below.height
    azimuthDeg := azimuth sight.components
    elevationDeg := degrees sight.elevationSine.asin
    rangeKm := sight.range
    rangeRateKmS := sight.rangeRate }

def observation (l : LookAngle) : Observation Float where
  azimuthDeg := l.azimuthDeg
  elevationDeg := l.elevationDeg
  altitudeKm := l.altitudeKm
  rangeRateKmS := l.rangeRateKmS

end LookAngle

/-- A satellite with the elements of its orbit. -/
structure Satellite where
  name : String
  number : Nat
  epochNanos : Int
  orbit : Orbit.Propagator

namespace Satellite

/-- The satellite of an element set. -/
def ofLines (name line1 line2 : String) : Except CatalogError Satellite :=
  let read : Except Orbit.Elements.Fault Satellite := do
    let e ← Orbit.Elements.ofLines line1 line2
    let orbit ← Orbit.Propagator.ofElements e
    pure { name, number := e.number, epochNanos := e.epochNanos, orbit }
  read.mapError fun fault => .rejectedElements name fault.message

/-- The state at an instant. -/
def state (s : Satellite) (time : Instant) : Except Orbit.Propagator.Fault Orbit.State :=
  let nanos := time.micros * 1000 - s.epochNanos
  if nanos < leastSigned ∨ greatestSigned < nanos then .error .span
  else s.orbit.state (Float.ofInt nanos / 60e9)

/-- The look angle from a station at an instant. -/
def look (s : Satellite) (site : Site) (time : Instant) :
    Except (PredictionError Float) LookAngle :=
  match s.state time with
  | .ok state => .ok (.ofState state site time)
  | .error fault => .error (.propagation fault.message)

/-- The satellite as a station sees it. -/
def ephemeris (site : Site) (s : Satellite) : Ephemeris Instant Float where
  name := s.name
  observe time := (s.look site time).map LookAngle.observation

end Satellite

end EarthStation
