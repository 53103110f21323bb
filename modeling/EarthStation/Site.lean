import EarthStation.Geometry
import EarthStation.Instant
import EarthStation.Decimal.Reader
import EarthStation.Text.Blank
import EarthStation.Text.Lines

/-!
# Site — where the station stands

* `Site`: latitude and longitude in degrees, altitude in metres.
* `Site.ofCoordinates?`: reads `"latitude, longitude"`.
* `Geodetic.toEarthFixed`, `Geodetic.ofEarthFixed`: between positions on the reference ellipsoid
  and Earth-fixed kilometres.
-/

namespace EarthStation

/-- Degrees in radians. -/
def radians (degrees : Float) : Float := degrees * (Instant.pi / 180.0)

/-- Radians in degrees. -/
def degrees (radians : Float) : Float := radians * (180.0 / Instant.pi)

/-- An angle in radians by its sine and cosine. -/
def Turn.ofRadians (x : Float) : Turn Float := ⟨x.sin, x.cos⟩

/-- A position on the reference ellipsoid: angles in radians, height in kilometres. -/
structure Geodetic where
  latitude : Float
  longitude : Float
  height : Float

namespace Geodetic

/-- The equatorial radius of the ellipsoid in kilometres. -/
def equatorialRadius : Float := 6378.137

/-- The square of the eccentricity of the ellipsoid. -/
def eccentricitySquared : Float := 0.00669437999014

/-- The radius of curvature in the prime vertical for a latitude given by its sine. -/
def curvature (sin : Float) : Float :=
  equatorialRadius / (1.0 - eccentricitySquared * sin * sin).sqrt

def toEarthFixed (g : Geodetic) : Vec3 Float :=
  let sin := g.latitude.sin
  let cos := g.latitude.cos
  let n := curvature sin
  { x := (n + g.height) * cos * g.longitude.cos
    y := (n + g.height) * cos * g.longitude.sin
    z := (n * (1.0 - eccentricitySquared) + g.height) * sin }

/-- Improves the latitude until it moves by less than `1e-12`, at most `rounds` times; with it comes
the radius of curvature that was used last. -/
def refineLatitude (z p : Float) : (rounds : Nat) → (latitude n : Float) → Float × Float
  | 0, latitude, n => (latitude, n)
  | rounds + 1, latitude, _ =>
    let sin := latitude.sin
    let n := curvature sin
    let next := (z + n * eccentricitySquared * sin).atan2 p
    if (next - latitude).abs < 1e-12 then (next, n) else refineLatitude z p rounds next n

def ofEarthFixed (v : Vec3 Float) : Geodetic :=
  let p := (v.x * v.x + v.y * v.y).sqrt
  let (latitude, n) :=
    refineLatitude v.z p 10 (v.z.atan2 (p * (1.0 - eccentricitySquared))) equatorialRadius
  { latitude
    longitude := v.y.atan2 v.x
    height :=
      if latitude.cos.abs > 1e-9 then p / latitude.cos - n
      else v.z.abs - n * (1.0 - eccentricitySquared) }

end Geodetic

/-- The place of a station. -/
structure Site where
  latitudeDeg : Float
  longitudeDeg : Float
  altitudeM : Float

namespace Site

/-- The place that is used where none is given. -/
def standard : Site := ⟨50.8688, -114.2910, 1279.0⟩

def latitude (s : Site) : Float := radians s.latitudeDeg

def longitude (s : Site) : Float := radians s.longitudeDeg

def earthFixed (s : Site) : Vec3 Float :=
  Geodetic.toEarthFixed ⟨s.latitude, s.longitude, s.altitudeM / 1000.0⟩

/-- The axes of an observer at this place. -/
def horizon (s : Site) : Horizon Float := ⟨.ofRadians s.latitude, .ofRadians s.longitude⟩

/-- Reads latitude and longitude in degrees with a comma between them; what follows a further comma
is ignored. -/
def ofCoordinates? (coordinates : String) (altitudeM : Float) : Option Site :=
  match Text.split ',' coordinates.toList with
  | latitude :: longitude :: _ => do
    let latitude ← Decimal.readFloat? (Text.trim latitude)
    let longitude ← Decimal.readFloat? (Text.trim longitude)
    pure ⟨latitude, longitude, altitudeM⟩
  | _ => none

end Site

end EarthStation
