import EarthStation.Scalar

/-!
# Geometry — vectors and the frames of an observer

* `Vec3`: a vector in kilometres or kilometres per second.
* `Turn`: an angle given by its sine and cosine.
* `Turn.position`, `Turn.velocity`: from the inertial frame to the one that turns with the Earth.
* `Horizon.components`: from the Earth-fixed frame to east, north and up.
* `Sight`: what the vector from the station to the satellite says.

An angle enters only through its sine and cosine, so the laws of these rotations need no more than
`sin ^ 2 + cos ^ 2 = 1`.
-/

namespace EarthStation

variable {α : Type}

/-- A vector by its three components. -/
structure Vec3 (α : Type) where
  x : α
  y : α
  z : α
deriving DecidableEq, Repr

namespace Vec3

variable [Scalar α]

def sub (a b : Vec3 α) : Vec3 α := ⟨a.x - b.x, a.y - b.y, a.z - b.z⟩

instance : Sub (Vec3 α) := ⟨sub⟩

/-- The inner product. -/
def dot (a b : Vec3 α) : α := a.x * b.x + a.y * b.y + a.z * b.z

def norm (a : Vec3 α) : α := Scalar.sqrt (a.dot a)

end Vec3

/-- An angle by its sine and cosine. -/
structure Turn (α : Type) where
  sin : α
  cos : α
deriving DecidableEq, Repr

/-- Rate at which the Earth turns, in radians per second. -/
def earthRate [Scalar α] : α := 7.292115e-5

namespace Turn

variable [Scalar α]

/-- An inertial position in the Earth-fixed frame, where the Earth has turned by this angle about
the third axis. -/
def position (t : Turn α) (p : Vec3 α) : Vec3 α :=
  ⟨p.x * t.cos + p.y * t.sin, -p.x * t.sin + p.y * t.cos, p.z⟩

/-- An inertial velocity in the Earth-fixed frame: what rests on the Earth has velocity zero. -/
def velocity (t : Turn α) (p v : Vec3 α) : Vec3 α :=
  let fixed := t.position p
  let turned := t.position v
  ⟨turned.x + earthRate * fixed.y, turned.y - earthRate * fixed.x, turned.z⟩

end Turn

/-- The axes of an observer: his latitude and longitude. -/
structure Horizon (α : Type) where
  latitude : Turn α
  longitude : Turn α

/-- A vector in the axes of an observer. -/
structure EastNorthUp (α : Type) where
  east : α
  north : α
  up : α
deriving DecidableEq, Repr

/-- An Earth-fixed vector in the axes of an observer. -/
def Horizon.components [Scalar α] (h : Horizon α) (d : Vec3 α) : EastNorthUp α where
  east := -h.longitude.sin * d.x + h.longitude.cos * d.y
  north :=
    -h.latitude.sin * h.longitude.cos * d.x - h.latitude.sin * h.longitude.sin * d.y
      + h.latitude.cos * d.z
  up :=
    h.latitude.cos * h.longitude.cos * d.x + h.latitude.cos * h.longitude.sin * d.y
      + h.latitude.sin * d.z

/-- What the vector from an observer to a satellite says. -/
structure Sight (α : Type) where
  components : EastNorthUp α
  range : α
  /-- The sine of the elevation, zero where the range is. -/
  elevationSine : α
  /-- How fast the range grows. -/
  rangeRate : α
deriving DecidableEq, Repr

/-- The sight of a satellite with inertial position `p` and velocity `v` from an observer who rests
at the Earth-fixed position `site`. -/
def Horizon.sight [Scalar α] (h : Horizon α) (sidereal : Turn α) (site p v : Vec3 α) : Sight α :=
  let d := sidereal.position p - site
  let range := d.norm
  let components := h.components d
  { components
    range
    elevationSine := if 0 < range then Scalar.clamp (components.up / range) (-1) 1 else 0
    rangeRate := if 0 < range then (sidereal.velocity p v).dot d / range else 0 }

end EarthStation
