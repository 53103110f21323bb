import EarthStation.Scalar
import EarthStation.IoError
import EarthStation.Decimal.Shortest

/-!
# Position — where the antenna points

* `Rotator.Position`: azimuth and elevation in the coordinates of the rotator.
* `Rotator.Position.withinLimits`, `Rotator.Position.checked`: the mechanical range.
* `Rotator.Fault`: why a rotator did not do as told.

The azimuth covers two turns, so that the antenna can follow a pass across north.
-/

namespace EarthStation.Rotator

variable {α : Type}

/-- An antenna position in degrees; the azimuth may exceed one turn. -/
structure Position (α : Type) where
  azimuthDeg : α
  elevationDeg : α
deriving DecidableEq, Repr

/-- What is wrong with a reply of the rotator. -/
inductive Malformation where
  | startByte (found : UInt8)
  | digit (found : UInt8)
  | other (detail : String)
deriving DecidableEq, Repr

/-- Why a rotator did not do as told. -/
inductive Fault (α : Type) where
  | connection (device detail : String)
  | io (cause : IoError)
  | shortResponse (received : Nat)
  | malformed (detail : Malformation)
  | limit (azimuthDeg elevationDeg : α)
deriving DecidableEq, Repr

/-- Holds if the device is gone. -/
def Fault.isDisconnect : Fault α → Bool
  | connection _ _ => true
  | io cause => cause.isDisconnect
  | _ => false

section

variable [Scalar α]

def azimuthMin : α := -179

def azimuthMax : α := 539

def elevationMin : α := 0

def elevationMax : α := 90

namespace Position

/-- The position that the antenna is sent to for a rest. -/
def home : Position α := ⟨0, 0⟩

/-- Holds of positions that the rotator can take. -/
def withinLimits (p : Position α) : Bool :=
  Scalar.within p.azimuthDeg azimuthMin azimuthMax
    && Scalar.within p.elevationDeg elevationMin elevationMax

/-- The nearest position that the rotator can take. -/
def clamp (p : Position α) : Position α where
  azimuthDeg := Scalar.clamp p.azimuthDeg azimuthMin azimuthMax
  elevationDeg := Scalar.clamp p.elevationDeg elevationMin elevationMax

/-- The position itself, or a fault where the rotator cannot take it. -/
def checked (p : Position α) : Except (Fault α) (Position α) :=
  if p.withinLimits then .ok p else .error (.limit p.azimuthDeg p.elevationDeg)

end Position

end

end EarthStation.Rotator
