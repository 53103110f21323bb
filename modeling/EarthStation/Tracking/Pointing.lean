import EarthStation.Rotator.Position

/-!
# Pointing — from directions in the sky to positions of the antenna

* `Tracking.unwrapAzimuth`: the azimuth of the rotator's two turns that is nearest to the last one.
* `Tracking.follow`: the position for a direction.
* `Tracking.needsRepoint`, `Tracking.isSettled`: when to move, and when a move has come to its end.
-/

namespace EarthStation.Tracking

open Rotator (Position)

variable {α : Type} [Scalar α]

/-- The azimuths of the rotator that stand for the same direction as `base`, smallest first. -/
def turns (base : α) : List α :=
  [base - 360, base, base + 360].filter fun a => Scalar.within a Rotator.azimuthMin Rotator.azimuthMax

/-- The first of the candidates, after `best`, that no other is nearer to `reference` than. -/
def nearest (reference best : α) : List α → α
  | [] => best
  | a :: rest =>
    if Scalar.abs (a - reference) < Scalar.abs (best - reference) then nearest reference a rest
    else nearest reference best rest

/-- The azimuth in the range of the rotator that stands for a direction and is nearest to the last
azimuth; without one it is the azimuth in `[0, 360)`. -/
def unwrapAzimuth (azimuthDeg : α) (last : Option α) : α :=
  let base := Scalar.wrap azimuthDeg 360
  match turns base with
  | [] => base
  | a :: rest => nearest (last.getD base) a rest

/-- The position for a direction in the sky, where the antenna was sent to `last` before. -/
def follow (azimuthDeg elevationDeg : α) (last : Option (Position α)) : Position α where
  azimuthDeg := unwrapAzimuth azimuthDeg (last.map (·.azimuthDeg))
  elevationDeg := Scalar.clamp elevationDeg Rotator.elevationMin Rotator.elevationMax

/-- Holds if the target is off the last commanded position by more than a threshold on an axis. -/
def needsRepoint (target : Position α) (last : Option (Position α))
    (azimuthThreshold elevationThreshold : α) : Bool :=
  match last with
  | none => true
  | some last =>
    decide (azimuthThreshold < Scalar.abs (target.azimuthDeg - last.azimuthDeg))
      || decide (elevationThreshold < Scalar.abs (target.elevationDeg - last.elevationDeg))

/-- Two reports that are closer than this many degrees count as equal. -/
def settledWithin : α := 0.05

/-- Holds if the antenna has not moved since the report before. -/
def isSettled (previous : Option (Position α)) (current : Position α) : Bool :=
  match previous with
  | none => false
  | some p =>
    decide (Scalar.abs (p.azimuthDeg - current.azimuthDeg) < settledWithin)
      && decide (Scalar.abs (p.elevationDeg - current.elevationDeg) < settledWithin)

end EarthStation.Tracking
