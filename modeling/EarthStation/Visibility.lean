import EarthStation.Ephemeris

/-!
# Visibility — the nearest crossing of the horizon

* `Visibility.minutesToCrossing`: walks a grid of instants, forward from below the horizon and
  backward from above, to the first one on the other side.
* `Visibility.refinedMinutesToCrossing`: repeats the walk on finer grids close to the crossing.

Positive minutes lead to the next rise, negative ones back to the rise of a pass in progress.
-/

namespace EarthStation

variable {τ α : Type} [Scalar α] [Timeline τ α]

/-- Holds of steps that a walk can be made with. -/
def isStep (minutes : α) : Bool := !decide (minutes ≤ 0) && Scalar.isFinite minutes

namespace Visibility

/-- Which way a walk goes. -/
inductive Heading where
  | forward
  | backward
deriving DecidableEq, Repr

namespace Heading

/-- Forward from below the horizon, backward from the horizon or above it. -/
def ofElevation (elevation : α) : Heading := if elevation < 0 then forward else backward

/-- Holds while the elevation is still on the side that the walk started on. -/
def stays (elevation : α) : Heading → Bool
  | forward => decide (elevation < 0)
  | backward => decide (0 < elevation)

/-- The signed minutes of a point of the grid. -/
def minutes (elapsed : α) : Heading → α
  | forward => elapsed
  | backward => -elapsed

end Heading

/-- The minutes to the `k`-th point of a grid. -/
def grid (step : α) (k : Nat) : α := Scalar.natural k * step

/-- A number of steps that reaches the horizon of the search. -/
def stepBound (horizon step : α) : Nat := Scalar.ceiling (horizon / step) + 2

/-- Walks on from the `k`-th point of the grid, where the elevation is given. -/
def walk (e : Ephemeris τ α) (start : τ) (horizon step : α) (heading : Heading) :
    (fuel k : Nat) → (elevation : α) → Looks α (Option α)
  | 0, _, _ => pure none
  | fuel + 1, k, elevation =>
    if heading.stays elevation then
      if horizon ≤ grid step (k + 1) then pure none
      else do
        let next ← e.look (Timeline.later start (heading.minutes (grid step (k + 1))))
        walk e start horizon step heading fuel (k + 1) next.elevationDeg
    else pure (some (heading.minutes (grid step k)))

/-- The signed minutes to the nearest crossing of the horizon on the grid, or `none` if there is
none closer than `horizon` minutes. -/
def minutesToCrossing (e : Ephemeris τ α) (start : τ) (horizon step : α) : Looks α (Option α) :=
  if isStep step then do
    let first ← e.look start
    walk e start horizon step (Heading.ofElevation first.elevationDeg) (stepBound horizon step) 0
      first.elevationDeg
  else Looks.fail (.invalidStep step)

/-- The grid of a first search. -/
def coarseStep : α := 1

/-- The finer grids, each with the distance below which it is used. -/
def refinements : List (α × α) := [(10, 0.1), (1, 0.5 / 60)]

/-- Searches again with a finer step if the estimate is close and the step is finer indeed. -/
def refine (e : Ephemeris τ α) (start : τ) (horizon : α) (state : Option α × α) (round : α × α) :
    Looks α (Option α × α) :=
  match state.1 with
  | some minutes =>
    if Scalar.abs minutes < round.1 ∧ round.2 < state.2 then do
      let estimate ← minutesToCrossing e start horizon round.2
      pure (estimate, round.2)
    else pure state
  | none => pure state

/-- The signed minutes to the nearest crossing, on a finer grid the closer it is. -/
def refinedMinutesToCrossing (e : Ephemeris τ α) (start : τ) (horizon step : α) :
    Looks α (Option α) := do
  let estimate ← minutesToCrossing e start horizon step
  let state ← refinements.foldlM (refine e start horizon) (estimate, step)
  pure state.1

end Visibility

end EarthStation
