import EarthStation.Rotator.Link

/-!
# Bench — a rotator without hardware

* `Rotator.Bench`: a rotator that keeps its calls and answers them by a script.
-/

namespace EarthStation.Rotator

variable {α : Type}

inductive Call (α : Type) where
  | stop
  | status
  | set (target : Position α)
deriving DecidableEq, Repr

/-- What a rotator on the bench does when it is called. -/
inductive Reaction (α : Type) where
  | stay
  | moveTo (position : Position α)
  | fail (fault : Fault α)
deriving Repr

/-- A rotator on the bench. -/
structure Bench (α : Type) where
  position : Position α
  /-- Whether it goes where it is sent at once. -/
  follows : Bool
  /-- What it does on the coming calls; after the last one it stays. -/
  reactions : List (Reaction α)
  /-- The calls so far, oldest first. -/
  calls : List (Call α)

namespace Bench

/-- Takes a call; the answer is the position of the reaction, if it names one. -/
def take (call : Call α) : Exchange (Bench α) (Fault α) (Option (Position α)) := fun b =>
  let b := { b with calls := b.calls ++ [call] }
  match b.reactions with
  | [] => (.ok none, b)
  | .stay :: rest => (.ok none, { b with reactions := rest })
  | .moveTo p :: rest => (.ok (some p), { b with reactions := rest, position := p })
  | .fail fault :: rest => (.error fault, { b with reactions := rest })

/-- Takes a call and answers where the rotator is then. -/
def report (call : Call α) : Exchange (Bench α) (Fault α) (Position α) := do
  let _ ← take call
  let b ← Exchange.get
  pure b.position

def set (target : Position α) : Exchange (Bench α) (Fault α) (Option (Position α)) := do
  let answer ← take (.set target)
  Exchange.modify fun b => if b.follows then { b with position := target } else b
  pure answer

instance : Device (Bench α) α where
  stop := report .stop
  status := report .status
  set := set

end Bench

/-- A rotator of one of two kinds. -/
instance {ρ σ : Type} [Device ρ α] [Device σ α] : Device (ρ ⊕ σ) α where
  stop := .either Device.stop Device.stop
  status := .either Device.status Device.status
  set target := .either (Device.set target) (Device.set target)

end EarthStation.Rotator
