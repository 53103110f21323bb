import EarthStation.Radio.Link

/-!
# Bench — a radio without hardware

* `Radio.Bench`: a radio that keeps its calls and answers them by a script.
-/

namespace EarthStation.Radio

variable {α : Type}

inductive Call (α : Type) where
  | satelliteMode (on : Bool)
  | tune (vfo : Vfo) (hz : α)
deriving DecidableEq, Repr

/-- What a radio on the bench does when it is called. -/
inductive Reaction (α : Type) where
  | comply
  /-- Reports a frequency, whatever it was tuned to. -/
  | confirm (hz : α)
  | fail (fault : Fault α)
deriving Repr

/-- A radio on the bench. -/
structure Bench (α : Type) where
  /-- What it does on the coming calls; after the last one it complies. -/
  reactions : List (Reaction α)
  /-- The calls so far, oldest first. -/
  calls : List (Call α)

namespace Bench

/-- Takes a call; the answer is the frequency of the reaction, if it names one. -/
def take (call : Call α) : Exchange (Bench α) (Fault α) (Option α) := fun b =>
  let b := { b with calls := b.calls ++ [call] }
  match b.reactions with
  | [] => (.ok none, b)
  | .comply :: rest => (.ok none, { b with reactions := rest })
  | .confirm hz :: rest => (.ok (some hz), { b with reactions := rest })
  | .fail fault :: rest => (.error fault, { b with reactions := rest })

instance [Scalar α] : Device (Bench α) α where
  setSatelliteMode on := do
    let _ ← take (.satelliteMode on)
    pure ()
  tune v hz := do
    let answer ← take (.tune v hz)
    pure (answer.getD (Scalar.round hz))

end Bench

/-- A radio of one of two kinds. -/
instance {ρ σ : Type} [Device ρ α] [Device σ α] : Device (ρ ⊕ σ) α where
  setSatelliteMode on := .either (Device.setSatelliteMode on) (Device.setSatelliteMode on)
  tune v hz := .either (Device.tune v hz) (Device.tune v hz)

end EarthStation.Radio
