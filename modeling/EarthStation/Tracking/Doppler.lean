import EarthStation.Radio.Link

/-!
# Doppler — frequencies as the satellite's motion shifts them

* `Tracking.Direction.shifted`: what to send or to listen on for a nominal frequency.
* `Tracking.Channel`: a nominal frequency with what the radio was last told about it.
-/

namespace EarthStation.Tracking

open Radio (Vfo)

variable {α : Type} [Scalar α]

/-- The speed of light in kilometres per second. -/
def speedOfLight : α := 299792.458

inductive Direction where
  | uplink
  | downlink
deriving DecidableEq, Repr

/-- The frequency at the station for a nominal one at the satellite: a satellite that comes closer is
heard higher, and is sent to lower. -/
def Direction.shifted (nominalHz rangeRateKmS : α) : Direction → α
  | uplink => nominalHz * (1 + rangeRateKmS / speedOfLight)
  | downlink => nominalHz * (1 - rangeRateKmS / speedOfLight)

/-- A frequency that follows the satellite. -/
structure Channel (α : Type) where
  direction : Direction
  vfo : Vfo
  nominalHz : α
  lastCommandedHz : Option α
  lastConfirmedHz : Option α
deriving DecidableEq, Repr

namespace Channel

omit [Scalar α] in
/-- A channel that nothing was commanded for yet. -/
def fresh (direction : Direction) (vfo : Vfo) (nominalHz : α) : Channel α :=
  ⟨direction, vfo, nominalHz, none, none⟩

def shifted (c : Channel α) (rangeRateKmS : α) : α := c.direction.shifted c.nominalHz rangeRateKmS

/-- Holds if a frequency is farther from the last one commanded than the resolution. -/
def needsRetune (c : Channel α) (hz resolutionHz : α) : Bool :=
  match c.lastCommandedHz with
  | none => true
  | some last => decide (resolutionHz < Scalar.abs (hz - last))

omit [Scalar α] in
def record (c : Channel α) (commandedHz confirmedHz : α) : Channel α :=
  { c with lastCommandedHz := some commandedHz, lastConfirmedHz := some confirmedHz }

omit [Scalar α] in
/-- Forgets what was commanded, so that the next frequency is sent anyway. -/
def reset (c : Channel α) : Channel α := { c with lastCommandedHz := none, lastConfirmedHz := none }

end Channel

end EarthStation.Tracking
