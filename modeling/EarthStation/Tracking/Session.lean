import EarthStation.Instant
import EarthStation.Tracking.Doppler
import EarthStation.Tracking.Pointing

/-!
# Session — what the tracking is set to, and how far it is

* `Tracking.Settings`: what the operator configured.
* `Tracking.Command`: what the operator asks for during a run.
* `Tracking.Phase`, `Tracking.Session`: how far a run is.
* `Tracking.Session.nextPhase`: the phase that a look at the satellite leads to.
-/

namespace EarthStation.Tracking

open Radio (Vfo)
open Rotator (Position)

/-- Instants whose distance is known. -/
class Chronology (τ : Type) where
  nanosBetween : (start stop : τ) → Int

instance : Chronology Instant where
  nanosBetween start stop := (stop.micros - start.micros) * 1000

/-- A fixed frequency in a fixed direction. -/
structure Auxiliary (α : Type) where
  frequencyHz : α
  position : Position α
deriving DecidableEq, Repr

structure Settings (α : Type) where
  /-- The time from one tick to the next. -/
  tickNanos : Nat
  /-- How long before a rise the antenna gets ready. -/
  prepMinutes : α
  /-- How long a run cools down after a pass. -/
  idleTimeoutNanos : Nat
  /-- For how many ticks an unlock is good. -/
  lockoutTicks : Nat
  azimuthThresholdDeg : α
  elevationThresholdDeg : α
  dopplerResolutionHz : α
  /-- How far ahead passes are looked for. -/
  horizonMinutes : α
  uplinkHz : Option α
  downlinkHz : Option α
  uplinkVfo : Vfo
  downlinkVfo : Vfo
  auxiliary : Option (Auxiliary α)
deriving DecidableEq, Repr

def Settings.standard {α : Type} [Scalar α] : Settings α where
  tickNanos := 250 * nanosPerMilli
  prepMinutes := 5
  idleTimeoutNanos := 600 * nanosPerSecond
  lockoutTicks := 3
  azimuthThresholdDeg := 2
  elevationThresholdDeg := 2
  dopplerResolutionHz := 1000
  horizonMinutes := 1440
  uplinkHz := none
  downlinkHz := none
  uplinkVfo := .sub
  downlinkVfo := .main
  auxiliary := none

/-- What the operator asks for.  All but `unlock` need an unlock before them. -/
inductive Command (α : Type) where
  | unlock
  | start
  | stop
  | home
  /-- To the auxiliary frequency and back. -/
  | auxiliary
  /-- Holds the antenna at a position. -/
  | pin (position : Position α)
  | unpin
deriving DecidableEq, Repr

/-- Holds of the commands that need an unlock. -/
def Command.changesState {α : Type} : Command α → Bool
  | unlock => false
  | _ => true

inductive Phase where
  /-- No pass is near. -/
  | idle
  /-- A rise is near. -/
  | armed
  /-- The satellite is up. -/
  | tracking
  /-- A pass is over. -/
  | coolingDown
deriving DecidableEq, Repr

structure Session (τ α : Type) where
  phase : Phase
  engaged : Bool
  target : Option (Position α)
  lastCommanded : Option (Position α)
  lastReported : Option (Position α)
  repointInFlight : Bool
  /-- Since when the run cools down. -/
  idleSince : Option τ
  pinned : Option (Position α)
  /-- Whether the auxiliary frequency is used. -/
  auxiliary : Bool
  /-- Whether the satellite mode of the radio was switched on. -/
  satelliteMode : Bool
  /-- For how many more ticks a command is accepted. -/
  unlockedTicks : Nat
deriving DecidableEq, Repr

namespace Session

variable {τ α : Type}

/-- A run that has just begun. -/
def fresh : Session τ α where
  phase := .idle
  engaged := true
  target := none
  lastCommanded := none
  lastReported := none
  repointInFlight := false
  idleSince := none
  pinned := none
  auxiliary := false
  satelliteMode := false
  unlockedTicks := 0

/-- The run without the antenna: nothing is followed until the operator starts again. -/
def disarm (s : Session τ α) : Session τ α :=
  { s with
    engaged := false
    phase := .idle
    idleSince := none
    repointInFlight := false
    target := none }

variable [Scalar α] [Chronology τ]

omit [Scalar α] in
/-- Holds if the run has cooled down for long enough. -/
def hasCooledDown (s : Session τ α) (settings : Settings α) (now : τ) : Bool :=
  match s.idleSince with
  | some since => decide ((settings.idleTimeoutNanos : Int) ≤ Chronology.nanosBetween since now)
  | none => false

/-- The phase for an elevation and the minutes to the next rise. -/
def nextPhase (s : Session τ α) (settings : Settings α) (now : τ) (elevationDeg : α)
    (minutes : Option α) : Phase :=
  if !s.engaged then .idle
  else if 0 < elevationDeg then .tracking
  else if minutes.any fun m => decide (m < settings.prepMinutes) then .armed
  else match s.phase with
    | .armed | .tracking => .coolingDown
    | .coolingDown => if s.hasCooledDown settings now then .idle else .coolingDown
    | .idle => .idle

/-- The session in its next phase; cooling down begins now. -/
def transition (s : Session τ α) (settings : Settings α) (now : τ) (elevationDeg : α)
    (minutes : Option α) : Session τ α :=
  let next := s.nextPhase settings now elevationDeg minutes
  { s with
    phase := next
    idleSince :=
      if next = .coolingDown then
        if s.phase = .coolingDown then s.idleSince else some now
      else none }

end Session

end EarthStation.Tracking
