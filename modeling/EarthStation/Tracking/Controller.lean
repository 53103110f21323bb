import EarthStation.Visibility
import EarthStation.Rotator.Link
import EarthStation.Tracking.Equipment
import EarthStation.Tracking.Session

/-!
# Controller — keeps antenna and radio on one satellite

* `Tracking.Controller`: a run with its satellite and its devices.
* `Tracking.Controller.step`: looks at the satellite, moves on to the next phase and commands the
  devices.
* `Tracking.Controller.handle`: one command of the operator.
* `Tracking.Controller.tick`: the commands that are waiting, then a step.
* `Tracking.Controller.shutdown`, `Tracking.Controller.run`: the end of a run, and a whole one.
-/

namespace EarthStation.Tracking

open Radio (Vfo)
open Rotator (Position)

/-- Why a tick or a command failed. -/
inductive Refusal (α : Type) where
  /-- A command without an unlock before it. -/
  | locked
  | prediction (cause : PredictionError α)
deriving DecidableEq, Repr

def Refusal.message : Refusal Float → String
  | locked => "command locked; unlock first"
  | prediction cause => "predict error: " ++ cause.message

/-- A run of the tracking. -/
structure Controller (τ α ρ κ : Type) where
  satellite : Ephemeris τ α
  settings : Settings α
  session : Session τ α
  rotator : Equipment ρ
  radio : Equipment κ
  uplink : Option (Channel α)
  downlink : Option (Channel α)
  /-- The channel of the auxiliary frequency. -/
  reference : Option (Channel α)
  /-- The last observation and its time. -/
  observation : Option (τ × Observation α)
  minutesToVisibility : Option α
  /-- How many observations have been made. -/
  looks : Nat

namespace Controller

variable {τ α ρ κ : Type}

/-- A run that has just begun. -/
def fresh (satellite : Ephemeris τ α) (settings : Settings α) (rotator : Equipment ρ)
    (radio : Equipment κ) : Controller τ α ρ κ where
  satellite
  settings
  session := .fresh
  rotator
  radio
  uplink := settings.uplinkHz.map (.fresh .uplink settings.uplinkVfo)
  downlink := settings.downlinkHz.map (.fresh .downlink settings.downlinkVfo)
  reference :=
    settings.auxiliary.map fun a => .fresh .downlink settings.downlinkVfo a.frequencyHz
  observation := none
  minutesToVisibility := none
  looks := 0

/-- A question about the satellite, whose observations are counted. -/
def ask {β : Type} (question : Ephemeris τ α → Looks α β) :
    Exchange (Controller τ α ρ κ) (Refusal α) β := fun c =>
  let answer := question c.satellite
  (answer.result.mapError Refusal.prediction, { c with looks := c.looks + answer.count })

section

variable [Scalar α] [Timeline τ α] [Chronology τ] [Rotator.Device ρ α] [Radio.Device κ α]

omit [Chronology τ] [Rotator.Device ρ α] [Radio.Device κ α] in
/-- Where the antenna should point, if anywhere.  Before a rise it waits in the direction of the
rise. -/
def pointingTarget (observation : Observation α) (now : τ) (minutes : Option α) :
    Exchange (Controller τ α ρ κ) (Refusal α) (Option (Position α)) := do
  let c ← Exchange.get
  if !c.session.engaged then pure none
  else match (if c.session.auxiliary then c.settings.auxiliary else none), c.session.pinned with
    | some auxiliary, _ => pure (some auxiliary.position)
    | none, some pinned => pure (some pinned)
    | none, none =>
      match c.session.phase with
      | .tracking =>
        pure (some (follow observation.azimuthDeg observation.elevationDeg c.session.lastCommanded))
      | .armed => do
        let azimuth ← match minutes with
          | some m =>
            if 0 < m then do
              let rise ← ask fun e => e.look (Timeline.later now m)
              pure rise.azimuthDeg
            else pure observation.azimuthDeg
          | none => pure observation.azimuthDeg
        pure (some (follow azimuth 0 c.session.lastCommanded))
      | .idle | .coolingDown => pure none

omit [Timeline τ α] [Chronology τ] [Radio.Device κ α] in
/-- Asks the rotator where it is while it moves, and otherwise sends it to the target if that is far
enough off. -/
def commandRotator (target : Option (Position α)) (c : Controller τ α ρ κ) : Controller τ α ρ κ :=
  let session := { c.session with target }
  if session.repointInFlight then
    let (answer, rotator) := c.rotator.use Rotator.Fault.isDisconnect Rotator.Device.status
    let session := match answer with
      | some position =>
        { session with
          lastReported := some position
          repointInFlight := !isSettled session.lastReported position }
      | none => { session with repointInFlight := false }
    { c with session, rotator }
  else match target with
    | none => { c with session }
    | some target =>
      if needsRepoint target session.lastCommanded c.settings.azimuthThresholdDeg
          c.settings.elevationThresholdDeg then
        let (answer, rotator) := c.rotator.use Rotator.Fault.isDisconnect (Rotator.Device.set target)
        let session := match answer with
          | some reported =>
            { session with
              lastCommanded := some target
              lastReported := reported
              repointInFlight := true }
          | none => session
        { c with session, rotator }
      else { c with session }

/-- Tunes the radio to a frequency of a channel if it is far enough off the last one. -/
def retune (resolutionHz hz : α) (channel : Channel α) (radio : Equipment κ) :
    Channel α × Equipment κ :=
  if channel.needsRetune hz resolutionHz then
    let (answer, radio) :=
      radio.use Radio.Fault.isDisconnect (Radio.Device.tune channel.vfo hz)
    match answer with
    | some confirmed => (channel.record hz confirmed, radio)
    | none => (channel, radio)
  else (channel, radio)

/-- The same for a channel that may not be configured, with a frequency that depends on it. -/
def retuneIfSet (resolutionHz : α) (hz : Channel α → α) (channel : Option (Channel α))
    (radio : Equipment κ) : Option (Channel α) × Equipment κ :=
  match channel with
  | none => (none, radio)
  | some channel =>
    let (channel, radio) := retune resolutionHz (hz channel) channel radio
    (some channel, radio)

/-- Switches the satellite mode on unless that has been done. -/
def enterSatelliteMode (c : Controller τ α ρ κ) : Controller τ α ρ κ :=
  if c.session.satelliteMode then c
  else
    let (answer, radio) :=
      c.radio.use Radio.Fault.isDisconnect (Radio.Device.setSatelliteMode true)
    { c with radio, session := { c.session with satelliteMode := answer.isSome } }

/-- Tunes both channels for a range rate. -/
def tuneChannels (rangeRateKmS : α) (c : Controller τ α ρ κ) : Controller τ α ρ κ :=
  let shifted (channel : Channel α) : α := channel.shifted rangeRateKmS
  let (uplink, radio) := retuneIfSet c.settings.dopplerResolutionHz shifted c.uplink c.radio
  let (downlink, radio) := retuneIfSet c.settings.dopplerResolutionHz shifted c.downlink radio
  { c with uplink, downlink, radio }

/-- Keeps the radio on the auxiliary frequency, or on the shifted frequencies while a pass is near. -/
def commandRadio (rangeRateKmS : α) (c : Controller τ α ρ κ) : Controller τ α ρ κ :=
  if !c.radio.isAvailable || !c.session.engaged then c
  else if c.session.auxiliary then
    let (reference, radio) :=
      retuneIfSet c.settings.dopplerResolutionHz (·.nominalHz) c.reference c.radio
    { c with reference, radio }
  else match c.session.phase with
    | .armed | .tracking => tuneChannels rangeRateKmS (enterSatelliteMode c)
    | .idle | .coolingDown => c

/-- One look at the satellite, and what follows from it for the devices. -/
def step (now : τ) : Exchange (Controller τ α ρ κ) (Refusal α) Unit := do
  let observation ← ask fun e => e.look now
  let c ← Exchange.get
  let minutes ← ask fun e =>
    Visibility.refinedMinutesToCrossing e now c.settings.horizonMinutes Visibility.coarseStep
  Exchange.modify fun c =>
    { c with
      minutesToVisibility := minutes
      session := c.session.transition c.settings now observation.elevationDeg minutes }
  let target ← pointingTarget observation now minutes
  Exchange.modify fun c => { c with observation := some (now, observation) }
  Exchange.modify (commandRotator target)
  Exchange.modify (commandRadio observation.rangeRateKmS)

/-! ## The operator -/

omit [Timeline τ α] [Chronology τ] [Radio.Device κ α] in
/-- What a command does once it is accepted. -/
def obey (command : Command α) (c : Controller τ α ρ κ) : Controller τ α ρ κ :=
  match command with
  | .unlock => { c with session := { c.session with unlockedTicks := max c.settings.lockoutTicks 1 } }
  | .start => { c with session := { c.session with engaged := true } }
  | .stop =>
    let (answer, rotator) := c.rotator.use Rotator.Fault.isDisconnect Rotator.Device.stop
    let session := match answer with
      | some position => { c.session with lastReported := some position }
      | none => c.session
    { c with rotator, session := session.disarm }
  | .home =>
    let (answer, rotator) :=
      c.rotator.use Rotator.Fault.isDisconnect (Rotator.Device.set Position.home)
    let session := match answer with
      | some reported =>
        { c.session with lastCommanded := some Position.home, lastReported := reported }
      | none => c.session
    { c with rotator, session := session.disarm }
  | .auxiliary =>
    if c.settings.auxiliary.isSome then
      { c with
        session := { c.session with auxiliary := !c.session.auxiliary }
        uplink := c.uplink.map Channel.reset
        downlink := c.downlink.map Channel.reset
        reference := c.reference.map Channel.reset }
    else c
  | .pin position => { c with session := { c.session with pinned := some position } }
  | .unpin => { c with session := { c.session with pinned := none } }

omit [Timeline τ α] [Chronology τ] [Radio.Device κ α] in
/-- A command of the operator.  One that changes the state uses up an unlock and is refused without
one. -/
def handle (command : Command α) : Exchange (Controller τ α ρ κ) (Refusal α) Unit := fun c =>
  if command.changesState then
    if c.session.unlockedTicks = 0 then (.error .locked, c)
    else (.ok (), obey command { c with session := { c.session with unlockedTicks := 0 } })
  else (.ok (), obey command c)

omit [Timeline τ α] [Chronology τ] [Radio.Device κ α] in
/-- The commands that are waiting, in order, with whether each is accepted. -/
def drain : List (Command α) → Controller τ α ρ κ → List Bool × Controller τ α ρ κ
  | [], c => ([], c)
  | command :: rest, c =>
    let (answer, c) := handle command c
    let (accepted, c) := drain rest c
    (answer.isOk :: accepted, c)

/-- Holds if the last command that was accepted is an unlock. -/
def leavesUnlocked (commands : List (Command α)) (accepted : List Bool) : Bool :=
  ((commands.zip accepted).filter (·.2)).getLast?.any fun last => !last.1.changesState

/-- What a tick came to: whether each command was accepted, and how the step ended. -/
structure Report (α : Type) where
  accepted : List Bool
  result : Except (Refusal α) Unit

/-- The commands that are waiting, then a step.  An unlock among them counts in full for the ticks
that follow. -/
def tick (commands : List (Command α)) (now : τ) (c : Controller τ α ρ κ) :
    Report α × Controller τ α ρ κ :=
  let (accepted, c) := drain commands c
  let (result, c) := step now c
  let c :=
    if leavesUnlocked commands accepted then c
    else { c with session := { c.session with unlockedTicks := c.session.unlockedTicks - 1 } }
  (⟨accepted, result⟩, c)

omit [Scalar α] [Timeline τ α] [Chronology τ] in
/-- Stops the antenna and leaves the satellite mode. -/
def shutdown (c : Controller τ α ρ κ) : Controller τ α ρ κ :=
  let (answer, rotator) := c.rotator.use Rotator.Fault.isDisconnect Rotator.Device.stop
  let session := match answer with
    | some position => { c.session with lastReported := some position }
    | none => c.session
  let c := { c with rotator, session }
  if c.session.satelliteMode then
    let (answer, radio) :=
      c.radio.use Radio.Fault.isDisconnect (Radio.Device.setSatelliteMode false)
    { c with radio, session := { c.session with satelliteMode := !answer.isSome } }
  else c

/-- Ticks at the given times, each with the commands that have come in before it, as long as `runs`
holds, then the end of the run. -/
def run (runs : Controller τ α ρ κ → Bool) :
    List (List (Command α) × τ) → Controller τ α ρ κ → Controller τ α ρ κ
  | [], c => shutdown c
  | (commands, now) :: rest, c =>
    if runs c then run runs rest (tick commands now c).2 else shutdown c

end

end Controller

end EarthStation.Tracking
