import EarthStation.Program.Command

/-!
# Launch — the devices of a run

* `Program.openRotator`, `Program.openRadio`: what comes of opening a device.
* `Program.Plan.launch`: both devices of a run.
* `Program.Plan.controller`: the run that begins with them.

A device that cannot be opened is done without, unless it is required.
-/

namespace EarthStation.Program

open Wire (Line Peer)

/-- What came of opening a device. -/
structure Opening (κ φ : Type) where
  /-- The device, if there is a line to it. -/
  device : Option κ
  /-- Why there can be no run. -/
  fault : Option φ

/-- Why there can be no run if a device is missing. -/
def faultIf {φ : Type} (required : Bool) (fault : φ) : Option φ :=
  if required then some fault else none

variable {δ : Type}

abbrev RotatorLink (δ : Type) := Rotator.Link δ Float

abbrev RadioLink (δ : Type) := Radio.Link δ Float

/-- Opens the rotator over a line, or with a text that tells why there is none. -/
def openRotator (c : Config.RotatorSection) (line : Except String (Line δ)) :
    Opening (RotatorLink δ) (Rotator.Fault Float) :=
  if !c.serial.enabled then ⟨none, none⟩
  else match line with
    | .ok line => ⟨some (.ofLine line c.setResponds), none⟩
    | .error detail => ⟨none, faultIf c.serial.required (.connection c.serial.device detail)⟩

/-- Opens the radio and prepares it.  One that is not required is used also if that fails. -/
def openRadio [Peer δ] (c : Config.RadioSection) (line : Except String (Line δ)) :
    Opening (RadioLink δ) (Radio.Fault Float) :=
  if !c.serial.enabled then ⟨none, none⟩
  else match line with
    | .error detail => ⟨none, faultIf c.serial.required (.connection c.serial.device detail)⟩
    | .ok line =>
      match Radio.Link.prepare c.mode (UInt8.ofNat c.filter) c.waterfall (.ofLine line) with
      | (.ok (), link) => ⟨some link, none⟩
      | (.error fault, link) => ⟨some link, faultIf c.serial.required fault⟩

/-- The devices of a run, as far as they were opened. -/
structure Launch (δ : Type) where
  rotator : Option (RotatorLink δ)
  radio : Option (RadioLink δ)
  /-- Why there can be no run. -/
  failure : Option Failure

namespace Plan

/-- Opens both devices; `line` finds the line of a device by its name. -/
def launch [Peer δ] (p : Plan) (line : String → Except String (Line δ)) : Launch δ :=
  let rotator := openRotator p.config.rotator (line p.config.rotator.serial.device)
  match rotator.fault with
  | some fault => ⟨rotator.device, none, some (.rotator fault)⟩
  | none =>
    let radio := openRadio p.config.radio (line p.config.radio.serial.device)
    ⟨rotator.device, radio.device, radio.fault.map Failure.radio⟩

abbrev Run (δ : Type) := Tracking.Controller Instant Float (RotatorLink δ) (RadioLink δ)

/-- The run that begins with the devices. -/
def controller (p : Plan) (l : Launch δ) : Run δ :=
  .fresh (p.satellite.ephemeris p.site) p.settings (.ofOption l.rotator) (.ofOption l.radio)

end Plan

end EarthStation.Program
