import EarthStation.Rotator.Frame
import EarthStation.Wire.Line

/-!
# Link — a rotator on a line

* `Rotator.Device`: what the tracking needs of a rotator.
* `Rotator.Link`: a rotator at the end of a line, one command at a time.
-/

namespace EarthStation.Rotator

open Wire (Bytes Line Peer)

/-- A rotator as the tracking sees it. -/
class Device (ρ : Type) (α : outParam Type) where
  stop : Exchange ρ (Fault α) (Position α)
  status : Exchange ρ (Fault α) (Position α)
  /-- Answers a position unless the firmware is silent after it. -/
  set : Position α → Exchange ρ (Fault α) (Option (Position α))

/-- A rotator at the end of a line. -/
structure Link (δ α : Type) where
  line : Line δ
  /-- Whether the firmware answers the command to go to a position. -/
  setResponds : Bool
  lastCommanded : Option (Position α)
  lastReported : Option (Position α)

namespace Link

variable {δ α : Type} [Peer δ] [Scalar α]

omit [Peer δ] [Scalar α] in
def ofLine (line : Line δ) (setResponds : Bool) : Link δ α := ⟨line, setResponds, none, none⟩

omit [Peer δ] [Scalar α] in
/-- A step on the line. -/
def onLine {β : Type} (step : Exchange (Line δ) IoError β) : Exchange (Link δ α) (Fault α) β :=
  fun l =>
    let (r, line) := step l.line
    (r.mapError Fault.io, { l with line })

/-- Sends a command and reads the position that comes back. -/
def report (command : Bytes) : Exchange (Link δ α) (Fault α) (Position α) := do
  onLine (Line.write command)
  let reply ← onLine (Line.read responseLength)
  let position ← Exchange.ofExcept (decodeResponse reply)
  Exchange.modify fun l => { l with lastReported := some position }
  pure position

def stop : Exchange (Link δ α) (Fault α) (Position α) := report stopFrame

def status : Exchange (Link δ α) (Fault α) (Position α) := report statusFrame

/-- Sends the antenna to a position. -/
def set (target : Position α) : Exchange (Link δ α) (Fault α) (Option (Position α)) := do
  let command ← Exchange.ofExcept (setFrame target)
  let link ← Exchange.get
  let reported ←
    if link.setResponds then do
      let position ← report command
      pure (some position)
    else do
      onLine (Line.write command)
      pure none
  Exchange.modify fun l => { l with lastCommanded := some target }
  pure reported

instance : Device (Link δ α) α where
  stop := stop
  status := status
  set := set

end Link

end EarthStation.Rotator
