import EarthStation.Radio.Bcd
import EarthStation.Radio.Frame
import EarthStation.Wire.Line

/-!
# Link — a radio on a line

* `Radio.Vfo`, `Radio.Mode`: what can be selected on the radio.
* `Radio.Device`: what the tracking needs of a radio.
* `Radio.Link`: a radio at the end of a line, with what is known of its state.
* `Radio.Link.command`: one command and its reply; all other operations are made of it.
-/

namespace EarthStation.Radio

open Wire (Bytes Line Peer)

/-- The oscillators and bands that a frequency can be set for. -/
inductive Vfo where
  | a
  | b
  | main
  | sub
deriving DecidableEq, Repr

def Vfo.code : Vfo → UInt8
  | a => 0x00
  | b => 0x01
  | main => 0xD0
  | sub => 0xD1

namespace Vfo

def all : List Vfo := [a, b, main, sub]

def name : Vfo → String
  | a => "a"
  | b => "b"
  | main => "main"
  | sub => "sub"

def ofName? (name : String) : Option Vfo := all.find? fun v => v.name = name

end Vfo

/-- The operating modes. -/
inductive Mode where
  | lsb
  | usb
  | am
  | cw
  | rtty
  | fm
  | cwReverse
  | rttyReverse
  | dv
deriving DecidableEq, Repr

def Mode.code : Mode → UInt8
  | lsb => 0x00
  | usb => 0x01
  | am => 0x02
  | cw => 0x03
  | rtty => 0x04
  | fm => 0x05
  | cwReverse => 0x07
  | rttyReverse => 0x08
  | dv => 0x17

namespace Mode

def all : List Mode := [lsb, usb, am, cw, rtty, fm, cwReverse, rttyReverse, dv]

/-- The name of a mode in configurations. -/
def name : Mode → String
  | lsb => "lsb"
  | usb => "usb"
  | am => "am"
  | cw => "cw"
  | rtty => "rtty"
  | fm => "fm"
  | cwReverse => "cw_reverse"
  | rttyReverse => "rtty_reverse"
  | dv => "dv"

/-- The mode that a name stands for. -/
def ofName? (name : String) : Option Mode := all.find? fun m => m.name = name

end Mode

/-- A radio as the tracking sees it. -/
class Device (ρ : Type) (α : outParam Type) where
  setSatelliteMode : Bool → Exchange ρ (Fault α) Unit
  /-- Selects an oscillator, sets its frequency and answers the one that the radio reports then. -/
  tune : Vfo → α → Exchange ρ (Fault α) α

/-- A radio at the end of a line. -/
structure Link (δ α : Type) where
  line : Line δ
  /-- What is known to be selected. -/
  vfo : Option Vfo
  lastCommandedHz : Option α
  lastConfirmedHz : Option α

namespace Link

variable {δ α : Type} [Peer δ] [Scalar α]

omit [Peer δ] [Scalar α] in
def ofLine (line : Line δ) : Link δ α := ⟨line, none, none, none⟩

omit [Peer δ] [Scalar α] in
/-- A step on the line. -/
def onLine {β : Type} (step : Exchange (Line δ) IoError β) : Exchange (Link δ α) (Fault α) β :=
  fun l =>
    let (r, line) := step l.line
    (r.mapError Fault.io, { l with line })

omit [Peer δ] [Scalar α] in
/-- Fails because of a malformed frame. -/
def refuse {β : Type} (detail : Malformation) : Exchange (Link δ α) (Fault α) β :=
  Exchange.fail (.framing detail)

omit [Peer δ] [Scalar α] in
/-- Reads to the end of a frame that has begun with the given bytes, at most `room` bytes more. -/
def readOn : (room : Nat) → (begun : Bytes) → Exchange (Link δ α) (Fault α) Bytes
  | 0, _ => refuse .tooLong
  | room + 1, begun => do
    match ← onLine (Line.read 1) with
    | [] => Exchange.fail (.timeout begun.length)
    | b :: _ => if b = terminator then pure (begun ++ [b]) else readOn room (begun ++ [b])

omit [Peer δ] [Scalar α] in
/-- Reads one frame. -/
def readFrame : Exchange (Link δ α) (Fault α) Bytes := readOn longestReply []

omit [Scalar α] in
/-- Sends a command and reads the reply to it.  A copy of the command that the bus brings back first
is skipped. -/
def command (sent : CommandFrame) : Exchange (Link δ α) (Fault α) Reply := do
  onLine (Line.write sent.bytes)
  let first ← readFrame
  if commandPreamble.isPrefixOf first then
    if first = sent.bytes then do
      let second ← readFrame
      Exchange.ofExcept (parseReply sent second)
    else refuse (.stray first)
  else Exchange.ofExcept (parseReply sent first)

omit [Scalar α] in
/-- Sends a command that is answered by a bare acknowledgement. -/
def acknowledged (sent : CommandFrame) : Exchange (Link δ α) (Fault α) Unit := do
  match ← command sent with
  | .ok => pure ()
  | .data bytes => refuse (.unexpectedData bytes sent.command)

omit [Scalar α] in
/-- Sends a command that is answered by data. -/
def data (sent : CommandFrame) : Exchange (Link δ α) (Fault α) Bytes := do
  match ← command sent with
  | .data (b :: rest) => pure (b :: rest)
  | _ => refuse (.noData sent.command)

omit [Scalar α] in
/-- Sends a command that is answered by a number in the first byte of the data. -/
def number (sent : CommandFrame) : Exchange (Link δ α) (Fault α) Nat := do
  let bytes ← data sent
  Exchange.ofExcept (Bcd.decode .forward (bytes.take 1))

/-! ## The commands of the radio -/

/-- A switch as data of a command. -/
def flagBytes (on : Bool) : Bytes := if on then [1] else [0]

omit [Scalar α] in
def setVfo (v : Vfo) : Exchange (Link δ α) (Fault α) Unit := do
  acknowledged (.withSub 0x07 v.code [])
  Exchange.modify fun l => { l with vfo := some v }

omit [Scalar α] in
def setBandSelection (band : UInt8) : Exchange (Link δ α) (Fault α) Unit :=
  acknowledged (.withSub 0x07 0xD2 [band])

omit [Scalar α] in
def bandSelection : Exchange (Link δ α) (Fault α) Nat := number (.withSub 0x07 0xD2 [])

omit [Scalar α] in
/-- The selected band. -/
def readVfo : Exchange (Link δ α) (Fault α) Vfo := do
  let band ← bandSelection
  let v : Vfo := if band = 0 then .main else .sub
  Exchange.modify fun l => { l with vfo := some v }
  pure v

def setFrequency (hz : α) : Exchange (Link δ α) (Fault α) Unit := do
  let payload ← Exchange.ofExcept (encodeFrequency hz)
  acknowledged (.plain 0x05 payload)
  Exchange.modify fun l => { l with lastCommandedHz := some (Scalar.round hz) }

def frequency : Exchange (Link δ α) (Fault α) α := do
  let bytes ← data (.plain 0x03 [])
  let hz ← Exchange.ofExcept (decodeFrequency bytes)
  Exchange.modify fun l => { l with lastConfirmedHz := some hz }
  pure hz

omit [Scalar α] in
def setSatelliteMode (on : Bool) : Exchange (Link δ α) (Fault α) Unit :=
  acknowledged (.withSub 0x16 0x5A (flagBytes on))

omit [Scalar α] in
def satelliteMode : Exchange (Link δ α) (Fault α) Bool := do
  let n ← number (.withSub 0x16 0x5A [])
  pure (n != 0)

/-- Sets the operating mode with one of the filters 1 to 3. -/
def setMode (mode : Mode) (filter : UInt8) : Exchange (Link δ α) (Fault α) Unit :=
  if 1 ≤ filter ∧ filter ≤ 3 then acknowledged (.plain 0x06 [mode.code, filter])
  else Exchange.fail (.value (Scalar.natural filter.toNat))

omit [Scalar α] in
/-- Switches the data of the spectrum scope on or off. -/
def setWaterfall (on : Bool) : Exchange (Link δ α) (Fault α) Unit :=
  acknowledged (.withSub 0x27 0x11 (flagBytes on))

/-- Reads the state of the radio, goes to the main band and applies mode and scope output. -/
def prepare (mode : Option Mode) (filter : UInt8) (waterfall : Bool) :
    Exchange (Link δ α) (Fault α) Unit := do
  let v ← readVfo
  let _ ← satelliteMode
  if v ≠ .main then do
    setBandSelection 0
    Exchange.modify fun l => { l with vfo := some .main }
  match mode with
  | some mode => setMode mode filter
  | none => pure ()
  setWaterfall waterfall

/-- Selects an oscillator unless it is known to be selected, sets its frequency and reads it back. -/
def tune (v : Vfo) (hz : α) : Exchange (Link δ α) (Fault α) α := do
  let link ← Exchange.get
  if link.vfo ≠ some v then setVfo v
  setFrequency hz
  frequency

instance : Device (Link δ α) α where
  setSatelliteMode := setSatelliteMode
  tune := tune

end Link

end EarthStation.Radio
