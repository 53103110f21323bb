import EarthStation.Rotator.Position
import EarthStation.Wire.Reading

/-!
# Frame — what goes over the line to the rotator and back

* `Rotator.Command`: stop, report the position, go to a position.
* `Rotator.stopFrame`, `Rotator.statusFrame`, `Rotator.setFrame`: the thirteen bytes of a command.
* `Rotator.decodeResponse`, `Rotator.encodeResponse`: the twelve bytes of a reply.

An angle is sent as four digits that count tenths of a degree from -360 on: as ASCII digits in
commands, as plain values in replies.
-/

namespace EarthStation.Rotator

open Wire (Bytes)

variable {α : Type} [Scalar α]

inductive Command where
  | stop
  | status
  | set
deriving DecidableEq, Repr

def Command.code : Command → UInt8
  | stop => 0x0F
  | status => 0x1F
  | set => 0x2F

/-- The first byte of every frame. -/
def startByte : UInt8 := 0x57

/-- The last byte of every frame. -/
def endByte : UInt8 := 0x20

def commandLength : Nat := 13

def responseLength : Nat := 12

/-- The angle that the digits count from. -/
def angleOffset : α := 360

/-- The lowest four decimal digits of a number, most significant first. -/
def fourDigits (n : Nat) : List Nat := [n / 1000 % 10, n / 100 % 10, n / 10 % 10, n % 10]

/-- The tenths of a degree that stand for an angle, brought into `[0, bound]`. -/
def tenths (bound : Nat) (angle : α) : Nat :=
  (Scalar.nearestIn 0 bound (10 * (angle + angleOffset))).toNat

/-- The ASCII digits of an angle in a command. -/
def encodeAngle (angle : α) : Bytes :=
  (fourDigits (tenths 9999 angle)).map fun d => 0x30 + UInt8.ofNat d

/-- A command with its two groups of digits. -/
def frame (command : Command) (azimuth elevation : Bytes) : Bytes :=
  startByte :: azimuth ++ 0x00 :: elevation ++ [0x00, command.code, endByte]

/-- The digits of commands without an angle. -/
def noDigits : Bytes := [0x30, 0x30, 0x30, 0x30]

def stopFrame : Bytes := frame .stop noDigits noDigits

def statusFrame : Bytes := frame .status noDigits noDigits

/-- The command to go to a position; one outside the limits is refused. -/
def setFrame (target : Position α) : Except (Fault α) Bytes :=
  match target.checked with
  | .error fault => .error fault
  | .ok target =>
    .ok (frame .set (encodeAngle target.clamp.azimuthDeg) (encodeAngle target.clamp.elevationDeg))

/-- The angle that four digits of a reply stand for: hundreds, tens, units and tenths. -/
def decodeAngle (hundreds tens units tenths : UInt8) : Except (Fault α) α :=
  match [hundreds, tens, units, tenths].find? fun d => 9 < d with
  | some bad => .error (.malformed (.digit bad))
  | none =>
    let value (d : UInt8) : α := Scalar.natural d.toNat
    .ok (value hundreds * 100 + value tens * 10 + value units + value tenths / 10 - angleOffset)

/-- The position that a reply reports; what follows the twelfth byte is ignored. -/
def decodeResponse (bytes : Bytes) : Except (Fault α) (Position α) :=
  match bytes with
  | first :: a1 :: a2 :: a3 :: a4 :: _ :: e1 :: e2 :: e3 :: e4 :: _ :: _ :: _ =>
    if first ≠ startByte then .error (.malformed (.startByte first))
    else
      match decodeAngle a1 a2 a3 a4, decodeAngle e1 e2 e3 e4 with
      | .error fault, _ => .error fault
      | _, .error fault => .error fault
      | .ok azimuth, .ok elevation => .ok ⟨azimuth, elevation⟩
  | short => .error (.shortResponse short.length)

/-- The reply that reports a position. -/
def encodeResponse (p : Position α) : Bytes :=
  let group (angle : α) : Bytes := (fourDigits (tenths (UInt32.size - 1) angle)).map UInt8.ofNat
  startByte :: group p.azimuthDeg ++ 0x0A :: group p.elevationDeg ++ [0x0A, endByte]

end EarthStation.Rotator

namespace EarthStation

def Rotator.Malformation.message : Rotator.Malformation → String
  | startByte found => "unexpected start byte " ++ Wire.hexByte found
  | digit found => "invalid digit " ++ Wire.hexByte found
  | other detail => detail

def Rotator.Fault.message : Rotator.Fault Float → String
  | connection device detail => "cannot open rotator on " ++ device ++ ": " ++ detail
  | io cause => "rotator I/O error: " ++ cause.message
  | shortResponse received => "short rotator response: " ++ toString received ++ " of 12 bytes"
  | malformed detail => "malformed rotator response: " ++ detail.message
  | limit azimuth elevation =>
    "pointing request az " ++ Decimal.fixed 1 azimuth ++ " el " ++ Decimal.fixed 1 elevation
      ++ " outside rotator limits"

end EarthStation
