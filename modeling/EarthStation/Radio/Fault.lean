import EarthStation.IoError
import EarthStation.Decimal.Shortest
import EarthStation.Wire.Reading

/-!
# Fault — why a radio did not do as told

* `Radio.Malformation`: what is wrong with a frame of the radio.
* `Radio.Fault`: why a command failed.
* `Radio.Fault.isDisconnect`: whether the radio is gone.
-/

namespace EarthStation.Radio

open Wire (Bytes)

/-- What is wrong with a frame that was read. -/
inductive Malformation where
  | tooShort (length : Nat)
  | tooLong
  /-- The frame does not start as a reply of the radio does. -/
  | preamble (found : Bytes)
  | terminator
  /-- The reply belongs to another command. -/
  | otherCommand (found sent : UInt8)
  | notEchoed (sub : UInt8)
  /-- A command on the bus that is not the one just sent. -/
  | stray (frame : Bytes)
  | unexpectedData (data : Bytes) (command : UInt8)
  | noData (command : UInt8)
  | digits (found : UInt8)
  | frequencyLength (length : Nat)
deriving DecidableEq, Repr

def Malformation.message : Malformation → String
  | tooShort length => "reply of " ++ toString length ++ " bytes is too short"
  | tooLong => "reply exceeds maximum length"
  | preamble found => "unexpected preamble " ++ Wire.hex found
  | terminator => "missing terminator"
  | otherCommand found sent =>
    "reply to command " ++ Wire.hexByte found ++ " while waiting for " ++ Wire.hexByte sent
  | notEchoed sub => "sub-command " ++ Wire.hexByte sub ++ " not echoed"
  | stray frame => "unexpected frame on bus: " ++ Wire.hex frame
  | unexpectedData data command =>
    "unexpected data " ++ Wire.hex data ++ " for command " ++ Wire.hexByte command
  | noData command => "no data for command " ++ Wire.hexByte command
  | digits found => "invalid BCD byte " ++ Wire.hexByte found
  | frequencyLength length => "frequency payload of " ++ toString length ++ " bytes"

/-- Why a radio did not do as told. -/
inductive Fault (α : Type) where
  | connection (device detail : String)
  | io (cause : IoError)
  /-- The reply did not come to its end. -/
  | timeout (received : Nat)
  | framing (detail : Malformation)
  /-- The radio refused a command. -/
  | rejected (command : UInt8)
  /-- A value that no frame can carry. -/
  | value (found : α)
deriving DecidableEq, Repr

/-- Holds if the device is gone. -/
def Fault.isDisconnect {α : Type} : Fault α → Bool
  | connection _ _ => true
  | io cause => cause.isDisconnect
  | _ => false

def Fault.message : Fault Float → String
  | connection device detail => "cannot open radio on " ++ device ++ ": " ++ detail
  | io cause => "radio I/O error: " ++ cause.message
  | timeout received =>
    "radio did not finish its reply (" ++ toString received ++ " bytes before timeout)"
  | framing detail => "bad radio frame: " ++ detail.message
  | rejected command => "radio rejected command " ++ Wire.hexByte command
  | value found => "value " ++ Decimal.plain found ++ " cannot be encoded for the radio"

end EarthStation.Radio
