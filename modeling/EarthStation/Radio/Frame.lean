import EarthStation.Radio.Fault

/-!
# Frame — what goes over the bus to the radio and back

* `Radio.CommandFrame`, `Radio.CommandFrame.bytes`: a command.
* `Radio.Reply`, `Radio.parseReply`: what a frame says in answer to a command.

Frames on the bus start with two bytes `FE` and the addresses of receiver and sender, and end with a
byte `FD`.  A reply is a bare acknowledgement, or it repeats the command in front of its data.
-/

namespace EarthStation.Radio

open Wire (Bytes)

/-- How a command to the radio starts. -/
def commandPreamble : Bytes := [0xFE, 0xFE, 0xA2, 0xE0]

/-- How a reply of the radio starts. -/
def replyPreamble : Bytes := [0xFE, 0xFE, 0xE0, 0xA2]

/-- The last byte of every frame. -/
def terminator : UInt8 := 0xFD

def accepted : UInt8 := 0xFB

def refused : UInt8 := 0xFA

/-- The length of the shortest reply. -/
def shortestReply : Nat := 6

/-- The length of the longest frame that is read. -/
def longestReply : Nat := 1024

/-- A command with its optional sub-commands and its data. -/
structure CommandFrame where
  command : UInt8
  sub : Option UInt8
  subsub : Option UInt8
  payload : Bytes
deriving DecidableEq, Repr

namespace CommandFrame

/-- A command with data. -/
def plain (command : UInt8) (payload : Bytes) : CommandFrame := ⟨command, none, none, payload⟩

/-- A command with a sub-command and data. -/
def withSub (command sub : UInt8) (payload : Bytes) : CommandFrame := ⟨command, some sub, none, payload⟩

/-- The sub-commands, as far as they are there. -/
def subs (f : CommandFrame) : Bytes := f.sub.toList ++ f.subsub.toList

/-- The frame as it goes over the bus. -/
def bytes (f : CommandFrame) : Bytes :=
  commandPreamble ++ f.command :: f.subs ++ f.payload ++ [terminator]

end CommandFrame

/-- What the radio answers. -/
inductive Reply where
  | ok
  /-- What follows the repeated command. -/
  | data (bytes : Bytes)
deriving DecidableEq, Repr

/-- The data behind the repeated sub-commands. -/
def dataAfter : (subs body : Bytes) → Except Malformation Bytes
  | [], body => .ok body
  | sub :: _, [] => .error (.notEchoed sub)
  | sub :: subs, b :: body => if b = sub then dataAfter subs body else .error (.notEchoed sub)

/-- What a frame says in answer to a command. -/
def parseReply {α : Type} (sent : CommandFrame) (frame : Bytes) : Except (Fault α) Reply :=
  if frame.length < shortestReply then .error (.framing (.tooShort frame.length))
  else if frame.take 4 ≠ replyPreamble then .error (.framing (.preamble (frame.take 4)))
  else if frame.getLast? ≠ some terminator then .error (.framing .terminator)
  else match (frame.drop 4).dropLast with
    | [] => .error (.framing (.tooShort frame.length))
    | code :: body =>
      if code = refused then .error (.rejected sent.command)
      else if code = accepted then .ok .ok
      else if code ≠ sent.command then .error (.framing (.otherCommand code sent.command))
      else ((dataAfter sent.subs body).map Reply.data).mapError Fault.framing

end EarthStation.Radio
