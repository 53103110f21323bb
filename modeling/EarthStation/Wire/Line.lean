import EarthStation.Exchange
import EarthStation.Wire.Reading

/-!
# Line — a serial line with a device at its end

* `Wire.Peer`: how a device reacts to what is written to it.
* `Wire.Line`: a device together with what it has sent and what has been written to it.
* `Wire.Line.write`, `Wire.Line.read`: the two operations of a line.
* `Wire.Script`, `Wire.FrameScript`: devices that answer by a script.
-/

namespace EarthStation.Wire

/-- A device on a line: to each write it answers with what reads meet then, or the write fails. -/
class Peer (δ : Type) where
  receive : Bytes → δ → Except IoError (List ReadEvent) × δ

/-- A line: the device at its end, what is waiting to be read, and what has been written, oldest
first. -/
structure Line (δ : Type) where
  peer : δ
  pending : List ReadEvent
  written : List Bytes

namespace Line

variable {δ : Type} [Peer δ]

/-- A line that nothing has gone over yet. -/
def ofPeer (peer : δ) : Line δ := ⟨peer, [], []⟩

/-- Writes all the bytes; what the device sends waits behind what is pending. -/
def write (bytes : Bytes) : Exchange (Line δ) IoError Unit := fun l =>
  match Peer.receive bytes l.peer with
  | (.ok events, peer) =>
    (.ok (), ⟨peer, l.pending ++ events, l.written ++ [bytes]⟩)
  | (.error cause, peer) => (.error cause, { l with peer })

omit [Peer δ] in
/-- Reads up to `size` bytes. -/
def read (size : Nat) : Exchange (Line δ) IoError Bytes := fun l =>
  let r := readAvailable size l.pending
  (match r.failure with
    | some cause => .error cause
    | none => .ok r.bytes, { l with pending := r.rest })

end Line

/-! ## Devices that answer by a script -/

/-- One reaction of a scripted device. -/
inductive Reaction where
  | send (events : List ReadEvent)
  | refuse (cause : IoError)
deriving DecidableEq, Repr

/-- A device that takes one reaction for each write, and stays silent after the last one. -/
structure Script where
  reactions : List Reaction
deriving DecidableEq, Repr

/-- The next reaction; writes that are interrupted are repeated. -/
def Script.next : List Reaction → Except IoError (List ReadEvent) × List Reaction
  | [] => (.ok [], [])
  | .send events :: rest => (.ok events, rest)
  | .refuse cause :: rest =>
    if cause.isInterrupted then Script.next rest else (.error cause, rest)

instance : Peer Script where
  receive _ s :=
    let (answer, rest) := Script.next s.reactions
    (answer, ⟨rest⟩)

/-- Where the frames that a device cuts its input into end. -/
inductive Framing where
  | everyBytes (count : Nat)
  | upTo (terminator : UInt8)
deriving DecidableEq, Repr

/-- The frames that are complete, and the bytes behind them; `partialFrame` holds the bytes since the
last frame in reverse. -/
def Framing.cut (f : Framing) (partialFrame : Bytes) : Bytes → List Bytes × Bytes
  | [] => ([], partialFrame)
  | b :: rest =>
    let extended := b :: partialFrame
    let complete := match f with
      | .everyBytes count => extended.length == count
      | .upTo terminator => b == terminator
    if complete then
      let (frames, left) := f.cut [] rest
      (extended.reverse :: frames, left)
    else f.cut extended rest

/-- A device that takes one answer for each frame that it receives. -/
structure FrameScript where
  framing : Framing
  /-- The bytes of a frame that is not complete, in reverse. -/
  partialFrame : Bytes
  /-- The frames received, oldest first. -/
  received : List Bytes
  /-- The answers to the coming frames; empty ones are silence. -/
  answers : List Bytes

/-- A device that nothing has been written to yet. -/
def FrameScript.ofAnswers (framing : Framing) (answers : List Bytes) : FrameScript :=
  ⟨framing, [], [], answers⟩

instance : Peer FrameScript where
  receive bytes s :=
    let (frames, left) := s.framing.cut s.partialFrame bytes
    let now := (s.answers.take frames.length).filter fun a => !a.isEmpty
    (.ok (now.map .chunk),
      { s with
        partialFrame := left
        received := s.received ++ frames
        answers := s.answers.drop frames.length })

end EarthStation.Wire
