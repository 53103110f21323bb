import EarthStation.Exchange
import EarthStation.Wire.Reading

/-!
# Capture — recording what a sound source delivers

* `Capture.Fault`: why there is no recording.
* `Capture.recorderArguments`: how the recorder is called.
* `Capture.Storage`: a file that is written through a buffer, on a disk that may refuse.
* `Capture.Source`: where the bytes come from, with what has been done to it.
* `Capture.copy`: copies a source to a file until it ends, fails or is stopped.
* `Capture.Recorder.start`: a recording from its beginning.
-/

namespace EarthStation.Capture

open Wire (Bytes ReadEvent)

inductive Fault where
  /-- The recorder could not be started. -/
  | source (cause : IoError)
  | io (cause : IoError)
deriving DecidableEq, Repr

def Fault.message : Fault → String
  | source cause => "cannot start audio source: " ++ cause.message
  | io cause => "audio capture I/O error: " ++ cause.message

/-- The program that records sound. -/
def recorder : String := "arecord"

/-- How the recorder is asked for samples of 16 bits without a header. -/
def recorderArguments (device : String) (rateHz channels : Nat) : List String :=
  ["-q", "-D", device, "-f", "S16_LE", "-t", "raw", "-r", toString rateHz, "-c", toString channels]

/-- The most bytes that one read takes. -/
def readSize : Nat := 4096

/-- The most bytes that wait to be written. -/
def bufferSize : Nat := 8192

/-- Why an attempt at writing fails, and how many bytes have reached the file before it does.  Writes
that are interrupted are repeated within an attempt. -/
structure Refusal where
  reached : Nat
  cause : IoError
deriving DecidableEq, Repr

/-- A file that is written through a buffer. -/
structure Storage where
  /-- What has been written, newest first. -/
  blocks : List Bytes
  /-- What waits to be written. -/
  waiting : Bytes
  /-- How often it has been attempted to write. -/
  attempts : Nat
  /-- What stands against the attempt of a number, if anything does. -/
  refusal : Nat → Option Refusal

namespace Storage

/-- An empty file on a disk that refuses some attempts. -/
def onDisk (refusal : Nat → Option Refusal) : Storage := ⟨[], [], 0, refusal⟩

/-- An empty file; nothing can be written to it if there is a refusal. -/
def empty (refusal : Option IoError) : Storage := onDisk fun _ => refusal.map (⟨0, ·⟩)

/-- The bytes in the file. -/
def content (s : Storage) : Bytes := s.blocks.reverse.flatten

/-- Writes what is waiting.  What has not reached the file goes on waiting. -/
def flush : Exchange Storage IoError Unit := fun s =>
  if s.waiting.isEmpty then (.ok (), s)
  else match s.refusal s.attempts with
    | some refusal =>
      (.error refusal.cause,
        { s with
          blocks := s.waiting.take refusal.reached :: s.blocks
          waiting := s.waiting.drop refusal.reached
          attempts := s.attempts + 1 })
    | none =>
      (.ok (), { s with blocks := s.waiting :: s.blocks, waiting := [], attempts := s.attempts + 1 })

/-- Takes bytes, and makes room for them first if they do not fit. -/
def add (bytes : Bytes) : Exchange Storage IoError Unit := do
  let s ← Exchange.get
  if bufferSize < s.waiting.length + bytes.length then flush
  Exchange.modify fun s => { s with waiting := s.waiting ++ bytes }

/-- The file after it was closed: what waits is written if that can be done. -/
def close (s : Storage) : Storage := (flush s).2

end Storage

/-! ## The source -/

/-- What is done to a source. -/
inductive Handling where
  | read
  /-- Gives the source up: whatever delivers its bytes is stopped. -/
  | release
deriving DecidableEq, Repr

/-- A source of bytes: what reads from it are going to meet, and what has been done to it, the latest
first. -/
structure Source where
  events : List ReadEvent
  handlings : List Handling
deriving DecidableEq, Repr

namespace Source

/-- A source that has not been touched. -/
def ofEvents (events : List ReadEvent) : Source := ⟨events, []⟩

/-- One read; where nothing is left the source has ended. -/
def read : Exchange Source IoError Bytes := fun s =>
  match s.events with
  | [] => (.ok [], ⟨[], .read :: s.handlings⟩)
  | event :: rest =>
    let (answer, rest) := Wire.readSome readSize (event :: rest)
    (answer, ⟨rest, .read :: s.handlings⟩)

def release (s : Source) : Source := ⟨[], .release :: s.handlings⟩

/-- A bound on the number of reads: one for each event, one for each byte, and one that finds the end. -/
def readBound : List ReadEvent → Nat
  | [] => 1
  | .chunk bytes :: rest => bytes.length + 1 + readBound rest
  | _ :: rest => 1 + readBound rest

end Source

/-! ## Copying -/

/-- A source that is copied to a file. -/
structure Copying where
  source : Source
  storage : Storage

/-- What has become of source and file, and the number of bytes copied. -/
structure Outcome where
  source : Source
  storage : Storage
  written : Except Fault Nat

namespace Copying

/-- Copies on, with `written` bytes copied before; at most `reads` more reads are made. -/
def copyOn : (reads : Nat) → (written : Nat) → Copying → Except IoError Nat × Copying
  | 0, written, c => (.ok written, c)
  | reads + 1, written, c =>
    match c.source.read with
    | (.ok [], source) => (.ok written, { c with source })
    | (.ok bytes, source) =>
      match Storage.add bytes c.storage with
      | (.ok (), storage) => copyOn reads (written + bytes.length) { source, storage }
      | (.error cause, storage) => (.error cause, { source, storage })
    | (.error cause, source) =>
      if cause.isInterrupted then copyOn reads written { c with source }
      else (.error cause, { c with source })

/-- Gives the source up and brings what waits into the file; `result` tells how the copying ended.  A
file is closed in any case, which attempts once more what has failed. -/
def finish (result : Except IoError Nat) (c : Copying) : Outcome :=
  let source := c.source.release
  match result with
  | .error cause => ⟨source, c.storage.close, .error (.io cause)⟩
  | .ok written =>
    match Storage.flush c.storage with
    | (.ok (), storage) => ⟨source, storage, .ok written⟩
    | (.error cause, storage) => ⟨source, storage.close, .error (.io cause)⟩

end Copying

/-- Copies a source to a file.  With `stopAfter` it is stopped before the read of that number.  What
was read before a failure stays in the file. -/
def copy (stopAfter : Option Nat) (events : List ReadEvent) (storage : Storage) : Outcome :=
  let reads := stopAfter.getD (Source.readBound events)
  let (result, c) := Copying.copyOn reads 0 ⟨.ofEvents events, storage⟩
  c.finish result

/-- A recorder: whether there is one, what it delivers, and before which read it is stopped if it does
not end by itself. -/
structure Recorder where
  found : Bool
  delivered : List ReadEvent
  stopAfter : Option Nat

namespace Recorder

/-- A recorder that ends by itself. -/
def finite (output : Bytes) : Recorder := ⟨true, [.chunk output], none⟩

/-- A recorder that goes on with silence, and is stopped soon after that has reached the file. -/
def endless (output : Bytes) : Recorder where
  found := true
  delivered := [.chunk (output ++ List.replicate (4 * bufferSize) 0)]
  stopAfter := some (output.length / readSize + 4)

/-- Starts a recorder and copies what it delivers to a new file, which can be created or not. -/
def start (r : Recorder) (fileCreated : Bool) : Except Fault Outcome :=
  if !r.found then .error (.source .missingFile)
  else if !fileCreated then .error (.io .missingFile)
  else .ok (copy r.stopAfter r.delivered (.empty none))

end Recorder

end EarthStation.Capture
