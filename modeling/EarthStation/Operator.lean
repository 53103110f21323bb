import EarthStation.TextFile
import EarthStation.Decimal.Reader
import EarthStation.Text.Blank
import EarthStation.Tracking.Session

/-!
# Operator — what is typed during a run

* `Operator.Request`: what one line asks for.
* `Operator.hear`: what a stream of lines comes to.

A request is a single letter; the letter for holding the antenna is followed by azimuth and
elevation.
-/

namespace EarthStation.Operator

open Rotator (Position)
open Tracking (Command)

inductive Request where
  | command (command : Command Float)
  | quit
deriving Repr

/-- The position that two numerals name, if the rotator can take it. -/
def position? (azimuth elevation : List Char) : Option (Position Float) := do
  let azimuthDeg ← Decimal.readFloat? azimuth
  let elevationDeg ← Decimal.readFloat? elevation
  let p : Position Float := ⟨azimuthDeg, elevationDeg⟩
  if p.withinLimits then some p else none

/-- What a line asks for, going by its first word. -/
def Request.ofLine? (line : List Char) : Option Request :=
  match Text.words line with
  | ['u'] :: _ => some (.command .unlock)
  | ['s'] :: _ => some (.command .start)
  | ['x'] :: _ => some (.command .stop)
  | ['h'] :: _ => some (.command .home)
  | ['a'] :: _ => some (.command .auxiliary)
  | ['r'] :: _ => some (.command .unpin)
  | ['q'] :: _ => some .quit
  | ['p'] :: azimuth :: elevation :: _ =>
    (position? azimuth elevation).map fun p => .command (.pin p)
  | _ => none

/-- What a stream of lines has come to. -/
structure Heard where
  /-- The commands, in order. -/
  commands : List (Command Float)
  /-- Whether the run goes on. -/
  running : Bool
  /-- How many lines were taken from the stream. -/
  linesTaken : Nat
deriving Repr

namespace Heard

/-- Nothing was asked for. -/
def nothing : Heard := ⟨[], true, 0⟩

/-- One more line in front. -/
def afterLine (h : Heard) : Heard := { h with linesTaken := h.linesTaken + 1 }

def afterCommand (c : Command Float) (h : Heard) : Heard :=
  { h with commands := c :: h.commands, linesTaken := h.linesTaken + 1 }

end Heard

/-- Follows a stream of lines to a request to quit, a line that cannot be read, or its end.  Where
nobody takes commands any more it ends at the first one. -/
def hear (connected : Bool) : List (Except IoError String) → Heard
  | [] => .nothing
  | .error _ :: _ => Heard.nothing.afterLine
  | .ok line :: rest =>
    match Request.ofLine? line.toList with
    | none => (hear connected rest).afterLine
    | some .quit => ⟨[], false, 1⟩
    | some (.command c) =>
      if connected then (hear connected rest).afterCommand c else Heard.nothing.afterLine

/-- The lines of a stream of bytes, each with the line feed that ends it. -/
def byteLines : List UInt8 → List (List UInt8)
  | [] => []
  | b :: rest =>
    if b = 10 then [b] :: byteLines rest
    else match byteLines rest with
      | [] => [[b]]
      | line :: lines => (b :: line) :: lines

/-- A line as text. -/
def textOf (line : List UInt8) : Except IoError String := TextFile.read (some ⟨line.toArray⟩)

/-- Follows a stream of bytes; with it comes the number of bytes taken. -/
def hearBytes (connected : Bool) (bytes : List UInt8) : Heard × Nat :=
  let lines := byteLines bytes
  let heard := hear connected (lines.map textOf)
  (heard, (lines.take heard.linesTaken).flatten.length)

end EarthStation.Operator
