import EarthStation.IoError

/-!
# Reading — what reads from a line bring

* `Wire.ReadEvent`: what a read can meet.
* `Wire.readSome`: one read.
* `Wire.readAvailable`: reads until a buffer is full or nothing more comes.
* `Wire.hex`, `Wire.ofHex?`: bytes as text.
-/

namespace EarthStation.Wire

abbrev Bytes := List UInt8

/-- What reads from a line meet, in order. -/
inductive ReadEvent where
  /-- Bytes that reads take from; what a read does not take stays for the next one. -/
  | chunk (bytes : Bytes)
  /-- A read that brings nothing. -/
  | eof
  | failure (cause : IoError)
deriving DecidableEq, Repr

/-- One read of at most `size` bytes.  With no event left the read times out. -/
def readSome (size : Nat) : List ReadEvent → Except IoError Bytes × List ReadEvent
  | [] => (.error (.ofKind .timedOut), [])
  | .chunk bytes :: rest =>
    if bytes.length ≤ size then (.ok bytes, rest)
    else (.ok (bytes.take size), .chunk (bytes.drop size) :: rest)
  | .eof :: rest => (.ok [], rest)
  | .failure cause :: rest => (.error cause, rest)

/-- What has been read, the failure that ended it if one did, and what is left. -/
structure Reading where
  bytes : Bytes
  failure : Option IoError
  rest : List ReadEvent
deriving DecidableEq, Repr

/-- Reads up to `size` bytes: until they are there, a read brings nothing or times out, or one fails.
Reads that are interrupted are repeated. -/
def readAvailable : (size : Nat) → List ReadEvent → Reading
  | 0, events => ⟨[], none, events⟩
  | _ + 1, [] => ⟨[], none, []⟩
  | size + 1, .chunk bytes :: rest =>
    if bytes.isEmpty then ⟨[], none, rest⟩
    else if bytes.length ≤ size + 1 then
      let r := readAvailable (size + 1 - bytes.length) rest
      { r with bytes := bytes ++ r.bytes }
    else ⟨bytes.take (size + 1), none, .chunk (bytes.drop (size + 1)) :: rest⟩
  | _ + 1, .eof :: rest => ⟨[], none, rest⟩
  | size + 1, .failure cause :: rest =>
    if cause.isTimeout then ⟨[], none, rest⟩
    else if cause.isInterrupted then readAvailable (size + 1) rest
    else ⟨[], some cause, rest⟩

def hexDigit (n : Nat) : Char := if n < 10 then Char.ofNat (48 + n) else Char.ofNat (55 + n)

/-- Two upper-case hexadecimal digits. -/
def hexByte (b : UInt8) : String :=
  String.ofList [hexDigit (b.toNat / 16), hexDigit (b.toNat % 16)]

/-- Pairs of hexadecimal digits with blanks between them. -/
def hex (bytes : Bytes) : String := String.intercalate " " (bytes.map hexByte)

/-- The value of a hexadecimal digit of either case. -/
def digitValue? (c : Char) : Option Nat :=
  if '0' ≤ c ∧ c ≤ '9' then some (c.toNat - 48)
  else if 'A' ≤ c ∧ c ≤ 'F' then some (c.toNat - 55)
  else if 'a' ≤ c ∧ c ≤ 'f' then some (c.toNat - 87)
  else none

/-- The bytes of pairs of hexadecimal digits. -/
def ofPairs? : List Char → Option Bytes
  | [] => some []
  | [_] => none
  | c :: d :: rest => do
    let high ← digitValue? c
    let low ← digitValue? d
    let bytes ← ofPairs? rest
    pure (UInt8.ofNat (16 * high + low) :: bytes)

/-- Reads bytes as text; blanks do not matter. -/
def ofHex? (s : String) : Option Bytes := ofPairs? (s.toList.filter fun c => c ≠ ' ')

end EarthStation.Wire
