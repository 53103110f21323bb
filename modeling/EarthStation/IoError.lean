/-!
# IoError — why reading or writing failed

* `IoError`: a kind of failure, an error number of the system, or a text that is not one.
* `IoError.kind?`, `IoError.message`: its class and its wording.
* `IoError.isDisconnect`: whether it means that the device is gone.
-/

namespace EarthStation

/-- The classes of failures. -/
inductive IoKind where
  | brokenPipe
  | notConnected
  | connectionAborted
  | connectionReset
  | connectionRefused
  | notFound
  | permissionDenied
  | unexpectedEof
  | timedOut
  | interrupted
  | invalidData
  | invalidInput
  | wouldBlock
  | alreadyExists
  | addrInUse
  | writeZero
  | unsupported
  | outOfMemory
  | other
deriving DecidableEq, Repr

/-- All classes of failures. -/
def IoKind.all : List IoKind :=
  [brokenPipe, notConnected, connectionAborted, connectionReset, connectionRefused, notFound,
    permissionDenied, unexpectedEof, timedOut, interrupted, invalidData, invalidInput, wouldBlock,
    alreadyExists, addrInUse, writeZero, unsupported, outOfMemory, other]

def IoKind.message : IoKind → String
  | brokenPipe => "broken pipe"
  | notConnected => "not connected"
  | connectionAborted => "connection aborted"
  | connectionReset => "connection reset"
  | connectionRefused => "connection refused"
  | notFound => "entity not found"
  | permissionDenied => "permission denied"
  | unexpectedEof => "unexpected end of file"
  | timedOut => "timed out"
  | interrupted => "operation interrupted"
  | invalidData => "invalid data"
  | invalidInput => "invalid input parameter"
  | wouldBlock => "operation would block"
  | alreadyExists => "entity already exists"
  | addrInUse => "address in use"
  | writeZero => "write zero"
  | unsupported => "unsupported"
  | outOfMemory => "out of memory"
  | other => "other error"

/-- A failure of input or output. -/
inductive IoError where
  | ofKind (kind : IoKind)
  /-- An error number of the operating system. -/
  | system (number : Nat)
  /-- The bytes read are no text. -/
  | notText
deriving DecidableEq, Repr

namespace IoError

/-- The error number of a missing file. -/
def missingFile : IoError := system 2

/-- The class of a failure; some system errors have none of the classes above. -/
def kind? : IoError → Option IoKind
  | ofKind kind => some kind
  | notText => some .invalidData
  | system 1 => some .permissionDenied
  | system 2 => some .notFound
  | system 4 => some .interrupted
  | system 11 => some .wouldBlock
  | system 12 => some .outOfMemory
  | system 13 => some .permissionDenied
  | system 17 => some .alreadyExists
  | system 22 => some .invalidInput
  | system 32 => some .brokenPipe
  | system 98 => some .addrInUse
  | system 103 => some .connectionAborted
  | system 104 => some .connectionReset
  | system 107 => some .notConnected
  | system 110 => some .timedOut
  | system 111 => some .connectionRefused
  | system _ => none

/-- The text of a system error number. -/
def systemText : Nat → String
  | 1 => "Operation not permitted"
  | 2 => "No such file or directory"
  | 4 => "Interrupted system call"
  | 5 => "Input/output error"
  | 6 => "No such device or address"
  | 9 => "Bad file descriptor"
  | 11 => "Resource temporarily unavailable"
  | 12 => "Cannot allocate memory"
  | 13 => "Permission denied"
  | 16 => "Device or resource busy"
  | 17 => "File exists"
  | 19 => "No such device"
  | 20 => "Not a directory"
  | 21 => "Is a directory"
  | 22 => "Invalid argument"
  | 28 => "No space left on device"
  | 32 => "Broken pipe"
  | 98 => "Address already in use"
  | 103 => "Software caused connection abort"
  | 104 => "Connection reset by peer"
  | 107 => "Transport endpoint is not connected"
  | 110 => "Connection timed out"
  | 111 => "Connection refused"
  | n => "Unknown error " ++ toString n

def message : IoError → String
  | ofKind kind => kind.message
  | notText => "stream did not contain valid UTF-8"
  | system n => systemText n ++ " (os error " ++ toString n ++ ")"

def isTimeout (e : IoError) : Bool := e.kind? == some .timedOut

def isInterrupted (e : IoError) : Bool := e.kind? == some .interrupted

/-- Holds of failures that mean the device is gone rather than misbehaving. -/
def isDisconnect (e : IoError) : Bool :=
  (match e.kind? with
    | some .brokenPipe | some .notConnected | some .connectionAborted | some .connectionReset
    | some .notFound | some .permissionDenied | some .unexpectedEof => true
    | _ => false)
  || (match e with
    | system 5 | system 6 | system 19 => true
    | _ => false)

end IoError

end EarthStation
