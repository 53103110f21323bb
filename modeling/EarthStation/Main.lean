import EarthStation.Operator
import EarthStation.Program.Launch
import EarthStation.Tracking.Desk
import Std.Time.DateTime.Timestamp

/-!
# Main — the command line

Reads files, the clock and what the operator types, runs a command and shows its outcome.  Serial
lines and the sound recorder are out of reach here: they count as missing.
-/

namespace EarthStation.Main

open Program (Disk Failure Files Step)
open Tracking (Command Desk)

/-- The number of a failure; some come negated. -/
def errorNumber (code : UInt32) : Nat := if code < 0x80000000 then code.toNat else (-code).toNat

/-- The cause of a failure as far as the system tells it. -/
def cause : IO.Error → IoError
  | .noFileOrDirectory _ code _ => .system (errorNumber code)
  | .permissionDenied _ code _ => .system (errorNumber code)
  | .inappropriateType _ code _ => .system (errorNumber code)
  | .noSuchThing _ code _ => .system (errorNumber code)
  | .alreadyExists _ code _ => .system (errorNumber code)
  | .resourceExhausted _ code _ => .system (errorNumber code)
  | .otherError code _ => .system (errorNumber code)
  | _ => .ofKind .other

/-- The outcome of an action on a file. -/
def attempt {β : Type} (action : IO β) : IO (Except IoError β) := do
  try
    let b ← action
    pure (.ok b)
  catch e => pure (.error (cause e))

/-- The files of the system. -/
def files : Files IO where
  read path := do
    let content ← attempt (IO.FS.readBinFile path)
    pure (content.bind fun bytes => TextFile.read (some bytes))
  write path text := attempt (IO.FS.writeFile path text)

def now : IO Instant := do
  let t ← Std.Time.Timestamp.now
  pure ⟨t.toNanosecondsSinceUnixEpoch.val / 1000⟩

/-- What the operator has typed and no tick has taken. -/
structure Typed where
  commands : List (Command Float)
  running : Bool

/-- Follows what the operator types to a request to quit or the end of the input. -/
partial def listen (input : IO.FS.Stream) (typed : IO.Ref Typed) : IO Unit := do
  let line ← input.getLine
  unless line.isEmpty do
    match Operator.Request.ofLine? line.toList with
    | none => listen input typed
    | some .quit => typed.modify fun t => { t with running := false }
    | some (.command c) =>
      typed.modify fun t => { t with commands := t.commands ++ [c] }
      listen input typed

abbrev Post :=
  Desk Instant Float (Program.RotatorLink Wire.Script) (Program.RadioLink Wire.Script)

/-- Ticks until the operator quits. -/
partial def keepTracking (typed : IO.Ref Typed) (d : Post) : IO Post := do
  let t ← typed.modifyGet fun t => (t, { t with commands := [] })
  if t.running then
    let (_, d) := Desk.tick (← now) (t.commands.foldl (fun d c => d.queue c) d)
    IO.sleep (UInt32.ofNat (d.run.settings.tickNanos / nanosPerMilli))
    keepTracking typed d
  else pure d.shutdown

/-- A run of the tracking. -/
def track (configPath : Option String) (o : CommandLine.TrackOptions) : Step IO Unit := do
  let plan ← Program.plan files (← now) configPath o
  let missing := IoError.systemText 2
  let launch : Program.Launch Wire.Script := plan.launch fun _ => .error missing
  match launch.failure, plan.record with
  | some failure, _ => throw failure
  | none, some _ => throw (.capture (.source .missingFile))
  | none, none => do
    let typed ← IO.mkRef ⟨[], true⟩
    let input ← IO.getStdin
    let _ ← (listen input typed).asTask
    let _ ← keepTracking typed (.ofRun (plan.controller launch))

/-- Runs a command. -/
def perform (i : CommandLine.Invocation) : Step IO Unit := do
  let output ← match i.command with
    | .passes o => Program.passes files (← now) i.configPath o
    | .lifetime o => Program.lifetime files (← now) i.configPath o
    | .track o => do
      track i.configPath o
      pure ""
  IO.print output

end EarthStation.Main

/-- Answers 0 after a command that succeeded, 1 after one that failed, and 2 where the words ask for
no command. -/
def main (words : List String) : IO UInt32 := do
  match EarthStation.CommandLine.Invocation.ofWords words with
  | .error refusal =>
    IO.eprintln refusal.message
    pure 2
  | .ok invocation =>
    match ← (EarthStation.Main.perform invocation).run with
    | .ok () => pure 0
    | .error failure =>
      IO.eprintln failure.line
      pure 1
