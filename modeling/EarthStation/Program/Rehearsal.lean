import EarthStation.Operator
import EarthStation.Program.Launch
import EarthStation.Tracking.Desk

/-!
# Rehearsal — a command without hardware

* `Rehearsal.Stage`: what stands in for files, serial lines, recorder and operator.
* `Rehearsal.Event`: what happens around a run, in order.
* `Rehearsal.play`: the run that comes of some events.
* `Rehearsal.perform`: a whole command, and what can be seen of it afterwards.
-/

namespace EarthStation.Program.Rehearsal

open Tracking (Desk)
open Wire (Bytes FrameScript Line)

/-- What happens around a run. -/
inductive Event where
  /-- The operator types a text, which need not end a line. -/
  | typed (text : String)
  /-- Time passes until the devices have received so many frames. -/
  | frames (rotator radio : Nat)
  /-- Some time passes. -/
  | pause
  /-- The run is interrupted. -/
  | interrupt

/-- What stands in for the surroundings of a command. -/
structure Stage where
  disk : Disk
  /-- The serial line of a device with a given name, if there is one. -/
  line : String → Option (Line FrameScript)
  recorder : Capture.Recorder
  now : Instant
  events : List Event

/-! ## A run -/

abbrev Run := Plan.Run FrameScript

/-- A run as it goes on. -/
structure Play where
  desk : Desk Instant Float (RotatorLink FrameScript) (RadioLink FrameScript)
  now : Instant
  /-- The line that is being typed. -/
  line : List Char
  running : Bool

/-- The frames that a device on a line has received. -/
def received (line : Option (Line FrameScript)) : List Bytes :=
  match line with
  | some l => l.peer.received
  | none => []

def rotatorFrames (run : Run) : List Bytes := received (run.rotator.device?.map (·.line))

def radioFrames (run : Run) : List Bytes := received (run.radio.device?.map (·.line))

namespace Play

/-- One tick, and the time to the next one. -/
def tick (p : Play) : Play :=
  { p with
    desk := (Desk.tick p.now p.desk).2
    now := ⟨p.now.micros + p.desk.run.settings.tickNanos / 1000⟩ }

/-- Ticks until the devices have received so many frames, but at most `patience` times. -/
def await (rotator radio : Nat) : (patience : Nat) → Play → Play
  | 0, p => p
  | patience + 1, p =>
    if rotator ≤ (rotatorFrames p.desk.run).length ∧ radio ≤ (radioFrames p.desk.run).length then p
    else await rotator radio patience p.tick

/-- The complete lines of a text, and the one behind them that has only begun. -/
def completeLines : List Char → List (List Char) × List Char
  | [] => ([], [])
  | c :: cs =>
    let (lines, begun) := completeLines cs
    if c = '\n' then ([] :: lines, begun)
    else match lines with
      | [] => ([], c :: begun)
      | line :: lines => ((c :: line) :: lines, begun)

/-- Takes lines that were typed. -/
def hear (lines : List (List Char)) (p : Play) : Play :=
  let heard := Operator.hear true (lines.map fun line => .ok (String.ofList line))
  { p with
    desk := heard.commands.foldl (fun d c => d.queue c) p.desk
    running := heard.running }

/-- How many ticks are waited for a frame. -/
def patience : Nat := 1000

/-- Goes on with one event; nothing reaches a run that has ended. -/
def step (p : Play) (event : Event) : Play :=
  if !p.running then p
  else match event with
    | .typed text =>
      let (lines, begun) := completeLines (p.line ++ text.toList)
      hear lines { p with line := begun }
    | .frames rotator radio => p.await rotator radio patience
    | .pause => p.tick
    | .interrupt => { p with running := false }

end Play

/-- The run that comes of some events, with its end. -/
def play (run : Run) (now : Instant) (events : List Event) : Run :=
  (events.foldl Play.step ⟨.ofRun run, now, [], true⟩).desk.shutdown.run

/-! ## A command -/

/-- What can be seen of a command afterwards. -/
structure Report where
  output : String
  failure : Option Failure
  disk : Disk
  /-- The frames that the rotator received. -/
  rotator : List Bytes
  /-- The frames that the radio received. -/
  radio : List Bytes

/-- A command that used no devices. -/
def Report.ofResult (result : Except Failure String × Disk) : Report :=
  match result with
  | (.ok output, disk) => ⟨output, none, disk, [], []⟩
  | (.error failure, disk) => ⟨"", some failure, disk, [], []⟩

/-- The file in which the recorder leaves the words it was called with. -/
def argumentsFile : String := "arguments"

/-- The recording of a run, if one is asked for, and the files that it leaves. -/
def record (stage : Stage) (plan : Plan) (disk : Disk) : Except Capture.Fault Disk :=
  match plan.record with
  | none => .ok disk
  | some path =>
    (stage.recorder.start (disk.canHold path)).map fun outcome =>
      let c := plan.config.capture
      let words := Capture.recorderArguments c.device c.rateHz c.channels
      let disk := disk.put argumentsFile (String.join (words.map (· ++ "\n"))).toUTF8
      disk.put path ⟨outcome.storage.content.toArray⟩

/-- A run of the tracking. -/
def track (stage : Stage) (plan : Plan) (disk : Disk) : Report :=
  let line (name : String) : Except String (Line FrameScript) :=
    match stage.line name with
    | some line => .ok line
    | none => .error (IoError.systemText 2)
  let launch := plan.launch line
  let report (failure : Option Failure) (disk : Disk) (run : Run) : Report :=
    ⟨"", failure, disk, rotatorFrames run, radioFrames run⟩
  let run := plan.controller launch
  match launch.failure with
  | some failure => report (some failure) disk run
  | none =>
    match record stage plan disk with
    | .error fault => report (some (.capture fault)) disk run
    | .ok disk => report none disk (play run stage.now stage.events)

/-- The exit code of a command. -/
def Report.exitCode (r : Report) : Nat := if r.failure.isSome then 1 else 0

/-- A command and what can be seen of it afterwards. -/
def perform (stage : Stage) (i : CommandLine.Invocation) : Report :=
  match i.command with
  | .passes o => .ofResult ((passes Disk.files stage.now i.configPath o).run stage.disk)
  | .lifetime o => .ofResult ((lifetime Disk.files stage.now i.configPath o).run stage.disk)
  | .track o =>
    match (plan Disk.files stage.now i.configPath o).run stage.disk with
    | (.ok plan, disk) => track stage plan disk
    | (.error failure, disk) => .ofResult (.error failure, disk)

end EarthStation.Program.Rehearsal
