import EarthStation.Tracking.Controller

/-!
# Desk — a run and what the operator has asked of it

* `Tracking.Desk`: a run with the commands that wait for its next tick.
* `Tracking.Desk.queue`, `Tracking.Desk.tick`: a command comes in, and a tick takes all of them.
* `Tracking.Desk.runUntil`: a whole run.
-/

namespace EarthStation.Tracking

/-- A run with the commands that wait for its next tick, the oldest first. -/
structure Desk (τ α ρ κ : Type) where
  run : Controller τ α ρ κ
  waiting : List (Command α)

namespace Desk

variable {τ α ρ κ : Type}

/-- A run that nothing was asked of yet. -/
def ofRun (run : Controller τ α ρ κ) : Desk τ α ρ κ := ⟨run, []⟩

def queue (command : Command α) (d : Desk τ α ρ κ) : Desk τ α ρ κ :=
  { d with waiting := d.waiting ++ [command] }

variable [Scalar α] [Rotator.Device ρ α]

/-- A command that does not wait. -/
def handle (command : Command α) : Exchange (Desk τ α ρ κ) (Refusal α) Unit := fun d =>
  let (result, run) := Controller.handle command d.run
  (result, { d with run })

variable [Timeline τ α] [Chronology τ] [Radio.Device κ α]

def tick (now : τ) : Exchange (Desk τ α ρ κ) (Refusal α) Unit := fun d =>
  let (report, run) := Controller.tick d.waiting now d.run
  (report.result, ⟨run, []⟩)

/-- Ticks at one instant until so many observations have been made in all, and the end of the run. -/
def runUntil (looks : Nat) (now : τ) (d : Desk τ α ρ κ) : Desk τ α ρ κ :=
  let runs (c : Controller τ α ρ κ) : Bool := decide (c.looks < looks)
  let ticks := (d.waiting, now) :: List.replicate looks ([], now)
  ⟨Controller.run runs ticks d.run, if runs d.run then [] else d.waiting⟩

omit [Scalar α] [Timeline τ α] [Chronology τ] in
def shutdown (d : Desk τ α ρ κ) : Desk τ α ρ κ := { d with run := d.run.shutdown }

end Desk

end EarthStation.Tracking
