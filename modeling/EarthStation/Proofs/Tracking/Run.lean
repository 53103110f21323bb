import EarthStation.Proofs.Tracking.Step

/-!
# Run — commands and ticks one after another

* `handle_eq`, `handle_cases`, `obey_frame`, `obey_unlockedTicks`: what a command does, what it leaves
  alone, and what becomes of the count of the unlock.
* `shutdown_spec`: what the end of a run does.
* `tick_eq`: a tick as commands, a step and the countdown.
* `transcript`: what is seen of a run, tick by tick.
* `Bisimulation`, `Bisimulation.transcript_eq`: a relation of states that commands and steps respect
  makes two runs look alike.
-/

namespace EarthStation.Tracking.Controller

variable {τ α ρ κ : Type}

/-- The state with another count of the unlock. -/
def withCredit (n : Nat) (c : Controller τ α ρ κ) : Controller τ α ρ κ :=
  { c with session := { c.session with unlockedTicks := n } }

variable [Scalar α] [Rotator.Device ρ α]

/-! ## Commands -/

theorem handle_eq (command : Command α) (c : Controller τ α ρ κ) :
    handle command c =
      if command.changesState then
        if c.session.unlockedTicks = 0 then (.error .locked, c)
        else (.ok (), obey command (c.withCredit 0))
      else (.ok (), obey command c) := rfl

/-- What a command does: nothing if it is refused, and otherwise what is due, whatever the unlock is
good for. -/
theorem handle_cases (command : Command α) (c : Controller τ α ρ κ) :
    handle command c = (.error .locked, c) ∨
      ∃ n ≤ c.session.unlockedTicks, handle command c = (.ok (), obey command (c.withCredit n)) := by
  rw [handle_eq]
  split
  · split
    · exact .inl rfl
    · exact .inr ⟨0, Nat.zero_le _, rfl⟩
  · exact .inr ⟨c.session.unlockedTicks, Nat.le_refl _, rfl⟩

/-- What no command touches is the same in two states. -/
structure SameSetup (c d : Controller τ α ρ κ) : Prop where
  satellite : d.satellite = c.satellite
  settings : d.settings = c.settings
  radio : d.radio = c.radio
  satelliteMode : d.session.satelliteMode = c.session.satelliteMode

theorem obey_frame (command : Command α) (c : Controller τ α ρ κ) : SameSetup c (obey command c) := by
  cases command with
  | stop =>
    unfold obey
    rcases c.rotator.use Rotator.Fault.isDisconnect Rotator.Device.stop with ⟨_ | _, _⟩ <;>
      exact ⟨rfl, rfl, rfl, rfl⟩
  | home =>
    unfold obey
    rcases c.rotator.use Rotator.Fault.isDisconnect (Rotator.Device.set Rotator.Position.home) with
      ⟨_ | _, _⟩ <;> exact ⟨rfl, rfl, rfl, rfl⟩
  | auxiliary =>
    unfold obey
    dsimp only
    split <;> exact ⟨rfl, rfl, rfl, rfl⟩
  | _ => exact ⟨rfl, rfl, rfl, rfl⟩

theorem obey_settings (command : Command α) (c : Controller τ α ρ κ) :
    (obey command c).settings = c.settings :=
  (obey_frame command c).settings

theorem obey_radio (command : Command α) (c : Controller τ α ρ κ) :
    (obey command c).radio = c.radio :=
  (obey_frame command c).radio

/-- Only an unlock touches the count. -/
theorem obey_unlockedTicks (command : Command α) (c : Controller τ α ρ κ) :
    (obey command c).session.unlockedTicks =
      if command.changesState then c.session.unlockedTicks else max c.settings.lockoutTicks 1 := by
  cases command with
  | stop =>
    unfold obey
    rcases c.rotator.use Rotator.Fault.isDisconnect Rotator.Device.stop with ⟨_ | _, _⟩ <;> rfl
  | home =>
    unfold obey
    rcases c.rotator.use Rotator.Fault.isDisconnect (Rotator.Device.set Rotator.Position.home) with
      ⟨_ | _, _⟩ <;> rfl
  | auxiliary => unfold obey; dsimp only; split <;> rfl
  | _ => rfl

omit [Scalar α] in
/-- The end of a run stops the rotator.  It calls the radio just if that was told to enter the satellite
mode, which counts as left just if the radio has answered. -/
theorem shutdown_spec [Radio.Device κ α] (c : Controller τ α ρ κ) :
    let left := c.radio.use Radio.Fault.isDisconnect (Radio.Device.setSatelliteMode false)
    (shutdown c).rotator = (c.rotator.use Rotator.Fault.isDisconnect Rotator.Device.stop).2 ∧
      (shutdown c).radio = (if c.session.satelliteMode then left.2 else c.radio) ∧
      (shutdown c).session.satelliteMode = (c.session.satelliteMode && !left.1.isSome) := by
  unfold shutdown
  rcases c.rotator.use Rotator.Fault.isDisconnect Rotator.Device.stop with ⟨_ | _, _⟩ <;>
    cases hmode : c.session.satelliteMode <;> simp [hmode]

theorem drain_cons (command : Command α) (rest : List (Command α)) (c : Controller τ α ρ κ) :
    drain (command :: rest) c =
      ((handle command c).1.isOk :: (drain rest (handle command c).2).1,
        (drain rest (handle command c).2).2) := rfl

/-! ## Ticks -/

variable [Timeline τ α] [Chronology τ] [Radio.Device κ α]

/-- A tick is the commands, a step, and one tick less for an unlock that is not fresh. -/
theorem tick_eq (commands : List (Command α)) (now : τ) (c : Controller τ α ρ κ) :
    tick commands now c =
      let d := drain commands c
      let s := step now d.2
      (⟨d.1, s.1⟩, if leavesUnlocked commands d.1 then s.2
        else s.2.withCredit (s.2.session.unlockedTicks - 1)) := rfl

/-- What is seen of a run: the report of each tick, with a view of the state after it. -/
def transcript {β : Type} (view : Controller τ α ρ κ → β) :
    List (List (Command α) × τ) → Controller τ α ρ κ → List (Report α × β)
  | [], _ => []
  | (commands, now) :: rest, c =>
    let (report, c) := tick commands now c
    (report, view c) :: transcript view rest c

theorem transcript_cons {β : Type} (view : Controller τ α ρ κ → β) (commands : List (Command α))
    (now : τ) (rest : List (List (Command α) × τ)) (c : Controller τ α ρ κ) :
    transcript view ((commands, now) :: rest) c =
      ((tick commands now c).1, view (tick commands now c).2) ::
        transcript view rest (tick commands now c).2 := rfl

/-! ## Runs that look alike -/

section Bisimulation

variable {ρ' κ' : Type} [Rotator.Device ρ' α] [Radio.Device κ' α]

/-- A relation of states that commands and steps respect, with the same results on both sides. -/
structure Bisimulation (R : Controller τ α ρ κ → Controller τ α ρ' κ' → Prop) : Prop where
  unlockedTicks : ∀ {c d}, R c d → c.session.unlockedTicks = d.session.unlockedTicks
  withCredit : ∀ {c d}, R c d → ∀ n, R (c.withCredit n) (d.withCredit n)
  obey : ∀ {c d}, R c d → ∀ command, R (obey command c) (obey command d)
  step : ∀ {c d}, R c d → ∀ now, (step now c).1 = (step now d).1 ∧ R (step now c).2 (step now d).2
  shutdown : ∀ {c d}, R c d → R (shutdown c) (shutdown d)

namespace Bisimulation

variable {R : Controller τ α ρ κ → Controller τ α ρ' κ' → Prop} (hR : Bisimulation R)
include hR

theorem handle_eq {c : Controller τ α ρ κ} {d : Controller τ α ρ' κ'} (h : R c d)
    (command : Command α) :
    (handle command c).1 = (handle command d).1 ∧ R (handle command c).2 (handle command d).2 := by
  rw [Controller.handle_eq, Controller.handle_eq, hR.unlockedTicks h]
  split
  · split
    · exact ⟨rfl, h⟩
    · exact ⟨rfl, hR.obey (hR.withCredit h 0) command⟩
  · exact ⟨rfl, hR.obey h command⟩

theorem drain_eq {c : Controller τ α ρ κ} {d : Controller τ α ρ' κ'} (h : R c d)
    (commands : List (Command α)) :
    (drain commands c).1 = (drain commands d).1 ∧ R (drain commands c).2 (drain commands d).2 := by
  induction commands generalizing c d with
  | nil => exact ⟨rfl, h⟩
  | cons command rest ih =>
    obtain ⟨hanswer, hnext⟩ := hR.handle_eq h command
    obtain ⟨haccepted, hlast⟩ := ih hnext
    rw [drain_cons, drain_cons]
    exact ⟨by rw [hanswer, haccepted], hlast⟩

theorem tick_eq {c : Controller τ α ρ κ} {d : Controller τ α ρ' κ'} (h : R c d)
    (commands : List (Command α)) (now : τ) :
    (tick commands now c).1 = (tick commands now d).1 ∧
      R (tick commands now c).2 (tick commands now d).2 := by
  obtain ⟨haccepted, hdrained⟩ := hR.drain_eq h commands
  obtain ⟨hresult, hstepped⟩ := hR.step hdrained now
  rw [Controller.tick_eq, Controller.tick_eq]
  dsimp only
  rw [haccepted, hresult, hR.unlockedTicks hstepped]
  refine ⟨rfl, ?_⟩
  split
  · exact hstepped
  · exact hR.withCredit hstepped _

/-- **Related runs look alike**, to every view that relates equal states. -/
theorem transcript_eq {β : Type} {view : Controller τ α ρ κ → β} {view' : Controller τ α ρ' κ' → β}
    (hview : ∀ {c d}, R c d → view c = view' d) {c : Controller τ α ρ κ}
    {d : Controller τ α ρ' κ'} (h : R c d) (ticks : List (List (Command α) × τ)) :
    transcript view ticks c = transcript view' ticks d := by
  induction ticks generalizing c d with
  | nil => rfl
  | cons tick rest ih =>
    obtain ⟨commands, now⟩ := tick
    obtain ⟨hreport, hnext⟩ := hR.tick_eq h commands now
    rw [transcript_cons, transcript_cons, hreport, hview hnext, ih hnext]

/-- Related runs end in related states, after the shutdown too. -/
theorem run_related {c : Controller τ α ρ κ} {d : Controller τ α ρ' κ'} (h : R c d)
    (ticks : List (List (Command α) × τ)) :
    R (run (fun _ => true) ticks c) (run (fun _ => true) ticks d) := by
  induction ticks generalizing c d with
  | nil => exact hR.shutdown h
  | cons tick rest ih => exact ih (hR.tick_eq h tick.1 tick.2).2

end Bisimulation

end Bisimulation

end EarthStation.Tracking.Controller
