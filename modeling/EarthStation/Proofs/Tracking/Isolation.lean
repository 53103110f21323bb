import EarthStation.Proofs.Tracking.Run
import EarthStation.Radio.Bench
import EarthStation.Rotator.Bench

/-!
# Isolation — neither device has a part in what the other is told

* `Taped`: a device with every call that was made to it.
* `withoutRotator`, `withoutRadio`: a run as it would be without one of its devices.
* `step_withoutRotator`, `step_withoutRadio`: a step does the same without it.
* `devices_isolated`: two runs that differ in one device make the same calls to the other.
-/

namespace EarthStation.Tracking

/-! ## Devices on tape -/

/-- A device with the calls that were made to it, oldest first. -/
structure Taped (δ γ : Type) where
  device : δ
  calls : List γ

/-- A step on the device that is put on the tape, whether it fails or not. -/
def Taped.call {δ γ ε β : Type} (entry : γ) (step : Exchange δ ε β) : Exchange (Taped δ γ) ε β :=
  fun t =>
    let (answer, device) := step t.device
    (answer, ⟨device, t.calls ++ [entry]⟩)

instance {ρ α : Type} [Rotator.Device ρ α] : Rotator.Device (Taped ρ (Rotator.Call α)) α where
  stop := Taped.call .stop Rotator.Device.stop
  status := Taped.call .status Rotator.Device.status
  set target := Taped.call (.set target) (Rotator.Device.set target)

instance {κ α : Type} [Radio.Device κ α] : Radio.Device (Taped κ (Radio.Call α)) α where
  setSatelliteMode on := Taped.call (.satelliteMode on) (Radio.Device.setSatelliteMode on)
  tune vfo hz := Taped.call (.tune vfo hz) (Radio.Device.tune vfo hz)

/-- A device whose calls are put on a tape from now on. -/
def Equipment.taped {δ γ : Type} : Equipment δ → Equipment (Taped δ γ)
  | absent => absent
  | connected d => connected ⟨d, []⟩
  | lost d => lost ⟨d, []⟩

/-- The calls that were made, also to a device that is lost by now. -/
def Equipment.calls {δ γ : Type} (e : Equipment (Taped δ γ)) : List γ :=
  e.device?.elim [] Taped.calls

/-! ## Runs without a device -/

/-- The device of a run that has none. -/
inductive Missing (α : Type)

instance {α : Type} : Rotator.Device (Missing α) α where
  stop := nofun
  status := nofun
  set _ := nofun

instance {α : Type} : Radio.Device (Missing α) α where
  setSatelliteMode _ := nofun
  tune _ _ := nofun

namespace Controller

variable {τ α ρ κ : Type}

/-- The run without its rotator and what it knows of it. -/
def withoutRotator (c : Controller τ α ρ κ) : Controller τ α (Missing α) κ :=
  { c with
    rotator := .absent
    session :=
      { c.session with
        target := none
        lastCommanded := none
        lastReported := none
        repointInFlight := false } }

/-- The run without its radio and what it knows of it. -/
def withoutRadio (c : Controller τ α ρ κ) : Controller τ α ρ (Missing α) :=
  { c with
    radio := .absent
    uplink := none
    downlink := none
    reference := none
    session := { c.session with satelliteMode := false } }

variable [Scalar α]

/-! ## The rotator taken away -/

/-- The rotator has a part in where the target lies, and none in whether it has to be looked for. -/
theorem aim_withoutRotator (o : Observation α) (minutes : Option α) (c : Controller τ α ρ κ) :
    (c.aim o minutes = .nothing ∧ c.withoutRotator.aim o minutes = .nothing) ∨
    (∃ p q, c.aim o minutes = .position p ∧ c.withoutRotator.aim o minutes = .position q) ∨
    (∃ m, c.aim o minutes = .rise m ∧ c.withoutRotator.aim o minutes = .rise m) := by
  unfold aim withoutRotator
  dsimp only
  split
  · exact Or.inl ⟨rfl, rfl⟩
  · generalize (if c.session.auxiliary then c.settings.auxiliary else none) = auxiliary
    cases auxiliary with
    | some auxiliary => exact Or.inr (Or.inl ⟨_, _, rfl, rfl⟩)
    | none =>
      cases c.session.pinned with
      | some pinned => exact Or.inr (Or.inl ⟨_, _, rfl, rfl⟩)
      | none =>
        cases c.session.phase with
        | tracking => exact Or.inr (Or.inl ⟨_, _, rfl, rfl⟩)
        | idle => exact Or.inl ⟨rfl, rfl⟩
        | coolingDown => exact Or.inl ⟨rfl, rfl⟩
        | armed =>
          cases minutes with
          | none => exact Or.inr (Or.inl ⟨_, _, rfl, rfl⟩)
          | some m =>
            by_cases hm : 0 < m
            · exact Or.inr (Or.inr ⟨m, if_pos hm, if_pos hm⟩)
            · exact Or.inr (Or.inl ⟨_, _, if_neg hm, if_neg hm⟩)

section Rotator

variable [Rotator.Device ρ α]

theorem commandRotator_withoutRotator (target : Option (Rotator.Position α))
    (c : Controller τ α ρ κ) : (commandRotator target c).withoutRotator = c.withoutRotator := by
  rw [commandRotator_eq]
  cases c.move target with
  | rest => rfl
  | poll =>
    dsimp only [polled]
    rcases (c.noted target).rotator.use Rotator.Fault.isDisconnect Rotator.Device.status with
      ⟨_ | _, _⟩ <;> rfl
  | order position =>
    dsimp only [sent]
    rcases (c.noted target).rotator.use Rotator.Fault.isDisconnect (Rotator.Device.set position) with
      ⟨_ | _, _⟩ <;> rfl

theorem obey_withoutRotator (command : Command α) (c : Controller τ α ρ κ) :
    (obey command c.withoutRotator).withoutRotator = (obey command c).withoutRotator := by
  cases command with
  | stop =>
    unfold obey
    rcases c.rotator.use Rotator.Fault.isDisconnect Rotator.Device.stop with ⟨_ | _, _⟩ <;> rfl
  | home =>
    unfold obey
    rcases c.rotator.use Rotator.Fault.isDisconnect (Rotator.Device.set Rotator.Position.home) with
      ⟨_ | _, _⟩ <;> rfl
  | auxiliary =>
    cases h : c.settings.auxiliary.isSome <;> simp [obey, withoutRotator, h]
  | _ => rfl

variable [Radio.Device κ α]

omit [Rotator.Device ρ α] in
theorem commandRadio_withoutRotator (rangeRateKmS : α) (c : Controller τ α ρ κ) :
    (commandRadio rangeRateKmS c).withoutRotator = commandRadio rangeRateKmS c.withoutRotator := by
  have hsame : c.withoutRotator.errand = c.errand := rfl
  have henter : (enterSatelliteMode c).withoutRotator = enterSatelliteMode c.withoutRotator := by
    unfold enterSatelliteMode
    cases h : c.session.satelliteMode <;> simp [withoutRotator, h]
  rw [commandRadio_eq, commandRadio_eq, hsame]
  cases c.errand with
  | nothing => rfl
  | reference => rfl
  | channels => exact congrArg (tuneChannels rangeRateKmS) henter

omit [Scalar α] in
theorem shutdown_withoutRotator (c : Controller τ α ρ κ) :
    (shutdown c.withoutRotator).withoutRotator = (shutdown c).withoutRotator := by
  unfold shutdown
  rcases c.rotator.use Rotator.Fault.isDisconnect Rotator.Device.stop with ⟨_ | _, _⟩ <;>
    cases h : c.session.satelliteMode <;> simp [withoutRotator, Equipment.use, h]

variable [Timeline τ α] [Chronology τ]

/-- **A step without the rotator** ends in the same way and does the same with the radio. -/
theorem step_withoutRotator (now : τ) (c : Controller τ α ρ κ) :
    (step now c.withoutRotator).1 = (step now c).1 ∧
      (step now c.withoutRotator).2.withoutRotator = (step now c).2.withoutRotator := by
  have hobserve : c.withoutRotator.satellite.observe now = c.satellite.observe now := rfl
  have hsearch : search now c.withoutRotator = search now c := rfl
  rw [step_eq, step_eq, hobserve, hsearch]
  cases c.satellite.observe now with
  | error cause => exact ⟨rfl, rfl⟩
  | ok o =>
    cases (search now c).result with
    | error cause => exact ⟨rfl, rfl⟩
    | ok minutes =>
      have hpredicted : predicted now o minutes c.withoutRotator =
          (predicted now o minutes c).withoutRotator := rfl
      -- with both targets at hand, the devices are commanded in the same way
      have hcommanded (n : Nat) (target target' : Option (Rotator.Position α)) :
          (commandRadio o.rangeRateKmS (commandRotator target'
            (seen now o minutes (c.withoutRotator.looked n)))).withoutRotator =
          (commandRadio o.rangeRateKmS (commandRotator target
            (seen now o minutes (c.looked n)))).withoutRotator := by
        rw [commandRadio_withoutRotator, commandRadio_withoutRotator,
          commandRotator_withoutRotator, commandRotator_withoutRotator]
        rfl
      dsimp only
      rw [hpredicted]
      simp only [looked_looked]
      unfold target
      rcases aim_withoutRotator o minutes (predicted now o minutes c) with
        ⟨ha, ha'⟩ | ⟨p, q, ha, ha'⟩ | ⟨m, ha, ha'⟩
      · rw [ha, ha']
        exact ⟨rfl, hcommanded _ _ _⟩
      · rw [ha, ha']
        exact ⟨rfl, hcommanded _ _ _⟩
      · rw [ha, ha']
        have hrise : (predicted now o minutes c).withoutRotator.satellite =
            (predicted now o minutes c).satellite := rfl
        dsimp only
        rw [hrise]
        cases (predicted now o minutes c).satellite.observe (Timeline.later now m) with
        | error cause => exact ⟨rfl, rfl⟩
        | ok rise => exact ⟨rfl, hcommanded _ _ _⟩

end Rotator

/-! ## The radio taken away -/

section Radio

variable [Radio.Device κ α]

theorem commandRadio_withoutRadio (rangeRateKmS : α) (c : Controller τ α ρ κ) :
    (commandRadio rangeRateKmS c).withoutRadio = c.withoutRadio := by
  have henter : (enterSatelliteMode c).withoutRadio = c.withoutRadio := by
    unfold enterSatelliteMode
    split <;> rfl
  rw [commandRadio_eq]
  cases c.errand with
  | nothing => rfl
  | reference => rfl
  | channels => exact henter

variable [Rotator.Device ρ α]

omit [Radio.Device κ α] in
theorem commandRotator_withoutRadio (target : Option (Rotator.Position α))
    (c : Controller τ α ρ κ) :
    (commandRotator target c).withoutRadio = commandRotator target c.withoutRadio := by
  have hsame : c.withoutRadio.move target = c.move target := rfl
  have hrotator : (c.withoutRadio.noted target).rotator = (c.noted target).rotator := rfl
  rw [commandRotator_eq, commandRotator_eq, hsame]
  cases c.move target with
  | rest => rfl
  | poll =>
    dsimp only [polled]
    rw [hrotator]
    rcases (c.noted target).rotator.use Rotator.Fault.isDisconnect Rotator.Device.status with
      ⟨_ | _, _⟩ <;> rfl
  | order position =>
    dsimp only [sent]
    rw [hrotator]
    rcases (c.noted target).rotator.use Rotator.Fault.isDisconnect (Rotator.Device.set position) with
      ⟨_ | _, _⟩ <;> rfl

omit [Radio.Device κ α] in
theorem obey_withoutRadio (command : Command α) (c : Controller τ α ρ κ) :
    (obey command c.withoutRadio).withoutRadio = (obey command c).withoutRadio := by
  cases command with
  | stop =>
    have hsame : c.withoutRadio.rotator = c.rotator := rfl
    unfold obey
    rw [hsame]
    rcases c.rotator.use Rotator.Fault.isDisconnect Rotator.Device.stop with ⟨_ | _, _⟩ <;> rfl
  | home =>
    have hsame : c.withoutRadio.rotator = c.rotator := rfl
    unfold obey
    rw [hsame]
    rcases c.rotator.use Rotator.Fault.isDisconnect (Rotator.Device.set Rotator.Position.home) with
      ⟨_ | _, _⟩ <;> rfl
  | auxiliary =>
    cases h : c.settings.auxiliary.isSome <;> simp [obey, withoutRadio, h]
  | _ => rfl

omit [Scalar α] in
theorem shutdown_withoutRadio (c : Controller τ α ρ κ) :
    (shutdown c.withoutRadio).withoutRadio = (shutdown c).withoutRadio := by
  have hsame : c.withoutRadio.rotator = c.rotator := rfl
  unfold shutdown
  rw [hsame]
  rcases c.rotator.use Rotator.Fault.isDisconnect Rotator.Device.stop with ⟨_ | _, _⟩ <;>
    cases h : c.session.satelliteMode <;> simp [withoutRadio, h]

variable [Timeline τ α] [Chronology τ]

/-- **A step without the radio** ends in the same way and does the same with the rotator. -/
theorem step_withoutRadio (now : τ) (c : Controller τ α ρ κ) :
    (step now c.withoutRadio).1 = (step now c).1 ∧
      (step now c.withoutRadio).2.withoutRadio = (step now c).2.withoutRadio := by
  have hobserve : c.withoutRadio.satellite.observe now = c.satellite.observe now := rfl
  have hsearch : search now c.withoutRadio = search now c := rfl
  rw [step_eq, step_eq, hobserve, hsearch]
  cases c.satellite.observe now with
  | error cause => exact ⟨rfl, rfl⟩
  | ok o =>
    cases (search now c).result with
    | error cause => exact ⟨rfl, rfl⟩
    | ok minutes =>
      have haim : (predicted now o minutes c.withoutRadio).aim o minutes =
          (predicted now o minutes c).aim o minutes := rfl
      have htarget : (predicted now o minutes c.withoutRadio).target now o minutes =
          (predicted now o minutes c).target now o minutes := rfl
      dsimp only
      rw [haim, htarget]
      cases (predicted now o minutes c).target now o minutes with
      | error cause => exact ⟨rfl, rfl⟩
      | ok target =>
        refine ⟨rfl, ?_⟩
        dsimp only
        rw [commandRadio_withoutRadio, commandRadio_withoutRadio, commandRotator_withoutRadio,
          commandRotator_withoutRadio]
        rfl

end Radio

/-! ## Two runs -/

section Runs

variable {ρ' κ' : Type} [Timeline τ α] [Chronology τ] [Rotator.Device ρ α] [Rotator.Device ρ' α]
  [Radio.Device κ α] [Radio.Device κ' α]

/-- Runs that are the same without their rotators stay so. -/
theorem bisimulation_withoutRotator :
    Bisimulation fun (c : Controller τ α ρ κ) (d : Controller τ α ρ' κ) =>
      c.withoutRotator = d.withoutRotator where
  unlockedTicks h := congrArg (fun e => e.session.unlockedTicks) h
  withCredit h n := congrArg (withCredit n) h
  obey h command := by rw [← obey_withoutRotator, h, obey_withoutRotator]
  step {c d} h now := by
    obtain ⟨hc, hc'⟩ := step_withoutRotator now c
    obtain ⟨hd, hd'⟩ := step_withoutRotator now d
    rw [← hc, ← hd, ← hc', ← hd', h]
    exact ⟨rfl, rfl⟩
  shutdown h := by rw [← shutdown_withoutRotator, h, shutdown_withoutRotator]

/-- Runs that are the same without their radios stay so. -/
theorem bisimulation_withoutRadio :
    Bisimulation fun (c : Controller τ α ρ κ) (d : Controller τ α ρ κ') =>
      c.withoutRadio = d.withoutRadio where
  unlockedTicks h := congrArg (fun e => e.session.unlockedTicks) h
  withCredit h n := congrArg (withCredit n) h
  obey h command := by rw [← obey_withoutRadio, h, obey_withoutRadio]
  step {c d} h now := by
    obtain ⟨hc, hc'⟩ := step_withoutRadio now c
    obtain ⟨hd, hd'⟩ := step_withoutRadio now d
    rw [← hc, ← hd, ← hc', ← hd', h]
    exact ⟨rfl, rfl⟩
  shutdown h := by rw [← shutdown_withoutRadio, h, shutdown_withoutRadio]

/-- What the radio sees of a run: the phase and the calls to it. -/
def radioView (c : Controller τ α ρ (Taped κ (Radio.Call α))) : Phase × List (Radio.Call α) :=
  (c.session.phase, c.radio.calls)

/-- What the rotator sees of a run: the phase and the calls to it. -/
def rotatorView (c : Controller τ α (Taped ρ (Rotator.Call α)) κ) : Phase × List (Rotator.Call α) :=
  (c.session.phase, c.rotator.calls)

/-- **The devices are isolated.**  Two runs with the same radio and any two rotators, or none, have the
same ticks: the same commands accepted, the same results, the same phases and the same calls to the
radio, to the end of the shutdown.  So have two runs with the same rotator and any two radios. -/
theorem devices_isolated (satellite : Ephemeris τ α) (settings : Settings α)
    (rotator : Equipment (Taped ρ (Rotator.Call α))) (rotator' : Equipment (Taped ρ' (Rotator.Call α)))
    (radio : Equipment (Taped κ (Radio.Call α))) (radio' : Equipment (Taped κ' (Radio.Call α)))
    (ticks : List (List (Command α) × τ)) :
    (transcript radioView ticks (fresh satellite settings rotator radio) =
        transcript radioView ticks (fresh satellite settings rotator' radio) ∧
      radioView (run (fun _ => true) ticks (fresh satellite settings rotator radio)) =
        radioView (run (fun _ => true) ticks (fresh satellite settings rotator' radio))) ∧
    (transcript rotatorView ticks (fresh satellite settings rotator radio) =
        transcript rotatorView ticks (fresh satellite settings rotator radio') ∧
      rotatorView (run (fun _ => true) ticks (fresh satellite settings rotator radio)) =
        rotatorView (run (fun _ => true) ticks (fresh satellite settings rotator radio'))) := by
  have hradio {c : Controller τ α (Taped ρ (Rotator.Call α)) (Taped κ (Radio.Call α))}
      {d : Controller τ α (Taped ρ' (Rotator.Call α)) (Taped κ (Radio.Call α))}
      (h : c.withoutRotator = d.withoutRotator) : radioView c = radioView d :=
    congrArg (fun e => (e.session.phase, e.radio.calls)) h
  have hrotator {c : Controller τ α (Taped ρ (Rotator.Call α)) (Taped κ (Radio.Call α))}
      {d : Controller τ α (Taped ρ (Rotator.Call α)) (Taped κ' (Radio.Call α))}
      (h : c.withoutRadio = d.withoutRadio) : rotatorView c = rotatorView d :=
    congrArg (fun e => (e.session.phase, e.rotator.calls)) h
  constructor
  · have hfresh : (fresh satellite settings rotator radio).withoutRotator =
        (fresh satellite settings rotator' radio).withoutRotator := rfl
    exact ⟨bisimulation_withoutRotator.transcript_eq hradio hfresh ticks,
      hradio (bisimulation_withoutRotator.run_related hfresh ticks)⟩
  · have hfresh : (fresh satellite settings rotator radio).withoutRadio =
        (fresh satellite settings rotator radio').withoutRadio := rfl
    exact ⟨bisimulation_withoutRadio.transcript_eq hrotator hfresh ticks,
      hrotator (bisimulation_withoutRadio.run_related hfresh ticks)⟩

end Runs

end Controller

end EarthStation.Tracking
