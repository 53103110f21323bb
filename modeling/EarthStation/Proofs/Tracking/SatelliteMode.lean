import EarthStation.Proofs.Tracking.Tuning

/-!
# SatelliteMode — the radio enters the satellite mode once, and leaves it at the end

* `Radio.Record.switch?`, `Equipment.switches`, `Equipment.mode`: the calls for the satellite mode, and
  what the last one that has succeeded asked for.
* `Entered`, `entered_invariant`: the mode is asked for until the radio takes it, and never again.
* `shutdown_calls`: the end of a run makes one call to each device at most.
* `SatelliteModeLaw`, `satelliteMode_law`: the flag of the session tells the mode throughout, and the end
  of a run leaves the mode if it was entered.
-/

namespace EarthStation

/-- The call is for the satellite mode: whether to enter or to leave it, and whether that succeeded. -/
def Radio.Record.switch? {α : Type} : Record α → Option (Bool × Bool)
  | satelliteMode on done => some (on, done)
  | tune .. => none

namespace Tracking

open Radio (Record)

namespace Equipment

variable {α κ : Type}

/-- The calls for the satellite mode. -/
def switches (radio : Equipment (Taped κ (Record α))) : List (Bool × Bool) :=
  radio.calls.filterMap Record.switch?

/-- What the last call for the satellite mode that has succeeded asked for. -/
def mode (radio : Equipment (Taped κ (Record α))) : Option Bool :=
  (radio.switches.filter (·.2)).getLast?.map (·.1)

theorem switches_of_calls {radio radio' : Equipment (Taped κ (Record α))} {made : List (Record α)}
    (h : radio'.calls = radio.calls ++ made) :
    radio'.switches = radio.switches ++ made.filterMap Record.switch? := by
  unfold switches
  rw [h, List.filterMap_append]

/-- A call for the satellite mode is made just if the radio is there, and fails otherwise. -/
theorem calls_of_switch [Radio.Device κ α] (on : Bool) (radio : Equipment (Taped κ (Record α))) :
    let use := radio.use Radio.Fault.isDisconnect (Radio.Device.setSatelliteMode on)
    use.2.calls =
        radio.calls ++ (if radio.isAvailable then [.satelliteMode on use.1.isSome] else []) ∧
      (radio.isAvailable = false → use.1 = none) := by
  refine ⟨calls_of_use (fun answer => Record.satelliteMode on answer.isSome) rfl, fun ha => ?_⟩
  cases radio with
  | connected t => cases ha
  | absent => rfl
  | lost t => rfl

end Equipment

namespace Controller

variable {τ α ρ κ : Type}

/-! ## The mode is entered once -/

/-- Tuning a channel does not touch the satellite mode. -/
theorem switches_retuneIfSet [Scalar α] [Radio.Device κ α] (resolutionHz : α) (hz : Channel α → α)
    (channel : Option (Channel α)) (radio : Equipment (Taped κ (Record α))) :
    (retuneIfSet resolutionHz hz channel radio).2.switches = radio.switches := by
  rw [Equipment.switches_of_calls (retuneIfSet_spec resolutionHz hz channel radio).1]
  cases channel with
  | none => exact List.append_nil _
  | some channel =>
    dsimp only [Option.elim]
    unfold Channel.tuning
    split <;> exact List.append_nil _

/-- The satellite mode was asked for until the radio took it, and has not been called for since. -/
def Entered (c : Controller τ α ρ (Taped κ (Record α))) : Prop :=
  ∃ failed, c.radio.switches =
    List.replicate failed (true, false) ++ if c.session.satelliteMode then [(true, true)] else []

namespace Entered

variable {c d : Controller τ α ρ (Taped κ (Record α))}

theorem congr (h : Entered c) (hswitches : d.radio.switches = c.radio.switches)
    (hflag : d.session.satelliteMode = c.session.satelliteMode) : Entered d := by
  obtain ⟨failed, h⟩ := h
  exact ⟨failed, by rw [hswitches, hflag, h]⟩

variable [Radio.Device κ α]

theorem enterSatelliteMode (h : Entered c) : Entered (enterSatelliteMode c) := by
  unfold Controller.enterSatelliteMode
  cases hflag : c.session.satelliteMode with
  | true => exact h
  | false =>
    obtain ⟨hcalls, hfails⟩ := Equipment.calls_of_switch true c.radio
    have hswitches := Equipment.switches_of_calls hcalls
    obtain ⟨failed, h⟩ := h
    rw [h, hflag] at hswitches
    rcases hu : c.radio.use Radio.Fault.isDisconnect (Radio.Device.setSatelliteMode true) with
      ⟨answer, radio⟩
    rw [hu] at hswitches hfails
    cases ha : c.radio.isAvailable with
    | false =>
      obtain rfl : answer = none := hfails ha
      rw [ha] at hswitches
      exact ⟨failed, by simpa [Record.switch?] using hswitches⟩
    | true =>
      rw [ha] at hswitches
      cases answer with
      | none => exact ⟨failed + 1, by simpa [Record.switch?, List.replicate_succ'] using hswitches⟩
      | some done => exact ⟨failed, by simpa [Record.switch?] using hswitches⟩

theorem commandRadio [Scalar α] (h : Entered c) (rangeRateKmS : α) :
    Entered (commandRadio rangeRateKmS c) := by
  rw [commandRadio_eq]
  cases c.errand with
  | nothing => exact h
  | reference => exact h.congr (switches_retuneIfSet _ _ _ _) rfl
  | channels =>
    refine h.enterSatelliteMode.congr ?_ rfl
    exact (switches_retuneIfSet _ _ _ _).trans (switches_retuneIfSet _ _ _ _)

end Entered

/-- **The mode is entered once**: after every event it is either yet to be entered, or it has been by
the last call for it. -/
theorem entered_invariant [Scalar α] [Chronology τ] [Rotator.Device ρ α] [Radio.Device κ α] :
    Invariant (Entered : Controller τ α ρ (Taped κ (Record α)) → Prop) where
  withCredit h _ := h
  obey command h :=
    h.congr (congrArg Equipment.switches (obey_radio command _)) (obey_frame command _).satelliteMode
  looked _ h := h
  predicted _ _ _ h := h
  observed _ h := h
  commandRotator {c target} h _ := by
    have hsame := commandRotator_withoutRotator target c
    exact h.congr (congrArg (fun e => e.radio.switches) hsame)
      (congrArg (fun e => e.session.satelliteMode) hsame)
  commandRadio rangeRateKmS h := h.commandRadio rangeRateKmS

/-! ## The end of a run -/

/-- The calls of the end of a run: a stop for the rotator, and one call that leaves the satellite mode
if that was entered, each if the device is there. -/
theorem shutdown_calls [Rotator.Device ρ α] [Radio.Device κ α]
    (c : Controller τ α (Taped ρ (Rotator.Call α)) (Taped κ (Record α))) :
    (shutdown c).rotator.calls =
        c.rotator.calls ++ (if c.rotator.isAvailable then [.stop] else []) ∧
      ∃ done,
        (shutdown c).radio.calls = c.radio.calls ++
            (if c.session.satelliteMode && c.radio.isAvailable then [.satelliteMode false done]
              else []) ∧
          (shutdown c).session.satelliteMode =
            (c.session.satelliteMode && !(c.radio.isAvailable && done)) := by
  obtain ⟨hrotator, hradio, hflag⟩ := shutdown_spec c
  obtain ⟨hcalls, hfails⟩ := Equipment.calls_of_switch false c.radio
  rw [hrotator, hradio, hflag]
  refine ⟨Equipment.calls_of_use (fun _ => Rotator.Call.stop) rfl,
    (c.radio.use Radio.Fault.isDisconnect (Radio.Device.setSatelliteMode false)).1.isSome, ?_, ?_⟩
  · cases c.session.satelliteMode with
    | false => exact (List.append_nil _).symm
    | true => exact hcalls
  · cases ha : c.radio.isAvailable with
    | true => rfl
    | false =>
      rw [hfails ha]
      rfl

theorem Entered.mode_iff {c : Controller τ α ρ (Taped κ (Record α))} (h : Entered c) :
    c.session.satelliteMode = true ↔ c.radio.mode = some true := by
  obtain ⟨failed, h⟩ := h
  unfold Equipment.mode
  rw [h]
  cases c.session.satelliteMode <;> simp

/-- After the end of a run too the flag tells the mode. -/
theorem Entered.mode_shutdown_iff [Rotator.Device ρ α] [Radio.Device κ α]
    {c : Controller τ α (Taped ρ (Rotator.Call α)) (Taped κ (Record α))} (h : Entered c) :
    (shutdown c).session.satelliteMode = true ↔ (shutdown c).radio.mode = some true := by
  obtain ⟨-, done, hcalls, hflag⟩ := shutdown_calls c
  obtain ⟨failed, h⟩ := h
  have hswitches := Equipment.switches_of_calls hcalls
  rw [h] at hswitches
  unfold Equipment.mode
  rw [hflag, hswitches]
  cases c.session.satelliteMode <;> cases c.radio.isAvailable <;> cases done <;>
    simp [Record.switch?]

/-- What can be said of the satellite mode in a state of a run, and of the end of the run there. -/
structure SatelliteModeLaw [Rotator.Device ρ α] [Radio.Device κ α]
    (c : Controller τ α (Taped ρ (Rotator.Call α)) (Taped κ (Record α))) : Prop where
  /-- The flag is set just if the last call that has succeeded was to enter the mode. -/
  flag : c.session.satelliteMode = true ↔ c.radio.mode = some true
  once : c.radio.switches.count (true, true) ≤ 1
  /-- No call is made to leave the mode. -/
  kept : ∀ done, Record.satelliteMode false done ∉ c.radio.calls
  flag_shutdown : (shutdown c).session.satelliteMode = true ↔ (shutdown c).radio.mode = some true
  stop : (shutdown c).rotator.calls =
    c.rotator.calls ++ if c.rotator.isAvailable then [.stop] else []
  /-- The mode is left by one call just if it was entered and the radio is there.  If that has
  succeeded, another end of the run leaves the radio alone. -/
  release : ∃ done,
    (shutdown c).radio.calls = c.radio.calls ++
        (if c.session.satelliteMode && c.radio.isAvailable then [.satelliteMode false done] else []) ∧
      ((c.session.satelliteMode && c.radio.isAvailable) = true → done = true →
        (shutdown (shutdown c)).radio = (shutdown c).radio)

theorem Entered.law [Rotator.Device ρ α] [Radio.Device κ α]
    {c : Controller τ α (Taped ρ (Rotator.Call α)) (Taped κ (Record α))} (h : Entered c) :
    SatelliteModeLaw c := by
  obtain ⟨hstop, done, hcalls, hflag⟩ := shutdown_calls c
  refine ⟨h.mode_iff, ?_, fun done hmem => ?_, h.mode_shutdown_iff, hstop, done, hcalls,
    fun hdue hdone => ?_⟩
  · obtain ⟨failed, h⟩ := h
    rw [h]
    cases c.session.satelliteMode <;> simp [List.count_replicate]
  · obtain ⟨failed, h⟩ := h
    have hleft : (false, done) ∈ c.radio.switches :=
      List.mem_filterMap.mpr ⟨_, hmem, rfl⟩
    rw [h] at hleft
    cases hc : c.session.satelliteMode <;> simp [hc] at hleft
  · obtain ⟨hentered, ha⟩ := Bool.and_eq_true_iff.mp hdue
    rw [hentered, ha, hdone] at hflag
    rw [(shutdown_spec (shutdown c)).2.1, hflag]
    rfl

variable [Scalar α] [Timeline τ α] [Chronology τ] [Rotator.Device ρ α] [Radio.Device κ α]

/-- **The satellite mode is entered once and released.**  Whatever the commands, the ticks and the
answers of the devices were. -/
theorem satelliteMode_law (satellite : Ephemeris τ α) (settings : Settings α)
    (rotator : Equipment ρ) (radio : Equipment κ) (events : List (Event τ α)) :
    let c₀ : Controller τ α (Taped ρ (Rotator.Call α)) (Taped κ (Record α)) :=
      fresh satellite settings rotator.taped radio.taped
    SatelliteModeLaw (after events c₀) := by
  intro c₀
  have hfresh : Entered c₀ := by
    refine ⟨0, ?_⟩
    unfold Equipment.switches
    rw [show c₀.radio.calls = [] from Equipment.calls_taped radio]
    rfl
  exact (entered_invariant.after hfresh events).law

end Controller

end Tracking

end EarthStation
