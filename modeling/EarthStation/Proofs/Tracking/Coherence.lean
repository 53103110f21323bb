import EarthStation.Proofs.Tracking.Reachable

/-!
# Coherence — the fields of a session agree with each other

* `Coherent`: when a session has an instant since which it cools down, what it may do while it is not
  engaged, and what a move in flight means.
* `coherent_invariant`: every part of a command and of a tick keeps that.
* `coherent_after`: it holds in every state of a run before its end.
-/

namespace EarthStation.Tracking

/-- A device that has answered is still there. -/
theorem Equipment.isAvailable_of_use {δ ε β : Type} {gone : ε → Bool} {step : Exchange δ ε β}
    {e e' : Equipment δ} {b : β} (h : e.use gone step = (some b, e')) : e'.isAvailable = true := by
  cases e with
  | absent => simp [use] at h
  | lost d => simp [use] at h
  | connected d =>
    dsimp only [use] at h
    split at h
    · obtain ⟨-, rfl⟩ := Prod.mk.inj h
      rfl
    · simp at h

namespace Controller

variable {τ α ρ κ : Type}

/-- The fields of the session agree with each other, with the settings and with the rotator. -/
structure Coherent (c : Controller τ α ρ κ) : Prop where
  idleSince : c.session.idleSince.isSome = true ↔ c.session.phase = .coolingDown
  disengaged : c.session.engaged = false →
    c.session.phase = .idle ∧ c.session.target = none ∧ c.session.repointInFlight = false
  inFlight : c.session.repointInFlight = true →
    c.session.engaged = true ∧ c.session.lastCommanded.isSome = true ∧
      c.rotator.isAvailable = true
  auxiliary : c.session.auxiliary = true → c.settings.auxiliary.isSome = true
  unlockedTicks : c.session.unlockedTicks ≤ max c.settings.lockoutTicks 1

namespace Coherent

theorem fresh (satellite : Ephemeris τ α) (settings : Settings α) (rotator : Equipment ρ)
    (radio : Equipment κ) : Coherent (fresh satellite settings rotator radio) where
  idleSince := by simp [Controller.fresh, Session.fresh]
  disengaged h := by simp [Controller.fresh, Session.fresh] at h
  inFlight h := by simp [Controller.fresh, Session.fresh] at h
  auxiliary h := by simp [Controller.fresh, Session.fresh] at h
  unlockedTicks := Nat.zero_le _

/-- The radio has no part in it. -/
theorem withoutRadio {c : Controller τ α ρ κ} : Coherent c.withoutRadio ↔ Coherent c :=
  ⟨fun h => { h with }, fun h => { h with }⟩

/-- A session that is disarmed rests. -/
theorem disarm {c : Controller τ α ρ κ} (h : Coherent c) (rotator : Equipment ρ)
    {s : Session τ α} (hauxiliary : s.auxiliary = c.session.auxiliary)
    (hticks : s.unlockedTicks = c.session.unlockedTicks) :
    Coherent { c with rotator, session := s.disarm } where
  idleSince := by simp [Session.disarm]
  disengaged _ := ⟨rfl, rfl, rfl⟩
  inFlight h' := by simp [Session.disarm] at h'
  auxiliary h' := h.auxiliary (hauxiliary.symm.trans h')
  unlockedTicks := hticks ▸ h.unlockedTicks

variable [Scalar α]

section Rotator

variable [Rotator.Device ρ α]

theorem obey {c : Controller τ α ρ κ} (h : Coherent c) (command : Command α) :
    Coherent (obey command c) := by
  cases command with
  | unlock => exact { h with unlockedTicks := Nat.le_refl _ }
  | start => exact { h with disengaged := nofun, inFlight := fun h' => ⟨rfl, (h.inFlight h').2⟩ }
  | stop =>
    unfold Controller.obey
    rcases c.rotator.use Rotator.Fault.isDisconnect Rotator.Device.stop with ⟨_ | _, rotator⟩
    · exact h.disarm rotator rfl rfl
    · exact h.disarm rotator rfl rfl
  | home =>
    unfold Controller.obey
    rcases c.rotator.use Rotator.Fault.isDisconnect (Rotator.Device.set Rotator.Position.home) with
      ⟨_ | _, rotator⟩
    · exact h.disarm rotator rfl rfl
    · exact h.disarm rotator rfl rfl
  | auxiliary =>
    unfold Controller.obey
    by_cases hset : c.settings.auxiliary.isSome = true
    · rw [if_pos hset]
      exact { h with auxiliary := fun _ => hset }
    · rw [if_neg hset]
      exact h
  | pin position => exact { h with }
  | unpin => exact { h with }

omit [Scalar α] [Rotator.Device ρ α] in
theorem noted {c : Controller τ α ρ κ} (h : Coherent c) {target : Option (Rotator.Position α)}
    (ht : c.session.engaged = false → target = none) : Coherent (c.noted target) :=
  { h with disengaged := fun hd => ⟨(h.disengaged hd).1, ht hd, (h.disengaged hd).2.2⟩ }

/-- A poll leaves a move in flight only if the rotator has answered. -/
theorem polled {c : Controller τ α ρ κ} (h : Coherent c)
    (hflight : c.session.repointInFlight = true) : Coherent c.polled := by
  obtain ⟨hengaged, hcommanded, -⟩ := h.inFlight hflight
  unfold Controller.polled
  rcases hu : c.rotator.use Rotator.Fault.isDisconnect Rotator.Device.status with ⟨_ | p, rotator⟩
  · exact { h with
      disengaged := fun hd => absurd (hengaged.symm.trans hd) (by simp)
      inFlight := nofun }
  · exact { h with
      disengaged := fun hd => absurd (hengaged.symm.trans hd) (by simp)
      inFlight := fun _ => ⟨hengaged, hcommanded, Equipment.isAvailable_of_use hu⟩ }

omit [Scalar α] in
/-- An order that succeeds sets a move in flight; one that fails can only happen at rest. -/
theorem sent {c : Controller τ α ρ κ} (h : Coherent c) (position : Rotator.Position α)
    (hrest : c.session.repointInFlight = false) (hengaged : c.session.engaged = true) :
    Coherent (c.sent position) := by
  unfold Controller.sent
  rcases hu : c.rotator.use Rotator.Fault.isDisconnect (Rotator.Device.set position) with
    ⟨_ | p, rotator⟩
  · exact { h with inFlight := fun h' => absurd (hrest.symm.trans h') (by simp) }
  · exact { h with
      disengaged := fun hd => absurd (hengaged.symm.trans hd) (by simp)
      inFlight := fun _ => ⟨hengaged, rfl, Equipment.isAvailable_of_use hu⟩ }

end Rotator

theorem predicted [Chronology τ] {c : Controller τ α ρ κ} (h : Coherent c) (now : τ)
    (o : Observation α) (minutes : Option α) : Coherent (predicted now o minutes c) where
  idleSince := by
    have hnow := h.idleSince
    dsimp only [Controller.predicted, Session.transition]
    by_cases hnext : c.session.nextPhase c.settings now o.elevationDeg minutes = .coolingDown
    · rw [if_pos hnext, hnext]
      by_cases hphase : c.session.phase = .coolingDown
      · rw [if_pos hphase]
        simpa [hphase] using hnow
      · simp [if_neg hphase]
    · simp [hnext]
  disengaged hd := by
    obtain ⟨-, htarget, hflight⟩ := h.disengaged hd
    have hnext : c.session.nextPhase c.settings now o.elevationDeg minutes = .idle := by
      unfold Session.nextPhase
      rw [show c.session.engaged = false from hd]
      rfl
    exact ⟨hnext, htarget, hflight⟩
  inFlight := h.inFlight
  auxiliary := h.auxiliary
  unlockedTicks := h.unlockedTicks

end Coherent

variable [Scalar α] [Chronology τ] [Rotator.Device ρ α] [Radio.Device κ α]

/-- **Every part of a command and of a tick keeps a session coherent.** -/
theorem coherent_invariant : Invariant (Coherent : Controller τ α ρ κ → Prop) where
  withCredit h hn := { h with unlockedTicks := Nat.le_trans hn h.unlockedTicks }
  obey command h := h.obey command
  looked n h := { h with }
  predicted now o minutes h := h.predicted now o minutes
  observed look h := { h with }
  commandRotator {c target} h ht := by
    have hnoted := h.noted ht
    rw [commandRotator_eq]
    cases hm : c.move target with
    | rest => exact hnoted
    | poll => exact hnoted.polled (repointInFlight_of_poll hm)
    | order position =>
      obtain ⟨hrest, rfl⟩ := of_order hm
      refine hnoted.sent position hrest ?_
      cases he : c.session.engaged with
      | true => exact he
      | false => exact absurd (ht he) (by simp)
  commandRadio {c} rangeRateKmS h := by
    rw [← Coherent.withoutRadio, commandRadio_withoutRadio]
    exact Coherent.withoutRadio.mpr h

/-- **The session of a run is coherent** in every state before its end, whatever the commands, the
instants of the ticks, the looks and the answers of the devices are: it has an instant since which it
cools down just while it cools down; while it is not engaged it is idle, without a target and without
a move in flight; a move in flight belongs to a run that is engaged, has an order and has its rotator;
the auxiliary frequency is used only if there is one; and an unlock lasts as long as configured, at
least for one tick. -/
theorem coherent_after [Timeline τ α] (satellite : Ephemeris τ α) (settings : Settings α)
    (rotator : Equipment ρ) (radio : Equipment κ) (events : List (Event τ α)) :
    Coherent (after events (fresh satellite settings rotator radio)) :=
  coherent_invariant.after (Coherent.fresh satellite settings rotator radio) events

end Controller

end EarthStation.Tracking
