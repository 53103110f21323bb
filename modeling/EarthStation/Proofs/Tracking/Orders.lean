import EarthStation.Proofs.Tracking.Reachable

/-!
# Orders — where the positions come from that the rotator is sent to

* `Controller.Sources`: every source of targets has only positions of some kind.
* `Controller.Sources.target`: then so has every target that a tick chooses.
* `RotatorKeeps`: a property of a rotator that it keeps while it is sent to such positions only.
* `Controller.ordered_invariant`: the sources and the rotator stay as they are, whatever else happens.
* `Controller.Ordered.after`, `Controller.Ordered.shutdown`: so it is throughout a run and at its end.
* `tape_keeps`: the tape of a rotator holds such positions only.
-/

namespace EarthStation.Tracking

open Rotator (Position)

/-! ## Rotators -/

/-- Holds if the device, connected or lost, has a property. -/
def Equipment.Holds {δ : Type} (Q : δ → Prop) (e : Equipment δ) : Prop := ∀ d, e.device? = some d → Q d

theorem Equipment.Holds.use {δ ε β : Type} {Q : δ → Prop} {e e' : Equipment δ} {gone : ε → Bool}
    {step : Exchange δ ε β} {answer : Option β} (h : e.Holds Q) (hstep : ∀ d, Q d → Q (step d).2)
    (hu : e.use gone step = (answer, e')) : e'.Holds Q := by
  cases e with
  | absent =>
    obtain ⟨-, rfl⟩ := Prod.mk.inj hu
    exact h
  | lost d =>
    obtain ⟨-, rfl⟩ := Prod.mk.inj hu
    exact h
  | connected d =>
    have hnext := hstep d (h d rfl)
    dsimp only [Equipment.use] at hu
    rcases hs : step d with ⟨_ | _, next⟩
    · rw [hs] at hu hnext
      obtain ⟨-, rfl⟩ := Prod.mk.inj hu
      intro d' hd'
      split at hd'
      · exact Option.some.inj hd' ▸ hnext
      · exact Option.some.inj hd' ▸ hnext
    · rw [hs] at hu hnext
      obtain ⟨-, rfl⟩ := Prod.mk.inj hu
      intro d' hd'
      exact Option.some.inj hd' ▸ hnext

/-- A property of a rotator that it keeps as long as it is sent to positions with `R` only. -/
structure RotatorKeeps {ρ α : Type} [Rotator.Device ρ α] (R : Position α → Prop) (Q : ρ → Prop) :
    Prop where
  stop : ∀ r, Q r → Q (Rotator.Device.stop r).2
  status : ∀ r, Q r → Q (Rotator.Device.status r).2
  set : ∀ p r, R p → Q r → Q (Rotator.Device.set p r).2

/-- Holds of a tape on which the rotator was sent to positions with `R` only. -/
def Taped.Ordered {ρ α : Type} (R : Position α → Prop) (t : Taped ρ (Rotator.Call α)) : Prop :=
  ∀ p, .set p ∈ t.calls → R p

theorem tape_keeps {ρ α : Type} [Rotator.Device ρ α] (R : Position α → Prop) :
    RotatorKeeps R (Taped.Ordered R : Taped ρ (Rotator.Call α) → Prop) where
  stop t h p hp := by
    have hcalls : Rotator.Call.set p ∈ t.calls ++ [.stop] := hp
    exact h p (by simpa using hcalls)
  status t h p hp := by
    have hcalls : Rotator.Call.set p ∈ t.calls ++ [.status] := hp
    exact h p (by simpa using hcalls)
  set p t hR h q hq := by
    have hcalls : Rotator.Call.set q ∈ t.calls ++ [.set p] := hq
    rcases List.mem_append.mp hcalls with hbefore | hnow
    · exact h q hbefore
    · simp only [List.mem_singleton, Rotator.Call.set.injEq] at hnow
      exact hnow ▸ hR

namespace Controller

variable {τ α ρ κ : Type} [Scalar α] {R : Position α → Prop}

/-! ## Targets -/

/-- Every source of targets has positions with `R` only: the directions in which the satellite is
seen, on the horizon and above it, the auxiliary position and the pinned one. -/
structure Sources (R : Position α → Prop) (c : Controller τ α ρ κ) : Prop where
  seen : ∀ t o, c.satellite.observe t = .ok o → ∀ last, R (follow o.azimuthDeg o.elevationDeg last)
  rising : ∀ t o, c.satellite.observe t = .ok o → ∀ last, R (follow o.azimuthDeg 0 last)
  auxiliary : ∀ a, c.settings.auxiliary = some a → R a.position
  pinned : ∀ p, c.session.pinned = some p → R p

/-- The other fields have no part in it. -/
theorem Sources.of_same {c d : Controller τ α ρ κ} (h : Sources R c)
    (hsatellite : d.satellite = c.satellite) (hsettings : d.settings = c.settings)
    (hpinned : d.session.pinned = c.session.pinned) : Sources R d where
  seen := hsatellite ▸ h.seen
  rising := hsatellite ▸ h.rising
  auxiliary := hsettings ▸ h.auxiliary
  pinned := hpinned ▸ h.pinned

/-- What the antenna is pointed by is a position from one of the sources. -/
theorem Sources.aim {c : Controller τ α ρ κ} (h : Sources R c) {now : τ} {o : Observation α}
    (ho : c.satellite.observe now = .ok o) {minutes : Option α} {p : Position α}
    (ha : c.aim o minutes = .position p) : R p := by
  unfold Controller.aim at ha
  cases he : c.session.engaged with
  | false =>
    rw [he] at ha
    cases ha
  | true =>
    simp only [he, Bool.not_true, Bool.false_eq_true, if_false] at ha
    have hchosen : ∀ a, (if c.session.auxiliary then c.settings.auxiliary else none) = some a →
        R a.position := by
      intro a hchosen
      split at hchosen
      · exact h.auxiliary a hchosen
      · cases hchosen
    generalize (if c.session.auxiliary then c.settings.auxiliary else none) = auxiliary at ha hchosen
    cases auxiliary with
    | some a =>
      cases ha
      exact hchosen a rfl
    | none =>
      cases hpinned : c.session.pinned with
      | some pinned =>
        rw [hpinned] at ha
        cases ha
        exact h.pinned _ hpinned
      | none =>
        cases hphase : c.session.phase with
        | idle => simp [hpinned, hphase] at ha
        | coolingDown => simp [hpinned, hphase] at ha
        | tracking =>
          simp only [hpinned, hphase, Aim.position.injEq] at ha
          exact ha ▸ h.seen now o ho _
        | armed =>
          have hrising := h.rising now o ho c.session.lastCommanded
          cases minutes with
          | none =>
            simp only [hpinned, hphase, Aim.position.injEq] at ha
            exact ha ▸ hrising
          | some m =>
            by_cases hm : 0 < m
            · simp [hpinned, hphase, if_pos hm] at ha
            · simp only [hpinned, hphase, if_neg hm, Aim.position.injEq] at ha
              exact ha ▸ hrising

/-- **A target that a tick chooses is a position from one of the sources.** -/
theorem Sources.target [Timeline τ α] {c : Controller τ α ρ κ} (h : Sources R c) {now : τ}
    {o : Observation α} (ho : c.satellite.observe now = .ok o) {minutes : Option α} {p : Position α}
    (ht : c.target now o minutes = .ok (some p)) : R p := by
  unfold Controller.target at ht
  cases ha : c.aim o minutes with
  | nothing =>
    rw [ha] at ht
    cases ht
  | position target =>
    rw [ha] at ht
    cases ht
    exact h.aim ho ha
  | rise m =>
    rw [ha] at ht
    cases hrise : c.satellite.observe (Timeline.later now m) with
    | error cause => simp [hrise, Except.map] at ht
    | ok rise =>
      simp only [hrise, Except.map, Except.ok.injEq, Option.some.injEq] at ht
      exact ht ▸ h.rising _ rise hrise _

/-! ## Runs -/

/-- The sources have positions with `R` only, and the rotator has a property. -/
structure Ordered (R : Position α → Prop) (Q : ρ → Prop) (c : Controller τ α ρ κ) : Prop where
  sources : Sources R c
  rotator : c.rotator.Holds Q

variable {Q : ρ → Prop}

namespace Ordered

theorem fresh {satellite : Ephemeris τ α} {settings : Settings α} {rotator : Equipment ρ}
    {radio : Equipment κ}
    (hseen : ∀ t o, satellite.observe t = .ok o → ∀ last, R (follow o.azimuthDeg o.elevationDeg last))
    (hrising : ∀ t o, satellite.observe t = .ok o → ∀ last, R (follow o.azimuthDeg 0 last))
    (hauxiliary : ∀ a, settings.auxiliary = some a → R a.position) (hrotator : rotator.Holds Q) :
    Ordered R Q (fresh satellite settings rotator radio) where
  sources := ⟨hseen, hrising, hauxiliary, nofun⟩
  rotator := hrotator

theorem of_same {c d : Controller τ α ρ κ} (h : Ordered R Q c)
    (hsatellite : d.satellite = c.satellite) (hsettings : d.settings = c.settings)
    (hpinned : d.session.pinned = c.session.pinned) (hrotator : d.rotator = c.rotator) :
    Ordered R Q d :=
  ⟨h.sources.of_same hsatellite hsettings hpinned, hrotator ▸ h.rotator⟩

variable [Rotator.Device ρ α] (hQ : RotatorKeeps R Q) {c : Controller τ α ρ κ}
include hQ

/-- A step on the rotator that it keeps its property through. -/
theorem polled (h : Ordered R Q c) : Ordered R Q c.polled := by
  unfold Controller.polled
  rcases hu : c.rotator.use Rotator.Fault.isDisconnect Rotator.Device.status with ⟨_ | _, rotator⟩
  · exact ⟨h.sources.of_same rfl rfl rfl, h.rotator.use hQ.status hu⟩
  · exact ⟨h.sources.of_same rfl rfl rfl, h.rotator.use hQ.status hu⟩

theorem sent (h : Ordered R Q c) {position : Position α} (hp : R position) :
    Ordered R Q (c.sent position) := by
  have hset := fun r => hQ.set position r hp
  unfold Controller.sent
  rcases hu : c.rotator.use Rotator.Fault.isDisconnect (Rotator.Device.set position) with
    ⟨_ | _, rotator⟩
  · exact ⟨h.sources.of_same rfl rfl rfl, h.rotator.use hset hu⟩
  · exact ⟨h.sources.of_same rfl rfl rfl, h.rotator.use hset hu⟩

theorem obey (hhome : R Position.home) (h : Ordered R Q c) {command : Command α}
    (hpin : ∀ p, command = .pin p → R p) : Ordered R Q (obey command c) := by
  cases command with
  | unlock => exact h.of_same rfl rfl rfl rfl
  | start => exact h.of_same rfl rfl rfl rfl
  | stop =>
    unfold Controller.obey
    rcases hu : c.rotator.use Rotator.Fault.isDisconnect Rotator.Device.stop with ⟨_ | _, rotator⟩
    · exact ⟨h.sources.of_same rfl rfl rfl, h.rotator.use hQ.stop hu⟩
    · exact ⟨h.sources.of_same rfl rfl rfl, h.rotator.use hQ.stop hu⟩
  | home =>
    have hset := fun r => hQ.set Position.home r hhome
    unfold Controller.obey
    rcases hu : c.rotator.use Rotator.Fault.isDisconnect (Rotator.Device.set Position.home) with
      ⟨_ | _, rotator⟩
    · exact ⟨h.sources.of_same rfl rfl rfl, h.rotator.use hset hu⟩
    · exact ⟨h.sources.of_same rfl rfl rfl, h.rotator.use hset hu⟩
  | auxiliary =>
    unfold Controller.obey
    dsimp only
    split
    · exact h.of_same rfl rfl rfl rfl
    · exact h
  | pin position =>
    refine ⟨⟨h.sources.seen, h.sources.rising, h.sources.auxiliary, fun p hp => ?_⟩, h.rotator⟩
    exact hpin p (congrArg Command.pin (Option.some.inj hp))
  | unpin => exact ⟨⟨h.sources.seen, h.sources.rising, h.sources.auxiliary, nofun⟩, h.rotator⟩

theorem shutdown [Radio.Device κ α] (h : Ordered R Q c) : Ordered R Q (shutdown c) := by
  unfold Controller.shutdown
  rcases hu : c.rotator.use Rotator.Fault.isDisconnect Rotator.Device.stop with ⟨_ | _, rotator⟩
  all_goals
    have hrotator := h.rotator.use hQ.stop hu
    dsimp only
    split
    · exact ⟨h.sources.of_same rfl rfl rfl, hrotator⟩
    · exact ⟨h.sources.of_same rfl rfl rfl, hrotator⟩

end Ordered

variable [Timeline τ α] [Chronology τ] [Rotator.Device ρ α] [Radio.Device κ α]

omit [Timeline τ α] [Chronology τ] [Rotator.Device ρ α] in
/-- The radio has no part in it. -/
theorem Ordered.commandRadio {c : Controller τ α ρ κ} (h : Ordered R Q c) (rangeRateKmS : α) :
    Ordered R Q (commandRadio rangeRateKmS c) := by
  have hsame := commandRadio_withoutRadio rangeRateKmS c
  exact h.of_same (congrArg (fun e => e.satellite) hsame) (congrArg (fun e => e.settings) hsame)
    (congrArg (fun e => e.session.pinned) hsame) (congrArg (fun e => e.rotator) hsame)

/-- **The sources stay as they are** through every tick and every command, as long as only positions
with `R` are pinned, and the rotator is sent to such positions only. -/
theorem ordered_invariant (hhome : R Position.home) (hQ : RotatorKeeps R Q) :
    InvariantUnder (fun command => ∀ p, command = .pin p → R p)
      (Ordered R Q : Controller τ α ρ κ → Prop) where
  withCredit h _ := h.of_same rfl rfl rfl rfl
  obey hpin h := h.obey hQ hhome hpin
  looked _ h := h.of_same rfl rfl rfl rfl
  predicted _ _ _ h := h.of_same rfl rfl rfl rfl
  observed _ h := h.of_same rfl rfl rfl rfl
  commandRotator {c now o minutes target} h ho ht := by
    have hnoted : Ordered R Q (c.noted target) := h.of_same rfl rfl rfl rfl
    rw [commandRotator_eq]
    cases hmove : c.move target with
    | rest => exact hnoted
    | poll => exact hnoted.polled hQ
    | order position =>
      obtain ⟨-, rfl⟩ := of_order hmove
      exact hnoted.sent hQ (h.sources.target ho ht)
  commandRadio rangeRateKmS h := h.commandRadio rangeRateKmS

end Controller

end EarthStation.Tracking
