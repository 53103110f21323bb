import EarthStation.Proofs.Tracking.Reachable

/-!
# Mirror — views of a rotator that show where it was sent

* `Mirrors`: a view of a rotator that shows the position that was set last.
* `Equipment.view_of_kept`, `Equipment.view_of_set`: what it shows of a device that may be lost.
* `mirrored_invariant`: the position that targets are compared with is what such a view shows.
-/

namespace EarthStation.Tracking

open Rotator (Position)

/-- A view of a rotator that shows the position that was set last, as the steps that succeed tell it. -/
structure Mirrors {ρ α : Type} [Rotator.Device ρ α] (view : ρ → Option (Position α)) : Prop where
  stop : ∀ r, view (Rotator.Device.stop r).2 = view r
  status : ∀ r, view (Rotator.Device.status r).2 = view r
  set : ∀ target r, view (Rotator.Device.set target r).2 =
    if (Rotator.Device.set target r).1.isOk then some target else view r

namespace Equipment

variable {δ ε β γ : Type}

/-- What a view shows of a device, also after it was lost. -/
def view (view : δ → Option γ) (e : Equipment δ) : Option γ := e.device?.bind view

variable {view : δ → Option γ} {gone : ε → Bool} {step : Exchange δ ε β} {e e' : Equipment δ}
  {answer : Option β}

theorem view_of_kept (hstep : ∀ d, view (step d).2 = view d) (h : e.use gone step = (answer, e')) :
    e'.view view = e.view view := by
  cases e with
  | connected d =>
    have hd := hstep d
    dsimp only [use] at h
    rcases hs : step d with ⟨fault | b, d'⟩
    · rw [hs] at h hd
      obtain ⟨-, rfl⟩ := Prod.mk.inj h
      split <;> exact hd
    · rw [hs] at h hd
      obtain ⟨-, rfl⟩ := Prod.mk.inj h
      exact hd
  | _ =>
    obtain ⟨-, rfl⟩ := Prod.mk.inj h
    rfl

theorem view_of_set {c : γ} (hstep : ∀ d, view (step d).2 = if (step d).1.isOk then some c else view d)
    (h : e.use gone step = (answer, e')) :
    e'.view view = if answer.isSome then some c else e.view view := by
  cases e with
  | connected d =>
    have hd := hstep d
    dsimp only [use] at h
    rcases hs : step d with ⟨fault | b, d'⟩
    · rw [hs] at h hd
      obtain ⟨rfl, rfl⟩ := Prod.mk.inj h
      split <;> exact hd
    · rw [hs] at h hd
      obtain ⟨rfl, rfl⟩ := Prod.mk.inj h
      exact hd
  | _ =>
    obtain ⟨rfl, rfl⟩ := Prod.mk.inj h
    rfl

end Equipment

namespace Controller

variable {τ α ρ κ : Type}

/-! ## The reference -/

/-- The position that targets are compared with is what the view shows. -/
def Mirrored (view : ρ → Option (Position α)) (c : Controller τ α ρ κ) : Prop :=
  c.session.lastCommanded = c.rotator.view view

namespace Mirrored

variable {view : ρ → Option (Position α)}

/-- The radio has no part in it. -/
theorem withoutRadio {c : Controller τ α ρ κ} : Mirrored view c.withoutRadio ↔ Mirrored view c :=
  Iff.rfl

variable [Rotator.Device ρ α] {c : Controller τ α ρ κ} (hview : Mirrors view)
include hview

theorem of_stop (h : Mirrored view c) {answer : Option (Position α)} {rotator : Equipment ρ}
    (hu : c.rotator.use Rotator.Fault.isDisconnect Rotator.Device.stop = (answer, rotator)) :
    c.session.lastCommanded = rotator.view view :=
  h.trans (Equipment.view_of_kept hview.stop hu).symm

/-- A position that is set is the new reference. -/
theorem of_set (h : Mirrored view c) {position : Position α} {answer : Option (Option (Position α))}
    {rotator : Equipment ρ}
    (hu : c.rotator.use Rotator.Fault.isDisconnect (Rotator.Device.set position) =
      (answer, rotator)) :
    (if answer.isSome then some position else c.session.lastCommanded) = rotator.view view := by
  rw [Equipment.view_of_set (hview.set position) hu, h]

theorem polled [Scalar α] (h : Mirrored view c) : Mirrored view c.polled := by
  unfold Controller.polled
  rcases hu : c.rotator.use Rotator.Fault.isDisconnect Rotator.Device.status with ⟨answer, rotator⟩
  have hsame : c.session.lastCommanded = rotator.view view :=
    h.trans (Equipment.view_of_kept hview.status hu).symm
  cases answer <;> exact hsame

theorem sent (h : Mirrored view c) (position : Position α) : Mirrored view (c.sent position) := by
  unfold Controller.sent
  rcases hu : c.rotator.use Rotator.Fault.isDisconnect (Rotator.Device.set position) with
    ⟨answer, rotator⟩
  have hset := h.of_set hview hu
  cases answer <;> exact hset

theorem obey [Scalar α] (h : Mirrored view c) (command : Command α) :
    Mirrored view (obey command c) := by
  cases command with
  | stop =>
    unfold Controller.obey
    rcases hu : c.rotator.use Rotator.Fault.isDisconnect Rotator.Device.stop with ⟨answer, rotator⟩
    have hstop := h.of_stop hview hu
    cases answer <;> exact hstop
  | home =>
    unfold Controller.obey
    rcases hu : c.rotator.use Rotator.Fault.isDisconnect (Rotator.Device.set Position.home) with
      ⟨answer, rotator⟩
    have hset := h.of_set hview hu
    cases answer <;> exact hset
  | auxiliary =>
    unfold Controller.obey
    dsimp only
    split <;> exact h
  | _ => exact h

theorem shutdown [Radio.Device κ α] (h : Mirrored view c) : Mirrored view (shutdown c) := by
  unfold Controller.shutdown
  rcases hu : c.rotator.use Rotator.Fault.isDisconnect Rotator.Device.stop with ⟨answer, rotator⟩
  have hstop := h.of_stop hview hu
  cases answer <;> dsimp only <;> split <;> exact hstop

end Mirrored

/-- **The reference is what the view shows**, through every part of a command and of a tick. -/
theorem mirrored_invariant [Scalar α] [Chronology τ] [Rotator.Device ρ α] [Radio.Device κ α]
    {view : ρ → Option (Position α)} (hview : Mirrors view) :
    Invariant (Mirrored view : Controller τ α ρ κ → Prop) where
  withCredit h _ := h
  obey command h := h.obey hview command
  looked _ h := h
  predicted _ _ _ h := h
  observed _ h := h
  commandRotator {c target} h _ := by
    have hnoted : Mirrored view (c.noted target) := h
    rw [commandRotator_eq]
    cases c.move target with
    | rest => exact hnoted
    | poll => exact hnoted.polled hview
    | order position => exact hnoted.sent hview position
  commandRadio {c} rangeRateKmS h := by
    rw [← Mirrored.withoutRadio, commandRadio_withoutRadio]
    exact h

end Controller

end EarthStation.Tracking
