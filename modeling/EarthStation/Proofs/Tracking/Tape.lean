import EarthStation.Proofs.Tracking.Isolation

/-!
# Tape — calls to a device together with their answers

* `Taped.answered`: a call that is put on the tape with its answer.
* `Rotator.Record`, `Radio.Record`: a call with its answer.
* `Equipment.calls_of_use`: what a use of a device puts on its tape.
-/

namespace EarthStation

/-- A call to a rotator with its answer, which is `none` if the call has failed. -/
inductive Rotator.Record (α : Type) where
  | stop (answer : Option (Rotator.Position α))
  | status (answer : Option (Rotator.Position α))
  | set (target : Rotator.Position α) (answer : Option (Option (Rotator.Position α)))
deriving DecidableEq

/-- A call to a radio with its answer, or with whether it has succeeded. -/
inductive Radio.Record (α : Type) where
  | satelliteMode (on : Bool) (done : Bool)
  | tune (vfo : Radio.Vfo) (hz : α) (answer : Option α)
deriving DecidableEq

namespace Tracking

/-- A step on the device that is put on the tape with its answer. -/
def Taped.answered {δ γ ε β : Type} (entry : Option β → γ) (step : Exchange δ ε β) :
    Exchange (Taped δ γ) ε β := fun t =>
  let (answer, device) := step t.device
  (answer, ⟨device, t.calls ++ [entry answer.toOption]⟩)

instance {ρ α : Type} [Rotator.Device ρ α] : Rotator.Device (Taped ρ (Rotator.Record α)) α where
  stop := Taped.answered .stop Rotator.Device.stop
  status := Taped.answered .status Rotator.Device.status
  set target := Taped.answered (.set target) (Rotator.Device.set target)

instance {κ α : Type} [Radio.Device κ α] : Radio.Device (Taped κ (Radio.Record α)) α where
  setSatelliteMode on :=
    Taped.answered (fun answer => .satelliteMode on answer.isSome) (Radio.Device.setSatelliteMode on)
  tune vfo hz := Taped.answered (.tune vfo hz) (Radio.Device.tune vfo hz)

namespace Equipment

variable {δ γ ε β : Type}

@[simp] theorem calls_taped (e : Equipment δ) : (e.taped (γ := γ)).calls = [] := by
  cases e <;> rfl

/-- **A device that is there has each use on its tape**, and one that is not there is not used. -/
theorem calls_of_use (entry : Option β → γ) {gone : ε → Bool} {step : Exchange δ ε β}
    {e e' : Equipment (Taped δ γ)} {answer : Option β}
    (h : e.use gone (Taped.answered entry step) = (answer, e')) :
    e'.calls = e.calls ++ if e.isAvailable then [entry answer] else [] := by
  cases e with
  | absent =>
    obtain ⟨-, rfl⟩ := Prod.mk.inj h
    rfl
  | lost t =>
    obtain ⟨-, rfl⟩ := Prod.mk.inj h
    exact (List.append_nil _).symm
  | connected t =>
    dsimp only [use, Taped.answered] at h
    rcases hs : step t.device with ⟨_ | _, device⟩
    · rw [hs] at h
      obtain ⟨rfl, rfl⟩ := Prod.mk.inj h
      split <;> rfl
    · rw [hs] at h
      obtain ⟨rfl, rfl⟩ := Prod.mk.inj h
      rfl

/-- What is told from the calls follows each use, if a use that fails does not count. -/
theorem foldl_calls_of_use {σ : Type} {f : σ → γ → σ} (entry : Option β → γ) {gone : ε → Bool}
    {step : Exchange δ ε β} {e e' : Equipment (Taped δ γ)} {answer : Option β}
    (hfailed : ∀ s, f s (entry none) = s)
    (h : e.use gone (Taped.answered entry step) = (answer, e')) (s : σ) :
    e'.calls.foldl f s = f (e.calls.foldl f s) (entry answer) := by
  rw [calls_of_use entry h, List.foldl_append]
  cases e with
  | connected t => rfl
  | absent =>
    obtain ⟨rfl, -⟩ := Prod.mk.inj h
    exact (hfailed _).symm
  | lost t =>
    obtain ⟨rfl, -⟩ := Prod.mk.inj h
    exact (hfailed _).symm

/-- A device that is still there was there before. -/
theorem isAvailable_before_use {gone : ε → Bool} {step : Exchange δ ε β} {e e' : Equipment δ}
    {answer : Option β} (h : e.use gone step = (answer, e')) (h' : e'.isAvailable = true) :
    e.isAvailable = true := by
  cases e with
  | connected d => rfl
  | absent =>
    obtain ⟨-, rfl⟩ := Prod.mk.inj h
    exact h'
  | lost d =>
    obtain ⟨-, rfl⟩ := Prod.mk.inj h
    exact h'

end Equipment

end Tracking

end EarthStation
