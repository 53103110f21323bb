import EarthStation.Proofs.Tracking.Step
import EarthStation.Radio.Bench
import EarthStation.Rotator.Bench

/-!
# Atomicity — a step that fails leaves everything as it was

* `failed_step_atomic`: a failed step has made looks and nothing else; neither device was called.

The phase has already changed when the antenna is sent to a rise that lies ahead, so that a failure of
that look would leave half a step behind.  It cannot fail, because the search that found the rise has
made the same look.
-/

namespace EarthStation.Tracking.Controller

variable {τ ρ κ : Type} [Timeline τ Float] [Chronology τ] [Rotator.Device ρ Float]
  [Radio.Device κ Float]

/-- **A step that fails is atomic.**  The state is the one before it but for the number of looks, with
the session, the observation, the estimate, the channels and both devices as they were, and the
failure is that of the look at `now` or of the search, never that of the look at a rise ahead.  The
devices are arbitrary, also ones that keep every call, so none was called. -/
theorem failed_step_atomic (now : τ) (c : Controller τ Float ρ κ) {r : Refusal Float}
    (h : (step now c).1 = .error r) :
    (step now c).2 = { c with looks := (step now c).2.looks } ∧
      ∃ cause, r = .prediction cause ∧
        (c.satellite.observe now = .error cause ∨
          (Visibility.refinedMinutesToCrossing c.satellite now c.settings.horizonMinutes
            Visibility.coarseStep).result = .error cause) := by
  rcases step_cases now c with ⟨cause, n, hcause, hstep⟩ | ⟨o, minutes, target, n, -, -, -, hstep⟩
  · rw [hstep] at h ⊢
    simp only [Except.error.injEq] at h
    exact ⟨rfl, cause, h.symm, hcause⟩
  · rw [hstep] at h
    simp at h

/-- A satellite below the horizon that can be observed at one instant only. -/
def glimpse : Ephemeris Instant Float where
  name := "GLIMPSE"
  observe t := if t = ⟨0⟩ then .ok ⟨135, -30, 550, 6⟩ else .error (.propagation "decayed")

/-- A run on the bench that follows a pass. -/
def following : Controller Instant Float (Rotator.Bench Float) (Radio.Bench Float) :=
  let c := fresh glimpse .standard (.connected ⟨⟨0, 0⟩, false, [], []⟩) (.connected ⟨[], []⟩)
  { c with session := { c.session with phase := .tracking, repointInFlight := true } }

/-- The first look goes through and the search fails, in a phase that was about to change. -/
theorem failed_step_atomic_following :
    (step ⟨0⟩ following).1 = .error (.prediction (.propagation "decayed")) ∧
      (step ⟨0⟩ following).2 = { following with looks := (step ⟨0⟩ following).2.looks } :=
  have h : (step ⟨0⟩ following).1 = .error (.prediction (.propagation "decayed")) := rfl
  ⟨h, (failed_step_atomic ⟨0⟩ following h).1⟩

end EarthStation.Tracking.Controller
