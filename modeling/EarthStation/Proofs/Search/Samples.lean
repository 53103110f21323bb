import EarthStation.Proofs.Search.Sweep

/-!
# Samples — what the samples of a sweep say of its summary

* `Visibility.minutesToCrossing_lands`, `Visibility.refined_lands`: a rise ahead is closer than the
  horizon of the search, and the satellite was seen there, not below the horizon.
* `Pass.Walked`: the samples of a sweep, each above the loss of signal up to the last one.
* `Pass.characterize_walked`: a summary tells the statistics of a sweep that was walked to its end.
-/

namespace EarthStation

/-! ## Where a search ends -/

namespace Visibility

variable {e : Ephemeris ℝ ℝ} {start horizon step m : ℝ}

theorem minutesToCrossing_lands (hhorizon : 0 < horizon)
    (h : (minutesToCrossing e start horizon step).result = .ok (some m)) (hm : 0 ≤ m) :
    m < horizon ∧ ∃ o, e.observe (start + m) = .ok o ∧ 0 ≤ o.elevationDeg := by
  by_cases hstep : 0 < step
  · obtain ⟨first, hfirst, n, hn, -, hminutes, o, ho, hleaves⟩ := crossed_of_found hstep h
    rcases lt_or_ge first.elevationDeg 0 with hbelow | hup
    · rw [ofElevation_of_neg hbelow, stays_forward_eq] at hleaves
      rw [ofElevation_of_neg hbelow, minutes_forward_eq] at hminutes
      refine ⟨?_, o, ho, by simpa using hleaves⟩
      rcases hn with rfl | hnear
      · simpa [hminutes] using hhorizon
      · rwa [hminutes]
    · -- a walk back from the start that does not lead behind it has not begun
      rw [ofElevation_of_nonneg hup, minutes_backward_eq] at hminutes
      have hback : 0 ≤ (n : ℝ) * step := by positivity
      have hzero : m = 0 := by linarith
      rw [hzero, add_zero]
      exact ⟨hhorizon, first, hfirst, hup⟩
  · unfold minutesToCrossing at h
    rw [if_neg (by simpa [isStep_eq] using hstep)] at h
    cases h

/-- **A rise ahead was seen**, closer than the horizon of the search. -/
theorem refined_lands (hhorizon : 0 < horizon)
    (h : (refinedMinutesToCrossing e start horizon step).result = .ok (some m)) (hm : 0 ≤ m) :
    m < horizon ∧ ∃ o, e.observe (start + m) = .ok o ∧ 0 ≤ o.elevationDeg := by
  obtain ⟨grid, hgrid⟩ := refinedMinutesToCrossing_origin h
  exact minutesToCrossing_lands hhorizon hgrid hm

end Visibility

namespace Pass

variable {e : Ephemeris ℝ ℝ} {rise : ℝ}

/-! ## Samples -/

/-- A sweep of `n` quarters of a minute, with what is seen at each: the satellite stays above the loss
of signal, falls to it in the end, and does so within the day. -/
structure Walked (e : Ephemeris ℝ ℝ) (rise : ℝ) (n : ℕ) (obs : ℕ → Observation ℝ) : Prop where
  seen : ∀ k ≤ n, e.observe (rise + k * (1 / 4)) = .ok (obs k)
  up : ∀ k < n, -5 < (obs k).elevationDeg
  lost : (obs n).elevationDeg ≤ -5
  day : (n : ℝ) * (1 / 4) ≤ 1440

theorem Course.walked {n : ℕ} {obs : ℕ → Observation ℝ} (h : Course e rise (1 / 4) n obs) :
    Walked e rise n obs :=
  ⟨h.seen, h.up, h.lost, h.day⟩

/-- **A summary tells the statistics of a sweep that was walked to its end.** -/
theorem characterize_walked {summary : Summary ℝ ℝ}
    (h : characterize e rise sweepStep = .ok summary) :
    ∃ n obs, Walked e rise n obs ∧ Statistics obs rise (1 / 4) n summary := by
  rw [sweepStep_eq] at h
  obtain ⟨n, -, -, hcloses⟩ := characterize_closes e rise (by norm_num : (0 : ℝ) < 1 / 4)
  rw [h] at hcloses
  cases hcloses with
  | lost course => exact ⟨n, _, course.walked, statistics_gathered rise (1 / 4) _ n⟩

/-- Time above the horizon was counted at a sample there. -/
theorem Statistics.firstUp {obs : ℕ → Observation ℝ} {step : ℝ} {n : ℕ} {s : Summary ℝ ℝ}
    (h : Statistics obs rise step n s) (hlit : 0 < s.minutesAbove0) :
    ∃ j < n, FirstUp obs j ∧ s.riseTime = rise + j * step ∧
      s.riseAzimuthDeg = (obs j).azimuthDeg := by
  rcases h.risen with hrisen | ⟨hlow, -, -⟩
  · exact hrisen
  · rw [h.above0, Nat.count_iff_forall_not.mpr fun i hi => not_lt.mpr (hlow i hi), Nat.cast_zero,
      mul_zero] at hlit
    exact absurd hlit (lt_irrefl 0)

end Pass

end EarthStation
