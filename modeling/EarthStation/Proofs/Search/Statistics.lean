import EarthStation.Proofs.Visibility.Walk
import Mathlib.Data.Nat.Count
import Mathlib.Order.Bounds.Basic
import Mathlib.Tactic.IntervalCases

/-!
# Statistics — what a pass is told to be like

* `Pass.gathered`: what a sweep has gathered of its first samples.
* `Pass.Statistics`, `Pass.statistics_gathered`: times, maxima and the rise, told by the samples.
* `Pass.Course`: a sweep that is walked to its end.
* `Pass.characterize_closes`: a sweep ends at the loss of signal, at a failure or at the end of the day.
* `Pass.Closes.of_course`, `Pass.Closes.of_stillUp`, `Pass.Closes.failed_of_not`: which of these it is.
* `Pass.statistics_law`: a pass is told by the statistics of its course, just if it has one.
-/

namespace EarthStation.Pass

variable {e : Ephemeris ℝ ℝ} {rise step : ℝ} {obs : ℕ → Observation ℝ}

/-! ## One more sample -/

theorem add_up (s : Sweep ℝ ℝ) (step t : ℝ) {o : Observation ℝ} (h : 0 < o.elevationDeg) :
    s.add step t o =
      { summary :=
          { durationMinutes := s.summary.durationMinutes + step
            minutesAbove0 := s.summary.minutesAbove0 + step
            minutesAbove30 :=
              if 30 < o.elevationDeg then s.summary.minutesAbove30 + step
              else s.summary.minutesAbove30
            maxElevationDeg := max s.summary.maxElevationDeg o.elevationDeg
            maxAltitudeKm := max s.summary.maxAltitudeKm o.altitudeKm
            riseAzimuthDeg := if s.ascended then s.summary.riseAzimuthDeg else o.azimuthDeg
            riseTime := if s.ascended then s.summary.riseTime else t }
        ascended := true } := by
  have h' : ((0 : ℕ) : ℝ) < o.elevationDeg := by simpa using h
  refine (if_pos h').trans ?_
  unfold Sweep.addVisible
  dsimp only
  rw [highElevation_eq, scalarMax_eq, scalarMax_eq]

theorem add_low (s : Sweep ℝ ℝ) (step t : ℝ) {o : Observation ℝ} (h : o.elevationDeg ≤ 0) :
    s.add step t o =
      { s with
        summary :=
          { s.summary with
            durationMinutes := s.summary.durationMinutes + step
            maxElevationDeg := max s.summary.maxElevationDeg o.elevationDeg } } := by
  have h' : ¬ ((0 : ℕ) : ℝ) < o.elevationDeg := by simpa using h
  refine (if_neg h').trans ?_
  rw [scalarMax_eq]

/-- What a sweep has gathered of its first `k` samples. -/
noncomputable def gathered (obs : ℕ → Observation ℝ) (rise step : ℝ) : ℕ → Sweep ℝ ℝ
  | 0 => Sweep.start rise (obs 0)
  | k + 1 => (gathered obs rise step k).add step (rise + k * step) (obs k)

/-- It depends on these samples alone, and on the one at the rise. -/
theorem gathered_congr {obs' : ℕ → Observation ℝ} {n : ℕ} (h : ∀ k ≤ n, obs k = obs' k) :
    gathered obs rise step n = gathered obs' rise step n := by
  induction n with
  | zero => rw [gathered, gathered, h 0 le_rfl]
  | succ n ih =>
    rw [gathered, gathered, h n (Nat.le_succ n), ih fun k hk => h k (Nat.le_succ_of_le hk)]

/-! ## Statistics -/

/-- The first sample above the horizon. -/
def FirstUp (obs : ℕ → Observation ℝ) (j : ℕ) : Prop :=
  0 < (obs j).elevationDeg ∧ ∀ i < j, (obs i).elevationDeg ≤ 0

/-- What the samples in front of the `n`th say; the maxima take the sample at the rise into account from
the beginning. -/
structure Statistics (obs : ℕ → Observation ℝ) (rise step : ℝ) (n : ℕ) (s : Summary ℝ ℝ) : Prop where
  duration : s.durationMinutes = n * step
  above0 : s.minutesAbove0 = step * Nat.count (fun k => 0 < (obs k).elevationDeg) n
  above30 : s.minutesAbove30 = step * Nat.count (fun k => 30 < (obs k).elevationDeg) n
  highest : IsGreatest {h | ∃ i, (i = 0 ∨ i < n) ∧ h = (obs i).elevationDeg} s.maxElevationDeg
  farthest : IsGreatest {a | ∃ i, (i = 0 ∨ i < n ∧ 0 < (obs i).elevationDeg) ∧ a = (obs i).altitudeKm}
    s.maxAltitudeKm
  risen : (∃ j < n, FirstUp obs j ∧ s.riseTime = rise + j * step ∧
      s.riseAzimuthDeg = (obs j).azimuthDeg) ∨
    (∀ i < n, (obs i).elevationDeg ≤ 0) ∧ s.riseTime = rise ∧ s.riseAzimuthDeg = (obs 0).azimuthDeg

/-- The greatest of the values at some places, with one more place. -/
theorem greatest_insert {f : ℕ → ℝ} {P Q : ℕ → Prop} {k : ℕ} {x : ℝ}
    (hPQ : ∀ i, Q i ↔ P i ∨ i = k) (hx : IsGreatest {y | ∃ i, P i ∧ y = f i} x) :
    IsGreatest {y | ∃ i, Q i ∧ y = f i} (max x (f k)) := by
  have hset : {y | ∃ i, Q i ∧ y = f i} = insert (f k) {y | ∃ i, P i ∧ y = f i} := by
    ext y
    constructor
    · rintro ⟨i, hi, rfl⟩
      rcases (hPQ i).mp hi with hi | rfl
      · exact Or.inr ⟨i, hi, rfl⟩
      · exact Or.inl rfl
    · rintro (rfl | ⟨i, hi, rfl⟩)
      · exact ⟨k, (hPQ k).mpr (Or.inr rfl), rfl⟩
      · exact ⟨i, (hPQ i).mpr (Or.inl hi), rfl⟩
  rw [hset, max_comm]
  exact hx.insert (f k)

theorem FirstUp.unique {i j : ℕ} (hi : FirstUp obs i) (hj : FirstUp obs j) : i = j := by
  rcases lt_trichotomy i j with hlt | heq | hgt
  · exact absurd hi.1 (not_lt.mpr (hj.2 i hlt))
  · exact heq
  · exact absurd hj.1 (not_lt.mpr (hi.2 j hgt))

/-- The rise is the first sample above the horizon, if one of the samples is. -/
theorem Statistics.riseTime_eq {n j : ℕ} {s : Summary ℝ ℝ} (h : Statistics obs rise step n s)
    (hj : j < n) (hfirst : FirstUp obs j) : s.riseTime = rise + j * step := by
  rcases h.risen with ⟨i, -, hi, htime, -⟩ | ⟨hnone, -, -⟩
  · rw [htime, hi.unique hfirst]
  · exact absurd hfirst.1 (not_lt.mpr (hnone j hj))

section Gathered

variable (obs rise step) (n : ℕ)

theorem duration_gathered : (gathered obs rise step n).summary.durationMinutes = n * step := by
  induction n with
  | zero =>
    have h : (gathered obs rise step 0).summary.durationMinutes = ((0 : ℕ) : ℝ) := rfl
    rw [h, Nat.cast_zero, zero_mul]
  | succ n ih =>
    have h : (gathered obs rise step (n + 1)).summary.durationMinutes =
        (gathered obs rise step n).summary.durationMinutes + step := by
      rw [gathered]
      rcases lt_or_ge 0 (obs n).elevationDeg with hup | hlow
      · rw [add_up _ _ _ hup]
      · rw [add_low _ _ _ hlow]
    rw [h, ih]
    push_cast
    ring

theorem above0_gathered : (gathered obs rise step n).summary.minutesAbove0 =
    step * Nat.count (fun k => 0 < (obs k).elevationDeg) n := by
  induction n with
  | zero =>
    have h : (gathered obs rise step 0).summary.minutesAbove0 = ((0 : ℕ) : ℝ) := rfl
    rw [h, Nat.count_zero, Nat.cast_zero, mul_zero]
  | succ n ih =>
    rw [gathered, Nat.count_succ]
    rcases lt_or_ge 0 (obs n).elevationDeg with hup | hlow
    · rw [add_up _ _ _ hup, if_pos hup]
      dsimp only
      rw [ih]
      push_cast
      ring
    · rw [add_low _ _ _ hlow, if_neg (not_lt.mpr hlow)]
      exact ih

theorem above30_gathered : (gathered obs rise step n).summary.minutesAbove30 =
    step * Nat.count (fun k => 30 < (obs k).elevationDeg) n := by
  induction n with
  | zero =>
    have h : (gathered obs rise step 0).summary.minutesAbove30 = ((0 : ℕ) : ℝ) := rfl
    rw [h, Nat.count_zero, Nat.cast_zero, mul_zero]
  | succ n ih =>
    rw [gathered, Nat.count_succ]
    rcases lt_or_ge 0 (obs n).elevationDeg with hup | hlow
    · rw [add_up _ _ _ hup]
      dsimp only
      split
      · rw [ih]
        push_cast
        ring
      · exact ih
    · have hnot : ¬ 30 < (obs n).elevationDeg := by linarith
      rw [add_low _ _ _ hlow, if_neg hnot]
      exact ih

theorem highest_gathered :
    IsGreatest {h | ∃ i, (i = 0 ∨ i < n) ∧ h = (obs i).elevationDeg}
      (gathered obs rise step n).summary.maxElevationDeg := by
  induction n with
  | zero =>
    refine ⟨⟨0, Or.inl rfl, rfl⟩, ?_⟩
    rintro h ⟨i, rfl | hi, rfl⟩
    · exact le_rfl
    · exact absurd hi (Nat.not_lt_zero i)
  | succ n ih =>
    have h : (gathered obs rise step (n + 1)).summary.maxElevationDeg =
        max (gathered obs rise step n).summary.maxElevationDeg (obs n).elevationDeg := by
      rw [gathered]
      rcases lt_or_ge 0 (obs n).elevationDeg with hup | hlow
      · rw [add_up _ _ _ hup]
      · rw [add_low _ _ _ hlow]
    rw [h]
    exact greatest_insert (f := fun i => (obs i).elevationDeg) (fun i => by omega) ih

theorem farthest_gathered :
    IsGreatest {a | ∃ i, (i = 0 ∨ i < n ∧ 0 < (obs i).elevationDeg) ∧ a = (obs i).altitudeKm}
      (gathered obs rise step n).summary.maxAltitudeKm := by
  induction n with
  | zero =>
    refine ⟨⟨0, Or.inl rfl, rfl⟩, ?_⟩
    rintro a ⟨i, rfl | ⟨hi, -⟩, rfl⟩
    · exact le_rfl
    · exact absurd hi (Nat.not_lt_zero i)
  | succ n ih =>
    rw [gathered]
    rcases lt_or_ge 0 (obs n).elevationDeg with hup | hlow
    · rw [add_up _ _ _ hup]
      refine greatest_insert (f := fun i => (obs i).altitudeKm) (fun i => ?_) ih
      constructor
      · rintro (rfl | ⟨hi, hpos⟩)
        · exact Or.inl (Or.inl rfl)
        · rcases Nat.lt_succ_iff_lt_or_eq.mp hi with hi | rfl
          · exact Or.inl (Or.inr ⟨hi, hpos⟩)
          · exact Or.inr rfl
      · rintro ((rfl | ⟨hi, hpos⟩) | rfl)
        · exact Or.inl rfl
        · exact Or.inr ⟨Nat.lt_succ_of_lt hi, hpos⟩
        · exact Or.inr ⟨Nat.lt_succ_self i, hup⟩
    · rw [add_low _ _ _ hlow]
      have hsame (i : ℕ) : i < n + 1 ∧ 0 < (obs i).elevationDeg ↔
          i < n ∧ 0 < (obs i).elevationDeg := by
        constructor
        · rintro ⟨hi, hpos⟩
          rcases Nat.lt_succ_iff_lt_or_eq.mp hi with hi | rfl
          · exact ⟨hi, hpos⟩
          · exact absurd hpos (not_lt.mpr hlow)
        · exact fun h => ⟨Nat.lt_succ_of_lt h.1, h.2⟩
      simp only [hsame]
      exact ih

/-- Whether a sample was above the horizon yet is noted, and where the first one was. -/
theorem risen_gathered :
    ((gathered obs rise step n).ascended = true ∧ ∃ j < n, FirstUp obs j ∧
        (gathered obs rise step n).summary.riseTime = rise + j * step ∧
        (gathered obs rise step n).summary.riseAzimuthDeg = (obs j).azimuthDeg) ∨
      ((gathered obs rise step n).ascended = false ∧ (∀ i < n, (obs i).elevationDeg ≤ 0) ∧
        (gathered obs rise step n).summary.riseTime = rise ∧
        (gathered obs rise step n).summary.riseAzimuthDeg = (obs 0).azimuthDeg) := by
  induction n with
  | zero => exact Or.inr ⟨rfl, fun i hi => absurd hi (Nat.not_lt_zero i), rfl, rfl⟩
  | succ n ih =>
    rw [gathered]
    rcases lt_or_ge 0 (obs n).elevationDeg with hup | hlow
    · rw [add_up _ _ _ hup]
      refine Or.inl ⟨rfl, ?_⟩
      rcases ih with ⟨hrisen, j, hj, hfirst, htime, hazimuth⟩ | ⟨hnot, hnone, -, -⟩
      · exact ⟨j, Nat.lt_succ_of_lt hj, hfirst, (if_pos hrisen).trans htime,
          (if_pos hrisen).trans hazimuth⟩
      · exact ⟨n, Nat.lt_succ_self n, ⟨hup, hnone⟩, if_neg (by simp [hnot]), if_neg (by simp [hnot])⟩
    · rw [add_low _ _ _ hlow]
      rcases ih with ⟨hrisen, j, hj, hfirst⟩ | ⟨hnot, hnone, hrise⟩
      · exact Or.inl ⟨hrisen, j, Nat.lt_succ_of_lt hj, hfirst⟩
      · refine Or.inr ⟨hnot, fun i hi => ?_, hrise⟩
        rcases Nat.lt_succ_iff_lt_or_eq.mp hi with hi | rfl
        · exact hnone i hi
        · exact hlow

/-- **What is gathered of some samples are their statistics.** -/
theorem statistics_gathered : Statistics obs rise step n (gathered obs rise step n).summary where
  duration := duration_gathered rise step obs n
  above0 := above0_gathered rise step obs n
  above30 := above30_gathered rise step obs n
  highest := highest_gathered rise step obs n
  farthest := farthest_gathered rise step obs n
  risen := (risen_gathered rise step obs n).imp And.right And.right

end Gathered

/-- The higher a satellite is, the less time it spends there. -/
theorem Statistics.ordered {n : ℕ} {s : Summary ℝ ℝ} (h : Statistics obs rise step n s)
    (hstep : 0 < step) : s.minutesAbove30 ≤ s.minutesAbove0 ∧ s.minutesAbove0 ≤ s.durationMinutes := by
  rw [h.above30, h.above0, h.duration]
  constructor
  · refine mul_le_mul_of_nonneg_left ?_ hstep.le
    have hhigh (k : ℕ) (_ : k < n) (hk : 30 < (obs k).elevationDeg) : 0 < (obs k).elevationDeg := by
      linarith
    exact Nat.cast_le.mpr (Nat.count_mono_left hhigh)
  · rw [mul_comm]
    refine mul_le_mul_of_nonneg_right ?_ hstep.le
    exact Nat.cast_le.mpr (Nat.count_le _)

/-! ## The course of a pass -/

/-- A sweep of `n` steps, with what is seen at each sample: the satellite stays above the loss of
signal, falls to it in the end, and does so within the day. -/
structure Course (e : Ephemeris ℝ ℝ) (rise step : ℝ) (n : ℕ) (obs : ℕ → Observation ℝ) : Prop where
  seen : ∀ k ≤ n, e.observe (rise + k * step) = .ok (obs k)
  up : ∀ k < n, -5 < (obs k).elevationDeg
  lost : (obs n).elevationDeg ≤ -5
  day : n * step ≤ 1440

theorem sweepFrom_succ (e : Ephemeris ℝ ℝ) (rise step : ℝ) (fuel k : ℕ) (t : ℝ)
    (o : Observation ℝ) (s : Sweep ℝ ℝ) :
    sweepFrom e rise step (fuel + 1) k t o s =
      if lossElevation < o.elevationDeg then
        if longestSweep < (k + 1 : ℕ) * step then .error (.sweepIncomplete longestSweep)
        else do
          let o' ← e.observe (rise + (k + 1 : ℕ) * step)
          sweepFrom e rise step fuel (k + 1) (rise + (k + 1 : ℕ) * step) o' (s.add step t o)
      else .ok s.summary := rfl

/-- What is seen at the `k`th sample; only samples that can be had are of interest. -/
noncomputable def sampled (e : Ephemeris ℝ ℝ) (rise step : ℝ) (k : ℕ) : Observation ℝ :=
  match e.observe (rise + k * step) with
  | .ok o => o
  | .error _ => ⟨0, 0, 0, 0⟩

theorem sampled_eq {k : ℕ} {o : Observation ℝ} (ho : e.observe (rise + k * step) = .ok o) :
    sampled e rise step k = o := by
  unfold sampled
  rw [ho]

/-- At a sample the satellite is still above the loss of signal. -/
def StillUp (e : Ephemeris ℝ ℝ) (rise step : ℝ) (k : ℕ) : Prop := e.Seen (-5 < ·) (rise + k * step)

/-- How a sweep ends at its `n`th sample. -/
inductive Closes (e : Ephemeris ℝ ℝ) (rise step : ℝ) (n : ℕ) :
    Except (PredictionError ℝ) (Summary ℝ ℝ) → Prop where
  | lost (course : Course e rise step n (sampled e rise step)) :
      Closes e rise step n (.ok (gathered (sampled e rise step) rise step n).summary)
  | failed (cause : PredictionError ℝ) (unseen : e.observe (rise + n * step) = .error cause) :
      Closes e rise step n (.error cause)
  | endless (up : StillUp e rise step n) (long : 1440 < (n + 1 : ℕ) * step) :
      Closes e rise step n (.error (.sweepIncomplete 1440))

/-- **A sweep ends behind samples above the loss of signal.** -/
theorem sweepFrom_closes {fuel k : ℕ}
    (hseen : ∀ i ≤ k, e.observe (rise + i * step) = .ok (sampled e rise step i))
    (hup : ∀ i < k, -5 < (sampled e rise step i).elevationDeg) (hday : k * step ≤ 1440)
    (hfuel : 1440 < (k + fuel : ℕ) * step) :
    ∃ n : ℕ, n * step ≤ 1440 ∧ (∀ i < n, StillUp e rise step i) ∧ Closes e rise step n
      (sweepFrom e rise step fuel k (rise + k * step) (sampled e rise step k)
        (gathered (sampled e rise step) rise step k)) := by
  have hstill (i : ℕ) (hi : i < k) : StillUp e rise step i := ⟨_, hseen i hi.le, hup i hi⟩
  induction fuel generalizing k with
  | zero =>
    -- the fuel reaches past the end of the day, so that it is never what ends a sweep
    exact absurd hfuel (not_lt.mpr hday)
  | succ fuel ih =>
    rw [sweepFrom_succ, lossElevation_eq, longestSweep_eq]
    by_cases hhigh : -5 < (sampled e rise step k).elevationDeg
    · rw [if_pos hhigh]
      by_cases hlong : 1440 < (k + 1 : ℕ) * step
      · rw [if_pos hlong]
        exact ⟨k, hday, hstill, .endless ⟨_, hseen k le_rfl, hhigh⟩ hlong⟩
      · rw [if_neg hlong]
        have hup' (i : ℕ) (hi : i < k + 1) : -5 < (sampled e rise step i).elevationDeg := by
          rcases Nat.lt_succ_iff_lt_or_eq.mp hi with hi | rfl
          · exact hup i hi
          · exact hhigh
        have hstill' (i : ℕ) (hi : i < k + 1) : StillUp e rise step i :=
          ⟨_, hseen i (Nat.le_of_lt_succ hi), hup' i hi⟩
        cases ho : e.observe (rise + (k + 1 : ℕ) * step) with
        | error cause => exact ⟨k + 1, not_lt.mp hlong, hstill', .failed cause ho⟩
        | ok o =>
          obtain rfl := sampled_eq ho
          refine ih (fun i hi => ?_) hup' (not_lt.mp hlong) ?_ hstill'
          · rcases Nat.le_succ_iff.mp hi with hi | rfl
            · exact hseen i hi
            · exact ho
          · rwa [← Nat.succ_add_eq_add_succ] at hfuel
    · rw [if_neg hhigh]
      exact ⟨k, hday, hstill, .lost ⟨hseen, hup, not_lt.mp hhigh, hday⟩⟩

/-- **A sweep from the rise ends** at the loss of signal, at a failure, or because the day is over. -/
theorem characterize_closes (e : Ephemeris ℝ ℝ) (rise : ℝ) (hstep : 0 < step) :
    ∃ n : ℕ, n * step ≤ 1440 ∧ (∀ i < n, StillUp e rise step i) ∧
      Closes e rise step n (characterize e rise step) := by
  have hrise : rise + (0 : ℕ) * step = rise := by rw [Nat.cast_zero, zero_mul, add_zero]
  have hfuel : 1440 < (0 + Visibility.stepBound longestSweep step : ℕ) * step := by
    have hceil := Nat.le_ceil (1440 / step)
    rw [Visibility.stepBound_eq, longestSweep_eq, Nat.zero_add, ← div_lt_iff₀ hstep]
    push_cast
    linarith
  have hday : ((0 : ℕ) : ℝ) * step ≤ 1440 := by norm_num
  have hnone (i : ℕ) (hi : i < 0) : StillUp e rise step i := absurd hi (Nat.not_lt_zero i)
  unfold characterize
  rw [if_pos (by rw [isStep_eq, decide_eq_true hstep])]
  cases ho : e.observe rise with
  | error cause => exact ⟨0, hday, hnone, .failed cause (by rw [hrise, ho])⟩
  | ok first =>
    rw [← hrise] at ho
    have hzero := sampled_eq ho
    have hseen (i : ℕ) (hi : i ≤ 0) : e.observe (rise + i * step) = .ok (sampled e rise step i) := by
      obtain rfl := Nat.le_zero.mp hi
      rw [hzero, ho]
    have hcloses := sweepFrom_closes hseen (fun i hi => absurd hi (Nat.not_lt_zero i)) hday hfuel
    rw [hrise, gathered, hzero] at hcloses
    exact hcloses

section Ending

variable {n : ℕ} {answer : Except (PredictionError ℝ) (Summary ℝ ℝ)}
  (hcloses : Closes e rise step n answer)
include hcloses

/-- A sweep that is above the loss of signal in front of a sample of the day, but not at it, ends
there. -/
theorem Closes.eq_of_not_stillUp (hstep : 0 < step) {k : ℕ} (hup : ∀ i < n, StillUp e rise step i)
    (hday : k * step ≤ 1440) (hbefore : ∀ i < k, StillUp e rise step i)
    (hstop : ¬ StillUp e rise step k) : n = k := by
  rcases lt_trichotomy n k with hlt | heq | hgt
  · exfalso
    obtain ⟨o, ho, hhigh⟩ := hbefore n hlt
    cases hcloses with
    | lost course =>
      rw [← sampled_eq ho] at hhigh
      exact absurd hhigh (not_lt.mpr course.lost)
    | failed cause unseen => cases unseen.symm.trans ho
    | endless _ long =>
      have hle : ((n + 1 : ℕ) : ℝ) * step ≤ k * step :=
        mul_le_mul_of_nonneg_right (by exact_mod_cast hlt) hstep.le
      linarith
  · exact heq
  · exact absurd (hup k hgt) hstop

/-- A course is walked to its end, and told by its statistics. -/
theorem Closes.of_course (hstep : 0 < step) (hup : ∀ i < n, StillUp e rise step i) {k : ℕ}
    (hcourse : Course e rise step k obs) : ∃ s, answer = .ok s ∧ Statistics obs rise step k s := by
  have hstop : ¬ StillUp e rise step k := by
    rintro ⟨o, ho, hhigh⟩
    cases (hcourse.seen k le_rfl).symm.trans ho
    exact absurd hhigh (not_lt.mpr hcourse.lost)
  obtain rfl := hcloses.eq_of_not_stillUp hstep hup hcourse.day
    (fun i hi => ⟨_, hcourse.seen i hi.le, hcourse.up i hi⟩) hstop
  cases hcloses with
  | lost course =>
    refine ⟨_, rfl, ?_⟩
    rw [gathered_congr fun i hi => sampled_eq (hcourse.seen i hi)]
    exact statistics_gathered rise step obs n
  | failed cause unseen => cases unseen.symm.trans (hcourse.seen n le_rfl)
  | endless up _ => exact absurd up hstop

/-- A satellite that is still up where a sweep ends is given up. -/
theorem Closes.of_stillUp (hup : StillUp e rise step n) : answer = .error (.sweepIncomplete 1440) := by
  obtain ⟨o, ho, hhigh⟩ := hup
  cases hcloses with
  | lost course =>
    rw [← sampled_eq ho] at hhigh
    exact absurd hhigh (not_lt.mpr course.lost)
  | failed cause unseen => cases unseen.symm.trans ho
  | endless => rfl

/-- Without a course, a sweep ends at a failure unless the satellite is up all day. -/
theorem Closes.failed_of_not (hstep : 0 < step) (hup : ∀ i < n, StillUp e rise step i)
    (hnoCourse : ¬ ∃ n obs, Course e rise step n obs)
    (hnotAll : ¬ ∀ k : ℕ, k * step ≤ 1440 → StillUp e rise step k) :
    ∃ cause, e.observe (rise + n * step) = .error cause ∧ answer = .error cause := by
  cases hcloses with
  | lost course => exact absurd ⟨n, _, course⟩ hnoCourse
  | failed cause unseen => exact ⟨cause, unseen, rfl⟩
  | endless up long =>
    refine absurd (fun k hk => ?_) hnotAll
    rcases lt_trichotomy k n with hlt | rfl | hgt
    · exact hup k hlt
    · exact up
    · have hle : ((n + 1 : ℕ) : ℝ) * step ≤ k * step :=
        mul_le_mul_of_nonneg_right (by exact_mod_cast hgt) hstep.le
      linarith

end Ending

/-- What a sweep from the rise of a pass answers. -/
structure Answers (e : Ephemeris ℝ ℝ) (rise step : ℝ)
    (answer : Except (PredictionError ℝ) (Summary ℝ ℝ)) : Prop where
  /-- A pass that falls to the loss of signal within the day is told by its statistics. -/
  complete : ∀ n obs, Course e rise step n obs →
    ∃ s, answer = .ok s ∧ Statistics obs rise step n s
  /-- A satellite that is seen above it all day is given up. -/
  endless : (∀ k : ℕ, k * step ≤ 1440 → e.Seen (-5 < ·) (rise + k * step)) →
    answer = .error (.sweepIncomplete 1440)
  /-- In all other cases the first failure of an observation is answered. -/
  fails : (¬ ∃ n obs, Course e rise step n obs) →
    (¬ ∀ k : ℕ, k * step ≤ 1440 → e.Seen (-5 < ·) (rise + k * step)) →
      ∃ (k : ℕ) (cause : PredictionError ℝ), k * step ≤ 1440 ∧
        (∀ i < k, e.Seen (-5 < ·) (rise + i * step)) ∧
        e.observe (rise + k * step) = .error cause ∧ answer = .error cause
  ordered : ∀ s, answer = .ok s → s.minutesAbove30 ≤ s.minutesAbove0 ∧
    s.minutesAbove0 ≤ s.durationMinutes ∧ s.durationMinutes ≤ 1440

/-- **A pass is told by the statistics of its samples**, whatever the satellite does: those in front of
the first one at the loss of signal, if that comes within the day. -/
theorem statistics_law (e : Ephemeris ℝ ℝ) (rise : ℝ) {step : ℝ} (hstep : 0 < step) :
    Answers e rise step (characterize e rise step) := by
  obtain ⟨n, hday, hup, hcloses⟩ := characterize_closes e rise hstep
  generalize characterize e rise step = answer at hcloses
  refine ⟨fun k obs hcourse => ?_, fun hall => ?_, fun hnoCourse hnotAll => ?_, fun s hs => ?_⟩
  · exact hcloses.of_course hstep hup hcourse
  · exact hcloses.of_stillUp (hall n hday)
  · obtain ⟨cause, hunseen, hanswer⟩ := hcloses.failed_of_not hstep hup hnoCourse hnotAll
    exact ⟨n, cause, hday, hup, hunseen, hanswer⟩
  · cases hs
    cases hcloses with
    | lost course =>
      have hstatistics := statistics_gathered rise step (sampled e rise step) n
      obtain ⟨hhigh, hover⟩ := hstatistics.ordered hstep
      exact ⟨hhigh, hover, by rw [hstatistics.duration]; exact hday⟩

/-- A satellite minute by minute: it is above the horizon from minute 1 on, high for a minute, dips below
the horizon for another, and is lost at minute 5. -/
noncomputable def dipped (k : ℕ) : Observation ℝ where
  azimuthDeg := (100 + k : ℕ)
  elevationDeg := ([-2, 10, 35, -1, 8].getD k (-6) : ℤ)
  altitudeKm := ([500, 501, 502, 900, 504].getD k 505 : ℕ)
  rangeRateKmS := 0

noncomputable def dipping : Ephemeris ℝ ℝ where
  name := "DIPPING"
  observe t := .ok (dipped ⌊t⌋₊)

theorem course_dipping : Course dipping 0 1 5 dipped where
  seen k _ := by
    rw [zero_add, mul_one]
    exact congrArg (Except.ok ∘ dipped) (Nat.floor_natCast k)
  up k hk := by interval_cases k <;> norm_num [dipped]
  lost := by norm_num [dipped]
  day := by norm_num

theorem firstUp_dipped {j : ℕ} (hj : j < 5) (h : FirstUp dipped j) : j = 1 := by
  obtain ⟨hup, hlow⟩ := h
  interval_cases j
  · norm_num [dipped] at hup
  · rfl
  all_goals
    have hlate := hlow 1 (by norm_num)
    norm_num [dipped] at hlate

theorem highest_dipped :
    IsGreatest {h | ∃ i, (i = 0 ∨ i < 5) ∧ h = (dipped i).elevationDeg} 35 := by
  refine ⟨⟨2, Or.inr (by norm_num), by norm_num [dipped]⟩, ?_⟩
  rintro h ⟨i, hi, rfl⟩
  have hi' : i < 5 := by omega
  interval_cases i <;> norm_num [dipped]

/-- During the dip it is farther away. -/
theorem farthest_dipped :
    IsGreatest {a | ∃ i, (i = 0 ∨ i < 5 ∧ 0 < (dipped i).elevationDeg) ∧ a = (dipped i).altitudeKm}
      504 := by
  refine ⟨⟨4, Or.inr ⟨by norm_num, by norm_num [dipped]⟩, by norm_num [dipped]⟩, ?_⟩
  rintro a ⟨i, hi, rfl⟩
  have hdip : i ≠ 3 := by
    rintro rfl
    norm_num [dipped] at hi
  obtain rfl | rfl | rfl | rfl : i = 0 ∨ i = 1 ∨ i = 2 ∨ i = 4 := by omega
  all_goals norm_num [dipped]

/-- Its statistics leave out the minute of the dip, and the minute before it rises. -/
theorem statistics_law_dipping :
    (0 : ℝ) < 1 ∧ ∃ s, characterize dipping 0 1 = .ok s ∧ s.durationMinutes = 5 ∧
      s.minutesAbove0 = 3 ∧ s.minutesAbove30 = 1 ∧ s.maxElevationDeg = 35 ∧ s.maxAltitudeKm = 504 ∧
      s.riseTime = 1 ∧ s.riseAzimuthDeg = 101 := by
  obtain ⟨s, hs, hstatistics⟩ := (statistics_law dipping 0 one_pos).complete 5 dipped course_dipping
  refine ⟨one_pos, s, hs, ?_, ?_, ?_, hstatistics.highest.unique highest_dipped,
    hstatistics.farthest.unique farthest_dipped, ?_⟩
  · rw [hstatistics.duration]
    norm_num
  · rw [hstatistics.above0]
    norm_num [Nat.count_succ, dipped]
  · rw [hstatistics.above30]
    norm_num [Nat.count_succ, dipped]
  · rcases hstatistics.risen with ⟨j, hj, hfirst, htime, hazimuth⟩ | ⟨hnone, -, -⟩
    · obtain rfl := firstUp_dipped hj hfirst
      rw [htime, hazimuth]
      norm_num [dipped]
    · exact absurd (hnone 1 (by norm_num)) (by norm_num [dipped])

end EarthStation.Pass
