import EarthStation.Proofs.Search.Statistics
import EarthStation.Proofs.Visibility.Crossing

/-!
# Sweep — a pass walked from its rise to its end

* `Pass.upcoming_inv`: what is behind a rise that comes.
* `Pass.Lit`: what is known of a summary once a sample was above the horizon.
* `Pass.characterize_lit`: a pass of less than a day is walked to its end.
* `Pass.next_of_none`, `Pass.next_of_neg`, `Pass.next_of_nonneg`: the next pass from the minutes to the
  crossing.
-/

namespace EarthStation.Pass

/-! ## What is behind an answer -/

section Answer

variable {τ α : Type} [Scalar α] [Timeline τ α] {e : Ephemeris τ α} {start : τ} {horizon step m : α}

/-- There is an answer only where the search has one. -/
theorem search_of_next {answer : Next τ α} (h : next e start horizon step = .ok answer) :
    ∃ found, (Visibility.refinedMinutesToCrossing e start horizon step).result = .ok found := by
  unfold next at h
  cases hresult : (Visibility.refinedMinutesToCrossing e start horizon step).result with
  | error cause =>
    rw [hresult] at h
    cases h
  | ok found => exact ⟨found, rfl⟩

/-- A rise that comes was found, is not behind, and was walked to its end. -/
theorem upcoming_inv {summary : Summary τ α}
    (h : next e start horizon step = .ok (.upcoming m summary)) :
    (Visibility.refinedMinutesToCrossing e start horizon step).result = .ok (some m) ∧ ¬ m < 0 ∧
      characterize e (Timeline.later start m) sweepStep = .ok summary := by
  obtain ⟨found, hresult⟩ := search_of_next h
  unfold next at h
  rw [hresult] at h
  cases found with
  | none => cases h
  | some m' =>
    by_cases hbehind : m' < 0
    · cases (if_pos hbehind).symm.trans h
    · have hwalk := (if_neg hbehind).symm.trans h
      cases hsummary : characterize e (Timeline.later start m') sweepStep with
      | error cause =>
        rw [hsummary] at hwalk
        cases hwalk
      | ok s =>
        rw [hsummary] at hwalk
        cases hwalk
        exact ⟨hresult, hbehind, hsummary⟩

end Answer

/-! ## A pass of less than a day -/

variable {e : Ephemeris ℝ ℝ} {sky : ℝ → Observation ℝ} {rise : ℝ}

/-- A summary with time above the horizon, and an elevation that was seen there. -/
structure Lit (sky : ℝ → Observation ℝ) (s : Summary ℝ ℝ) : Prop where
  minutesAbove0 : 0 < s.minutesAbove0
  maxElevationDeg : ∃ t, s.maxElevationDeg = (sky t).elevationDeg
  above : 0 < s.maxElevationDeg

/-- A sweep from above the horizon has a sample there. -/
theorem Statistics.lit (he : e.Shows sky) {step : ℝ} (hstep : 0 < step) {n : ℕ}
    {obs : ℕ → Observation ℝ} (hcourse : Course e rise step n obs)
    (hup : 0 < (sky rise).elevationDeg) {s : Summary ℝ ℝ} (h : Statistics obs rise step n s) :
    Lit sky s := by
  have hobs (k : ℕ) (hk : k ≤ n) : obs k = sky (rise + k * step) :=
    Except.ok.inj ((hcourse.seen k hk).symm.trans (he _))
  have hfirst : 0 < (obs 0).elevationDeg := by
    rw [hobs 0 (Nat.zero_le n), Nat.cast_zero, zero_mul, add_zero]
    exact hup
  have hsome : 0 < n := by
    refine Nat.pos_of_ne_zero fun h0 => ?_
    have hlost := hcourse.lost
    rw [h0] at hlost
    linarith
  refine ⟨?_, ?_, ?_⟩
  · rw [h.above0]
    refine mul_pos hstep (Nat.cast_pos.mpr (Nat.pos_of_ne_zero fun hnone => ?_))
    exact Nat.count_iff_forall_not.mp hnone 0 hsome hfirst
  · obtain ⟨⟨i, hi, hmax⟩, -⟩ := h.highest
    have hin : i ≤ n := by omega
    exact ⟨_, by rw [hmax, hobs i hin]⟩
  · exact hfirst.trans_le (h.highest.2 ⟨0, Or.inl rfl, rfl⟩)

/-- **A pass of less than a day is walked to its end.** -/
theorem characterize_lit (he : e.Shows sky) {σ : ℝ} (hset : 0 ≤ σ) (hday : σ ≤ 1439)
    (hup : ∀ t, 0 ≤ t → t ≤ σ → 0 < (sky (rise + t)).elevationDeg)
    (hdown : ∀ t, σ < t → t ≤ σ + 1 → (sky (rise + t)).elevationDeg ≤ -5) :
    ∃ summary, characterize e rise sweepStep = .ok summary ∧ Lit sky summary := by
  have hstep : (0 : ℝ) < 1 / 4 := by norm_num
  obtain ⟨n, -, hstill, hcloses⟩ := characterize_closes e rise hstep
  rw [sweepStep_eq]
  generalize characterize e rise (1 / 4) = answer at hcloses
  cases hcloses with
  | lost course =>
    have hrise := hup 0 le_rfl hset
    rw [add_zero] at hrise
    exact ⟨_, rfl, (statistics_gathered rise (1 / 4) _ n).lit he hstep course hrise⟩
  | failed cause unseen => cases unseen.symm.trans (he _)
  | endless up long =>
    -- the first sample behind the end of the pass comes within the day, and the satellite is not up there
    exfalso
    have hbehind := Visibility.lt_roundPast hstep σ
    have hclose := Visibility.roundPast_le hstep hset
    unfold Visibility.roundPast at hbehind hclose
    generalize ⌊σ / (1 / 4)⌋₊ + 1 = k at hbehind hclose
    have hk : k ≤ n := by
      have hlt : (k : ℝ) * (1 / 4) < (n + 1 : ℕ) * (1 / 4) := by linarith
      exact Nat.le_of_lt_succ (by exact_mod_cast lt_of_mul_lt_mul_right hlt hstep.le)
    obtain ⟨o, ho, hhigh⟩ : StillUp e rise (1 / 4) k := by
      rcases Nat.eq_or_lt_of_le hk with rfl | hlt
      · exact up
      · exact hstill k hlt
    cases (he _).symm.trans ho
    linarith [hdown _ hbehind (by linarith)]

/-! ## The next pass -/

variable {start horizon step m : ℝ}

theorem next_of_none
    (h : (Visibility.refinedMinutesToCrossing e start horizon step).result = .ok none) :
    next e start horizon step = .ok .notFound := by
  unfold next
  rw [h]
  rfl

theorem next_of_neg
    (h : (Visibility.refinedMinutesToCrossing e start horizon step).result = .ok (some m))
    (hm : m < 0) : next e start horizon step = .ok (.inProgress (-m)) := by
  have hm' : m < ((0 : ℕ) : ℝ) := by simpa using hm
  unfold next
  rw [h]
  exact if_pos hm'

theorem next_of_nonneg
    (h : (Visibility.refinedMinutesToCrossing e start horizon step).result = .ok (some m))
    (hm : 0 ≤ m) :
    next e start horizon step = (characterize e (start + m) sweepStep).map (.upcoming m) := by
  have hm' : ¬ m < ((0 : ℕ) : ℝ) := by simpa using hm
  have hlater : Timeline.later start m = start + m := rfl
  unfold next
  rw [h]
  refine (if_neg hm').trans ?_
  rw [hlater]
  cases characterize e (start + m) sweepStep <;> rfl

/-- A rise that comes was found, is not behind, and was walked to its end. -/
theorem found_of_upcoming {summary : Summary ℝ ℝ}
    (h : next e start horizon step = .ok (.upcoming m summary)) :
    (Visibility.refinedMinutesToCrossing e start horizon step).result = .ok (some m) ∧ 0 ≤ m ∧
      characterize e (start + m) sweepStep = .ok summary := by
  obtain ⟨hresult, hahead, hsummary⟩ := upcoming_inv h
  have hahead' : ¬ m < ((0 : ℕ) : ℝ) := hahead
  exact ⟨hresult, by simpa using hahead', hsummary⟩

/-- A rise that comes is not behind. -/
theorem minutes_nonneg {summary : Summary ℝ ℝ}
    (h : next e start horizon step = .ok (.upcoming m summary)) : 0 ≤ m :=
  (found_of_upcoming h).2.1

end EarthStation.Pass
