import EarthStation.Proofs.Visibility.Walk

/-!
# Crossing — what the search for a crossing finds

* `Ephemeris.Shows`: an ephemeris that never fails.
* `minutesToCrossing_of_grid`: a search ends at the first point of its grid on the other side.
* `minutesToCrossing_rise`, `minutesToCrossing_since`: a rise ahead is found rounded up to the grid,
  and the rise of a pass in progress rounded past it, if that is closer than the horizon.
* `refined_rise`, `refined_since`: the refined answer is there just if the first one is, and it lies
  between the rise and the first one.
-/

namespace EarthStation

/-- The ephemeris never fails; it shows this sky. -/
def Ephemeris.Shows (e : Ephemeris ℝ ℝ) (sky : ℝ → Observation ℝ) : Prop :=
  ∀ t, e.observe t = .ok (sky t)

namespace Visibility

variable {e : Ephemeris ℝ ℝ} {sky : ℝ → Observation ℝ} {start horizon step : ℝ}

/-! ## A walk -/

/-- The elevation at the `k`th point of a grid. -/
noncomputable def height (sky : ℝ → Observation ℝ) (start step : ℝ) (heading : Heading) (k : ℕ) : ℝ :=
  (sky (start + heading.minutes (k * step))).elevationDeg

theorem height_zero (heading : Heading) :
    height sky start step heading 0 = (sky start).elevationDeg := by
  rw [height, heading_minutes_zero, add_zero]

theorem goes_iff (he : e.Shows sky) {heading : Heading} {k : ℕ} :
    Goes e start step heading k ↔ heading.stays (height sky start step heading k) = true := by
  constructor
  · rintro ⟨o, ho, hstays⟩
    cases (he _).symm.trans ho
    exact hstays
  · intro h
    exact ⟨_, he _, h⟩

/-- A search finds the first point on the other side, if that is closer than its horizon. -/
theorem minutesToCrossing_of_grid (he : e.Shows sky) (hstep : 0 < step) (hhorizon : 0 < horizon)
    {heading : Heading} (hheading : Heading.ofElevation (sky start).elevationDeg = heading) {n : ℕ}
    (hstays : ∀ i, i < n → heading.stays (height sky start step heading i) = true)
    (hleaves : heading.stays (height sky start step heading n) = false) :
    (minutesToCrossing e start horizon step).result =
      .ok (if n * step < horizon then some (heading.minutes (n * step)) else none) := by
  by_cases hnear : n * step < horizon
  · rw [if_pos hnear]
    exact minutesToCrossing_found hstep (he start) hheading (Or.inr hnear)
      (fun i hi => (goes_iff he).mpr (hstays i hi)) (he _) hleaves
  · rw [if_neg hnear]
    refine minutesToCrossing_exhausted hstep (he start) hheading fun i hi => ?_
    refine (goes_iff he).mpr (hstays i ?_)
    have hin : (i : ℝ) * step < n * step := by
      rcases hi with rfl | hi
      · rw [Nat.cast_zero, zero_mul]
        exact hhorizon.trans_le (not_lt.mp hnear)
      · exact hi.trans_le (not_lt.mp hnear)
    exact_mod_cast lt_of_mul_lt_mul_right hin hstep.le

/-- A search finds nothing while the satellite stays below the horizon. -/
theorem minutesToCrossing_none (he : e.Shows sky) (hstep : 0 < step) (hhorizon : 0 < horizon)
    (hbelow : ∀ t, 0 ≤ t → t < horizon → (sky (start + t)).elevationDeg < 0) :
    (minutesToCrossing e start horizon step).result = .ok none := by
  have hheading : Heading.ofElevation (sky start).elevationDeg = .forward := by
    have h := hbelow 0 le_rfl hhorizon
    rw [add_zero] at h
    exact ofElevation_of_neg h
  refine minutesToCrossing_exhausted hstep (he start) hheading fun i hi => (goes_iff he).mpr ?_
  have hnear : (i : ℝ) * step < horizon := by
    rcases hi with rfl | hi
    · simpa using hhorizon
    · exact hi
  rw [stays_forward_eq, height, minutes_forward_eq]
  exact decide_eq_true (hbelow _ (by positivity) hnear)

/-! ## Both directions -/

/-- Rounded up to a multiple of the step. -/
noncomputable def roundUp (step y : ℝ) : ℝ := ⌈y / step⌉₊ * step

/-- Rounded to the next multiple of the step behind the value. -/
noncomputable def roundPast (step y : ℝ) : ℝ := (⌊y / step⌋₊ + 1 : ℕ) * step

theorem le_roundUp (hstep : 0 < step) (y : ℝ) : y ≤ roundUp step y := by
  have h := Nat.le_ceil (y / step)
  rwa [div_le_iff₀ hstep] at h

theorem roundUp_lt (hstep : 0 < step) {y : ℝ} (hy : 0 ≤ y) : roundUp step y < y + step := by
  have h := Nat.ceil_lt_add_one (div_nonneg hy hstep.le)
  rw [div_add_one hstep.ne', lt_div_iff₀ hstep] at h
  exact h

theorem lt_roundPast (hstep : 0 < step) (y : ℝ) : y < roundPast step y := by
  have h := Nat.lt_floor_add_one (y / step)
  rw [div_lt_iff₀ hstep] at h
  unfold roundPast
  push_cast
  exact h

theorem roundPast_le (hstep : 0 < step) {y : ℝ} (hy : 0 ≤ y) : roundPast step y ≤ y + step := by
  have h := Nat.floor_le (div_nonneg hy hstep.le)
  rw [le_div_iff₀ hstep] at h
  unfold roundPast
  push_cast
  linarith

theorem roundPast_one (y : ℝ) : roundPast 1 y = ⌊y⌋₊ + 1 := by
  unfold roundPast
  rw [div_one, mul_one, Nat.cast_add_one]

/-- On a finer grid a value is rounded up by less. -/
theorem roundUp_mono {fine : ℝ} (hfine : 0 < fine) {N : ℕ} (hN : 0 < N) (y : ℝ) :
    roundUp fine y ≤ roundUp (N * fine) y := by
  have hN' : (0 : ℝ) < N := by exact_mod_cast hN
  have h : ⌈y / fine⌉₊ ≤ ⌈y / (N * fine)⌉₊ * N := by
    refine Nat.ceil_le.mpr ?_
    have := le_roundUp (mul_pos hN' hfine) y
    unfold roundUp at this
    rw [div_le_iff₀ hfine]
    push_cast
    linarith
  have h' : (⌈y / fine⌉₊ : ℝ) ≤ ⌈y / (N * fine)⌉₊ * N := by exact_mod_cast h
  unfold roundUp
  nlinarith

/-- On a finer grid a value is rounded past by less. -/
theorem roundPast_mono {fine : ℝ} (hfine : 0 < fine) {N : ℕ} (hN : 0 < N) (y : ℝ) :
    roundPast fine y ≤ roundPast (N * fine) y := by
  have hN' : (0 : ℝ) < N := by exact_mod_cast hN
  have h : ⌊y / fine⌋₊ < (⌊y / (N * fine)⌋₊ + 1) * N := by
    refine Nat.floor_lt' (by positivity) |>.mpr ?_
    have := lt_roundPast (mul_pos hN' hfine) y
    unfold roundPast at this
    rw [div_lt_iff₀ hfine]
    push_cast at this ⊢
    linarith
  have h' : (⌊y / fine⌋₊ : ℝ) + 1 ≤ (⌊y / (N * fine)⌋₊ + 1) * N := by exact_mod_cast h
  unfold roundPast
  push_cast
  nlinarith

/-- From below the horizon a rise ahead is found, rounded up to the grid. -/
theorem minutesToCrossing_rise (he : e.Shows sky) (hstep : 0 < step) (hstep' : step ≤ 1)
    (hhorizon : 0 < horizon) {y : ℝ} (hy : 0 < y)
    (hbelow : ∀ t, 0 ≤ t → t < y → (sky (start + t)).elevationDeg < 0)
    (hup : ∀ t, y ≤ t → t < y + 1 → 0 < (sky (start + t)).elevationDeg) :
    (minutesToCrossing e start horizon step).result =
      .ok (if roundUp step y < horizon then some (Heading.forward.minutes (roundUp step y))
        else none) := by
  have hheading : Heading.ofElevation (sky start).elevationDeg = .forward := by
    have h := hbelow 0 le_rfl hy
    rw [add_zero] at h
    exact ofElevation_of_neg h
  refine minutesToCrossing_of_grid he hstep hhorizon hheading (fun i hi => ?_) ?_
  · have hlt := Nat.lt_ceil.mp hi
    rw [lt_div_iff₀ hstep] at hlt
    rw [stays_forward_eq, height, minutes_forward_eq]
    exact decide_eq_true (hbelow _ (by positivity) hlt)
  · have hhigh := hup (roundUp step y) (le_roundUp hstep y) (by linarith [roundUp_lt hstep hy.le])
    rw [stays_forward_eq, height, minutes_forward_eq]
    exact decide_eq_false (not_lt.mpr hhigh.le)

/-- During a pass its rise is found, rounded past it. -/
theorem minutesToCrossing_since (he : e.Shows sky) (hstep : 0 < step) (hstep' : step ≤ 1)
    (hhorizon : 0 < horizon) {y : ℝ} (hy : 0 ≤ y)
    (hup : ∀ t, 0 ≤ t → t ≤ y → 0 < (sky (start - t)).elevationDeg)
    (hbelow : ∀ t, y < t → t ≤ y + 1 → (sky (start - t)).elevationDeg < 0) :
    (minutesToCrossing e start horizon step).result =
      .ok (if roundPast step y < horizon then some (Heading.backward.minutes (roundPast step y))
        else none) := by
  have hheading : Heading.ofElevation (sky start).elevationDeg = .backward := by
    have h := hup 0 le_rfl hy
    rw [sub_zero] at h
    exact ofElevation_of_pos h
  refine minutesToCrossing_of_grid he hstep hhorizon hheading (fun i hi => ?_) ?_
  · have hle := (Nat.le_floor_iff (div_nonneg hy hstep.le)).mp (Nat.lt_succ_iff.mp hi)
    rw [le_div_iff₀ hstep] at hle
    rw [stays_backward_eq, height, minutes_backward_eq, ← sub_eq_add_neg]
    exact decide_eq_true (hup _ (by positivity) hle)
  · have hlow := hbelow (roundPast step y) (lt_roundPast hstep y)
      (by linarith [roundPast_le hstep hy])
    rw [stays_backward_eq, height, minutes_backward_eq, ← sub_eq_add_neg]
    exact decide_eq_false (not_lt.mpr hlow.le)

/-! ## Finer grids -/

/-- A round of refinement keeps an answer or replaces it by that of a finer grid. -/
theorem refine_of_answer {heading : Heading} {g : ℝ → ℝ} (s : ℝ) (round : ℝ × ℝ)
    (hanswer : (minutesToCrossing e start horizon round.2).result =
      .ok (some (heading.minutes (g round.2)))) :
    ∃ s', (s' = s ∨ s' = round.2) ∧
      (refine e start horizon (some (heading.minutes (g s)), s) round).result =
        .ok (some (heading.minutes (g s')), s') := by
  unfold refine
  dsimp only
  split
  · refine ⟨round.2, Or.inr rfl, ?_⟩
    rw [Looks.result_bind, hanswer]
    rfl
  · exact ⟨s, Or.inl rfl, rfl⟩

/-- The refined answer is there just if that of the coarse grid is, and it is the answer of one of the
three grids. -/
theorem refined_of_answers {heading : Heading} {g : ℝ → ℝ}
    (hanswer : ∀ s ∈ [1, 1 / 10, 1 / 120], (minutesToCrossing e start horizon s).result =
      .ok (if g s < horizon then some (heading.minutes (g s)) else none))
    (hfiner : ∀ s ∈ [1, 1 / 10, 1 / 120], g s ≤ g 1) :
    ∃ s ∈ [1, 1 / 10, 1 / 120], (refinedMinutesToCrossing e start horizon coarseStep).result =
      .ok (if g 1 < horizon then some (heading.minutes (g s)) else none) := by
  unfold refinedMinutesToCrossing
  rw [coarseStep_eq, refinements_eq, Looks.result_bind, hanswer 1 (by simp)]
  by_cases hnear : g 1 < horizon
  · have hfound (s : ℝ) (hs : s ∈ [1, 1 / 10, 1 / 120]) :
        (minutesToCrossing e start horizon s).result = .ok (some (heading.minutes (g s))) := by
      rw [hanswer s hs, if_pos ((hfiner s hs).trans_lt hnear)]
    obtain ⟨s, hs, hfirst⟩ := refine_of_answer 1 (10, 1 / 10)
      (hfound _ (by simp))
    obtain ⟨s', hs', hsecond⟩ := refine_of_answer s (1, 1 / 120)
      (hfound _ (by simp))
    refine ⟨s', by rcases hs' with rfl | rfl <;> rcases hs with rfl | rfl <;> simp, ?_⟩
    simp only [if_pos hnear]
    rw [Looks.result_bind, List.foldlM_cons, Looks.result_bind, hfirst]
    dsimp only
    rw [List.foldlM_cons, Looks.result_bind, hsecond]
    rfl
  · refine ⟨1, by simp, ?_⟩
    simp only [if_neg hnear]
    rfl

/-- A round for closer estimates leaves things as they are. -/
theorem refine_of_far (s : ℝ) {round : ℝ × ℝ} {m : ℝ} (hfar : round.1 ≤ |m|) :
    (refine e start horizon (some m, s) round).result = .ok (some m, s) := by
  unfold refine
  dsimp only
  rw [scalarAbs_eq, if_neg fun h => absurd h.1 (not_lt.mpr hfar)]
  rfl

/-- An estimate of ten minutes or more is not refined. -/
theorem refined_of_far {m : ℝ} (hcoarse : (minutesToCrossing e start horizon step).result = .ok (some m))
    (hfar : 10 ≤ |m|) : (refinedMinutesToCrossing e start horizon step).result = .ok (some m) := by
  unfold refinedMinutesToCrossing
  rw [Looks.result_bind, hcoarse, refinements_eq]
  dsimp only
  rw [Looks.result_bind, List.foldlM_cons, Looks.result_bind, refine_of_far step hfar]
  dsimp only
  rw [List.foldlM_cons, Looks.result_bind,
    refine_of_far step ((by norm_num : (1 : ℝ) ≤ 10).trans hfar)]
  rfl

/-- The first of the whole minutes at which the satellite is not below the horizon is found, if ten others
are in front of it. -/
theorem refined_whole (he : e.Shows sky) {n : ℕ} (hn : 10 ≤ n) (hnear : n < horizon)
    (hbelow : ∀ i < n, (sky (start + i)).elevationDeg < 0)
    (hlands : 0 ≤ (sky (start + n)).elevationDeg) :
    (refinedMinutesToCrossing e start horizon 1).result = .ok (some n) := by
  have hfar : (10 : ℝ) ≤ n := by exact_mod_cast hn
  have hheading : Heading.ofElevation (sky start).elevationDeg = .forward := by
    have h := hbelow 0 (by omega)
    rw [Nat.cast_zero, add_zero] at h
    exact ofElevation_of_neg h
  refine refined_of_far ?_ (by rwa [Nat.abs_cast])
  have hgrid := minutesToCrossing_of_grid (n := n) he one_pos (by linarith : 0 < horizon) hheading
    (fun i hi => ?_) ?_
  · rwa [mul_one, if_pos hnear, minutes_forward_eq] at hgrid
  · rw [stays_forward_eq, height, minutes_forward_eq, mul_one]
    exact decide_eq_true (hbelow i hi)
  · rw [stays_forward_eq, height, minutes_forward_eq, mul_one]
    exact decide_eq_false (not_lt.mpr hlands)

theorem grids_bounds {s : ℝ} (hs : s ∈ [1, 1 / 10, 1 / 120]) : 0 < s ∧ s ≤ 1 := by
  simp only [List.mem_cons, List.not_mem_nil, or_false] at hs
  rcases hs with rfl | rfl | rfl <;> norm_num

theorem roundUp_finer {s : ℝ} (hs : s ∈ [1, 1 / 10, 1 / 120]) (y : ℝ) :
    roundUp s y ≤ roundUp 1 y := by
  simp only [List.mem_cons, List.not_mem_nil, or_false] at hs
  rcases hs with rfl | rfl | rfl
  · exact le_rfl
  · simpa using roundUp_mono (by norm_num : (0 : ℝ) < 1 / 10) (N := 10) (by norm_num) y
  · simpa using roundUp_mono (by norm_num : (0 : ℝ) < 1 / 120) (N := 120) (by norm_num) y

theorem roundPast_finer {s : ℝ} (hs : s ∈ [1, 1 / 10, 1 / 120]) (y : ℝ) :
    roundPast s y ≤ roundPast 1 y := by
  simp only [List.mem_cons, List.not_mem_nil, or_false] at hs
  rcases hs with rfl | rfl | rfl
  · exact le_rfl
  · simpa using roundPast_mono (by norm_num : (0 : ℝ) < 1 / 10) (N := 10) (by norm_num) y
  · simpa using roundPast_mono (by norm_num : (0 : ℝ) < 1 / 120) (N := 120) (by norm_num) y

/-- **A rise ahead** is found less than a minute late, just if it is before the horizon when it is
rounded up to whole minutes. -/
theorem refined_rise (he : e.Shows sky) (hhorizon : 0 < horizon) {y : ℝ} (hy : 0 < y)
    (hbelow : ∀ t, 0 ≤ t → t < y → (sky (start + t)).elevationDeg < 0)
    (hup : ∀ t, y ≤ t → t < y + 1 → 0 < (sky (start + t)).elevationDeg) :
    ∃ m, y ≤ m ∧ m ≤ roundUp 1 y ∧
      (refinedMinutesToCrossing e start horizon coarseStep).result =
        .ok (if roundUp 1 y < horizon then some m else none) := by
  obtain ⟨s, hs, hresult⟩ := refined_of_answers (g := fun s => roundUp s y)
    (fun s hs => minutesToCrossing_rise he (grids_bounds hs).1 (grids_bounds hs).2 hhorizon hy hbelow
      hup)
    (fun s hs => roundUp_finer hs y)
  exact ⟨roundUp s y, le_roundUp (grids_bounds hs).1 y, roundUp_finer hs y, hresult⟩

/-- **The rise of a pass in progress** is found less than a minute early, just if it is closer than the
horizon when it is rounded past to whole minutes. -/
theorem refined_since (he : e.Shows sky) (hhorizon : 0 < horizon) {y : ℝ} (hy : 0 ≤ y)
    (hup : ∀ t, 0 ≤ t → t ≤ y → 0 < (sky (start - t)).elevationDeg)
    (hbelow : ∀ t, y < t → t ≤ y + 1 → (sky (start - t)).elevationDeg < 0) :
    ∃ m, y < m ∧ m ≤ roundPast 1 y ∧
      (refinedMinutesToCrossing e start horizon coarseStep).result =
        .ok (if roundPast 1 y < horizon then some (-m) else none) := by
  obtain ⟨s, hs, hresult⟩ := refined_of_answers (g := fun s => roundPast s y)
    (fun s hs => minutesToCrossing_since he (grids_bounds hs).1 (grids_bounds hs).2 hhorizon hy hup
      hbelow)
    (fun s hs => roundPast_finer hs y)
  exact ⟨roundPast s y, lt_roundPast (grids_bounds hs).1 y, roundPast_finer hs y, hresult⟩

theorem refined_none (he : e.Shows sky) (hhorizon : 0 < horizon)
    (hbelow : ∀ t, 0 ≤ t → t < horizon → (sky (start + t)).elevationDeg < 0) :
    (refinedMinutesToCrossing e start horizon coarseStep).result = .ok none := by
  unfold refinedMinutesToCrossing
  rw [Looks.result_bind, minutesToCrossing_none he (by rw [coarseStep_eq]; norm_num) hhorizon hbelow]
  rfl

end Visibility

end EarthStation
