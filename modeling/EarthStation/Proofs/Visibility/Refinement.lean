import EarthStation.Proofs.Visibility.Crossing
import Mathlib.Data.Sign.Basic
import Mathlib.Tactic.IntervalCases

/-!
# Refinement — finer grids neither lose the coarse answer nor pass it

* `Visibility.IsFirst`: the first point of a grid on the other side of the horizon.
* `Visibility.found_iff`: a search that never fails answers just this point, if it is near.
* `Visibility.IsFirst.finer`: on a finer grid the first point is on the same side of the start, and no
  farther away.
* `Visibility.refine_isFirst`: so a round of refinement leads from first point to first point.
* `Visibility.refinement_law`: the refined answer and the grid it lies on.
-/

namespace EarthStation.Visibility

variable {e : Ephemeris ℝ ℝ} {sky : ℝ → Observation ℝ} {start horizon step m : ℝ}
  {heading : Heading}

/-! ## First points -/

/-- Signed minutes to the first point of a grid that is not on the side of the start. -/
def IsFirst (sky : ℝ → Observation ℝ) (start step m : ℝ) : Prop :=
  ∃ heading, Heading.ofElevation (sky start).elevationDeg = heading ∧
    ∃ n : ℕ, m = heading.minutes (n * step) ∧
      heading.stays (height sky start step heading n) = false ∧
      ∀ k < n, heading.stays (height sky start step heading k) = true

theorem abs_minutes (heading : Heading) (x : ℝ) : |heading.minutes x| = |x| := by
  cases heading
  · rfl
  · exact abs_neg x

theorem minutes_eq_zero_iff {x : ℝ} : heading.minutes x = 0 ↔ x = 0 := by
  rw [← abs_eq_zero, abs_minutes, abs_eq_zero]

theorem sign_minutes {x y : ℝ} (hx : 0 < x) (hy : 0 < y) :
    SignType.sign (heading.minutes x) = SignType.sign (heading.minutes y) := by
  cases heading with
  | forward => rw [minutes_forward_eq, minutes_forward_eq, sign_pos hx, sign_pos hy]
  | backward =>
    rw [minutes_backward_eq, minutes_backward_eq, sign_neg (neg_lt_zero.mpr hx),
      sign_neg (neg_lt_zero.mpr hy)]

/-- **A search answers the first point of its grid**, just if that is the start or near. -/
theorem found_iff (he : e.Shows sky) (hstep : 0 < step) :
    (minutesToCrossing e start horizon step).result = .ok (some m) ↔
      IsFirst sky start step m ∧ (m = 0 ∨ |m| < horizon) := by
  constructor
  · intro h
    obtain ⟨first, hfirst, n, hn, hgoes, rfl, o, ho, hleaves⟩ := crossed_of_found hstep h
    cases (he start).symm.trans hfirst
    cases (he _).symm.trans ho
    refine ⟨⟨_, rfl, n, rfl, hleaves, fun k hk => (goes_iff he).mp (hgoes k hk)⟩, ?_⟩
    rw [abs_minutes, abs_of_nonneg (by positivity)]
    exact hn.imp_left fun h0 => by rw [h0, heading_minutes_zero]
  · rintro ⟨⟨heading, hheading, n, rfl, hleaves, hbefore⟩, hnear⟩
    rw [minutes_eq_zero_iff, abs_minutes, abs_of_nonneg (by positivity)] at hnear
    have hn : n = 0 ∨ n * step < horizon := by
      refine hnear.imp_left fun h0 => ?_
      exact_mod_cast (mul_eq_zero.mp h0).resolve_right hstep.ne'
    exact minutesToCrossing_found hstep (he start) hheading hn
      (fun i hi => (goes_iff he).mpr (hbefore i hi)) (he _) hleaves

/-- A search that never fails has an answer. -/
theorem exists_answer (he : e.Shows sky) (start horizon : ℝ) (hstep : 0 < step) :
    ∃ answer, (minutesToCrossing e start horizon step).result = .ok answer := by
  obtain ⟨n, -, -, hends, -⟩ := minutesToCrossing_ends horizon hstep (he start) rfl
  generalize (minutesToCrossing e start horizon step).result = answer at hends
  cases hends with
  | crossed => exact ⟨_, rfl⟩
  | failed cause unseen => cases unseen.symm.trans (he _)
  | exhausted => exact ⟨_, rfl⟩

/-- A grid has one first point at most. -/
theorem IsFirst.unique {m' : ℝ} (h : IsFirst sky start step m) (h' : IsFirst sky start step m') :
    m = m' := by
  obtain ⟨heading, rfl, n, rfl, hleaves, hbefore⟩ := h
  obtain ⟨_, rfl, n', rfl, hleaves', hbefore'⟩ := h'
  rcases lt_trichotomy n n' with hlt | rfl | hgt
  · exact absurd (hleaves.symm.trans (hbefore' n hlt)) Bool.false_ne_true
  · rfl
  · exact absurd (hleaves'.symm.trans (hbefore n' hgt)) Bool.false_ne_true

/-! ## Finer grids -/

/-- A point of a grid is a point of every grid that is a whole number of times finer. -/
theorem height_finer (N n : ℕ) :
    height sky start (N * step) heading n = height sky start step heading (n * N) := by
  unfold height
  rw [Nat.cast_mul, mul_assoc]

/-- **On a finer grid** the first point lies on the same side of the start, and not farther away. -/
theorem IsFirst.finer {N : ℕ} (hN : 0 < N) (hstep : 0 < step) (h : IsFirst sky start (N * step) m) :
    ∃ m', IsFirst sky start step m' ∧ |m'| ≤ |m| ∧ SignType.sign m' = SignType.sign m := by
  obtain ⟨heading, hheading, n, rfl, hleaves, hbefore⟩ := h
  rw [height_finer] at hleaves
  have hcross : ∃ k, heading.stays (height sky start step heading k) = false := ⟨n * N, hleaves⟩
  classical
  refine ⟨heading.minutes (Nat.find hcross * step), ⟨heading, hheading, _, rfl, Nat.find_spec hcross,
    fun k hk => Bool.eq_true_of_not_eq_false (Nat.find_min hcross hk)⟩, ?_, ?_⟩
  · have hle : ((Nat.find hcross : ℕ) : ℝ) ≤ (n * N : ℕ) := by
      exact_mod_cast Nat.find_min' hcross hleaves
    rw [abs_minutes, abs_minutes, abs_of_nonneg (by positivity), abs_of_nonneg (by positivity),
      ← mul_assoc, ← Nat.cast_mul]
    exact mul_le_mul_of_nonneg_right hle hstep.le
  · rcases Nat.eq_zero_or_pos n with rfl | hn
    · rw [Nat.zero_mul] at hleaves
      have hzero : Nat.find hcross = 0 := (Nat.find_eq_zero hcross).mpr hleaves
      rw [hzero, heading_minutes_zero, heading_minutes_zero]
    · have hsome : 0 < Nat.find hcross := by
        refine (Nat.find_pos hcross).mpr fun h0 => ?_
        have hstays := hbefore 0 hn
        rw [height_finer, Nat.zero_mul] at hstays
        exact Bool.false_ne_true (h0.symm.trans hstays)
      exact sign_minutes (by positivity) (by positivity)

/-- One step in front of a first point ahead the satellite is still below the horizon. -/
theorem IsFirst.rise (h : IsFirst sky start step m) (hstep : 0 < step) (hm : 0 < m) :
    (sky start).elevationDeg < 0 ∧ (sky (start + (m - step))).elevationDeg < 0 ∧
      0 ≤ (sky (start + m)).elevationDeg := by
  obtain ⟨heading, hheading, n, rfl, hleaves, hbefore⟩ := h
  cases heading with
  | forward =>
    rw [minutes_forward_eq] at hm ⊢
    obtain ⟨k, rfl⟩ : ∃ k, n = k + 1 :=
      Nat.exists_eq_succ_of_ne_zero (by rintro rfl; simp at hm)
    have hback : ((k + 1 : ℕ) : ℝ) * step - step = k * step := by
      push_cast
      ring
    have hstart := hbefore 0 k.succ_pos
    have hlast := hbefore k k.lt_succ_self
    rw [height_zero, stays_forward_eq, decide_eq_true_eq] at hstart
    rw [height, minutes_forward_eq, stays_forward_eq, decide_eq_true_eq] at hlast
    rw [height, minutes_forward_eq, stays_forward_eq, decide_eq_false_iff_not, not_lt] at hleaves
    rw [hback]
    exact ⟨hstart, hlast, hleaves⟩
  | backward =>
    rw [minutes_backward_eq] at hm
    have hbehind : 0 ≤ (n : ℝ) * step := by positivity
    linarith

/-- One step behind a first point in the past the satellite is already above the horizon. -/
theorem IsFirst.since (h : IsFirst sky start step m) (hstep : 0 < step) (hm : m < 0) :
    0 < (sky start).elevationDeg ∧ 0 < (sky (start + (m + step))).elevationDeg ∧
      (sky (start + m)).elevationDeg ≤ 0 := by
  obtain ⟨heading, hheading, n, rfl, hleaves, hbefore⟩ := h
  cases heading with
  | forward =>
    rw [minutes_forward_eq] at hm
    have hahead : 0 ≤ (n : ℝ) * step := by positivity
    linarith
  | backward =>
    rw [minutes_backward_eq] at hm ⊢
    obtain ⟨k, rfl⟩ : ∃ k, n = k + 1 :=
      Nat.exists_eq_succ_of_ne_zero (by rintro rfl; simp at hm)
    have hback : -(((k + 1 : ℕ) : ℝ) * step) + step = -(k * step) := by
      push_cast
      ring
    have hstart := hbefore 0 k.succ_pos
    have hlast := hbefore k k.lt_succ_self
    rw [height_zero, stays_backward_eq, decide_eq_true_eq] at hstart
    rw [height, minutes_backward_eq, stays_backward_eq, decide_eq_true_eq] at hlast
    rw [height, minutes_backward_eq, stays_backward_eq, decide_eq_false_iff_not, not_lt] at hleaves
    rw [hback]
    exact ⟨hstart, hlast, hleaves⟩

/-- **A round of refinement** leads from the first point of a grid to that of the finer one, or leaves
things as they are. -/
theorem refine_isFirst (he : e.Shows sky) (round : ℝ × ℝ) (hround : 0 < round.2) {N : ℕ}
    (hN : 0 < N) (hgrid : step = N * round.2) (hm : IsFirst sky start step m)
    (hnear : m = 0 ∨ |m| < horizon) :
    ∃ m' step', (refine e start horizon (some m, step) round).result = .ok (some m', step') ∧
      step' = (if |m| < round.1 ∧ round.2 < step then round.2 else step) ∧
      IsFirst sky start step' m' ∧ (m' = 0 ∨ |m'| < horizon) ∧ |m'| ≤ |m| ∧
      SignType.sign m' = SignType.sign m := by
  unfold refine
  dsimp only
  rw [scalarAbs_eq]
  by_cases hfiner : |m| < round.1 ∧ round.2 < step
  · rw [hgrid] at hm
    obtain ⟨m', hm', hle, hsign⟩ := hm.finer hN hround
    have hnear' : m' = 0 ∨ |m'| < horizon := by
      refine hnear.imp (fun h0 => ?_) hle.trans_lt
      rw [h0, abs_zero] at hle
      exact abs_nonpos_iff.mp hle
    refine ⟨m', round.2, ?_, (if_pos hfiner).symm, hm', hnear', hle, hsign⟩
    rw [if_pos hfiner, Looks.result_bind, (found_iff he hround).mpr ⟨hm', hnear'⟩]
    rfl
  · refine ⟨m, step, ?_, (if_neg hfiner).symm, hm, hnear, le_rfl, rfl⟩
    rw [if_neg hfiner]
    rfl

/-- The grid after the first round: tenths of a minute, unless the coarse answer is far away or the
step is no longer than that. -/
theorem grid_of_first (c step : ℝ) :
    (if |c| < 10 ∧ 1 / 10 < step then 1 / 10 else step) =
      if |c| < 10 then min (1 / 10) step else step := by
  by_cases hclose : |c| < 10
  · rw [if_pos hclose]
    rcases lt_or_ge (1 / 10) step with hlt | hge
    · rw [if_pos ⟨hclose, hlt⟩, min_eq_left hlt.le]
    · rw [if_neg fun h => absurd h.2 (not_lt.mpr hge), min_eq_right hge]
  · rw [if_neg fun h => hclose h.1, if_neg hclose]

/-! ## The refined answer -/

/-- The answer `r` of a refined search, with the grid that it lies on, after the coarse answer `c` and
the estimate before the last round. -/
structure Refines (e : Ephemeris ℝ ℝ) (sky : ℝ → Observation ℝ) (start horizon step : ℝ)
    (c estimate r grid : ℝ) : Prop where
  coarse : (minutesToCrossing e start horizon step).result = .ok (some c)
  refined : (refinedMinutesToCrossing e start horizon step).result = .ok (some r)
  sign : SignType.sign r = SignType.sign c
  le : |r| ≤ |c|
  /-- The estimate is there when the last round begins, and the grid when the rounds are over. -/
  estimated : ∃ before, (refinements.dropLast.foldlM (refine e start horizon) (some c, step)).result =
    .ok (some estimate, before)
  searched : (refinements.foldlM (refine e start horizon) (some c, step)).result = .ok (some r, grid)
  fineness : grid = if |estimate| < 1 then 1 / 120 else if |c| < 10 then min (1 / 10) step else step
  first : IsFirst sky start grid r
  rise : 0 < r → (sky start).elevationDeg < 0 ∧ (sky (start + (r - grid))).elevationDeg < 0 ∧
    0 ≤ (sky (start + r)).elevationDeg
  since : r < 0 → 0 < (sky start).elevationDeg ∧ 0 < (sky (start + (r + grid))).elevationDeg ∧
    (sky (start + r)).elevationDeg ≤ 0

theorem rounds_dropLast (state : Option ℝ × ℝ) :
    (refinements.dropLast.foldlM (refine e start horizon) state).result =
      (refine e start horizon state (10, 1 / 10)).result := by
  rw [refinements_eq, List.dropLast_cons_cons, List.dropLast_singleton, List.foldlM_cons,
    Looks.result_bind]
  cases (refine e start horizon state (10, 1 / 10)).result <;> rfl

/-- The two rounds lead from a coarse answer to a refined one. -/
theorem exists_refines (he : e.Shows sky) {tenths : ℕ} (htenths : 0 < tenths)
    (hstep : step = tenths * (1 / 10)) {c : ℝ}
    (hcoarse : (minutesToCrossing e start horizon step).result = .ok (some c)) :
    ∃ estimate r grid, Refines e sky start horizon step c estimate r grid := by
  have hpos : 0 < step := by
    rw [hstep]
    positivity
  obtain ⟨hc, hnear⟩ := (found_iff he hpos).mp hcoarse
  obtain ⟨estimate, s, hround, hs, hestimate, hnear', hle, hsign⟩ :=
    refine_isFirst he (10, 1 / 10) (by norm_num) htenths hstep hc hnear
  obtain ⟨N, hN, hsN⟩ : ∃ N : ℕ, 0 < N ∧ s = N * (1 / 10) := by
    rw [hs]
    split
    · exact ⟨1, one_pos, by norm_num⟩
    · exact ⟨tenths, htenths, hstep⟩
  -- a tenth of a minute is twelve steps of half a second
  obtain ⟨r, grid, hround', hgrid, hr, -, hle', hsign'⟩ :=
    refine_isFirst he (1, 1 / 120) (by norm_num) (Nat.mul_pos (by norm_num : 0 < 12) hN)
      (by rw [hsN]; push_cast; ring) hestimate hnear'
  have hcoarser : (1 : ℝ) / 120 < s := by
    have hone : (1 : ℝ) ≤ N := by exact_mod_cast hN
    rw [hsN]
    linarith
  have hfineness : grid = if |estimate| < 1 then 1 / 120 else s := by
    rw [hgrid]
    simp only [hcoarser, and_true]
  have hgridpos : 0 < grid := by
    rw [hfineness]
    split
    · norm_num
    · linarith
  have hsearched : ((refinements : List (ℝ × ℝ)).foldlM (refine e start horizon)
      (some c, step)).result = .ok (some r, grid) := by
    rw [refinements_eq, List.foldlM_cons, Looks.result_bind, hround]
    dsimp only
    rw [List.foldlM_cons, Looks.result_bind, hround']
    rfl
  refine ⟨estimate, r, grid, hcoarse, ?_, hsign'.trans hsign, hle'.trans hle,
    ⟨s, by rw [rounds_dropLast, hround]⟩, hsearched, ?_, hr, hr.rise hgridpos, hr.since hgridpos⟩
  · unfold refinedMinutesToCrossing
    rw [Looks.result_bind, hcoarse]
    dsimp only
    rw [Looks.result_bind, hsearched]
    rfl
  · rw [hfineness, hs, grid_of_first]

/-- **Refinement neither loses the coarse answer nor passes it.**  For a step of whole tenths of a
minute there is a refined answer just if there is a coarse one; it has the sign of the coarse one, is
not farther away, and is the first crossing on a grid of half a second, of a tenth of a minute or of
the step. -/
theorem refinement_law (he : e.Shows sky) (start horizon : ℝ) {tenths : ℕ} (htenths : 0 < tenths)
    (hstep : step = tenths * (1 / 10)) :
    ((minutesToCrossing e start horizon step).result = .ok none ∧
        (refinedMinutesToCrossing e start horizon step).result = .ok none) ∨
      ∃ c estimate r grid, Refines e sky start horizon step c estimate r grid := by
  have hpos : 0 < step := by
    rw [hstep]
    positivity
  obtain ⟨answer, hanswer⟩ := exists_answer he start horizon hpos
  cases answer with
  | none =>
    refine Or.inl ⟨hanswer, ?_⟩
    unfold refinedMinutesToCrossing
    rw [Looks.result_bind, hanswer, refinements_eq]
    rfl
  | some c => exact Or.inr ⟨c, exists_refines he htenths hstep hanswer⟩

/-- The sky of a satellite that is up for a moment before it rises for long. -/
noncomputable def flashSky (t : ℝ) : Observation ℝ :=
  ⟨0, if 0.38 ≤ t ∧ t ≤ 0.62 ∨ 4.5 ≤ t then 1 else -1, 0, 0⟩

noncomputable def flash : Ephemeris ℝ ℝ where
  name := "FLASH"
  observe t := .ok (flashSky t)

theorem flash_shows : flash.Shows flashSky := fun _ => rfl

theorem isFirst_flash {n : ℕ} (hup : 0.38 ≤ n * step ∧ n * step ≤ 0.62 ∨ 4.5 ≤ n * step)
    (hlow : ∀ k < n, ¬ (0.38 ≤ k * step ∧ k * step ≤ 0.62 ∨ 4.5 ≤ k * step)) :
    IsFirst flashSky 0 step (n * step) := by
  have hstart : (flashSky 0).elevationDeg < 0 := by norm_num [flashSky]
  refine ⟨.forward, ofElevation_of_neg hstart, n, rfl, ?_, fun k hk => ?_⟩
  · rw [stays_forward_eq, decide_eq_false_iff_not, height, minutes_forward_eq, zero_add]
    simp [flashSky, if_pos hup]
  · rw [stays_forward_eq, decide_eq_true_eq, height, minutes_forward_eq, zero_add]
    simp [flashSky, if_neg (hlow k hk)]

/-- Every whole minute misses the moment, so that the coarse answer is the long rise at minute 5.  The
tenths of a minute find the moment at 0.4, and then the half seconds at 0.3833. -/
theorem refinement_law_flash :
    flash.Shows flashSky ∧ 0 < 10 ∧ (1 : ℝ) = (10 : ℕ) * (1 / 10) ∧
      ∃ estimate, Refines flash flashSky 0 1440 1 5 estimate (46 / 120) (1 / 120) := by
  have hwhole : IsFirst flashSky 0 1 ((5 : ℕ) * 1) :=
    isFirst_flash (Or.inr (by norm_num)) fun k hk => by interval_cases k <;> norm_num
  have htenth : IsFirst flashSky 0 (1 / 10) ((4 : ℕ) * (1 / 10)) :=
    isFirst_flash (Or.inl (by norm_num)) fun k hk => by interval_cases k <;> norm_num
  have hhalf : IsFirst flashSky 0 (1 / 120) ((46 : ℕ) * (1 / 120)) := by
    refine isFirst_flash (Or.inl (by norm_num)) fun k hk => ?_
    have hk' : (k : ℝ) ≤ 45 := by exact_mod_cast Nat.lt_succ_iff.mp hk
    rintro (⟨hin, -⟩ | hin) <;> linarith
  have hstep : (1 : ℝ) = (10 : ℕ) * (1 / 10) := by norm_num
  have hfound : (minutesToCrossing flash 0 1440 1).result = .ok (some ((5 : ℕ) * 1)) :=
    (found_iff flash_shows one_pos).mpr ⟨hwhole, Or.inr (by norm_num)⟩
  refine ⟨flash_shows, by norm_num, hstep, ?_⟩
  rcases refinement_law flash_shows 0 1440 (by norm_num) hstep with
    ⟨hnone, -⟩ | ⟨c, estimate, r, grid, h⟩
  · cases hfound.symm.trans hnone
  · obtain rfl : (5 : ℕ) * 1 = c := by simpa [hfound] using h.coarse
    obtain ⟨m, s, hround, hs, hm, -⟩ := refine_isFirst flash_shows (10, 1 / 10) (by norm_num)
      (by norm_num : 0 < 10) hstep hwhole (Or.inr (by norm_num : |(5 : ℕ) * (1 : ℝ)| < 1440))
    obtain ⟨before, hestimated⟩ := h.estimated
    rw [rounds_dropLast, hround] at hestimated
    cases hestimated
    obtain rfl : s = 1 / 10 := by rw [hs, if_pos (by norm_num)]
    obtain rfl := hm.unique htenth
    obtain rfl : grid = 1 / 120 := by rw [h.fineness, if_pos (by norm_num [abs_of_pos])]
    obtain rfl := h.first.unique hhalf
    exact ⟨_, by norm_num at h ⊢; exact h⟩

end EarthStation.Visibility
