import EarthStation.Proofs.Binary64.Arithmetic
import EarthStation.Proofs.Exact
import EarthStation.Proofs.Exchange
import EarthStation.Proofs.Search.Soundness

/-!
# Keys — the times and the elevations of passes can be compared

* `PassSearch.LawfulScalar`: scalars that are ordered as far as they are comparable with themselves,
  as the doubles and the reals are.
* `PassSearch.asks_nonneg`: a scan never asks before its start.
* `PassSearch.minutesAway_nonneg`: no pass is reported before the start, or at an undefined time.
* `PassSearch.maxElevationDeg_defined`: no pass is reported with an undefined elevation.
-/

namespace EarthStation.PassSearch

variable {τ α : Type} [Scalar α] [Timeline τ α]

/-- Scalars with the laws of order that hold of doubles, undefined ones included. -/
class LawfulScalar (α : Type) [Scalar α] : Prop where
  le_trans : ∀ {a b c : α}, a ≤ b → b ≤ c → a ≤ c
  le_self_right : ∀ {a b : α}, a ≤ b → b ≤ b
  le_of_not_le : ∀ {a b : α}, a ≤ a → b ≤ b → ¬ a ≤ b → b ≤ a
  le_of_not_lt : ∀ {a b : α}, a ≤ a → b ≤ b → ¬ a < b → b ≤ a
  natural_nonneg : ∀ n : ℕ, (0 : α) ≤ Scalar.natural n
  add_nonneg : ∀ {a b : α}, 0 ≤ a → 0 ≤ b → 0 ≤ a + b
  neg_self : ∀ {a : α}, 0 ≤ a → -a ≤ -a
  step_nonneg : ∀ {step : α}, isStep step = true → 0 ≤ step
  grid_nonneg : ∀ {step : α}, isStep step = true → ∀ n, 0 ≤ Visibility.grid step n

/-! ## Doubles -/

section Doubles

open Binary64

theorem float_step {step : Float} (h : isStep step = true) :
    step.isFinite = true ∧ 0 < value step := by
  have hstep : isStep step = (!decide (step ≤ Scalar.natural 0) && step.isFinite) := rfl
  rw [hstep, Bool.and_eq_true, Bool.not_eq_true', decide_eq_false_iff_not] at h
  obtain ⟨hpos, hfinite⟩ := h
  refine ⟨hfinite, ?_⟩
  by_contra hle
  refine hpos (le_iff.mpr ⟨defined_of_finite hfinite, (near_natural 0).defined, ?_⟩)
  rw [value_natural (by norm_num), Nat.cast_zero]
  exact not_lt.mp hle

theorem float_grid_nonneg {step : Float} (h : isStep step = true) (n : ℕ) :
    (Scalar.natural 0 : Float) ≤ Visibility.grid step n := by
  obtain ⟨hfinite, hpos⟩ := float_step h
  exact zero_le_iff.mpr (product_nonneg n hfinite hpos)

/-- The doubles are ordered as far as they are comparable. -/
instance : LawfulScalar Float where
  le_trans hab hbc := by
    obtain ⟨ha, -, hab⟩ := le_iff.mp hab
    obtain ⟨-, hc, hbc⟩ := le_iff.mp hbc
    exact le_iff.mpr ⟨ha, hc, hab.trans hbc⟩
  le_self_right hab := by
    obtain ⟨-, hb, -⟩ := le_iff.mp hab
    exact le_iff.mpr ⟨hb, hb, le_rfl⟩
  le_of_not_le ha hb hab := by
    obtain ⟨ha, -, -⟩ := le_iff.mp ha
    obtain ⟨hb, -, -⟩ := le_iff.mp hb
    refine le_iff.mpr ⟨hb, ha, (lt_of_not_ge fun hle => hab ?_).le⟩
    exact le_iff.mpr ⟨ha, hb, hle⟩
  le_of_not_lt ha hb hab :=
    (not_lt_iff (le_iff.mp ha).1 (le_iff.mp hb).1).mp hab
  natural_nonneg n :=
    zero_le_iff.mpr ⟨(near_natural n).defined, (near_natural n).nonneg (Nat.cast_nonneg n)⟩
  add_nonneg ha hb := zero_le_iff.mpr (sum_nonneg (zero_le_iff.mp ha) (zero_le_iff.mp hb))
  neg_self ha := by
    have hneg := (value_neg (zero_le_iff.mp ha).1).1
    exact le_iff.mpr ⟨hneg, hneg, le_rfl⟩
  step_nonneg h :=
    zero_le_iff.mpr ⟨defined_of_finite (float_step h).1, (float_step h).2.le⟩
  grid_nonneg h n := float_grid_nonneg h n

end Doubles

/-- So are the reals. -/
instance : LawfulScalar ℝ where
  le_trans hab hbc := hab.trans hbc
  le_self_right _ := le_rfl
  le_of_not_le _ _ hab := (not_le.mp hab).le
  le_of_not_lt _ _ hab := not_lt.mp hab
  natural_nonneg n := Nat.cast_le.mpr (Nat.zero_le n)
  add_nonneg {a b} ha hb := by
    have ha' : ((0 : ℕ) : ℝ) ≤ a := ha
    have hb' : ((0 : ℕ) : ℝ) ≤ b := hb
    have hsum : ((0 : ℕ) : ℝ) ≤ a + b := by
      rw [Nat.cast_zero] at *
      exact add_nonneg ha' hb'
    exact hsum
  neg_self _ := le_rfl
  step_nonneg {step} h := by
    rw [isStep_eq, decide_eq_true_iff] at h
    have hstep : ((0 : ℕ) : ℝ) ≤ step := by simpa using h.le
    exact hstep
  grid_nonneg {step} h n := by
    rw [isStep_eq, decide_eq_true_iff] at h
    have hgrid : ((0 : ℕ) : ℝ) ≤ n * step := by
      rw [Nat.cast_zero]
      positivity
    exact hgrid

/-! ## Times -/

variable [LawfulScalar α] {e : Ephemeris τ α} {start : τ} {horizon step m : α}

theorem zero_self : (0 : α) ≤ 0 := LawfulScalar.natural_nonneg 0

omit [LawfulScalar α] in
/-- A walk ends at a point of its grid. -/
theorem walk_minutes {heading : Visibility.Heading} {fuel k : ℕ} {elevation : α}
    (h : (Visibility.walk e start horizon step heading fuel k elevation).result = .ok (some m)) :
    ∃ n, m = heading.minutes (Visibility.grid step n) := by
  induction fuel generalizing k elevation with
  | zero => cases h
  | succ fuel ih =>
    rw [Visibility.walk] at h
    split at h
    · split at h
      · cases h
      · obtain ⟨next, -, h⟩ := Looks.result_bind_eq_ok.mp h
        exact ih h
    · cases h
      exact ⟨k, rfl⟩

/-- An answer that is not behind is ahead. -/
theorem crossing_nonneg
    (h : (Visibility.minutesToCrossing e start horizon step).result = .ok (some m))
    (hm : ¬ m < 0) : 0 ≤ m := by
  unfold Visibility.minutesToCrossing at h
  split at h
  · rename_i hstep
    obtain ⟨first, -, h⟩ := Looks.result_bind_eq_ok.mp h
    obtain ⟨n, rfl⟩ := walk_minutes h
    have hgrid : (0 : α) ≤ Visibility.grid step n := LawfulScalar.grid_nonneg hstep n
    cases hheading : Visibility.Heading.ofElevation first.elevationDeg with
    | forward => exact hgrid
    | backward =>
      rw [hheading] at hm
      exact LawfulScalar.le_of_not_lt (LawfulScalar.neg_self hgrid) zero_self hm
  · cases h

omit [LawfulScalar α] in
theorem isStep_of_search {found : Option α}
    (h : (Visibility.refinedMinutesToCrossing e start horizon step).result = .ok found) :
    isStep step = true := by
  unfold Visibility.refinedMinutesToCrossing at h
  obtain ⟨estimate, hestimate, -⟩ := Looks.result_bind_eq_ok.mp h
  unfold Visibility.minutesToCrossing at hestimate
  split at hestimate
  · assumption
  · cases hestimate

theorem upcoming_nonneg {summary : EarthStation.Pass.Summary τ α}
    (h : EarthStation.Pass.next e start horizon step = .ok (.upcoming m summary)) : 0 ≤ m := by
  obtain ⟨hresult, hahead, -⟩ := EarthStation.Pass.upcoming_inv h
  obtain ⟨grid, hgrid⟩ := Visibility.refinedMinutesToCrossing_origin hresult
  exact crossing_nonneg hgrid hahead

/-- The larger of a value and one that is not negative is not negative. -/
theorem max_nonneg {a b : α} (hb : 0 ≤ b) : 0 ≤ Scalar.max a b := by
  unfold Scalar.max
  split
  · exact LawfulScalar.le_trans hb ‹_›
  · rw [if_pos (LawfulScalar.le_self_right hb)]
    exact hb

variable {c : Criteria α} {o : Options τ α} {x y : α}

/-- **A scan never asks before the offset at which it begins**, nor at an undefined one. -/
theorem asks_nonneg (hx : 0 ≤ x) (h : Asks e o x y) : 0 ≤ y := by
  induction h with
  | here => exact hx
  | afterRise _ hnext _ ih =>
    have hminutes := upcoming_nonneg hnext
    have hgap : (0 : α) ≤ gapMinutes := LawfulScalar.natural_nonneg 60
    exact ih (LawfulScalar.add_nonneg hx (LawfulScalar.add_nonneg hminutes hgap))
  | duringPass _ hnext _ ih =>
    obtain ⟨found, hfound⟩ := EarthStation.Pass.search_of_next hnext
    have hstep := LawfulScalar.step_nonneg (isStep_of_search hfound)
    exact ih (LawfulScalar.add_nonneg hx (max_nonneg hstep))

/-- **No pass is reported before the start**, nor at an undefined time. -/
theorem minutesAway_nonneg {f : NameFilter} {entry : Except CatalogError (Ephemeris τ α)}
    {p : Pass τ α} (h : p ∈ entryPasses f c o entry) : 0 ≤ p.minutesAway := by
  obtain ⟨e, passes, -, -, hpasses, hp⟩ := mem_entryPasses h
  obtain ⟨y, hy, hfound⟩ := found_of_mem hpasses hp
  obtain ⟨minutes, s, hanswer, -, rfl⟩ := upcoming_of_found hfound
  have hoffset := asks_nonneg zero_self (asks_of_mem_asked hy)
  exact LawfulScalar.add_nonneg hoffset (upcoming_nonneg hanswer)

/-! ## Elevations -/

section Elevations

open Binary64

variable {τ : Type} [Timeline τ Float]

theorem defined_max {a b : Float} (hb : Defined b) : Defined (Scalar.max a b) := by
  unfold Scalar.max
  split
  · rename_i hle
    exact (le_iff.mp hle).2.1
  · rw [if_pos (le_iff.mpr ⟨hb, hb, le_rfl⟩)]
    exact hb

/-- A walk that has counted a sample above the horizon has a highest elevation. -/
theorem sweepFrom_defined {e : Ephemeris τ Float} {rise t : τ} {step : Float} {fuel k : ℕ}
    {o : Observation Float} {s : EarthStation.Pass.Sweep τ Float}
    {summary : EarthStation.Pass.Summary τ Float}
    (h : EarthStation.Pass.sweepFrom e rise step fuel k t o s = .ok summary)
    (hs : s.summary.minutesAbove0 = 0 ∨ Defined s.summary.maxElevationDeg) :
    summary.minutesAbove0 = 0 ∨ Defined summary.maxElevationDeg := by
  induction fuel generalizing k t o s with
  | zero => cases h
  | succ fuel ih =>
    rw [EarthStation.Pass.sweepFrom] at h
    by_cases hup : EarthStation.Pass.lossElevation < o.elevationDeg
    · rw [if_pos hup] at h
      dsimp only at h
      split at h
      · cases h
      · obtain ⟨o', -, h⟩ := bind_eq_ok_iff.mp h
        -- the sample is higher than the loss of signal, so that it is defined
        have hmax : (s.add step t o).summary.maxElevationDeg =
            Scalar.max s.summary.maxElevationDeg o.elevationDeg := by
          unfold EarthStation.Pass.Sweep.add
          dsimp only
          split <;> rfl
        exact ih h (.inr (hmax ▸ defined_max (lt_iff.mp hup).2.1))
    · rw [if_neg hup] at h
      cases h
      exact hs

/-- **No pass is reported with an undefined elevation**, since it has been above the horizon. -/
theorem maxElevationDeg_defined {f : NameFilter} {c : Criteria Float} {o : Options τ Float}
    {entry : Except CatalogError (Ephemeris τ Float)} {p : Pass τ Float}
    (h : p ∈ entryPasses f c o entry) : Defined p.maxElevationDeg := by
  obtain ⟨e, passes, -, -, hpasses, hp⟩ := mem_entryPasses h
  obtain ⟨y, -, hfound⟩ := found_of_mem hpasses hp
  obtain ⟨minutes, s, hanswer, hadmits, rfl⟩ := upcoming_of_found hfound
  obtain ⟨-, -, hwalk⟩ := EarthStation.Pass.upcoming_inv hanswer
  have hrisen : s.minutesAbove0 ≠ 0 := by
    intro hzero
    unfold admits at hadmits
    rw [hzero, decide_eq_true (zero_self : (0 : Float) ≤ 0)] at hadmits
    cases hadmits
  unfold EarthStation.Pass.characterize at hwalk
  split at hwalk
  · obtain ⟨first, -, hwalk⟩ := bind_eq_ok_iff.mp hwalk
    exact (sweepFrom_defined hwalk (.inl rfl)).resolve_left hrisen
  · cases hwalk

end Elevations

end EarthStation.PassSearch
