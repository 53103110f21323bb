import EarthStation.Proofs.Search.Asked
import EarthStation.Proofs.Search.Completeness
import EarthStation.Proofs.Search.Samples

/-!
# Soundness — what stands behind a reported pass

* `PassSearch.Sound`: a pass inside the window and the criteria, of a satellite that they admit, with a
  sweep that was walked from the horizon to the loss of signal.
* `PassSearch.sound_of_found`: the answer to one question is sound.
* `PassSearch.run_sound`: so is every pass of a run.
-/

namespace EarthStation.PassSearch

/-! ## The questions of a scan -/

section Asked

variable {τ α : Type} [Scalar α] [Timeline τ α] {e : Ephemeris τ α} {c : Criteria α}
  {o : Options τ α} {x y : α}

theorem asks_of_mem_asked {fuel : ℕ} (h : y ∈ asked e c o fuel x) : Asks e o x y := by
  induction fuel generalizing x with
  | zero => cases h
  | succ fuel ih =>
    rw [asked_succ] at h
    by_cases hx : x < o.windowMinutes
    · rw [if_pos hx] at h
      rcases List.mem_cons.mp h with rfl | h
      · exact Asks.here hx
      · cases hgoes : onward e c o x with
        | none =>
          rw [hgoes] at h
          cases h
        | some z =>
          rw [hgoes] at h
          rcases onward_cases hgoes with ⟨minutes, s, hanswer, rfl⟩ | ⟨since, hanswer, rfl⟩
          · exact Asks.afterRise hx hanswer (ih h)
          · exact Asks.duringPass hx hanswer (ih h)
    · rw [if_neg hx] at h
      cases h

/-- A scan asks inside its window. -/
theorem Asks.lt_window (h : Asks e o x y) : y < o.windowMinutes := by
  induction h with
  | here hx => exact hx
  | afterRise _ _ _ ih => exact ih
  | duringPass _ _ _ ih => exact ih

/-- A pass is found where a rise comes and the criteria admit it. -/
theorem upcoming_of_found {name : String} {p : Pass τ α} (h : foundAt e name c o y = some p) :
    ∃ minutes s, ask e o y = .ok (.upcoming minutes s) ∧ admits c (y + minutes) s = true ∧
      p = Pass.ofSummary name (y + minutes) s := by
  unfold foundAt at h
  split at h
  · rename_i minutes s hanswer
    by_cases hadmits : admits c (y + minutes) s
    · rw [if_pos hadmits] at h
      cases h
      exact ⟨minutes, s, hanswer, hadmits, rfl⟩
    · rw [if_neg hadmits] at h
      cases h
  · cases h

end Asked

variable {e : Ephemeris ℝ ℝ} {f : NameFilter} {c : Criteria ℝ} {o : Options ℝ ℝ} {p : Pass ℝ ℝ}

theorem admits_iff {minutes : ℝ} {s : EarthStation.Pass.Summary ℝ ℝ} :
    admits c minutes s = true ↔ 0 < s.minutesAbove0 ∧ s.maxElevationDeg ≤ c.maxElevationDeg ∧
      c.minElevationDeg ≤ s.maxElevationDeg ∧ c.minMinutes ≤ minutes := by
  have h : admits c minutes s = !(decide (s.minutesAbove0 ≤ ((0 : ℕ) : ℝ))
      || decide (c.maxElevationDeg < s.maxElevationDeg)
      || decide (s.maxElevationDeg < c.minElevationDeg) || decide (minutes < c.minMinutes)) := rfl
  rw [h, Nat.cast_zero]
  simp only [Bool.not_eq_true', Bool.or_eq_false_iff, decide_eq_false_iff_not, not_le, not_lt,
    and_assoc]

theorem inBand_iff {seen : Observation ℝ} :
    inBand c seen = true ↔ c.minAltitudeKm ≤ seen.altitudeKm ∧ seen.altitudeKm ≤ c.maxAltitudeKm := by
  have h : inBand c seen = !(decide (seen.altitudeKm < c.minAltitudeKm)
      || decide (c.maxAltitudeKm < seen.altitudeKm)) := rfl
  rw [h]
  simp

/-! ## Soundness -/

/-- The sweep behind a pass: it begins where the satellite is not below the horizon, has a sample above
it, of which the pass tells the first, and ends at the loss of signal within the day. -/
structure Swept (e : Ephemeris ℝ ℝ) (o : Options ℝ ℝ) (p : Pass ℝ ℝ) (n : ℕ)
    (obs : ℕ → Observation ℝ) : Prop where
  walked : EarthStation.Pass.Walked e (o.start + p.minutesAway) n obs
  begins : 0 ≤ (obs 0).elevationDeg
  risen : ∃ j < n, EarthStation.Pass.FirstUp obs j ∧
    p.riseTime = o.start + p.minutesAway + j * (1 / 4) ∧ p.riseAzimuthDeg = (obs j).azimuthDeg
  duration : p.durationMinutes = n * (1 / 4)
  highest : IsGreatest {h | ∃ i < n, h = (obs i).elevationDeg} p.maxElevationDeg

/-- What holds of a reported pass of a satellite. -/
structure Sound (f : NameFilter) (c : Criteria ℝ) (o : Options ℝ ℝ) (e : Ephemeris ℝ ℝ)
    (p : Pass ℝ ℝ) : Prop where
  name : p.satellite = listedName e
  accepted : f.accepts (listedName e) = true
  altitude : ∃ seen, e.observe o.start = .ok seen ∧ c.minAltitudeKm ≤ seen.altitudeKm ∧
    seen.altitudeKm ≤ c.maxAltitudeKm
  ahead : 0 ≤ p.minutesAway
  inWindow : p.minutesAway < o.windowMinutes
  minutes : c.minMinutes ≤ p.minutesAway
  lowest : c.minElevationDeg ≤ p.maxElevationDeg
  highest : p.maxElevationDeg ≤ c.maxElevationDeg
  swept : ∃ n obs, Swept e o p n obs

/-- A sweep that has a sample above the horizon is longer than nothing, so that its highest elevation
is that of one of the samples that it counts. -/
theorem highest_of_pos {obs : ℕ → Observation ℝ} {n : ℕ} (hn : 0 < n) {h : ℝ}
    (hh : IsGreatest {h | ∃ i, (i = 0 ∨ i < n) ∧ h = (obs i).elevationDeg} h) :
    IsGreatest {h | ∃ i < n, h = (obs i).elevationDeg} h := by
  have hset : {h | ∃ i, (i = 0 ∨ i < n) ∧ h = (obs i).elevationDeg} =
      {h | ∃ i < n, h = (obs i).elevationDeg} := by
    ext h
    constructor
    · rintro ⟨i, hi, rfl⟩
      exact ⟨i, by omega, rfl⟩
    · rintro ⟨i, hi, rfl⟩
      exact ⟨i, Or.inr hi, rfl⟩
  rwa [hset] at hh

/-- The sweep behind a rise that comes. -/
theorem swept_of_upcoming {y minutes : ℝ} {s : EarthStation.Pass.Summary ℝ ℝ} (name : String)
    (hy : y < o.windowMinutes) (h : ask e o y = .ok (.upcoming minutes s))
    (hlit : 0 < s.minutesAbove0) :
    0 ≤ minutes ∧ y + minutes < o.windowMinutes ∧
      ∃ n obs, Swept e o (Pass.ofSummary name (y + minutes) s) n obs := by
  obtain ⟨hresult, hminutes, hsummary⟩ := EarthStation.Pass.found_of_upcoming h
  have hlater : Timeline.later o.start y + minutes = o.start + (y + minutes) :=
    add_assoc o.start y minutes
  obtain ⟨hnear, first, hfirst, hbegins⟩ :=
    Visibility.refined_lands (sub_pos.mpr hy) hresult hminutes
  rw [hlater] at hfirst hsummary
  obtain ⟨n, obs, hwalked, hstatistics⟩ := EarthStation.Pass.characterize_walked hsummary
  obtain ⟨j, hj, hup, htime, hazimuth⟩ := hstatistics.firstUp hlit
  have hzero : obs 0 = first := by
    have hseen := hwalked.seen 0 (Nat.zero_le n)
    rw [Nat.cast_zero, zero_mul, add_zero, hfirst] at hseen
    exact (Except.ok.inj hseen).symm
  refine ⟨hminutes, by linarith, n, obs, hwalked, by rw [hzero]; exact hbegins,
    ⟨j, hj, hup, htime, hazimuth⟩, hstatistics.duration, ?_⟩
  exact highest_of_pos (by omega) hstatistics.highest

/-- The sweep behind a pass that is found. -/
theorem swept_of_found {name : String} {y : ℝ} (hy : y < o.windowMinutes)
    (hp : foundAt e name c o y = some p) : ∃ n obs, Swept e o p n obs := by
  obtain ⟨minutes, s, hanswer, hadmits, rfl⟩ := upcoming_of_found hp
  exact (swept_of_upcoming name hy hanswer (admits_iff.mp hadmits).1).2.2

/-- **A pass that is found is sound.** -/
theorem sound_of_found (hstep : 0 < o.stepMinutes) (hcandidate : isCandidate f c o e = true)
    {fuel : ℕ} {y : ℝ} (hy : y ∈ asked e c o fuel 0)
    (hp : foundAt e (listedName e) c o y = some p) : Sound f c o e p := by
  obtain ⟨minutes, s, hanswer, hadmits, rfl⟩ := upcoming_of_found hp
  obtain ⟨hlit, hhighest, hlowest, hlate⟩ := admits_iff.mp hadmits
  have hasks := asks_of_mem_asked hy
  have hahead := hasks.le hstep
  obtain ⟨hminutes, hwindow, hswept⟩ :=
    swept_of_upcoming (listedName e) hasks.lt_window hanswer hlit
  unfold isCandidate at hcandidate
  obtain ⟨haccepted, hband⟩ := (Bool.and_eq_true _ _).mp hcandidate
  cases hseen : e.observe o.start with
  | error cause => simp [hseen] at hband
  | ok seen =>
    rw [hseen] at hband
    exact ⟨rfl, haccepted, ⟨seen, hseen, inBand_iff.mp hband⟩, add_nonneg hahead hminutes, hwindow,
      hlate, hlowest, hhighest, hswept⟩

/-- **Every reported pass is sound**: it belongs to an entry of the catalog that the criteria admit, its
rise and its elevation are inside the window and the criteria, and its sweep was walked to the end. -/
theorem run_sound [PatternReader] {catalog : List (Except CatalogError (Ephemeris ℝ ℝ))}
    (hstep : 0 < o.stepMinutes) {found : Found ℝ ℝ} (hrun : run catalog c o = .ok found) :
    ∃ f, NameFilter.ofCriteria? c = some f ∧
      ∀ p ∈ found.passes, ∃ e, .ok e ∈ catalog ∧ Sound f c o e p := by
  cases hf : NameFilter.ofCriteria? c with
  | none =>
    unfold run at hrun
    rw [hf] at hrun
    cases hrun
  | some f =>
    rw [run_eq hf] at hrun
    split at hrun
    · cases hrun
    · cases hrun
      refine ⟨f, rfl, fun p hp => ?_⟩
      rw [List.mem_mergeSort, List.mem_flatMap] at hp
      obtain ⟨entry, hentry, hp⟩ := hp
      obtain ⟨e, passes, rfl, hcandidate, hpasses, hp⟩ := mem_entryPasses hp
      rw [passesOf_eq] at hpasses
      obtain ⟨y, hy, hp⟩ := found_of_mem hpasses hp
      exact ⟨e, hentry, sound_of_found hstep hcandidate hy hp⟩

/-- A satellite that is up twice a day has passes. -/
theorem exists_passes_twice [PatternReader] :
    ∃ found, run [.ok twice.satellite] Criteria.standard ⟨0, 1, 1440, .soonestFirst, true⟩ =
      .ok found ∧ found.passes ≠ [] := by
  have hscan : FullScan twice twice.sky twice.satellite Criteria.standard
      ⟨0, 1, 1440, .soonestFirst, true⟩ :=
    ⟨twice.satellite_shows, twice.rules_sky, admits_standard twice, rfl, rfl⟩
  obtain ⟨found, hrun⟩ := exists_run hscan
  have hcomplete := complete_of_not_cutOff hscan
    (fun x _ => not_cutOff_of_early (by rintro v (rfl | rfl) w - - - <;> norm_num [brief]) x) hrun
  have hcount := hcomplete.1 (brief 12) (Or.inl rfl) (by norm_num [brief]) (by norm_num [brief])
  refine ⟨found, hrun, fun hnone => ?_⟩
  rw [hnone] at hcount
  cases hcount

/-- The passes of a satellite that is up twice a day are sound. -/
theorem run_sound_day :
    letI := PatternReader.words
    ∃ found, run [.ok twice.satellite] Criteria.standard ⟨0, 1, 1440, .soonestFirst, true⟩ =
      .ok found ∧ found.passes ≠ [] ∧ ∀ p ∈ found.passes, Sound ⟨none, true⟩ Criteria.standard
        ⟨0, 1, 1440, .soonestFirst, true⟩ twice.satellite p := by
  let := PatternReader.words
  obtain ⟨found, hrun, hsome⟩ := exists_passes_twice
  obtain ⟨f, hf, hsound⟩ := run_sound one_pos hrun
  cases hf
  refine ⟨found, hrun, hsome, fun p hp => ?_⟩
  obtain ⟨e, he, hs⟩ := hsound p hp
  cases List.mem_singleton.mp he
  exact hs

end EarthStation.PassSearch
