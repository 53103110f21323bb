import EarthStation.Proofs.Search.Rounds

/-!
# Completeness — which visits a full scan reports

* `PassSearch.Complete`: one pass for every visit inside the window, and none besides.
* `PassSearch.run_candidate`, `PassSearch.run_single`: a run over one satellite is its scan.
* `PassSearch.run_complete_iff`: a full scan is complete just if it is never cut off.
* `PassSearch.overhead_incomplete`: a scan that is cut off by a long pass in progress.
-/

namespace EarthStation.PassSearch

open Visibility (coarseStep)

/-- Every visit that rises after the start and a minute before the end of the window is reported by
exactly one pass, and every pass reports a visit of the window. -/
def Complete (T : Timetable) (window : ℝ) (passes : List (Pass ℝ ℝ)) : Prop :=
  (∀ v ∈ T.visits, 0 < v.rise → v.rise + 1 < window →
    passes.countP (fun p => decide (Reports p v)) = 1) ∧
  ∀ p ∈ passes, ∃ v ∈ T.visits, 0 < v.rise ∧ v.rise < window ∧ Reports p v

variable {T : Timetable} {sky : ℝ → Observation ℝ} {e : Ephemeris ℝ ℝ} {c : Criteria ℝ}
  {o : Options ℝ ℝ} {window : ℝ}

/-- The order of the passes is of no account. -/
theorem Complete.perm {passes passes' : List (Pass ℝ ℝ)} (hperm : passes.Perm passes') :
    Complete T window passes ↔ Complete T window passes' := by
  unfold Complete
  simp only [hperm.countP_eq, hperm.mem_iff]

/-- Of passes more than a minute apart, one at most reports a visit. -/
theorem countP_reports {passes : List (Pass ℝ ℝ)} {v : Visit}
    (hspaced : passes.Pairwise fun p q => p.minutesAway + 1 < q.minutesAway)
    (hreports : ∃ p ∈ passes, Reports p v) :
    passes.countP (fun p => decide (Reports p v)) = 1 := by
  induction hspaced with
  | nil => simp at hreports
  | @cons p rest hp hrest ih =>
    rw [List.countP_cons]
    by_cases hpv : Reports p v
    · have hnone : rest.countP (fun q => decide (Reports q v)) = 0 := by
        refine List.countP_eq_zero.mpr fun q hq hqv => ?_
        have hqv' := of_decide_eq_true hqv
        linarith [hp q hq, hpv.1, hqv'.2]
      rw [hnone, if_pos (decide_eq_true hpv)]
    · obtain ⟨q, hq, hqv⟩ := hreports
      rcases List.mem_cons.mp hq with rfl | hq
      · exact absurd hqv hpv
      · rw [ih ⟨q, hq, hqv⟩, if_neg (by simpa using hpv)]

/-! ## A run over one satellite -/

/-- The rounds of a scan lead through its window. -/
theorem window_le_rounds (hstep : 0 < o.stepMinutes) :
    o.windowMinutes ≤ 0 + roundBound o * min o.stepMinutes 60 := by
  have hpos : 0 < min o.stepMinutes 60 := lt_min hstep (by norm_num)
  have hround : (if o.stepMinutes < gapMinutes then o.stepMinutes else gapMinutes) =
      min o.stepMinutes 60 := by
    rw [gapMinutes_eq]
    split
    · exact (min_eq_left (le_of_lt ‹_›)).symm
    · exact (min_eq_right (not_lt.mp ‹_›)).symm
  have hbound : roundBound o = ⌈o.windowMinutes / min o.stepMinutes 60⌉₊ + 2 := by
    rw [← hround]
    rfl
  have hceil := (div_le_iff₀ hpos).mp (Nat.le_ceil (o.windowMinutes / min o.stepMinutes 60))
  rw [hbound]
  push_cast
  linarith

theorem roundBound_le (hstep : o.stepMinutes = 1) : o.windowMinutes ≤ 0 + roundBound o := by
  have hrounds := window_le_rounds (o := o) (by rw [hstep]; exact one_pos)
  rwa [hstep, min_eq_left (by norm_num), mul_one] at hrounds

theorem passesOf_eq (e : Ephemeris ℝ ℝ) (name : String) (c : Criteria ℝ) (o : Options ℝ ℝ) :
    passesOf e name c o = passesFrom e name c o (roundBound o) 0 := by
  have h : passesOf e name c o = passesFrom e name c o (roundBound o) ((0 : ℕ) : ℝ) := rfl
  rw [h, Nat.cast_zero]

/-- A run over one satellite whose passes are looked for is its scan. -/
theorem run_candidate [PatternReader] {f : NameFilter} (hf : NameFilter.ofCriteria? c = some f)
    (hcandidate : isCandidate f c o e = true) {passes : List (Pass ℝ ℝ)}
    (hpasses : passesFrom e (listedName e) c o (roundBound o) 0 = .ok passes) :
    run [.ok e] c o = .ok ⟨passes.mergeSort o.order.precedes, 1, 1⟩ := by
  have hscan : scan f c o ⟨[], 0, 0⟩ (.ok e) = .ok ⟨passes, 1, 1⟩ := by
    unfold scan
    dsimp only
    rw [if_pos hcandidate, passesOf_eq, hpasses]
    rfl
  unfold run
  rw [hf]
  dsimp only
  rw [List.foldlM_cons, hscan]
  rfl

/-- A run over one satellite that nothing excludes is its scan. -/
theorem run_single [PatternReader] (he : e.Shows sky) (hc : Admits c sky) {passes : List (Pass ℝ ℝ)}
    (hpasses : passesFrom e (listedName e) c o (roundBound o) 0 = .ok passes) :
    run [.ok e] c o = .ok ⟨passes.mergeSort o.order.precedes, 1, 1⟩ := by
  have hfilter : NameFilter.ofCriteria? c = some ⟨none, true⟩ := by
    unfold NameFilter.ofCriteria?
    rw [hc.pattern, hc.withConstellations]
  have hband : inBand c (sky o.start) = true := by
    obtain ⟨hlow, hhigh⟩ := hc.altitude o.start
    have h : inBand c (sky o.start) = !(decide ((sky o.start).altitudeKm < c.minAltitudeKm)
        || decide (c.maxAltitudeKm < (sky o.start).altitudeKm)) := rfl
    rw [h, decide_eq_false (not_lt.mpr hlow), decide_eq_false (not_lt.mpr hhigh)]
    rfl
  have hcandidate : isCandidate ⟨none, true⟩ c o e = true := by
    unfold isCandidate
    rw [he]
    exact hband
  exact run_candidate hfilter hcandidate hpasses

theorem exists_run [PatternReader] (h : FullScan T sky e c o) : ∃ found, run [.ok e] c o = .ok found := by
  obtain ⟨passes, hpasses, -⟩ := passesFrom_reports (listedName e) h (roundBound o) le_rfl
  exact ⟨_, run_single h.shows h.admits hpasses⟩

/-- The scan behind a run. -/
theorem scan_of_run [PatternReader] (h : FullScan T sky e c o) {found : Found ℝ ℝ}
    (hrun : run [.ok e] c o = .ok found) :
    ∃ passes, passesFrom e (listedName e) c o (roundBound o) 0 = .ok passes ∧
      found.passes.Perm passes := by
  obtain ⟨passes, hpasses, -⟩ := passesFrom_reports (listedName e) h (roundBound o) le_rfl
  cases hrun.symm.trans (run_single h.shows h.admits hpasses)
  exact ⟨passes, hpasses, List.mergeSort_perm passes o.order.precedes⟩

/-! ## Completeness -/

/-- A full scan that is never cut off is complete. -/
theorem complete_of_not_cutOff [PatternReader] (h : FullScan T sky e c o)
    (hcut : ∀ x, Asks e o 0 x → ¬ CutOff T o.windowMinutes x) {found : Found ℝ ℝ}
    (hrun : run [.ok e] c o = .ok found) : Complete T o.windowMinutes found.passes := by
  obtain ⟨passes, hpasses, hperm⟩ := scan_of_run h hrun
  obtain ⟨passes', hpasses', hreports, hspaced⟩ :=
    passesFrom_reports (listedName e) h (roundBound o) le_rfl
  cases hpasses.symm.trans hpasses'
  refine (Complete.perm hperm).mpr ⟨fun v hv hpos hwindow => countP_reports hspaced ?_, fun p hp => ?_⟩
  · exact passesFrom_complete h le_rfl (roundBound_le h.minute) hcut hpasses hv hpos hwindow
  · obtain ⟨-, v, hv, hpos, hwindow, hpv⟩ := hreports p hp
    exact ⟨v, hv, hpos, hwindow, hpv⟩

/-- A scan that is cut off misses a visit. -/
theorem not_complete_of_cutOff [PatternReader] (h : FullScan T sky e c o) {x : ℝ} (hasks : Asks e o 0 x)
    (hcut : CutOff T o.windowMinutes x) {found : Found ℝ ℝ}
    (hrun : run [.ok e] c o = .ok found) : ¬ Complete T o.windowMinutes found.passes := by
  obtain ⟨passes, hpasses, hperm⟩ := scan_of_run h hrun
  rw [Complete.perm hperm]
  rintro ⟨hcomplete, -⟩
  have hearly := passesFrom_cut h le_rfl hasks hcut hpasses
  obtain ⟨v, hv, hspans, hfar, w, hw, hxw, hwindow⟩ := hcut
  have hx : 0 ≤ x := hasks.le (by rw [h.minute]; exact one_pos)
  have hcount := hcomplete w hw (by linarith) hwindow
  obtain ⟨p, hp, hpw⟩ := List.countP_pos_iff.mp (by rw [hcount]; exact one_pos)
  linarith [hearly p hp, (of_decide_eq_true hpw).1]

/-- A cut takes a visit that lasts, at its set, as long as what is left of the window. -/
theorem not_cutOff_of_early (hearly : ∀ v ∈ T.visits, ∀ w ∈ T.visits, v.rise < w.rise →
    w.rise + 1 < window → v.set + (v.set - v.rise) + 1 < window) (x : ℝ) : ¬ CutOff T window x := by
  rintro ⟨v, hv, hspans, hfar, w, hw, hxw, hwindow⟩
  have hshort := hearly v hv w hw (hspans.1.trans_lt hxw) hwindow
  have hfloor := Nat.floor_le (sub_nonneg.mpr hspans.1)
  linarith [hspans.2]

/-- **A full scan is complete just if it is never cut off**: a pass in progress hides the visits after
it if the scan asks for the next pass at a time from which the rise of the pass lies, in whole
minutes, as far back as the end of the window lies ahead. -/
theorem run_complete_iff [PatternReader] (he : e.Shows sky) (hT : T.Rules sky o.start) (hc : Admits c sky)
    (hstep : o.stepMinutes = 1) (hall : o.findAll = true) :
    ∃ found, run [.ok e] c o = .ok found ∧ (Complete T o.windowMinutes found.passes ↔
      ∀ x, Asks e o 0 x → ¬ CutOff T o.windowMinutes x) := by
  have h : FullScan T sky e c o := ⟨he, hT, hc, hstep, hall⟩
  obtain ⟨found, hrun⟩ := exists_run h
  refine ⟨found, hrun, fun hcomplete x hasks hcut => ?_, fun hcut => ?_⟩
  · exact not_complete_of_cutOff h hasks hcut hrun hcomplete
  · exact complete_of_not_cutOff h hcut hrun

/-! ## Two satellites -/

/-- Reads words of letters and digits, which are found where they stand, and no other patterns. -/
@[reducible] def PatternReader.words : PatternReader where
  read? ignoreCase text :=
    if text.toList.all Char.isAlphanum && !ignoreCase then
      some fun name => decide (text.toList <:+: name.toList)
    else none

theorem admits_standard (T : Timetable) : Admits Criteria.standard T.sky where
  pattern := rfl
  withConstellations := rfl
  altitude t := by
    have hlow : (Criteria.standard : Criteria ℝ).minAltitudeKm = ((0 : ℕ) : ℝ) := rfl
    have hhigh : (Criteria.standard : Criteria ℝ).maxAltitudeKm = ((100000 : ℕ) : ℝ) := rfl
    rw [hlow, hhigh, Timetable.sky]
    norm_num
  lowest t hup := by
    have hlow : (Criteria.standard : Criteria ℝ).minElevationDeg = ((0 : ℕ) : ℝ) := rfl
    rw [hlow, Nat.cast_zero]
    exact hup.le
  highest t := by
    have hhigh : (Criteria.standard : Criteria ℝ).maxElevationDeg = ((90 : ℕ) : ℝ) := rfl
    rw [hhigh, Timetable.sky]
    split <;> norm_num
  minutes := le_of_eq Nat.cast_zero

/-- A visit of eight minutes. -/
noncomputable def brief (rise : ℝ) : Visit := ⟨rise, rise + 8⟩

theorem brief_proper (rise : ℝ) : (brief rise).Proper where
  lasts := by
    change rise + 1 ≤ rise + 8
    linarith
  sets := by
    change rise + 8 ≤ rise + 1439
    linarith

theorem brief_precedes : (brief 12).Precedes (brief 150) where
  rises := by
    change (12 : ℝ) + 62 ≤ 150
    norm_num
  gap := by
    change (12 : ℝ) + 8 + 1 < 150
    norm_num

/-- Two visits on one day. -/
noncomputable def twice : Timetable :=
  .pair (brief 12) (brief 150) (brief_proper 12) (brief_proper 150) brief_precedes

/-- Both visits of a day are reported. -/
theorem run_complete_twice :
    letI := PatternReader.words
    ∃ found, run [.ok twice.satellite] Criteria.standard ⟨0, 1, 1440, .soonestFirst, true⟩ =
      .ok found ∧ Complete twice 1440 found.passes := by
  let := PatternReader.words
  obtain ⟨found, hrun, hiff⟩ := run_complete_iff twice.satellite_shows twice.rules_sky
    (admits_standard twice) (o := ⟨0, 1, 1440, .soonestFirst, true⟩) rfl rfl
  refine ⟨found, hrun, hiff.mpr fun x _ => not_cutOff_of_early ?_ x⟩
  rintro v (rfl | rfl) w - - - <;> norm_num [brief]

/-- A visit in progress since more than an hour and a half. -/
noncomputable def lasting : Visit := ⟨-99.5, 20⟩

theorem lasting_proper : lasting.Proper where
  lasts := by norm_num [lasting]
  sets := by norm_num [lasting]

theorem lasting_precedes : lasting.Precedes (brief 50) where
  rises := by norm_num [lasting, brief]
  gap := by norm_num [lasting, brief]

/-- A long visit in progress and a short one after it. -/
noncomputable def overhead : Timetable :=
  .pair lasting (brief 50) lasting_proper (brief_proper 50) lasting_precedes

/-- The visit in progress hides the one after it, which rises in the middle of the window. -/
theorem overhead_incomplete :
    letI := PatternReader.words
    overhead.Rules overhead.sky 0 ∧ Admits Criteria.standard overhead.sky ∧
      ∃ found, run [.ok overhead.satellite] Criteria.standard ⟨0, 1, 100, .soonestFirst, true⟩ =
        .ok found ∧ ¬ Complete overhead 100 found.passes := by
  let := PatternReader.words
  have hscan : FullScan overhead overhead.sky overhead.satellite Criteria.standard
      ⟨0, 1, 100, .soonestFirst, true⟩ :=
    ⟨overhead.satellite_shows, overhead.rules_sky, admits_standard overhead, rfl, rfl⟩
  obtain ⟨found, hrun⟩ := exists_run hscan
  have hasks : Asks overhead.satellite ⟨0, 1, 100, .soonestFirst, true⟩ 0 0 :=
    Asks.here (by norm_num)
  have hcut : CutOff overhead 100 0 := by
    refine ⟨lasting, Or.inl rfl, ⟨by norm_num [lasting], by norm_num [lasting]⟩, ?_, brief 50,
      Or.inr rfl, by norm_num [brief], by norm_num [brief]⟩
    have hfloor : 99 ≤ ⌊0 - lasting.rise⌋₊ := Nat.le_floor (by norm_num [lasting])
    have hfloor' : (99 : ℝ) ≤ ⌊0 - lasting.rise⌋₊ := by exact_mod_cast hfloor
    linarith
  exact ⟨overhead.rules_sky, admits_standard overhead, found, hrun,
    not_complete_of_cutOff hscan hasks hcut hrun⟩

end EarthStation.PassSearch
