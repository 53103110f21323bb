import EarthStation.Proofs.Search.Soundness

/-!
# Progress — the scan of one satellite moves forward and ends

* `PassSearch.passesFrom_round`: a round ends the scan, or the scan goes on from another offset.
* `PassSearch.Takes`: the offsets of all rounds of a scan that ends of its own accord.
* `PassSearch.onward_step`: a round moves on by a step or by an hour.
* `PassSearch.exists_takes`, `PassSearch.Takes.inside`: a scan ends, and all of its rounds lie inside the
  window.
* `PassSearch.Takes.spaced`: the passes that are found come an hour apart.
* `PassSearch.Swept.grazes`, `PassSearch.rises_apart`: the rise that a pass tells is the instant at which
  it was found, and later than that of the pass before, unless the satellite grazed the horizon.
* `PassSearch.progress_law`: all of that for the scan of one satellite.
* `PassSearch.grazing_told_twice`: two passes may tell the same rise.
-/

namespace EarthStation.PassSearch

/-! ## Rounds -/

section Rounds

variable {τ α : Type} [Scalar α] [Timeline τ α]

/-- A scan from the offset `x` on takes its rounds at the offsets `xs`, and then it is over: an offset is
behind the window, or a round is the last. -/
inductive Takes (e : Ephemeris τ α) (c : Criteria α) (o : Options τ α) : α → List α → Prop where
  | behind {x : α} (hx : ¬ x < o.windowMinutes) : Takes e c o x []
  | last {x : α} (hx : x < o.windowMinutes) (hends : onward e c o x = none) : Takes e c o x [x]
  | round {x y : α} {xs : List α} (hx : x < o.windowMinutes) (hgoes : onward e c o x = some y)
      (hrest : Takes e c o y xs) : Takes e c o x (x :: xs)

variable {e : Ephemeris τ α} {name : String} {c : Criteria α} {o : Options τ α} {x y : α}

/-- **A round ends the scan, or the scan goes on** from another offset with what the round found. -/
theorem passesFrom_round (hx : x < o.windowMinutes) (fuel : ℕ) :
    passesFrom e name c o (fuel + 1) x = (onward e c o x).elim (answer e name c o [x])
      fun y => (passesFrom e name c o fuel y).map ((foundAt e name c o x).toList ++ ·) := by
  rw [passesFrom_eq, asked_succ, if_pos hx]
  cases hgoes : onward e c o x with
  | none => rfl
  | some y =>
    dsimp only [Option.elim_some]
    rw [passesFrom_eq, answer_cons (faultAt_of_onward hgoes)]

/-- Enough fuel leads through all rounds. -/
theorem Takes.asked_eq {xs : List α} (h : Takes e c o x xs) {fuel : ℕ} (hfuel : xs.length ≤ fuel) :
    asked e c o fuel x = xs := by
  induction h generalizing fuel with
  | behind hx =>
    cases fuel with
    | zero => rfl
    | succ fuel => rw [asked_succ, if_neg hx]
  | last hx hends =>
    obtain ⟨fuel, rfl⟩ := Nat.exists_eq_add_of_le' hfuel
    show asked e c o (fuel + 1) _ = _
    rw [asked_succ, if_pos hx, hends]
  | round hx hgoes _ ih =>
    obtain ⟨fuel, rfl⟩ := Nat.exists_eq_add_of_le' (Nat.le_of_add_left_le hfuel)
    rw [asked_succ, if_pos hx, hgoes]
    dsimp only
    rw [ih (Nat.le_of_succ_le_succ hfuel)]

end Rounds

/-! ## Moving on -/

variable {e : Ephemeris ℝ ℝ} {name : String} {c : Criteria ℝ} {o : Options ℝ ℝ} {x y : ℝ}

/-- **A round moves on by a step or by an hour**, however long ago a pass in progress rose. -/
theorem onward_step (h : onward e c o x = some y) : x + min o.stepMinutes 60 ≤ y := by
  rcases onward_cases h with ⟨minutes, s, hanswer, rfl⟩ | ⟨since, hanswer, rfl⟩
  · have hminutes := EarthStation.Pass.minutes_nonneg hanswer
    rw [gapMinutes_eq]
    linarith [min_le_right o.stepMinutes 60]
  · rw [gapMinutes_eq, scalarMax_eq]
    linarith [min_le_left o.stepMinutes 60, le_max_right (60 - since) o.stepMinutes]

/-- The pass that a round finds is ahead of it, and the next round is an hour behind its rise. -/
theorem foundAt_ahead {p : Pass ℝ ℝ} (hp : foundAt e name c o x = some p) :
    x ≤ p.minutesAway ∧ ∀ y, onward e c o x = some y → p.minutesAway + 60 ≤ y := by
  obtain ⟨minutes, s, hanswer, -, rfl⟩ := upcoming_of_found hp
  have hminutes := EarthStation.Pass.minutes_nonneg hanswer
  rw [minutesAway_ofSummary]
  refine ⟨by linarith, ?_⟩
  intro y hgoes
  rcases onward_cases hgoes with ⟨minutes', s', hanswer', rfl⟩ | ⟨since, hanswer', -⟩
  · cases hanswer.symm.trans hanswer'
    rw [gapMinutes_eq]
    linarith
  · cases hanswer.symm.trans hanswer'

/-! ## All rounds -/

/-- **A scan ends.** -/
theorem exists_takes (hstep : 0 < o.stepMinutes) (x : ℝ) : ∃ xs, Takes e c o x xs := by
  have hpos : 0 < min o.stepMinutes 60 := lt_min hstep (by norm_num)
  -- so many rounds lead through the rest of the window
  obtain ⟨n, hn⟩ := exists_nat_ge ((o.windowMinutes - x) / min o.stepMinutes 60)
  rw [div_le_iff₀ hpos] at hn
  induction n generalizing x with
  | zero =>
    rw [Nat.cast_zero, zero_mul] at hn
    exact ⟨[], .behind (by linarith)⟩
  | succ n ih =>
    by_cases hx : x < o.windowMinutes
    · cases hgoes : onward e c o x with
      | none => exact ⟨[x], .last hx hgoes⟩
      | some y =>
        have hon := onward_step hgoes
        rw [Nat.cast_succ] at hn
        obtain ⟨xs, hxs⟩ := ih y (by linarith)
        exact ⟨x :: xs, .round hx hgoes hxs⟩
    · exact ⟨[], .behind hx⟩

namespace Takes

variable {xs : List ℝ}

/-- The last of `n + 1` rounds lies `n` times a step or an hour behind the first, and inside the window. -/
theorem inside (h : Takes e c o x xs) {n : ℕ} (hn : xs.length = n + 1) :
    x + n * min o.stepMinutes 60 < o.windowMinutes := by
  induction h generalizing n with
  | behind => cases hn
  | last hx =>
    obtain rfl : n = 0 := by simpa using hn.symm
    rw [Nat.cast_zero, zero_mul, add_zero]
    exact hx
  | @round x y xs hx hgoes hrest ih =>
    obtain rfl : xs.length = n := by simpa using hn
    cases hlength : xs.length with
    | zero =>
      rw [Nat.cast_zero, zero_mul, add_zero]
      exact hx
    | succ k =>
      have hlast := ih hlength
      have hon := onward_step hgoes
      rw [Nat.cast_succ]
      linarith

/-- Rounds that would lead behind the window are not taken. -/
theorem length_le (h : Takes e c o x xs) (hstep : 0 < o.stepMinutes) {fuel : ℕ}
    (hfuel : o.windowMinutes ≤ x + fuel * min o.stepMinutes 60) : xs.length ≤ fuel := by
  have hpos : 0 < min o.stepMinutes 60 := lt_min hstep (by norm_num)
  cases hlength : xs.length with
  | zero => exact Nat.zero_le fuel
  | succ n =>
    have hlast := h.inside hlength
    have hlt : (n : ℝ) < fuel := lt_of_mul_lt_mul_right (by linarith) hpos.le
    exact_mod_cast hlt

theorem length_bound (h : Takes e c o 0 xs) (hstep : 0 < o.stepMinutes) :
    (xs.length : ℝ) ≤ max o.windowMinutes 0 / min o.stepMinutes 60 + 1 := by
  have hpos : 0 < min o.stepMinutes 60 := lt_min hstep (by norm_num)
  cases hlength : xs.length with
  | zero =>
    rw [Nat.cast_zero]
    exact add_nonneg (div_nonneg (le_max_right _ _) hpos.le) zero_le_one
  | succ n =>
    have hlast := h.inside hlength
    rw [Nat.cast_succ, add_le_add_iff_right, le_div_iff₀ hpos]
    linarith [le_max_left o.windowMinutes 0]

/-- Each round is a step or an hour behind the one before. -/
theorem chain (h : Takes e c o x xs) :
    xs.IsChain fun a b => a + min o.stepMinutes 60 ≤ b := by
  induction h with
  | behind => exact List.isChain_nil
  | last => exact List.isChain_singleton _
  | round hx hgoes hrest ih =>
    have hon := onward_step hgoes
    cases hrest with
    | behind => exact List.isChain_singleton _
    | last => exact List.isChain_cons_cons.mpr ⟨hon, ih⟩
    | round => exact List.isChain_cons_cons.mpr ⟨hon, ih⟩

/-- **The passes that are found rise an hour apart**, none before the first round. -/
theorem spaced (name : String) (h : Takes e c o x xs) (hstep : 0 < o.stepMinutes) :
    (∀ p ∈ xs.filterMap (foundAt e name c o), x ≤ p.minutesAway) ∧
      (xs.filterMap (foundAt e name c o)).Pairwise fun p q => p.minutesAway + 60 ≤ q.minutesAway := by
  have hpos : 0 < min o.stepMinutes 60 := lt_min hstep (by norm_num)
  induction h with
  | behind => exact ⟨by simp, List.Pairwise.nil⟩
  | @last x hx hends =>
    cases hfound : foundAt e name c o x with
    | none => simp [hfound]
    | some p => simpa [hfound] using (foundAt_ahead hfound).1
  | @round x y xs hx hgoes hrest ih =>
    obtain ⟨hahead, hspaced⟩ := ih
    have hon := onward_step hgoes
    rw [List.filterMap_cons]
    cases hfound : foundAt e name c o x with
    | none => exact ⟨fun p hp => by linarith [hahead p hp], hspaced⟩
    | some p =>
      obtain ⟨hp, hgap⟩ := foundAt_ahead hfound
      refine ⟨?_, List.pairwise_cons.mpr ⟨?_, hspaced⟩⟩
      · intro q hq
        rcases List.mem_cons.mp hq with rfl | hq
        · exact hp
        · linarith [hahead q hq]
      · intro q hq
        exact (hgap y hgoes).trans (hahead q hq)

/-- The scan of a satellite is told by its rounds. -/
theorem passesOf_eq_answer (name : String) (h : Takes e c o 0 xs) (hstep : 0 < o.stepMinutes) :
    passesOf e name c o = answer e name c o xs := by
  rw [passesOf_eq, passesFrom_eq, h.asked_eq (h.length_le hstep (window_le_rounds hstep))]

end Takes

/-! ## The rise that a pass tells -/

/-- The satellite stands on the horizon at an instant, and up to another one the samples of a sweep
do not see it above. -/
structure Grazes (e : Ephemeris ℝ ℝ) (crossing rise : ℝ) : Prop where
  level : e.Seen (· = 0) crossing
  low : ∀ k : ℕ, crossing + k * (1 / 4) < rise →
    e.Seen (fun elevation => -5 < elevation ∧ elevation ≤ 0) (crossing + k * (1 / 4))

/-- **A pass tells as its rise the instant at which it was found**, unless the satellite grazed the horizon
there. -/
theorem Swept.grazes {p : Pass ℝ ℝ} {n : ℕ} {obs : ℕ → Observation ℝ} (h : Swept e o p n obs) :
    p.riseTime = o.start + p.minutesAway ∨
      o.start + p.minutesAway < p.riseTime ∧ Grazes e (o.start + p.minutesAway) p.riseTime := by
  obtain ⟨j, hj, ⟨-, hlow⟩, htime, -⟩ := h.risen
  cases j with
  | zero => exact Or.inl (by rw [htime, Nat.cast_zero, zero_mul, add_zero])
  | succ j =>
    have hlate : (0 : ℝ) < (j + 1 : ℕ) * (1 / 4) := by positivity
    refine Or.inr ⟨by linarith, ⟨obs 0, ?_, le_antisymm (hlow 0 j.succ_pos) h.begins⟩, ?_⟩
    · simpa using h.walked.seen 0 (Nat.zero_le n)
    · intro k hk
      have hlt : (k : ℝ) < (j + 1 : ℕ) := by linarith
      have hkj : k < j + 1 := by exact_mod_cast hlt
      have hkn : k < n := hkj.trans hj
      exact ⟨obs k, h.walked.seen k hkn.le, h.walked.up k hkn, hlow k hkj⟩

/-- Of two passes an hour apart the first tells the earlier rise, unless the satellite grazed the horizon
from where the first was found to where the second was. -/
theorem rises_apart {p q : Pass ℝ ℝ} {n m : ℕ} {obs obs' : ℕ → Observation ℝ}
    (hp : Swept e o p n obs) (hq : Swept e o q m obs')
    (hgap : p.minutesAway + 60 ≤ q.minutesAway) :
    p.riseTime < q.riseTime ∨
      o.start + q.minutesAway ≤ p.riseTime ∧ Grazes e (o.start + p.minutesAway) p.riseTime := by
  have hlate : o.start + q.minutesAway ≤ q.riseTime := by
    rcases hq.grazes with heq | ⟨hlt, -⟩
    · exact heq.ge
    · exact hlt.le
  rcases lt_or_ge p.riseTime (o.start + q.minutesAway) with hlt | hge
  · exact Or.inl (hlt.trans_le hlate)
  · rcases hp.grazes with heq | ⟨-, hgrazes⟩
    · linarith
    · exact Or.inr ⟨hge, hgrazes⟩

/-- Every round of a scan is inside the window. -/
theorem Takes.lt_window {xs : List ℝ} (h : Takes e c o x xs) : ∀ y ∈ xs, y < o.windowMinutes := by
  induction h with
  | behind => simp
  | last hx => simpa using hx
  | round hx _ _ ih => exact List.forall_mem_cons.mpr ⟨hx, ih⟩

/-- A sweep is behind every pass of a scan. -/
theorem Takes.swept {xs : List ℝ} (h : Takes e c o x xs) {p : Pass ℝ ℝ}
    (hp : p ∈ xs.filterMap (foundAt e name c o)) : ∃ n obs, Swept e o p n obs := by
  obtain ⟨y, hy, hfound⟩ := List.mem_filterMap.mp hp
  exact swept_of_found (h.lt_window y hy) hfound

/-! ## The law -/

/-- **The scan of one satellite moves forward and ends.**  A round ends it, or the scan goes on a step or an
hour later at least, however long ago a pass in progress rose.  So there are no more rounds than steps or
hours in the window, and one.  The passes that they find come an hour apart.  The rise that a pass tells is
the instant at which it was found, and it is told by no later pass, unless the satellite stood on the
horizon at that instant and had not been seen above it when the later pass was found. -/
theorem progress_law (e : Ephemeris ℝ ℝ) (name : String) (c : Criteria ℝ) {o : Options ℝ ℝ}
    (hstep : 0 < o.stepMinutes) :
    (∀ x, x < o.windowMinutes → ∀ fuel, passesFrom e name c o (fuel + 1) x =
      (onward e c o x).elim (answer e name c o [x])
        fun y => (passesFrom e name c o fuel y).map ((foundAt e name c o x).toList ++ ·)) ∧
    (∀ x y, onward e c o x = some y → x + min o.stepMinutes 60 ≤ y) ∧
    (∃ rounds, Takes e c o 0 rounds ∧
      (rounds.length : ℝ) ≤ max o.windowMinutes 0 / min o.stepMinutes 60 + 1 ∧
      (rounds.IsChain fun x y => x + min o.stepMinutes 60 ≤ y) ∧
      passesOf e name c o = answer e name c o rounds ∧
      (rounds.filterMap (foundAt e name c o)).Pairwise
        fun p q => p.minutesAway + 60 ≤ q.minutesAway) ∧
    ∀ passes, passesOf e name c o = .ok passes →
      (passes.Pairwise fun p q => p.minutesAway + 60 ≤ q.minutesAway) ∧
      (∀ p ∈ passes, p.riseTime = o.start + p.minutesAway ∨
        o.start + p.minutesAway < p.riseTime ∧ Grazes e (o.start + p.minutesAway) p.riseTime) ∧
      passes.Pairwise fun p q => p.riseTime < q.riseTime ∨
        o.start + q.minutesAway ≤ p.riseTime ∧ Grazes e (o.start + p.minutesAway) p.riseTime := by
  obtain ⟨rounds, hrounds⟩ := exists_takes (e := e) (c := c) hstep 0
  have hanswer := hrounds.passesOf_eq_answer name hstep
  have hspaced := (hrounds.spaced name hstep).2
  refine ⟨fun x hx fuel => passesFrom_round hx fuel, fun x y hgoes => onward_step hgoes,
    ⟨rounds, hrounds, hrounds.length_bound hstep, hrounds.chain, hanswer, hspaced⟩, ?_⟩
  intro passes hpasses
  rw [hanswer] at hpasses
  obtain rfl := eq_found_of_answer hpasses
  refine ⟨hspaced, ?_, ?_⟩
  · intro p hp
    obtain ⟨n, obs, hswept⟩ := hrounds.swept hp
    exact hswept.grazes
  · refine hspaced.imp_of_mem fun hp hq hgap => ?_
    obtain ⟨n, obs, hp⟩ := hrounds.swept hp
    obtain ⟨m, obs', hq⟩ := hrounds.swept hq
    exact rises_apart hp hq hgap

/-- At the start a pass is in progress that rose more than an hour and a half ago, so that the scan goes on
by a step; at last it finds the pass after it.  That satellite never stands on the horizon. -/
theorem progress_law_lasting :
    ∃ o : Options ℝ ℝ, o = ⟨0, 1, 300, .soonestFirst, true⟩ ∧ 0 < o.stepMinutes ∧
      ∃ rounds passes, Takes overhead.satellite Criteria.standard o 0 rounds ∧
        (rounds.length : ℝ) ≤ max 300 0 / min 1 60 + 1 ∧
        passesOf overhead.satellite (listedName overhead.satellite) Criteria.standard o = .ok passes ∧
        passes ≠ [] ∧ ∀ p ∈ passes, p.riseTime = o.start + p.minutesAway := by
  let := PatternReader.words
  have hscan : FullScan overhead overhead.sky overhead.satellite Criteria.standard
      ⟨0, 1, 300, .soonestFirst, true⟩ :=
    ⟨overhead.satellite_shows, overhead.rules_sky, admits_standard overhead, rfl, rfl⟩
  obtain ⟨found, hrun⟩ := exists_run hscan
  obtain ⟨passes, hpasses, hperm⟩ := scan_of_run hscan hrun
  rw [← passesOf_eq] at hpasses
  have hcomplete := complete_of_not_cutOff hscan (fun x _ => not_cutOff_of_early
    (by rintro v (rfl | rfl) w - - - <;> norm_num [brief, lasting]) x) hrun
  have hcount := hcomplete.1 (brief 50) (Or.inr rfl) (by norm_num [brief]) (by norm_num [brief])
  obtain ⟨-, -, ⟨rounds, hrounds, hlength, -⟩, hsound⟩ := progress_law overhead.satellite
    (listedName overhead.satellite) Criteria.standard (o := ⟨0, 1, 300, .soonestFirst, true⟩) one_pos
  refine ⟨_, rfl, one_pos, rounds, passes, hrounds, hlength, hpasses, ?_, ?_⟩
  · rintro rfl
    rw [hperm.eq_nil] at hcount
    cases hcount
  · intro p hp
    rcases (hsound passes hpasses).2.1 p hp with htime | ⟨-, ⟨seen, hseen, hlevel⟩, -⟩
    · exact htime
    · cases hseen
      dsimp only [Timetable.sky] at hlevel
      split at hlevel <;> norm_num at hlevel

/-! ## A rise that is told twice -/

/-- A satellite that comes up to the horizon at minute 12, stays just below it, and rises at minute 90 for
ten minutes. -/
noncomputable def grazingSky (t : ℝ) : Observation ℝ where
  azimuthDeg := (135 : ℕ)
  elevationDeg :=
    (if t < (12 : ℕ) then -30
    else if t ≤ (12 : ℕ) then 0
    else if t < (90 : ℕ) then -3
    else if t ≤ (100 : ℕ) then 20
    else -30 : ℤ)
  altitudeKm := (550 : ℕ)
  rangeRateKmS := (6 : ℕ)

noncomputable def grazing : Ephemeris ℝ ℝ where
  name := "GRAZING"
  observe t := .ok (grazingSky t)

theorem grazing_shows : grazing.Shows grazingSky := fun _ => rfl

section Grazing

variable {t : ℝ}

theorem grazing_below (h12 : t ≠ 12) (h90 : t < 90) : (grazingSky t).elevationDeg < 0 := by
  unfold grazingSky
  push_cast
  rcases lt_or_gt_of_ne h12 with hlt | hgt
  · rw [if_pos hlt]
    norm_num
  · rw [if_neg hgt.not_gt, if_neg hgt.not_ge, if_pos h90]
    norm_num

theorem grazing_level : (grazingSky 12).elevationDeg = 0 := by
  norm_num [grazingSky]

theorem grazing_up (h90 : 90 ≤ t) (h100 : t ≤ 100) : (grazingSky t).elevationDeg = 20 := by
  unfold grazingSky
  push_cast
  rw [if_neg (by linarith), if_neg (by linarith), if_neg (by linarith), if_pos h100]

theorem grazing_lost (h100 : 100 < t) : (grazingSky t).elevationDeg = -30 := by
  unfold grazingSky
  push_cast
  rw [if_neg (by linarith), if_neg (by linarith), if_neg (by linarith), if_neg (by linarith)]

/-- From minute 12 to minute 100 no sweep ends. -/
theorem grazing_stays (h12 : 12 ≤ t) (h100 : t ≤ 100) :
    -5 < (grazingSky t).elevationDeg ∧ (grazingSky t).elevationDeg ≤ 20 := by
  unfold grazingSky
  push_cast
  rw [if_neg (not_lt.mpr h12), if_pos h100]
  split_ifs <;> norm_num

/-- A sweep from minute 12 on, or from a later one, is walked to its end behind minute 100. -/
theorem course_grazing {rise : ℝ} {k : ℕ} (hrise : 12 ≤ rise) (hk : rise + k * (1 / 4) = 100 + 1 / 4) :
    EarthStation.Pass.Course grazing rise (1 / 4) k fun i => grazingSky (rise + i * (1 / 4)) where
  seen i _ := rfl
  up i hi := by
    have hi' : (i : ℝ) + 1 ≤ k := by exact_mod_cast hi
    have hpos : (0 : ℝ) ≤ i * (1 / 4) := by positivity
    exact (grazing_stays (by linarith) (by linarith)).1
  lost := by
    rw [grazing_lost (by linarith)]
    norm_num
  day := by linarith

/-- It has one rise, at minute 90, and that is what a sweep from minute 12 on tells, or from a later one. -/
theorem summary_grazing {rise : ℝ} {j k : ℕ} (hrise : 12 ≤ rise) (hj : rise + j * (1 / 4) = 90)
    (hk : rise + k * (1 / 4) = 100 + 1 / 4) :
    ∃ s, EarthStation.Pass.characterize grazing rise EarthStation.Pass.sweepStep = .ok s ∧
      s.riseTime = 90 ∧ 0 < s.minutesAbove0 ∧ 0 ≤ s.maxElevationDeg ∧ s.maxElevationDeg ≤ 20 := by
  have hstep : (0 : ℝ) < 1 / 4 := by norm_num
  obtain ⟨_, -, hstill, hcloses⟩ := EarthStation.Pass.characterize_closes grazing rise hstep
  obtain ⟨s, hs, hstatistics⟩ := hcloses.of_course hstep hstill (course_grazing hrise hk)
  have hjk : j < k := by
    have hlt : (j : ℝ) < k := by linarith
    exact_mod_cast hlt
  have hup : (grazingSky (rise + j * (1 / 4))).elevationDeg = 20 :=
    grazing_up hj.ge (by linarith)
  have hfirst : EarthStation.Pass.FirstUp (fun i => grazingSky (rise + i * (1 / 4))) j := by
    refine ⟨by dsimp only; rw [hup]; norm_num, fun i hi => ?_⟩
    have hi' : (i : ℝ) < j := by exact_mod_cast hi
    by_cases h12 : rise + i * (1 / 4) = 12
    · dsimp only
      rw [h12, grazing_level]
    · exact (grazing_below h12 (by linarith)).le
  rw [EarthStation.Pass.sweepStep_eq]
  refine ⟨s, hs, (hstatistics.riseTime_eq hjk hfirst).trans hj, ?_, ?_, ?_⟩
  · rw [hstatistics.above0]
    refine mul_pos hstep (Nat.cast_pos.mpr (Nat.pos_of_ne_zero fun hnone => ?_))
    exact Nat.count_iff_forall_not.mp hnone j hjk hfirst.1
  · exact hfirst.1.le.trans (hstatistics.highest.2 ⟨j, Or.inr hjk, rfl⟩)
  · obtain ⟨⟨i, hi, hmax⟩, -⟩ := hstatistics.highest
    have hik : (i : ℝ) + 1 ≤ k := by
      have hik : i + 1 ≤ k := by omega
      exact_mod_cast hik
    have hpos : (0 : ℝ) ≤ i * (1 / 4) := by positivity
    rw [hmax]
    exact (grazing_stays (by linarith) (by linarith)).2

/-- A search lands at minute 12 when it comes from the start, and at minute 90 when it comes from between. -/
theorem search_grazing {n : ℕ} (hn : 10 ≤ n) (hlands : x + n = 12 ∨ 12 < x ∧ x + n = 90) {horizon : ℝ}
    (hnear : n < horizon) :
    (Visibility.refinedMinutesToCrossing grazing x horizon 1).result = .ok (some n) := by
  refine Visibility.refined_whole grazing_shows hn hnear (fun i hi => ?_) ?_
  · have hi' : (i : ℝ) < n := by exact_mod_cast hi
    have hpos : (0 : ℝ) ≤ i := i.cast_nonneg
    rcases hlands with h12 | ⟨hx, h90⟩
    · exact grazing_below (by linarith) (by linarith)
    · exact grazing_below (by linarith) (by linarith)
  · rcases hlands with h12 | ⟨-, h90⟩
    · rw [h12, grazing_level]
    · rw [h90, grazing_up le_rfl (by norm_num)]
      norm_num

end Grazing

theorem admits_standard_iff {minutes : ℝ} {s : EarthStation.Pass.Summary ℝ ℝ} :
    admits Criteria.standard minutes s = true ↔ 0 < s.minutesAbove0 ∧ s.maxElevationDeg ≤ 90 ∧
      0 ≤ s.maxElevationDeg ∧ 0 ≤ minutes := by
  have hhighest : (Criteria.standard : Criteria ℝ).maxElevationDeg = ((90 : ℕ) : ℝ) := rfl
  have hlowest : (Criteria.standard : Criteria ℝ).minElevationDeg = ((0 : ℕ) : ℝ) := rfl
  have hsoonest : (Criteria.standard : Criteria ℝ).minMinutes = ((0 : ℕ) : ℝ) := rfl
  rw [admits_iff, hhighest, hlowest, hsoonest, Nat.cast_zero, Nat.cast_ofNat]

/-- All passes of two hours. -/
noncomputable def twoHours : Options ℝ ℝ := ⟨0, 1, 120, .soonestFirst, true⟩

/-- Where the search lands, a pass is found that tells minute 90 as its rise, and the scan goes on an hour
later. -/
theorem found_grazing (name : String) {n j k : ℕ} (hn : 10 ≤ n)
    (hlands : x + n = 12 ∨ 12 < x ∧ x + n = 90) (hj : x + n + j * (1 / 4) = 90)
    (hk : x + n + k * (1 / 4) = 100 + 1 / 4) :
    onward grazing Criteria.standard twoHours x = some (x + n + 60) ∧
      ∃ p, foundAt grazing name Criteria.standard twoHours x = some p ∧ p.minutesAway = x + n ∧
        p.riseTime = 90 := by
  have hrise : 12 ≤ x + n ∧ x + n ≤ 90 := by
    rcases hlands with h12 | ⟨-, h90⟩
    · exact ⟨h12.ge, by linarith⟩
    · exact ⟨by linarith, h90.le⟩
  obtain ⟨s, hs, htime, hlit, hlow, hhigh⟩ := summary_grazing hrise.1 hj hk
  have hanswer : ask grazing twoHours x = .ok (.upcoming n s) := by
    have hask : ask grazing twoHours x = EarthStation.Pass.next grazing (0 + x) (120 - x) 1 := rfl
    have hresult := search_grazing hn hlands (by linarith : (n : ℝ) < 120 - x)
    rw [hask, zero_add, EarthStation.Pass.next_of_nonneg hresult n.cast_nonneg, hs]
    rfl
  have hadmits : admits Criteria.standard (x + n) s = true :=
    admits_standard_iff.mpr ⟨hlit, by linarith, hlow, by linarith⟩
  refine ⟨?_, Pass.ofSummary name (x + n) s, ?_, minutesAway_ofSummary name (x + n) s, htime⟩
  · unfold onward
    rw [hanswer]
    dsimp only
    rw [hadmits, gapMinutes_eq, ← add_assoc]
    rfl
  · rw [foundAt_of_upcoming hanswer, if_pos hadmits]

/-- **Two passes may tell the same rise.**  The first is found where the satellite comes up to the horizon,
the second more than an hour later, and between them it is not seen above. -/
theorem grazing_told_twice :
    ∃ p q, passesOf grazing "GRAZING" Criteria.standard ⟨0, 1, 120, .soonestFirst, true⟩ = .ok [p, q] ∧
      p.minutesAway = 12 ∧ q.minutesAway = 90 ∧ p.riseTime = 90 ∧ q.riseTime = 90 := by
  obtain ⟨hgoes, p, hp, hpaway, hptime⟩ := found_grazing "GRAZING" (x := 0) (n := 12) (j := 312)
    (k := 353) (by norm_num) (Or.inl (by norm_num)) (by norm_num) (by norm_num)
  obtain ⟨hgoes', q, hq, hqaway, hqtime⟩ := found_grazing "GRAZING" (x := 72) (n := 18) (j := 0)
    (k := 41) (by norm_num) (Or.inr (by norm_num)) (by norm_num) (by norm_num)
  norm_num at hgoes hgoes' hpaway hqaway
  have hrounds : Takes grazing Criteria.standard twoHours 0 [0, 72] := by
    refine .round (by norm_num [twoHours]) hgoes (.round (by norm_num [twoHours]) hgoes' (.behind ?_))
    norm_num [twoHours]
  refine ⟨p, q, (hrounds.passesOf_eq_answer "GRAZING" one_pos).trans ?_, hpaway, hqaway, hptime, hqtime⟩
  rw [answer_cons (faultAt_of_onward hgoes), answer_cons (faultAt_of_onward hgoes'), hp, hq]
  rfl

end EarthStation.PassSearch
