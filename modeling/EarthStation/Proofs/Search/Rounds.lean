import EarthStation.PassSearch
import EarthStation.Proofs.Search.Timetable

/-!
# Rounds — the scan of one satellite, round by round

* `PassSearch.Asks`: the offsets at which a scan asks for the next pass.
* `PassSearch.Admits`: criteria that admit every pass of a sky.
* `PassSearch.FullScan`: a scan for all passes of a satellite that keeps a timetable.
* `PassSearch.round_cases`: what one round finds and where the next one begins.
* `PassSearch.passesFrom_reports`: every pass that is found belongs to a visit.
* `PassSearch.passesFrom_complete`: no visit is missed unless the scan is cut off.
* `PassSearch.passesFrom_cut`: nothing is found behind the offset at which it is cut off.
-/

namespace EarthStation.PassSearch

open Visibility (coarseStep roundUp roundPast)

/-! ## Offsets -/

section Asks

variable {τ α : Type} [Scalar α] [Timeline τ α]

/-- `Asks e o x y`: a scan that has come to the offset `x` asks for the next pass at `y`. -/
inductive Asks (e : Ephemeris τ α) (o : Options τ α) : α → α → Prop where
  | here {x : α} (hx : x < o.windowMinutes) : Asks e o x x
  | afterRise {x y minutes : α} {s : EarthStation.Pass.Summary τ α} (hx : x < o.windowMinutes)
      (hnext : EarthStation.Pass.next e (Timeline.later o.start x) (o.windowMinutes - x)
        o.stepMinutes = .ok (.upcoming minutes s))
      (hy : Asks e o (x + (minutes + gapMinutes)) y) : Asks e o x y
  | duringPass {x y since : α} (hx : x < o.windowMinutes)
      (hnext : EarthStation.Pass.next e (Timeline.later o.start x) (o.windowMinutes - x)
        o.stepMinutes = .ok (.inProgress since))
      (hy : Asks e o (x + Scalar.max (gapMinutes - since) o.stepMinutes) y) : Asks e o x y

section Exact

variable {e : Ephemeris ℝ ℝ} {o : Options ℝ ℝ} {x y : ℝ}

theorem gapMinutes_eq : (gapMinutes : ℝ) = 60 := Nat.cast_ofNat

/-- After a rise the scan goes on an hour later. -/
theorem asks_of_upcoming {minutes : ℝ} {s : EarthStation.Pass.Summary ℝ ℝ}
    (hx : x < o.windowMinutes)
    (hnext : EarthStation.Pass.next e (o.start + x) (o.windowMinutes - x) o.stepMinutes =
      .ok (.upcoming minutes s)) : Asks e o x y ↔ y = x ∨ Asks e o (x + (minutes + 60)) y := by
  constructor
  · intro h
    cases h with
    | here => exact Or.inl rfl
    | afterRise _ hnext' hy =>
      cases hnext.symm.trans hnext'
      rw [gapMinutes_eq] at hy
      exact Or.inr hy
    | duringPass _ hnext' _ => cases hnext.symm.trans hnext'
  · rintro (rfl | hy)
    · exact Asks.here hx
    · rw [← gapMinutes_eq] at hy
      exact Asks.afterRise hx hnext hy

/-- During a pass the scan goes on what is left of an hour later, or a step. -/
theorem asks_of_inProgress {since : ℝ} (hx : x < o.windowMinutes)
    (hnext : EarthStation.Pass.next e (o.start + x) (o.windowMinutes - x) o.stepMinutes =
      .ok (.inProgress since)) :
    Asks e o x y ↔ y = x ∨ Asks e o (x + max (60 - since) o.stepMinutes) y := by
  constructor
  · intro h
    cases h with
    | here => exact Or.inl rfl
    | afterRise _ hnext' _ => cases hnext.symm.trans hnext'
    | duringPass _ hnext' hy =>
      cases hnext.symm.trans hnext'
      rw [gapMinutes_eq, scalarMax_eq] at hy
      exact Or.inr hy
  · rintro (rfl | hy)
    · exact Asks.here hx
    · rw [← gapMinutes_eq, ← scalarMax_eq] at hy
      exact Asks.duringPass hx hnext hy

/-- The scan moves on. -/
theorem Asks.le (hstep : 0 < o.stepMinutes) (h : Asks e o x y) : x ≤ y := by
  induction h with
  | here => exact le_rfl
  | afterRise hx hnext hy ih =>
    have hminutes := EarthStation.Pass.minutes_nonneg hnext
    rw [gapMinutes_eq] at ih
    linarith
  | @duringPass x y since hx hnext hy ih =>
    rw [scalarMax_eq] at ih
    linarith [le_max_right (gapMinutes - since) o.stepMinutes]

end Exact

end Asks

/-! ## Criteria -/

/-- Criteria that admit every pass of a sky. -/
structure Admits (c : Criteria ℝ) (sky : ℝ → Observation ℝ) : Prop where
  pattern : c.pattern = none
  withConstellations : c.withConstellations = true
  altitude : ∀ t, c.minAltitudeKm ≤ (sky t).altitudeKm ∧ (sky t).altitudeKm ≤ c.maxAltitudeKm
  lowest : ∀ t, 0 < (sky t).elevationDeg → c.minElevationDeg ≤ (sky t).elevationDeg
  highest : ∀ t, (sky t).elevationDeg ≤ c.maxElevationDeg
  minutes : c.minMinutes ≤ 0

variable {c : Criteria ℝ} {sky : ℝ → Observation ℝ}

theorem admits_of_lit (hc : Admits c sky) {minutes : ℝ} (hminutes : 0 ≤ minutes)
    {s : EarthStation.Pass.Summary ℝ ℝ} (hs : EarthStation.Pass.Lit sky s) :
    admits c minutes s = true := by
  have h : admits c minutes s = !(decide (s.minutesAbove0 ≤ ((0 : ℕ) : ℝ))
      || decide (c.maxElevationDeg < s.maxElevationDeg)
      || decide (s.maxElevationDeg < c.minElevationDeg) || decide (minutes < c.minMinutes)) := rfl
  obtain ⟨t, ht⟩ := hs.maxElevationDeg
  have hup : 0 < (sky t).elevationDeg := ht ▸ hs.above
  have hhigh := hc.highest t
  have hlow := hc.lowest t hup
  have hlate := hc.minutes
  rw [h, Nat.cast_zero, ht, decide_eq_false (not_le.mpr hs.minutesAbove0),
    decide_eq_false (not_lt.mpr hhigh), decide_eq_false (not_lt.mpr hlow),
    decide_eq_false (by linarith)]
  rfl

/-! ## One round -/

section Round

variable {e : Ephemeris ℝ ℝ} {o : Options ℝ ℝ} {x : ℝ} {name : String}

/-- Nothing is looked for behind the window. -/
theorem passesFrom_beyond (hx : o.windowMinutes ≤ x) (fuel : ℕ) :
    passesFrom e name c o fuel x = .ok [] := by
  cases fuel with
  | zero => rfl
  | succ fuel =>
    rw [passesFrom]
    exact if_neg (not_lt.mpr hx)

theorem passesFrom_notFound (hx : x < o.windowMinutes)
    (hnext : EarthStation.Pass.next e (o.start + x) (o.windowMinutes - x) o.stepMinutes =
      .ok .notFound) (fuel : ℕ) : passesFrom e name c o fuel x = .ok [] := by
  cases fuel with
  | zero => rfl
  | succ fuel =>
    have hnext' : EarthStation.Pass.next e (Timeline.later o.start x) (o.windowMinutes - x)
      o.stepMinutes = .ok .notFound := hnext
    rw [passesFrom]
    refine (if_pos hx).trans ?_
    rw [hnext']

theorem passesFrom_inProgress (hx : x < o.windowMinutes) {since : ℝ}
    (hnext : EarthStation.Pass.next e (o.start + x) (o.windowMinutes - x) o.stepMinutes =
      .ok (.inProgress since)) (fuel : ℕ) :
    passesFrom e name c o (fuel + 1) x =
      passesFrom e name c o fuel (x + max (60 - since) o.stepMinutes) := by
  have hnext' : EarthStation.Pass.next e (Timeline.later o.start x) (o.windowMinutes - x)
    o.stepMinutes = .ok (.inProgress since) := hnext
  rw [passesFrom]
  refine (if_pos hx).trans ?_
  rw [hnext']
  dsimp only
  rw [gapMinutes_eq, scalarMax_eq]

theorem passesFrom_upcoming (hx : x < o.windowMinutes) (hall : o.findAll = true) {minutes : ℝ}
    {s : EarthStation.Pass.Summary ℝ ℝ}
    (hnext : EarthStation.Pass.next e (o.start + x) (o.windowMinutes - x) o.stepMinutes =
      .ok (.upcoming minutes s)) (hs : admits c (x + minutes) s = true) (fuel : ℕ) :
    passesFrom e name c o (fuel + 1) x =
      (passesFrom e name c o fuel (x + (minutes + 60))).map
        (Pass.ofSummary name (x + minutes) s :: ·) := by
  have hnext' : EarthStation.Pass.next e (Timeline.later o.start x) (o.windowMinutes - x)
    o.stepMinutes = .ok (.upcoming minutes s) := hnext
  rw [passesFrom]
  refine (if_pos hx).trans ?_
  rw [hnext']
  dsimp only
  rw [if_pos hs, hall, gapMinutes_eq]
  rfl

end Round

/-! ## What a round comes to -/

theorem minutesAway_ofSummary (name : String) (minutes : ℝ) (s : EarthStation.Pass.Summary ℝ ℝ) :
    (Pass.ofSummary name minutes s).minutesAway = minutes := rfl

section Scan

variable {T : Timetable} {e : Ephemeris ℝ ℝ} {o : Options ℝ ℝ} {x y : ℝ} {name : String}

/-- A scan for all passes, minute by minute, of a satellite that keeps a timetable, with criteria that
admit every pass. -/
structure FullScan (T : Timetable) (sky : ℝ → Observation ℝ) (e : Ephemeris ℝ ℝ) (c : Criteria ℝ)
    (o : Options ℝ ℝ) : Prop where
  shows : e.Shows sky
  rules : T.Rules sky o.start
  admits : Admits c sky
  minute : o.stepMinutes = 1
  all : o.findAll = true

/-- What the round at an offset comes to.  No visit rises before the next round but the one that was
found. -/
inductive Round (T : Timetable) (e : Ephemeris ℝ ℝ) (name : String) (c : Criteria ℝ)
    (o : Options ℝ ℝ) (x : ℝ) : Prop where
  /-- No visit is left, but for one that rises in the last minute of the window. -/
  | done (hscan : ∀ fuel, passesFrom e name c o fuel x = .ok [])
      (hleft : ∀ w ∈ T.visits, x < w.rise → o.windowMinutes ≤ w.rise + 1)
  /-- The rise of the pass in progress is too far back. -/
  | cut (v : Visit) (hv : v ∈ T.visits) (hspans : v.Spans x)
      (hfar : o.windowMinutes ≤ x + roundPast 1 (x - v.rise))
      (hscan : ∀ fuel, passesFrom e name c o fuel x = .ok [])
  | found (w : Visit) (minutes : ℝ) (s : EarthStation.Pass.Summary ℝ ℝ) (hfree : T.Free x)
      (hw : w ∈ T.visits) (hahead : x < w.rise) (hrise : w.rise ≤ x + minutes)
      (hlate : x + minutes < w.rise + 1) (hwindow : x + minutes < o.windowMinutes)
      (hnext : EarthStation.Pass.next e (o.start + x) (o.windowMinutes - x) o.stepMinutes =
        .ok (.upcoming minutes s))
      (hothers : ∀ u ∈ T.visits, x < u.rise → u = w ∨ x + (minutes + 60) < u.rise)
      (hscan : ∀ fuel, passesFrom e name c o (fuel + 1) x =
        (passesFrom e name c o fuel (x + (minutes + 60))).map
          (Pass.ofSummary name (x + minutes) s :: ·))
  | during (v : Visit) (since : ℝ) (hv : v ∈ T.visits) (hspans : v.Spans x)
      (hnear : x + roundPast 1 (x - v.rise) < o.windowMinutes)
      (hnext : EarthStation.Pass.next e (o.start + x) (o.windowMinutes - x) o.stepMinutes =
        .ok (.inProgress since))
      (hothers : ∀ u ∈ T.visits, x < u.rise → x + max (60 - since) 1 < u.rise)
      (hscan : ∀ fuel, passesFrom e name c o (fuel + 1) x =
        passesFrom e name c o fuel (x + max (60 - since) 1))

/-- Every round inside the window comes to one of these. -/
theorem round_cases (name : String) (h : FullScan T sky e c o) (hx₀ : 0 ≤ x)
    (hx : x < o.windowMinutes) : Round T e name c o x := by
  obtain ⟨he, hT, hc, hstep, hall⟩ := h
  have hcoarse : o.stepMinutes = coarseStep := by rw [hstep, Visibility.coarseStep_eq]
  by_cases hfree : T.Free x
  · by_cases hleft : ∃ w ∈ T.visits, x < w.rise
    · obtain ⟨u, hu, hux⟩ := hleft
      obtain ⟨w, hw⟩ := T.exists_next hu hux
      rcases T.next_upcoming he hT hx hfree hw with ⟨hfar, hnext⟩ | ⟨m, s, hrise, hlate, hwindow, hs, hnext⟩
      · rw [← hcoarse] at hnext
        refine Round.done (passesFrom_notFound hx hnext) (fun v hv hxv => ?_)
        have hround := Visibility.roundUp_lt one_pos (sub_pos.mpr hw.ahead).le
        linarith [hw.least v hv hxv]
      · rw [← hcoarse] at hnext
        have hadmits := admits_of_lit hc (by linarith [hw.ahead] : 0 ≤ x + m) hs
        refine Round.found w m s hfree hw.mem hw.ahead hrise hlate hwindow hnext (fun v hv hxv => ?_)
          (passesFrom_upcoming hx hall hnext hadmits)
        rcases (hw.least v hv hxv).eq_or_lt with heq | hlt
        · exact Or.inl (T.single v hv w hw.mem heq.symm)
        · exact Or.inr (by linarith [(T.apart w hw.mem v hv hlt).rises])
    · push Not at hleft
      have hnext := T.next_notFound he hT hx hfree hleft
      rw [← hcoarse] at hnext
      exact Round.done (passesFrom_notFound hx hnext) (fun w hw hxw => absurd (hleft w hw) hxw.not_ge)
  · unfold Timetable.Free at hfree
    push Not at hfree
    obtain ⟨v, hv, hspans⟩ := hfree
    rcases T.next_inProgress he hT hx hv hspans with ⟨hfar, hnext⟩ | ⟨hnear, m, hm, hm', hnext⟩
    · rw [← hcoarse] at hnext
      exact Round.cut v hv hspans hfar (passesFrom_notFound hx hnext)
    · rw [← hcoarse] at hnext
      refine Round.during v m hv hspans hnear hnext (fun u hu hxu => ?_) (fun fuel => ?_)
      · have hvu : v.rise < u.rise := lt_of_le_of_lt hspans.1 hxu
        have hapart := T.apart v hv u hu hvu
        rcases max_choice (60 - m) 1 with hmax | hmax
        · linarith [hapart.rises]
        · linarith [hapart.gap, hspans.2]
      · rw [passesFrom_inProgress hx hnext, hstep]

/-! ## The whole scan -/

/-- Holds of a pass that is reported for a visit: less than a minute late. -/
def Reports (p : Pass ℝ ℝ) (v : Visit) : Prop :=
  v.rise ≤ p.minutesAway ∧ p.minutesAway < v.rise + 1

noncomputable instance (p : Pass ℝ ℝ) (v : Visit) : Decidable (Reports p v) :=
  inferInstanceAs (Decidable (_ ∧ _))

/-- The scan is cut off at an offset: the rise of the pass in progress lies as far back as the window
reaches, though another visit is still to come. -/
def CutOff (T : Timetable) (window x : ℝ) : Prop :=
  ∃ v ∈ T.visits, v.Spans x ∧ window ≤ x + (⌊x - v.rise⌋₊ + 1) ∧
    ∃ w ∈ T.visits, x < w.rise ∧ w.rise + 1 < window

/-- **What is found belongs to visits**, in the order of time and an hour apart. -/
theorem passesFrom_reports (name : String) (h : FullScan T sky e c o) (fuel : ℕ) (hx₀ : 0 ≤ x) :
    ∃ passes, passesFrom e name c o fuel x = .ok passes ∧
      (∀ p ∈ passes, x < p.minutesAway ∧
        ∃ v ∈ T.visits, x < v.rise ∧ v.rise < o.windowMinutes ∧ Reports p v) ∧
      passes.Pairwise fun p q => p.minutesAway + 1 < q.minutesAway := by
  induction fuel generalizing x with
  | zero => exact ⟨[], rfl, by simp, List.Pairwise.nil⟩
  | succ fuel ih =>
    rcases lt_or_ge x o.windowMinutes with hx | hx
    · cases round_cases name h hx₀ hx with
      | done hscan _ => exact ⟨[], hscan _, by simp, List.Pairwise.nil⟩
      | cut _ _ _ _ hscan => exact ⟨[], hscan _, by simp, List.Pairwise.nil⟩
      | found w m s hfree hw hahead hrise hlate hwindow hnext hothers hscan =>
        obtain ⟨rest, hrest, hreports, hspaced⟩ := ih (by linarith : 0 ≤ x + (m + 60))
        refine ⟨Pass.ofSummary name (x + m) s :: rest, by rw [hscan, hrest]; rfl, ?_,
          List.Pairwise.cons (fun q hq => ?_) hspaced⟩
        · intro p hp
          rcases List.mem_cons.mp hp with rfl | hp
          · have haway : x < (Pass.ofSummary name (x + m) s).minutesAway := by
              rw [minutesAway_ofSummary]
              linarith
            exact ⟨haway, w, hw, hahead, by linarith, hrise, hlate⟩
          · obtain ⟨hlater, v, hv, hxv, hwv, hpv⟩ := hreports p hp
            exact ⟨by linarith, v, hv, by linarith, hwv, hpv⟩
        · have hlater := (hreports q hq).1
          rw [minutesAway_ofSummary]
          linarith
      | during v m hv hspans hnear hnext hothers hscan =>
        have hon := le_max_right (60 - m) 1
        obtain ⟨rest, hrest, hreports, hspaced⟩ := ih (by linarith : 0 ≤ x + max (60 - m) 1)
        refine ⟨rest, by rw [hscan, hrest], fun p hp => ?_, hspaced⟩
        obtain ⟨hlater, u, hu, hxu, hwu, hpu⟩ := hreports p hp
        exact ⟨by linarith, u, hu, by linarith, hwu, hpu⟩
    · exact ⟨[], passesFrom_beyond hx _, by simp, List.Pairwise.nil⟩

/-- **No visit is missed**, unless the scan is cut off. -/
theorem passesFrom_complete (h : FullScan T sky e c o) {fuel : ℕ} (hx₀ : 0 ≤ x)
    (hfuel : o.windowMinutes ≤ x + fuel) (hcut : ∀ y, Asks e o x y → ¬ CutOff T o.windowMinutes y)
    {passes : List (Pass ℝ ℝ)} (hscan : passesFrom e name c o fuel x = .ok passes) {v : Visit}
    (hv : v ∈ T.visits) (hxv : x < v.rise) (hwv : v.rise + 1 < o.windowMinutes) :
    ∃ p ∈ passes, Reports p v := by
  induction fuel generalizing x passes with
  | zero =>
    rw [Nat.cast_zero, add_zero] at hfuel
    linarith
  | succ fuel ih =>
    rw [Nat.cast_succ] at hfuel
    have hx : x < o.windowMinutes := by linarith
    cases round_cases name h hx₀ hx with
    | done _ hleft => linarith [hleft v hv hxv]
    | cut u hu hspans hfar _ =>
      rw [Visibility.roundPast_one] at hfar
      exact absurd ⟨u, hu, hspans, hfar, v, hv, hxv, hwv⟩ (hcut x (Asks.here hx))
    | found w m s hfree hw hahead hrise hlate hwindow hnext hothers hrest =>
      rw [hrest] at hscan
      cases hlater : passesFrom e name c o fuel (x + (m + 60)) with
      | error cause => simp [hlater, Except.map] at hscan
      | ok rest =>
        rw [hlater] at hscan
        cases hscan
        rcases hothers v hv hxv with rfl | hxv'
        · exact ⟨Pass.ofSummary name (x + m) s, List.mem_cons_self, hrise, hlate⟩
        · obtain ⟨p, hp, hpv⟩ := ih (by linarith) (by linarith)
            (fun y hy => hcut y ((asks_of_upcoming hx hnext).mpr (Or.inr hy))) hlater hxv'
          exact ⟨p, List.mem_cons_of_mem _ hp, hpv⟩
    | during u m hu hspans hnear hnext hothers hrest =>
      have hon := le_max_right (60 - m) 1
      rw [hrest] at hscan
      refine ih (by linarith) (by linarith) (fun y hy => hcut y ?_) hscan (hothers v hv hxv)
      rw [← h.minute] at hy
      exact (asks_of_inProgress hx hnext).mpr (Or.inr hy)

/-- **Nothing is found behind a cut.** -/
theorem passesFrom_cut (h : FullScan T sky e c o) {fuel : ℕ} (hx₀ : 0 ≤ x)
    (hasks : Asks e o x y) (hcut : CutOff T o.windowMinutes y) {passes : List (Pass ℝ ℝ)}
    (hscan : passesFrom e name c o fuel x = .ok passes) : ∀ p ∈ passes, p.minutesAway < y := by
  have hpos : 0 < o.stepMinutes := by rw [h.minute]; exact one_pos
  induction fuel generalizing x passes with
  | zero =>
    cases hscan
    simp
  | succ fuel ih =>
    rcases lt_or_ge x o.windowMinutes with hx | hx
    · cases round_cases name h hx₀ hx with
      | done hnone _ =>
        rw [hnone] at hscan
        cases hscan
        simp
      | cut _ _ _ _ hnone =>
        rw [hnone] at hscan
        cases hscan
        simp
      | found w m s hfree hw hahead hrise hlate hwindow hnext hothers hrest =>
        have hy : Asks e o (x + (m + 60)) y := by
          rcases (asks_of_upcoming hx hnext).mp hasks with rfl | hy
          · obtain ⟨v, hv, hspans, -⟩ := hcut
            exact absurd hspans (hfree v hv)
          · exact hy
        rw [hrest] at hscan
        cases hlater : passesFrom e name c o fuel (x + (m + 60)) with
        | error cause => simp [hlater, Except.map] at hscan
        | ok rest =>
          rw [hlater] at hscan
          cases hscan
          intro p hp
          rcases List.mem_cons.mp hp with rfl | hp
          · rw [minutesAway_ofSummary]
            linarith [hy.le hpos]
          · exact ih (by linarith) hy hlater p hp
      | during v m hv hspans hnear hnext hothers hrest =>
        have hon := le_max_right (60 - m) 1
        have hy : Asks e o (x + max (60 - m) 1) y := by
          rw [← h.minute]
          rcases (asks_of_inProgress hx hnext).mp hasks with rfl | hy
          · obtain ⟨u, hu, huspans, hfar, -⟩ := hcut
            rw [T.eq_of_spans hu hv huspans hspans, ← Visibility.roundPast_one] at hfar
            linarith
          · exact hy
        rw [hrest] at hscan
        exact ih (by linarith) hy hscan
    · rw [passesFrom_beyond hx] at hscan
      cases hscan
      simp

end Scan

end EarthStation.PassSearch
