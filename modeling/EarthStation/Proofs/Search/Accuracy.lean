import EarthStation.Proofs.Search.Soundness

/-!
# Accuracy — how well a pass is told

* `Timetable.once`: the timetable of a single visit.
* `PassSearch.passesFrom_behind`: behind the rise of the visit nothing is found.
* `PassSearch.swept_visit`: a sweep ends within a sample of the end of the visit.
* `PassSearch.run_visit`: a run tells a single visit by one pass, to the minute.
-/

namespace EarthStation

open Visibility (coarseStep)

namespace Timetable

/-- The timetable of a single visit. -/
def once (v : Visit) (hv : v.Proper) : Timetable where
  visits := {v}
  proper := by
    rintro u rfl
    exact hv
  apart := by
    rintro u rfl w rfl hlt
    exact absurd hlt (lt_irrefl _)
  single := by
    rintro u rfl w rfl -
    rfl

variable {v : Visit} {hv : v.Proper} {sky : ℝ → Observation ℝ} {start : ℝ}

theorem mem_once {u : Visit} : u ∈ (once v hv).visits ↔ u = v := Iff.rfl

theorem rules_once (hup : ∀ t, v.Spans t → 0 < (sky (start + t)).elevationDeg)
    (hdown : ∀ t, ¬ v.Spans t → (sky (start + t)).elevationDeg ≤ -5) :
    (once v hv).Rules sky start where
  up u hu t hspans := by
    rw [mem_once.mp hu] at hspans
    exact hup t hspans
  down t hfree := hdown t (hfree v rfl)

end Timetable

namespace PassSearch

variable {v : Visit} {hv : v.Proper} {e : Ephemeris ℝ ℝ} {sky : ℝ → Observation ℝ}
  {c : Criteria ℝ} {o : Options ℝ ℝ}

/-- **Behind the rise nothing is found**: what is left of the visit is skipped. -/
theorem passesFrom_behind (name : String) (he : e.Shows sky)
    (hT : (Timetable.once v hv).Rules sky o.start) (hstep : o.stepMinutes = 1) (fuel : ℕ) {x : ℝ}
    (hx : v.rise < x) : passesFrom e name c o fuel x = .ok [] := by
  have hcoarse : o.stepMinutes = coarseStep := by rw [hstep, Visibility.coarseStep_eq]
  induction fuel generalizing x with
  | zero => rfl
  | succ fuel ih =>
    rcases le_or_gt o.windowMinutes x with hend | hin
    · exact passesFrom_beyond hend _
    · rcases le_or_gt x v.set with hup | hset
      · rcases Timetable.next_inProgress he hT hin rfl ⟨hx.le, hup⟩ with
          ⟨-, hnext⟩ | ⟨-, m, -, -, hnext⟩
        · rw [← hcoarse] at hnext
          exact passesFrom_notFound hin hnext _
        · rw [← hcoarse] at hnext
          have hon := le_max_right (60 - m) o.stepMinutes
          rw [passesFrom_inProgress hin hnext]
          exact ih (by linarith)
      · have hfree : (Timetable.once v hv).Free x := by
          intro u hu hspans
          rw [Timetable.mem_once.mp hu] at hspans
          linarith [hspans.2]
        have hlast : ∀ u ∈ (Timetable.once v hv).visits, u.rise ≤ x := by
          intro u hu
          rw [Timetable.mem_once.mp hu]
          exact hx.le
        have hnext := Timetable.next_notFound he hT hin hfree hlast
        rw [← hcoarse] at hnext
        exact passesFrom_notFound hin hnext _

/-- The samples of a sweep are those of the sky. -/
theorem sample_of_swept {p : Pass ℝ ℝ} {n : ℕ} {obs : ℕ → Observation ℝ} (he : e.Shows sky)
    (h : Swept e o p n obs) {k : ℕ} (hk : k ≤ n) :
    obs k = sky (o.start + (p.minutesAway + k * (1 / 4))) := by
  have hseen := h.walked.seen k hk
  rw [he, Except.ok.injEq, add_assoc] at hseen
  exact hseen.symm

/-- A sweep from a time of the visit goes on just as long as the visit does. -/
theorem swept_lt_iff {p : Pass ℝ ℝ} {n : ℕ} {obs : ℕ → Observation ℝ} (he : e.Shows sky)
    (hup : ∀ t, v.Spans t → 0 < (sky (o.start + t)).elevationDeg)
    (hdown : ∀ t, ¬ v.Spans t → (sky (o.start + t)).elevationDeg ≤ -5)
    (hp : v.Spans p.minutesAway) (h : Swept e o p n obs) {k : ℕ} (hk : k ≤ n) :
    k < n ↔ p.minutesAway + k * (1 / 4) ≤ v.set := by
  have hlate : v.rise ≤ p.minutesAway + k * (1 / 4) := by
    have hlater : (0 : ℝ) ≤ k * (1 / 4) := by positivity
    linarith [hp.1]
  constructor
  · intro hlt
    by_contra hout
    have hlow := hdown _ (fun hspans => hout hspans.2)
    rw [← sample_of_swept he h hk] at hlow
    linarith [h.walked.up k hlt]
  · intro hin
    refine lt_of_le_of_ne hk fun hkn => ?_
    subst hkn
    have hhigh := hup _ ⟨hlate, hin⟩
    rw [← sample_of_swept he h le_rfl] at hhigh
    linarith [h.walked.lost]

/-- A sweep from a time of the visit samples what is left of it, and ends at the next sample. -/
theorem swept_visit {p : Pass ℝ ℝ} {n : ℕ} {obs : ℕ → Observation ℝ} (he : e.Shows sky)
    (hup : ∀ t, v.Spans t → 0 < (sky (o.start + t)).elevationDeg)
    (hdown : ∀ t, ¬ v.Spans t → (sky (o.start + t)).elevationDeg ≤ -5)
    (hp : v.Spans p.minutesAway) (h : Swept e o p n obs) :
    v.set < p.minutesAway + n * (1 / 4) ∧ p.minutesAway + n * (1 / 4) ≤ v.set + 1 / 4 ∧
      IsGreatest {h | ∃ k : ℕ, p.minutesAway + k * (1 / 4) ≤ v.set ∧
        h = (sky (o.start + (p.minutesAway + k * (1 / 4)))).elevationDeg} p.maxElevationDeg := by
  have hcount (k : ℕ) (hk : k ≤ n) : k < n ↔ p.minutesAway + k * (1 / 4) ≤ v.set :=
    swept_lt_iff he hup hdown hp h hk
  have hend : v.set < p.minutesAway + n * (1 / 4) :=
    not_le.mp fun hin => lt_irrefl n ((hcount n le_rfl).mpr hin)
  have hsome : n ≠ 0 := by
    rintro rfl
    rw [Nat.cast_zero, zero_mul, add_zero] at hend
    linarith [hp.2]
  refine ⟨hend, ?_, ?_⟩
  · obtain ⟨k, rfl⟩ := Nat.exists_eq_succ_of_ne_zero hsome
    have hlast := (hcount k (Nat.le_succ k)).mp (Nat.lt_succ_self k)
    push_cast
    linarith
  · have hset : {h | ∃ k : ℕ, p.minutesAway + k * (1 / 4) ≤ v.set ∧
        h = (sky (o.start + (p.minutesAway + k * (1 / 4)))).elevationDeg} =
        {h | ∃ i < n, h = (obs i).elevationDeg} := by
      ext height
      constructor
      · rintro ⟨k, hk, rfl⟩
        have hkn : k < n := by
          by_contra hnot
          have hle : (n : ℝ) ≤ k := by exact_mod_cast not_lt.mp hnot
          linarith
        exact ⟨k, hkn, by rw [sample_of_swept he h hkn.le]⟩
      · rintro ⟨k, hk, rfl⟩
        exact ⟨k, (hcount k hk.le).mp hk, by rw [sample_of_swept he h hk.le]⟩
    rw [hset]
    exact h.highest

/-- Criteria that admit a pass of a satellite, with what is seen of it at the start. -/
structure AdmitsPass [PatternReader] (c : Criteria ℝ) (e : Ephemeris ℝ ℝ) (seen : Observation ℝ) (p : Pass ℝ ℝ) :
    Prop where
  name : ∃ f, NameFilter.ofCriteria? c = some f ∧ f.accepts (listedName e) = true
  altitude : c.minAltitudeKm ≤ seen.altitudeKm ∧ seen.altitudeKm ≤ c.maxAltitudeKm
  minutes : c.minMinutes ≤ p.minutesAway
  lowest : c.minElevationDeg ≤ p.maxElevationDeg
  highest : p.maxElevationDeg ≤ c.maxElevationDeg

/-- A scan that finds a pass and nothing behind it finds just that pass, whether it goes on or not. -/
theorem passesFrom_single {name : String} {fuel : ℕ} {minutes : ℝ}
    {s : EarthStation.Pass.Summary ℝ ℝ} (hwindow : 0 < o.windowMinutes)
    (hask : ask e o 0 = .ok (.upcoming minutes s)) (hadmits : admits c (0 + minutes) s = true)
    (hrest : passesFrom e name c o fuel (0 + (minutes + 60)) = .ok []) :
    passesFrom e name c o (fuel + 1) 0 = .ok [Pass.ofSummary name (0 + minutes) s] := by
  cases hall : o.findAll with
  | true =>
    rw [passesFrom_upcoming hwindow hall hask hadmits, hrest]
    rfl
  | false =>
    have hask' : EarthStation.Pass.next e (Timeline.later o.start (0 : ℝ)) (o.windowMinutes - 0)
      o.stepMinutes = .ok (.upcoming minutes s) := hask
    rw [passesFrom]
    refine (if_pos hwindow).trans ?_
    rw [hask']
    dsimp only
    rw [if_pos hadmits, hall]
    rfl

/-- **A single visit is told by one pass.**  Its rise is told less than a minute late, its duration to
the minute, and its highest elevation is that of the samples from then on until the visit ends. -/
theorem run_visit [PatternReader] {start r s window : ℝ} (he : e.Shows sky) (hr : 0 < r) (hwindow : r + 1 < window)
    (hlong : 1 ≤ s - r) (hday : s - r ≤ 1439)
    (hup : ∀ t, r ≤ t ∧ t ≤ s → 0 < (sky (start + t)).elevationDeg)
    (hdown : ∀ t, ¬ (r ≤ t ∧ t ≤ s) → (sky (start + t)).elevationDeg ≤ -5) :
    ∃ p : Pass ℝ ℝ, r ≤ p.minutesAway ∧ p.minutesAway < r + 1 ∧
      |p.durationMinutes - (s - r)| ≤ 1 ∧
      IsGreatest {h | ∃ k : ℕ, p.minutesAway + k * (1 / 4) ≤ s ∧
        h = (sky (start + (p.minutesAway + k * (1 / 4)))).elevationDeg} p.maxElevationDeg ∧
      ∀ (c : Criteria ℝ) (order : Order) (findAll : Bool), AdmitsPass c e (sky start) p →
        run [.ok e] c ⟨start, 1, window, order, findAll⟩ = .ok ⟨[p], 1, 1⟩ := by
  have hv : (Visit.mk r s).Proper := ⟨by dsimp only; linarith, by dsimp only; linarith⟩
  have hT : (Timetable.once ⟨r, s⟩ hv).Rules sky start := Timetable.rules_once hup hdown
  have hfree : (Timetable.once ⟨r, s⟩ hv).Free 0 := by
    rintro u rfl hspans
    exact absurd hspans.1 (not_le.mpr hr)
  have hnext : (Timetable.once ⟨r, s⟩ hv).IsNext 0 ⟨r, s⟩ := by
    refine ⟨rfl, hr, ?_⟩
    rintro u rfl -
    exact le_rfl
  have hsome : (0 : ℝ) < window := by linarith
  rcases Timetable.next_upcoming he hT hsome hfree hnext with
    ⟨hfar, -⟩ | ⟨m, summary, hrise, hlate, -, hlit, hupcoming⟩
  · have hround := Visibility.roundUp_lt one_pos (y := r - 0) (by linarith)
    dsimp only at hfar
    linarith
  · rw [Visibility.coarseStep_eq] at hupcoming
    have hask (order : Order) (findAll : Bool) :
        ask e ⟨start, 1, window, order, findAll⟩ 0 = .ok (.upcoming m summary) := hupcoming
    obtain ⟨-, -, n, obs, hswept⟩ := swept_of_upcoming (listedName e) hsome
      (hask .soonestFirst true) hlit.minutesAbove0
    have hspans : (Visit.mk r s).Spans (0 + m) := ⟨hrise, by dsimp only at hlate ⊢; linarith⟩
    obtain ⟨hover, hends, hhighest⟩ := swept_visit (v := ⟨r, s⟩)
      (o := ⟨start, 1, window, .soonestFirst, true⟩) he hup hdown hspans hswept
    refine ⟨Pass.ofSummary (listedName e) (0 + m) summary, hrise, hlate, ?_, hhighest, ?_⟩
    · have hduration := hswept.duration
      rw [minutesAway_ofSummary] at hover hends
      dsimp only at hrise hlate hover hends
      rw [hduration, abs_le]
      constructor <;> linarith
    · rintro c order findAll ⟨⟨f, hf, hname⟩, hband, hminutes, hlowest, hhighest⟩
      have hcandidate : isCandidate f c ⟨start, 1, window, order, findAll⟩ e = true := by
        unfold isCandidate
        rw [he, hname]
        exact inBand_iff.mpr hband
      have hadmits : admits c (0 + m) summary = true :=
        admits_iff.mpr ⟨hlit.minutesAbove0, hhighest, hlowest, hminutes⟩
      have hfound : passesFrom e (listedName e) c ⟨start, 1, window, order, findAll⟩
          (roundBound (⟨start, 1, window, order, findAll⟩ : Options ℝ ℝ)) 0 = _ :=
        passesFrom_single hsome (hask order findAll) hadmits
          (passesFrom_behind _ he hT rfl _ (by dsimp only at hrise ⊢; linarith))
      rw [run_candidate hf hcandidate hfound, List.mergeSort_singleton]

/-- A visit of eight minutes is told by one pass. -/
theorem run_visit_brief :
    letI := PatternReader.words
    ∃ p : Pass ℝ ℝ, 12 ≤ p.minutesAway ∧ p.minutesAway < 12 + 1 ∧
      |p.durationMinutes - (20 - 12)| ≤ 1 ∧ p.maxElevationDeg = 40 ∧
      run [.ok (Timetable.once (brief 12) (brief_proper 12)).satellite] Criteria.standard
        ⟨0, 1, 1440, .soonestFirst, false⟩ = .ok ⟨[p], 1, 1⟩ := by
  let := PatternReader.words
  set T := Timetable.once (brief 12) (brief_proper 12)
  have hspans (t : ℝ) : (brief 12).Spans t ↔ 12 ≤ t ∧ t ≤ 20 := by
    unfold brief Visit.Spans
    norm_num
  have hfree (t : ℝ) : T.Free t ↔ ¬ (12 ≤ t ∧ t ≤ 20) := by
    rw [← hspans]
    exact ⟨fun h => h (brief 12) rfl, fun h u hu => by rwa [Timetable.mem_once.mp hu]⟩
  have hheight (t : ℝ) (ht : 12 ≤ t ∧ t ≤ 20) : (T.sky (0 + t)).elevationDeg = 40 := by
    have hbusy : ¬ T.Free t := fun h => (hfree t).mp h ht
    rw [zero_add, Timetable.sky, if_neg hbusy]
  have hup (t : ℝ) (ht : 12 ≤ t ∧ t ≤ 20) : 0 < (T.sky (0 + t)).elevationDeg := by
    rw [hheight t ht]
    norm_num
  have hdown (t : ℝ) (ht : ¬ (12 ≤ t ∧ t ≤ 20)) : (T.sky (0 + t)).elevationDeg ≤ -5 :=
    T.rules_sky.down t ((hfree t).mpr ht)
  have hwindow : (12 : ℝ) + 1 < 1440 := by norm_num
  obtain ⟨p, hrise, hlate, hduration, hhighest, hrun⟩ := run_visit T.satellite_shows
    (by norm_num) hwindow (by norm_num) (by norm_num) hup hdown
  have hmax : p.maxElevationDeg = 40 := by
    obtain ⟨k, hk, hmax⟩ := hhighest.1
    have hlater : (0 : ℝ) ≤ k * (1 / 4) := by positivity
    rw [hmax]
    exact hheight _ ⟨by linarith, hk⟩
  have hc := admits_standard T
  refine ⟨p, hrise, hlate, hduration, hmax, hrun _ _ _ ⟨⟨_, rfl, rfl⟩, hc.altitude 0, ?_, ?_, ?_⟩⟩
  · exact hc.minutes.trans (by linarith)
  · have hlow := hc.lowest (0 + 12) (by rw [hheight 12 (by norm_num)]; norm_num)
    rw [hheight 12 (by norm_num)] at hlow
    rw [hmax]
    exact hlow
  · have hhigh := hc.highest (0 + 12)
    rw [hheight 12 (by norm_num)] at hhigh
    rw [hmax]
    exact hhigh

end PassSearch

end EarthStation
