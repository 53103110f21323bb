import EarthStation.Proofs.Search.Sweep

/-!
# Timetable — when a satellite is up, and what the search for the next pass makes of it

* `Visit`, `Timetable`: times of visibility in minutes after a start, well apart from each other.
* `Timetable.Rules`: a sky that is above the horizon during the visits and well below it otherwise.
* `Timetable.exists_next`: the visit that comes next.
* `Timetable.next_upcoming`, `Timetable.next_inProgress`, `Timetable.next_notFound`: the answer of
  `Pass.next` before a visit, during one and after the last.
-/

namespace EarthStation

open Visibility (coarseStep roundUp roundPast)

/-- A time during which a satellite is up. -/
structure Visit where
  rise : ℝ
  set : ℝ

namespace Visit

/-- Holds of the times of a visit. -/
def Spans (v : Visit) (t : ℝ) : Prop := v.rise ≤ t ∧ t ≤ v.set

/-- A visit of a minute to a day. -/
structure Proper (v : Visit) : Prop where
  lasts : v.rise + 1 ≤ v.set
  sets : v.set ≤ v.rise + 1439

/-- An hour between the rises and a minute between the visits. -/
structure Precedes (v w : Visit) : Prop where
  rises : v.rise + 62 ≤ w.rise
  gap : v.set + 1 < w.rise

end Visit

/-- Visits well apart from each other. -/
structure Timetable where
  visits : Set Visit
  proper : ∀ v ∈ visits, v.Proper
  apart : ∀ v ∈ visits, ∀ w ∈ visits, v.rise < w.rise → v.Precedes w
  single : ∀ v ∈ visits, ∀ w ∈ visits, v.rise = w.rise → v = w

namespace Timetable

variable (T : Timetable)

/-- Holds of times outside every visit. -/
def Free (t : ℝ) : Prop := ∀ v ∈ T.visits, ¬ v.Spans t

/-- The sky of a satellite that is up during the visits, counted from `start`, and well below the
horizon at all other times. -/
structure Rules (sky : ℝ → Observation ℝ) (start : ℝ) : Prop where
  up : ∀ v ∈ T.visits, ∀ t, v.Spans t → 0 < (sky (start + t)).elevationDeg
  down : ∀ t, T.Free t → (sky (start + t)).elevationDeg ≤ -5

/-- The next visit after a time: no other one rises between. -/
structure IsNext (x : ℝ) (w : Visit) : Prop where
  mem : w ∈ T.visits
  ahead : x < w.rise
  least : ∀ u ∈ T.visits, x < u.rise → w.rise ≤ u.rise

variable {T} {v w : Visit} {x t : ℝ}

/-- If a visit lies ahead, one of them is the next. -/
theorem exists_next (hw : w ∈ T.visits) (hx : x < w.rise) : ∃ u, T.IsNext x u := by
  -- an earlier visit is earlier by an hour
  obtain ⟨n, hn⟩ := exists_nat_ge (w.rise - x)
  induction n generalizing w with
  | zero => simp only [Nat.cast_zero] at hn; linarith
  | succ n ih =>
    by_cases hleast : ∀ u ∈ T.visits, x < u.rise → w.rise ≤ u.rise
    · exact ⟨w, hw, hx, hleast⟩
    · push Not at hleast
      obtain ⟨u, hu, hxu, huw⟩ := hleast
      have hgap := (T.apart u hu w hw huw).rises
      refine ih hu hxu ?_
      push_cast at hn
      linarith

theorem free_before_next (hw : T.IsNext x w) (hx : T.Free x) (hxt : x ≤ t) (ht : t < w.rise) :
    T.Free t := by
  intro u hu hspans
  rcases lt_or_ge x u.rise with hlt | hge
  · linarith [hw.least u hu hlt, hspans.1]
  · exact hx u hu ⟨hge, hxt.trans hspans.2⟩

theorem free_of_none (hnone : ∀ u ∈ T.visits, u.rise ≤ x) (hx : T.Free x) (hxt : x ≤ t) :
    T.Free t := fun u hu hspans => hx u hu ⟨hnone u hu, hxt.trans hspans.2⟩

theorem free_before (hv : v ∈ T.visits) (ht : v.rise - 1 ≤ t) (ht' : t < v.rise) : T.Free t := by
  intro u hu hspans
  have hgap := (T.apart u hu v hv (hspans.1.trans_lt ht')).gap
  linarith [hspans.2]

theorem free_after (hv : v ∈ T.visits) (ht : v.set < t) (ht' : t ≤ v.set + 1) : T.Free t := by
  intro u hu hspans
  have hlong := (T.proper v hv).lasts
  rcases lt_trichotomy u.rise v.rise with hlt | heq | hgt
  · have hgap := (T.apart u hu v hv hlt).gap
    linarith [hspans.2]
  · rw [T.single u hu v hv heq] at hspans
    linarith [hspans.2]
  · have hgap := (T.apart v hv u hu hgt).gap
    linarith [hspans.1]

/-- No two visits overlap. -/
theorem eq_of_spans (hv : v ∈ T.visits) (hw : w ∈ T.visits) (hvt : v.Spans t) (hwt : w.Spans t) :
    v = w := by
  rcases lt_trichotomy v.rise w.rise with hlt | heq | hgt
  · linarith [(T.apart v hv w hw hlt).gap, hvt.2, hwt.1]
  · exact T.single v hv w hw heq
  · linarith [(T.apart w hw v hv hgt).gap, hwt.2, hvt.1]

/-! ## The next pass -/

section Next

variable {e : Ephemeris ℝ ℝ} {sky : ℝ → Observation ℝ} {start window : ℝ}

/-- A pass is walked to its end from any point of its visit. -/
theorem characterize_visit (he : e.Shows sky) (hT : T.Rules sky start) (hv : v ∈ T.visits)
    (ht : v.Spans t) :
    ∃ summary, Pass.characterize e (start + t) Pass.sweepStep = .ok summary ∧
      Pass.Lit sky summary := by
  refine Pass.characterize_lit he (sub_nonneg.mpr ht.2) ?_ (fun m hm hm' => ?_) (fun m hm hm' => ?_)
  · linarith [(T.proper v hv).sets, ht.1]
  · rw [add_assoc]
    exact hT.up v hv _ ⟨by linarith [ht.1], by linarith⟩
  · rw [add_assoc]
    exact hT.down _ (free_after hv (by linarith) (by linarith))

/-- Before a visit it is found less than a minute late, if that is inside the window when it is rounded
up to whole minutes. -/
theorem next_upcoming (he : e.Shows sky) (hT : T.Rules sky start) (hx : x < window)
    (hfree : T.Free x) (hw : T.IsNext x w) :
    (window ≤ x + roundUp 1 (w.rise - x) ∧
      Pass.next e (start + x) (window - x) coarseStep = .ok .notFound) ∨
    (∃ m summary, w.rise ≤ x + m ∧ x + m < w.rise + 1 ∧ x + m < window ∧ Pass.Lit sky summary ∧
      Pass.next e (start + x) (window - x) coarseStep = .ok (.upcoming m summary)) := by
  have hlong := (T.proper w hw.mem).lasts
  have hbelow (t : ℝ) (ht : 0 ≤ t) (ht' : t < w.rise - x) :
      (sky (start + x + t)).elevationDeg < 0 := by
    have hdown := hT.down (x + t) (free_before_next hw hfree (by linarith) (by linarith))
    rw [add_assoc]
    linarith
  have hup (t : ℝ) (ht : w.rise - x ≤ t) (ht' : t < w.rise - x + 1) :
      0 < (sky (start + x + t)).elevationDeg := by
    rw [add_assoc]
    exact hT.up w hw.mem _ ⟨by linarith, by linarith⟩
  obtain ⟨m, hm, hm', hresult⟩ := Visibility.refined_rise he (sub_pos.mpr hx)
    (sub_pos.mpr hw.ahead) hbelow hup
  have hround := Visibility.roundUp_lt one_pos (sub_pos.mpr hw.ahead).le
  by_cases hnear : roundUp 1 (w.rise - x) < window - x
  · right
    rw [if_pos hnear] at hresult
    have hspans : w.Spans (x + m) := ⟨by linarith, by linarith⟩
    obtain ⟨summary, hsummary, hlit⟩ := characterize_visit he hT hw.mem hspans
    rw [← add_assoc] at hsummary
    refine ⟨m, summary, hspans.1, by linarith, by linarith, hlit, ?_⟩
    rw [Pass.next_of_nonneg hresult (by linarith [hw.ahead]), hsummary]
    rfl
  · left
    rw [if_neg hnear] at hresult
    exact ⟨by linarith, Pass.next_of_none hresult⟩

/-- During a visit its rise is found less than a minute early, if that is inside the window when it is
mirrored at the start of the search and rounded past to whole minutes. -/
theorem next_inProgress (he : e.Shows sky) (hT : T.Rules sky start) (hx : x < window)
    (hv : v ∈ T.visits) (hspans : v.Spans x) :
    (window ≤ x + roundPast 1 (x - v.rise) ∧
      Pass.next e (start + x) (window - x) coarseStep = .ok .notFound) ∨
    (x + roundPast 1 (x - v.rise) < window ∧ ∃ m, x - v.rise < m ∧ m ≤ x - v.rise + 1 ∧
      Pass.next e (start + x) (window - x) coarseStep = .ok (.inProgress m)) := by
  have hsince : 0 ≤ x - v.rise := sub_nonneg.mpr hspans.1
  have hup (t : ℝ) (ht : 0 ≤ t) (ht' : t ≤ x - v.rise) :
      0 < (sky (start + x - t)).elevationDeg := by
    rw [add_sub_assoc]
    exact hT.up v hv _ ⟨by linarith, by linarith [hspans.2]⟩
  have hbelow (t : ℝ) (ht : x - v.rise < t) (ht' : t ≤ x - v.rise + 1) :
      (sky (start + x - t)).elevationDeg < 0 := by
    have hdown := hT.down (x - t) (free_before hv (by linarith) (by linarith))
    rw [add_sub_assoc]
    linarith
  obtain ⟨m, hm, hm', hresult⟩ := Visibility.refined_since he (sub_pos.mpr hx) hsince hup hbelow
  have hround := Visibility.roundPast_le one_pos hsince
  by_cases hnear : roundPast 1 (x - v.rise) < window - x
  · right
    rw [if_pos hnear] at hresult
    refine ⟨by linarith, m, hm, by linarith, ?_⟩
    rw [Pass.next_of_neg hresult (by linarith), neg_neg]
  · left
    rw [if_neg hnear] at hresult
    exact ⟨by linarith, Pass.next_of_none hresult⟩

/-- After the last visit nothing is found. -/
theorem next_notFound (he : e.Shows sky) (hT : T.Rules sky start) (hx : x < window)
    (hfree : T.Free x) (hnone : ∀ u ∈ T.visits, u.rise ≤ x) :
    Pass.next e (start + x) (window - x) coarseStep = .ok .notFound := by
  refine Pass.next_of_none (Visibility.refined_none he (sub_pos.mpr hx) (fun t ht _ => ?_))
  have hdown := hT.down (x + t) (free_of_none hnone hfree (by linarith))
  rw [add_assoc]
  linarith

end Next

/-! ## Satellites that keep a timetable -/

open Classical in
/-- A sky that keeps the timetable from time zero on. -/
noncomputable def sky (T : Timetable) (t : ℝ) : Observation ℝ where
  azimuthDeg := 135
  elevationDeg := if T.Free t then -30 else 40
  altitudeKm := 550
  rangeRateKmS := 6

noncomputable def satellite (T : Timetable) : Ephemeris ℝ ℝ where
  name := "PUNCTUAL"
  observe t := .ok (T.sky t)

theorem satellite_shows (T : Timetable) : T.satellite.Shows T.sky := fun _ => rfl

/-- Every timetable is kept by a satellite. -/
theorem rules_sky (T : Timetable) : T.Rules T.sky 0 where
  up v hv t hspans := by
    have hbusy : ¬ T.Free t := fun hfree => hfree v hv hspans
    rw [zero_add, sky, if_neg hbusy]
    norm_num
  down t hfree := by
    rw [zero_add, sky, if_pos hfree]
    norm_num

/-- The timetable of two visits. -/
def pair (v w : Visit) (hv : v.Proper) (hw : w.Proper) (hvw : v.Precedes w) : Timetable where
  visits := {v, w}
  proper := by
    rintro u (rfl | rfl)
    · exact hv
    · exact hw
  apart := by
    have hrises := hvw.rises
    rintro u (rfl | rfl) u' (rfl | rfl) hlt
    · exact absurd hlt (lt_irrefl _)
    · exact hvw
    · linarith
    · exact absurd hlt (lt_irrefl _)
  single := by
    have hrises := hvw.rises
    rintro u (rfl | rfl) u' (rfl | rfl) heq
    · rfl
    · linarith
    · linarith
    · rfl

end Timetable

end EarthStation
