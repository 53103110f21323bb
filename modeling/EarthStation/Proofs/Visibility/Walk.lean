import EarthStation.Proofs.Exact

/-!
# Walk — how a search along a grid ends

* `Ephemeris.Seen`: an instant at which the elevation is observed, and what it is.
* `Visibility.Goes`: a point of a grid at which a walk goes on.
* `Visibility.walk_ends`: a walk ends behind points at which it goes on, with one look for each step.
* `Visibility.minutesToCrossing_found`, `Visibility.minutesToCrossing_failed`,
  `Visibility.minutesToCrossing_exhausted`: the three answers of a search.
* `Visibility.crossing_law`: a search answers the first crossing of the grid.
-/

namespace EarthStation

/-- Observed at an instant, with an elevation of this kind. -/
def Ephemeris.Seen (e : Ephemeris ℝ ℝ) (P : ℝ → Prop) (t : ℝ) : Prop :=
  ∃ o, e.observe t = .ok o ∧ P o.elevationDeg

theorem Looks.count_bind_of_ok {α β γ : Type} {x : Looks α β} {b : β} (h : x.result = .ok b)
    (f : β → Looks α γ) : (x >>= f).count = x.count + (f b).count := by
  change (bind x f).count = _
  unfold bind
  rw [h]

theorem Looks.bind_of_error {α β γ : Type} {x : Looks α β} {cause : PredictionError α}
    (h : x.result = .error cause) (f : β → Looks α γ) : x >>= f = ⟨.error cause, x.count⟩ := by
  change bind x f = _
  unfold bind
  rw [h]

namespace Visibility

variable {e : Ephemeris ℝ ℝ} {start horizon step : ℝ} {heading : Heading}

/-! ## One walk -/

/-- Seen at the `k`th point of a grid on the side that a walk goes on from. -/
def Goes (e : Ephemeris ℝ ℝ) (start step : ℝ) (heading : Heading) (k : ℕ) : Prop :=
  e.Seen (fun elevation => heading.stays elevation = true) (start + heading.minutes (k * step))

/-- How a walk ends at the `n`th point of its grid. -/
inductive Ends (e : Ephemeris ℝ ℝ) (start horizon step : ℝ) (heading : Heading) (n : ℕ) :
    Except (PredictionError ℝ) (Option ℝ) → Prop where
  /-- The point is on the other side. -/
  | crossed (o : Observation ℝ) (seen : e.observe (start + heading.minutes (n * step)) = .ok o)
      (leaves : heading.stays o.elevationDeg = false) :
      Ends e start horizon step heading n (.ok (some (heading.minutes (n * step))))
  | failed (cause : PredictionError ℝ)
      (unseen : e.observe (start + heading.minutes (n * step)) = .error cause) :
      Ends e start horizon step heading n (.error cause)
  /-- The next point is too far away. -/
  | exhausted (goes : Goes e start step heading n) (far : horizon ≤ (n + 1 : ℕ) * step) :
      Ends e start horizon step heading n (.ok none)

/-- **A walk ends behind points at which it goes on**, with one look for each step. -/
theorem walk_ends (hstep : 0 < step) {fuel k : ℕ} {o : Observation ℝ}
    (ho : e.observe (start + heading.minutes (k * step)) = .ok o) (hsome : 0 < fuel)
    (hfuel : horizon ≤ (k + fuel : ℕ) * step) :
    ∃ n, k ≤ n ∧ (n = k ∨ n * step < horizon) ∧ (∀ i, k ≤ i → i < n → Goes e start step heading i) ∧
      Ends e start horizon step heading n
        (walk e start horizon step heading fuel k o.elevationDeg).result ∧
      (walk e start horizon step heading fuel k o.elevationDeg).count = n - k := by
  induction fuel generalizing k o with
  | zero => exact absurd hsome (lt_irrefl 0)
  | succ fuel ih =>
    rw [walk_succ]
    by_cases hstays : heading.stays o.elevationDeg = true
    · rw [if_pos hstays]
      by_cases hfar : horizon ≤ (k + 1 : ℕ) * step
      · rw [if_pos hfar]
        refine ⟨k, le_rfl, Or.inl rfl, fun i hi hik => absurd hik (not_lt.mpr hi), ?_, ?_⟩
        · exact .exhausted ⟨o, ho, hstays⟩ hfar
        · exact (Nat.sub_self k).symm
      · rw [if_neg hfar]
        have hnear := not_le.mp hfar
        cases hnext : e.observe (start + heading.minutes ((k + 1 : ℕ) * step)) with
        | error cause =>
          rw [Looks.bind_of_error hnext]
          refine ⟨k + 1, Nat.le_succ k, Or.inr hnear, fun i hi hik => ?_, .failed cause hnext, ?_⟩
          · obtain rfl : i = k := by omega
            exact ⟨o, ho, hstays⟩
          · exact (Nat.add_sub_cancel_left k 1).symm
        | ok next =>
          -- the fuel reaches to the horizon, so that some is left for a point in front of it
          rw [← Nat.succ_add_eq_add_succ] at hfuel
          have hmore : 0 < fuel := by
            have hlt : ((k + 1 : ℕ) : ℝ) < (k + 1 + fuel : ℕ) :=
              lt_of_mul_lt_mul_right (hnear.trans_le hfuel) hstep.le
            have hlt' : k + 1 < k + 1 + fuel := by exact_mod_cast hlt
            omega
          obtain ⟨n, hkn, hn, hgoes, hends, hcount⟩ := ih hnext hmore hfuel
          rw [Looks.result_bind, Ephemeris.result_look, hnext, Looks.count_bind_of_ok hnext, hcount]
          refine ⟨n, by omega, Or.inr ?_, fun i hi hin => ?_, hends, ?_⟩
          · rcases hn with rfl | hn
            · exact hnear
            · exact hn
          · rcases Nat.eq_or_lt_of_le hi with rfl | hki
            · exact ⟨o, ho, hstays⟩
            · exact hgoes i hki hin
          · change 1 + (n - (k + 1)) = n - k
            omega
    · rw [if_neg hstays]
      refine ⟨k, le_rfl, Or.inl rfl, fun i hi hik => absurd hik (not_lt.mpr hi), ?_, ?_⟩
      · exact .crossed o ho (by simpa using hstays)
      · exact (Nat.sub_self k).symm

theorem heading_minutes_zero (heading : Heading) (step : ℝ) :
    heading.minutes (((0 : ℕ) : ℝ) * step) = 0 := by
  cases heading <;> simp [minutes_forward_eq, minutes_backward_eq]

/-- **A search ends behind points at which it goes on**, with one look for each of them and one for the
point where it ends. -/
theorem minutesToCrossing_ends (horizon : ℝ) (hstep : 0 < step) {first : Observation ℝ}
    (hfirst : e.observe start = .ok first)
    (hheading : Heading.ofElevation first.elevationDeg = heading) :
    ∃ n : ℕ, (n = 0 ∨ n * step < horizon) ∧ (∀ i < n, Goes e start step heading i) ∧
      Ends e start horizon step heading n (minutesToCrossing e start horizon step).result ∧
      (minutesToCrossing e start horizon step).count = n + 1 := by
  have hzero : e.observe (start + heading.minutes (((0 : ℕ) : ℝ) * step)) = .ok first := by
    rw [heading_minutes_zero, add_zero, hfirst]
  have hfuel : horizon ≤ (0 + stepBound horizon step : ℕ) * step := by
    have hceil := Nat.le_ceil (horizon / step)
    rw [stepBound_eq, Nat.zero_add, ← div_le_iff₀ hstep]
    push_cast
    linarith
  have hsome : 0 < stepBound horizon step := Nat.succ_pos _
  obtain ⟨n, -, hn, hgoes, hends, hcount⟩ := walk_ends hstep hzero hsome hfuel
  unfold minutesToCrossing
  rw [if_pos (by rw [isStep_eq, decide_eq_true hstep]), Looks.result_bind, Ephemeris.result_look,
    hfirst, Looks.count_bind_of_ok hfirst]
  dsimp only
  rw [hheading]
  refine ⟨n, hn, fun i hi => hgoes i (Nat.zero_le i) hi, hends, ?_⟩
  change 1 + _ = n + 1
  rw [hcount, Nat.sub_zero, Nat.add_comm]

/-- A search that goes on in front of a point inside the horizon, but not at it, ends there. -/
theorem Ends.eq_of_not_goes {n k : ℕ} {answer : Except (PredictionError ℝ) (Option ℝ)}
    (hstep : 0 < step) (hends : Ends e start horizon step heading n answer)
    (hgoes : ∀ i < n, Goes e start step heading i) (hk : k = 0 ∨ k * step < horizon)
    (hbefore : ∀ i < k, Goes e start step heading i) (hstop : ¬ Goes e start step heading k) :
    n = k := by
  rcases lt_trichotomy n k with hlt | heq | hgt
  · exfalso
    obtain ⟨o, ho, hstays⟩ := hbefore n hlt
    cases hends with
    | crossed o' seen leaves =>
      cases seen.symm.trans ho
      exact Bool.false_ne_true (leaves.symm.trans hstays)
    | failed cause unseen => cases unseen.symm.trans ho
    | exhausted _ far =>
      have hle : ((n + 1 : ℕ) : ℝ) * step ≤ k * step :=
        mul_le_mul_of_nonneg_right (by exact_mod_cast hlt) hstep.le
      rcases hk with rfl | hk
      · exact Nat.not_lt_zero n hlt
      · linarith
  · exact heq
  · exact absurd (hgoes k hgt) hstop

/-! ## The answers of a search -/

section Answers

variable {first : Observation ℝ} (hstep : 0 < step) (hfirst : e.observe start = .ok first)
  (hheading : Heading.ofElevation first.elevationDeg = heading)
include hstep hfirst hheading

/-- The first point on the other side is found. -/
theorem minutesToCrossing_found {k : ℕ} (hk : k = 0 ∨ k * step < horizon)
    (hbefore : ∀ i < k, Goes e start step heading i) {o : Observation ℝ}
    (ho : e.observe (start + heading.minutes (k * step)) = .ok o)
    (hleaves : heading.stays o.elevationDeg = false) :
    (minutesToCrossing e start horizon step).result = .ok (some (heading.minutes (k * step))) := by
  obtain ⟨n, -, hgoes, hends, -⟩ := minutesToCrossing_ends horizon hstep hfirst hheading
  have hstop : ¬ Goes e start step heading k := by
    rintro ⟨o', ho', hstays⟩
    cases ho.symm.trans ho'
    exact Bool.false_ne_true (hleaves.symm.trans hstays)
  obtain rfl := hends.eq_of_not_goes hstep hgoes hk hbefore hstop
  generalize (minutesToCrossing e start horizon step).result = answer at hends
  cases hends with
  | crossed => rfl
  | failed cause unseen => cases unseen.symm.trans ho
  | exhausted goes _ => exact absurd goes hstop

/-- A failure in front of any point on the other side is the answer. -/
theorem minutesToCrossing_failed {k : ℕ} (hk : k = 0 ∨ k * step < horizon)
    (hbefore : ∀ i < k, Goes e start step heading i) {cause : PredictionError ℝ}
    (hcause : e.observe (start + heading.minutes (k * step)) = .error cause) :
    (minutesToCrossing e start horizon step).result = .error cause := by
  obtain ⟨n, -, hgoes, hends, -⟩ := minutesToCrossing_ends horizon hstep hfirst hheading
  have hstop : ¬ Goes e start step heading k := by
    rintro ⟨o, ho, -⟩
    cases hcause.symm.trans ho
  obtain rfl := hends.eq_of_not_goes hstep hgoes hk hbefore hstop
  generalize (minutesToCrossing e start horizon step).result = answer at hends
  cases hends with
  | crossed o seen _ => cases hcause.symm.trans seen
  | failed cause' unseen =>
    cases hcause.symm.trans unseen
    rfl
  | exhausted goes _ => exact absurd goes hstop

/-- There is no answer if all points inside the horizon are on the side of the start. -/
theorem minutesToCrossing_exhausted
    (hgoes : ∀ k : ℕ, k = 0 ∨ k * step < horizon → Goes e start step heading k) :
    (minutesToCrossing e start horizon step).result = .ok none := by
  obtain ⟨n, hn, -, hends, -⟩ := minutesToCrossing_ends horizon hstep hfirst hheading
  obtain ⟨o, ho, hstays⟩ := hgoes n hn
  generalize (minutesToCrossing e start horizon step).result = answer at hends
  cases hends with
  | crossed o' seen leaves =>
    cases seen.symm.trans ho
    exact absurd (leaves.symm.trans hstays) Bool.false_ne_true
  | failed cause unseen => cases unseen.symm.trans ho
  | exhausted => rfl

end Answers

theorem minutesToCrossing_of_unseen (hstep : 0 < step) {cause : PredictionError ℝ}
    (h : e.observe start = .error cause) :
    minutesToCrossing e start horizon step = ⟨.error cause, 1⟩ := by
  unfold minutesToCrossing
  rw [if_pos (by rw [isStep_eq, decide_eq_true hstep]), Looks.bind_of_error h]
  rfl

/-- What is behind an answer: a point on the other side, and only points on the side of the start in
front of it. -/
theorem crossed_of_found (hstep : 0 < step) {m : ℝ}
    (h : (minutesToCrossing e start horizon step).result = .ok (some m)) :
    ∃ first, e.observe start = .ok first ∧ ∃ n : ℕ, (n = 0 ∨ n * step < horizon) ∧
      (∀ i < n, Goes e start step (.ofElevation first.elevationDeg) i) ∧
      m = (Heading.ofElevation first.elevationDeg).minutes (n * step) ∧
      ∃ o, e.observe (start + m) = .ok o ∧
        (Heading.ofElevation first.elevationDeg).stays o.elevationDeg = false := by
  cases hfirst : e.observe start with
  | error cause =>
    rw [minutesToCrossing_of_unseen hstep hfirst] at h
    cases h
  | ok first =>
    obtain ⟨n, hn, hgoes, hends, -⟩ := minutesToCrossing_ends horizon hstep hfirst rfl
    rw [h] at hends
    cases hends with
    | crossed o seen leaves => exact ⟨first, rfl, n, hn, hgoes, rfl, o, seen, leaves⟩

/-- A search makes one look for each point inside the horizon, at most. -/
theorem count_le (hstep : 0 < step) :
    ((minutesToCrossing e start horizon step).count : ℝ) ≤ max horizon 0 / step + 1 := by
  cases hfirst : e.observe start with
  | error cause =>
    have hbound : 0 ≤ max horizon 0 / step := div_nonneg (le_max_right _ _) hstep.le
    rw [minutesToCrossing_of_unseen hstep hfirst, Nat.cast_one]
    linarith
  | ok first =>
    obtain ⟨n, hn, -, -, hcount⟩ := minutesToCrossing_ends horizon hstep hfirst rfl
    rw [hcount, Nat.cast_add_one, add_le_add_iff_right, le_div_iff₀ hstep]
    rcases hn with rfl | hn
    · simp
    · exact hn.le.trans (le_max_left _ _)

/-! ## The first crossing -/

theorem goes_forward_iff {k : ℕ} :
    Goes e start step .forward k ↔ e.Seen (· < 0) (start + k * step) := by
  simp only [Goes, stays_forward_eq, minutes_forward_eq, decide_eq_true_eq]

theorem goes_backward_iff {k : ℕ} :
    Goes e start step .backward k ↔ e.Seen (0 < ·) (start - k * step) := by
  simp only [Goes, stays_backward_eq, minutes_backward_eq, decide_eq_true_eq, sub_eq_add_neg]

/-- A walk that goes on at the start has the heading that the elevation there gives. -/
theorem heading_of_goes (h : Goes e start step heading 0) :
    ∃ first, e.observe start = .ok first ∧ Heading.ofElevation first.elevationDeg = heading := by
  obtain ⟨first, hfirst, hstays⟩ := h
  rw [heading_minutes_zero, add_zero] at hfirst
  refine ⟨first, hfirst, ?_⟩
  cases heading with
  | forward =>
    rw [stays_forward_eq, decide_eq_true_eq] at hstays
    exact ofElevation_of_neg hstays
  | backward =>
    rw [stays_backward_eq, decide_eq_true_eq] at hstays
    exact ofElevation_of_pos hstays

/-- Only from below the horizon is there an answer ahead. -/
theorem seen_of_ahead (hstep : 0 < step) {m : ℝ}
    (hm : (minutesToCrossing e start horizon step).result = .ok (some m)) (hpos : 0 < m) :
    e.Seen (· < 0) start := by
  obtain ⟨first, hfirst, n, -, -, rfl, -⟩ := crossed_of_found hstep hm
  refine ⟨first, hfirst, not_le.mp fun hup => ?_⟩
  rw [ofElevation_of_nonneg hup, minutes_backward_eq] at hpos
  have hback : 0 ≤ (n : ℝ) * step := by positivity
  linarith

/-- Only from above the horizon is there an answer behind. -/
theorem seen_of_behind (hstep : 0 < step) {m : ℝ}
    (hm : (minutesToCrossing e start horizon step).result = .ok (some m)) (hneg : m < 0) :
    e.Seen (0 < ·) start := by
  obtain ⟨first, hfirst, n, -, hgoes, rfl, -⟩ := crossed_of_found hstep hm
  rcases lt_or_ge first.elevationDeg 0 with hbelow | hup
  · rw [ofElevation_of_neg hbelow, minutes_forward_eq] at hneg
    have hahead : 0 ≤ (n : ℝ) * step := by positivity
    linarith
  · rw [ofElevation_of_nonneg hup, minutes_backward_eq] at hneg
    rw [ofElevation_of_nonneg hup] at hgoes
    have hsome : 0 < n := by
      rcases Nat.eq_zero_or_pos n with rfl | hn
      · simp at hneg
      · exact hn
    have hzero := goes_backward_iff.mp (hgoes 0 hsome)
    simpa using hzero

/-- What a search for a crossing answers.  The points of the grid are numbered from the start on, which
has number 0. -/
structure AnswersFirst (e : Ephemeris ℝ ℝ) (start horizon step : ℝ) (answer : Looks ℝ (Option ℝ)) :
    Prop where
  unseen : ∀ cause, e.observe start = .error cause → answer.result = .error cause
  /-- From below the horizon, the first point that is not below it is found if it is near. -/
  rise : ∀ k : ℕ, 1 ≤ k → k * step < horizon →
    (∀ i < k, e.Seen (· < 0) (start + i * step)) → e.Seen (0 ≤ ·) (start + k * step) →
      answer.result = .ok (some (k * step))
  noRise : (∀ k : ℕ, k = 0 ∨ k * step < horizon → e.Seen (· < 0) (start + k * step)) →
    answer.result = .ok none
  /-- A failure in front of it is answered. -/
  riseFails : ∀ k : ℕ, 1 ≤ k → k * step < horizon →
    (∀ i < k, e.Seen (· < 0) (start + i * step)) → ∀ cause,
      e.observe (start + k * step) = .error cause → answer.result = .error cause
  /-- From the horizon or above it, the first point backward that is not above it is found if it is
  near. -/
  since : e.Seen (0 ≤ ·) start → ∀ k : ℕ, k = 0 ∨ k * step < horizon →
    (∀ i < k, e.Seen (0 < ·) (start - i * step)) → e.Seen (· ≤ 0) (start - k * step) →
      answer.result = .ok (some (-(k * step)))
  noSince : (∀ k : ℕ, k = 0 ∨ k * step < horizon → e.Seen (0 < ·) (start - k * step)) →
    answer.result = .ok none
  sinceFails : ∀ k : ℕ, 1 ≤ k → k * step < horizon →
    (∀ i < k, e.Seen (0 < ·) (start - i * step)) → ∀ cause,
      e.observe (start - k * step) = .error cause → answer.result = .error cause
  /-- A search ends after a look for each near point, at most. -/
  looks : (answer.count : ℝ) ≤ max horizon 0 / step + 1
  /-- Only from below the horizon is there an answer ahead, and only from above it one behind. -/
  ahead : ∀ m, answer.result = .ok (some m) → 0 < m → e.Seen (· < 0) start
  behind : ∀ m, answer.result = .ok (some m) → m < 0 → e.Seen (0 < ·) start

/-- **A search answers the first crossing of the horizon on its grid**, whatever the satellite does: the
next point that is not below the horizon, or the last one that was not above it, if it is closer than
the horizon of the search; and a failure on the way to it. -/
theorem crossing_law (e : Ephemeris ℝ ℝ) (start horizon : ℝ) {step : ℝ} (hstep : 0 < step) :
    AnswersFirst e start horizon step (minutesToCrossing e start horizon step) where
  unseen cause h := by rw [minutesToCrossing_of_unseen hstep h]
  rise k hk hnear hbefore hend := by
    obtain ⟨first, hfirst, hheading⟩ := heading_of_goes (goes_forward_iff.mpr (hbefore 0 hk))
    obtain ⟨o, ho, hup⟩ := hend
    refine minutesToCrossing_found hstep hfirst hheading (Or.inr hnear)
      (fun i hi => goes_forward_iff.mpr (hbefore i hi)) ho ?_
    rw [stays_forward_eq]
    exact decide_eq_false (not_lt.mpr hup)
  noRise h := by
    have hgoes (k : ℕ) (hk : k = 0 ∨ k * step < horizon) : Goes e start step .forward k :=
      goes_forward_iff.mpr (h k hk)
    obtain ⟨first, hfirst, hheading⟩ := heading_of_goes (hgoes 0 (Or.inl rfl))
    exact minutesToCrossing_exhausted hstep hfirst hheading hgoes
  riseFails k hk hnear hbefore cause hcause := by
    obtain ⟨first, hfirst, hheading⟩ := heading_of_goes (goes_forward_iff.mpr (hbefore 0 hk))
    exact minutesToCrossing_failed hstep hfirst hheading (Or.inr hnear)
      (fun i hi => goes_forward_iff.mpr (hbefore i hi)) hcause
  since hstart k hk hbefore hend := by
    obtain ⟨first, hfirst, hup⟩ := hstart
    obtain ⟨o, ho, hlow⟩ := hend
    rw [sub_eq_add_neg] at ho
    refine minutesToCrossing_found hstep hfirst (ofElevation_of_nonneg hup) hk
      (fun i hi => goes_backward_iff.mpr (hbefore i hi)) ho ?_
    rw [stays_backward_eq]
    exact decide_eq_false (not_lt.mpr hlow)
  noSince h := by
    have hgoes (k : ℕ) (hk : k = 0 ∨ k * step < horizon) : Goes e start step .backward k :=
      goes_backward_iff.mpr (h k hk)
    obtain ⟨first, hfirst, hheading⟩ := heading_of_goes (hgoes 0 (Or.inl rfl))
    exact minutesToCrossing_exhausted hstep hfirst hheading hgoes
  sinceFails k hk hnear hbefore cause hcause := by
    obtain ⟨first, hfirst, hheading⟩ := heading_of_goes (goes_backward_iff.mpr (hbefore 0 hk))
    rw [sub_eq_add_neg] at hcause
    exact minutesToCrossing_failed hstep hfirst hheading (Or.inr hnear)
      (fun i hi => goes_backward_iff.mpr (hbefore i hi)) hcause
  looks := count_le hstep
  ahead _ := seen_of_ahead hstep
  behind _ := seen_of_behind hstep

/-- A satellite that climbs a degree a minute through the horizon at minute 7.4, and cannot be observed
from minute 19.5 on. -/
noncomputable def climbing : Ephemeris ℝ ℝ where
  name := "CLIMBING"
  observe t := if t < 19.5 then .ok ⟨0, t - 7.4, 0, 0⟩ else .error (.propagation "decayed")

theorem seen_climbing {P : ℝ → Prop} {t : ℝ} (ht : t < 19.5) (h : P (t - 7.4)) : climbing.Seen P t :=
  ⟨_, if_pos ht, h⟩

/-- Its rise is found ahead from minute 0 and behind from minute 10, each on the grid; it is not found
where it is too far away, and not from where the satellite cannot be observed. -/
theorem crossing_law_climbing :
    (0 : ℝ) < 1 ∧ (minutesToCrossing climbing 0 1440 1).result = .ok (some 8) ∧
      (minutesToCrossing climbing 10 1440 1).result = .ok (some (-3)) ∧
      (minutesToCrossing climbing 0 8 1).result = .ok none ∧
      (minutesToCrossing climbing 30 1440 1).result = .error (.propagation "decayed") := by
  have hbelow (i : ℕ) (hi : i < 8) : climbing.Seen (· < 0) (0 + i * 1) := by
    have hi' : (i : ℝ) ≤ 7 := by exact_mod_cast Nat.lt_succ_iff.mp hi
    exact seen_climbing (by linarith) (by norm_num; linarith)
  have habove (i : ℕ) (hi : i < 3) : climbing.Seen (0 < ·) (10 - i * 1) := by
    have hi' : (i : ℝ) ≤ 2 := by exact_mod_cast Nat.lt_succ_iff.mp hi
    exact seen_climbing (by linarith [Nat.cast_nonneg (α := ℝ) i]) (by norm_num; linarith)
  refine ⟨one_pos, ?_, ?_, ?_, ?_⟩
  · have hfound := (crossing_law climbing 0 1440 one_pos).rise 8 (by norm_num) (by norm_num) hbelow
      (seen_climbing (by norm_num) (by norm_num))
    simpa using hfound
  · have hfound := (crossing_law climbing 10 1440 one_pos).since
      (seen_climbing (by norm_num) (by norm_num)) 3 (Or.inr (by norm_num)) habove
      (seen_climbing (by norm_num) (by norm_num))
    simpa using hfound
  · refine (crossing_law climbing 0 8 one_pos).noRise fun k hk => hbelow k ?_
    rcases hk with rfl | hk
    · norm_num
    · rw [mul_one] at hk
      exact_mod_cast hk
  · exact (crossing_law climbing 30 1440 one_pos).unseen _ (if_neg (by norm_num))

end Visibility

end EarthStation
