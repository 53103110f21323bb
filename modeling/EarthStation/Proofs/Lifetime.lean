import EarthStation.Lifetime
import EarthStation.Proofs.Exact

/-!
# Lifetime — an orbit is followed to the first sample that ends it

* `Lifetime.Ends`, `Lifetime.Fails`: the samples that end an orbit, and the failures that do not.
* `Lifetime.samples`, `Lifetime.Written`: the samples in front of a point, and what a sink makes of them.
* `Lifetime.Reached`, `Lifetime.Reached.follow_eq`: how far an orbit is followed, and what is left then.
* `Lifetime.Closes`, `Lifetime.exists_closes`: how it is not followed any further.
* `Lifetime.lasting_law`: the years that an orbit lasts, what is written on the way, and how both grow
  with the years that it is followed for.

The fuel of the loop is never what stops it (`Lifetime.le_of_goes`).
-/

namespace EarthStation.Lifetime

variable {σ : Type}

/-! ## The samples of an orbit -/

/-- The years after `k` steps. -/
noncomputable def years (step : ℝ) (k : ℕ) : ℝ := k * step / (1440 * 365.25)

theorem yearsAt_eq (step : ℝ) (k : ℕ) : yearsAt step k = years step k := by
  have h : yearsAt step k = k * step / (((1440 : ℕ) : ℝ) * 365.25) := rfl
  rw [h, Nat.cast_ofNat]
  rfl

theorem years_zero (step : ℝ) : years step 0 = 0 := by
  simp [years]

theorem years_le_iff {step : ℝ} (hstep : 0 < step) {x : ℝ} {k : ℕ} :
    x ≤ years step k ↔ x * (1440 * 365.25) / step ≤ k := by
  rw [years, le_div_iff₀ (by norm_num), div_le_iff₀ hstep]

theorem years_mono {step : ℝ} (hstep : 0 < step) : Monotone (years step) := by
  intro j k h
  have hle : (j : ℝ) ≤ k := by exact_mod_cast h
  unfold years
  gcongr

section Orbit

variable (e : Ephemeris ℝ ℝ) (start step : ℝ)

/-- A sample with which the orbit is over. -/
inductive Ends (limits : Limits ℝ) (k : ℕ) : Prop where
  | old (h : limits.maxYears ≤ years step k)
  | low (o : Observation ℝ) (seen : e.observe (start + k * step) = .ok o)
      (h : o.altitudeKm ≤ limits.floorKm)
  /-- It cannot be computed any more. -/
  | decayed (detail : String) (late : 1 ≤ k)
      (unseen : e.observe (start + k * step) = .error (.propagation detail))

/-- A failure to observe that is not taken as the end of an orbit. -/
def Fails (k : ℕ) (cause : PredictionError ℝ) : Prop :=
  e.observe (start + k * step) = .error cause ∧ ∀ detail, cause ≠ .propagation detail

/-- The sample after `k` steps, if the satellite is observed there. -/
noncomputable def sample? (k : ℕ) : Option (Sample ℝ) :=
  (e.observe (start + k * step)).toOption.map fun o => ⟨years step k, o.altitudeKm⟩

/-- The samples in front of the one after `n` steps. -/
noncomputable def samples (n : ℕ) : List (Sample ℝ) := (List.range n).filterMap (sample? e start step)

end Orbit

/-- What a sink has become by taking samples one after the other, none of which it refused. -/
inductive Written (sink : Sink σ ℝ) (state : σ) : List (Sample ℝ) → σ → Prop where
  | start : Written sink state [] state
  | next {taken : List (Sample ℝ)} {s : Sample ℝ} {before now : σ}
      (written : Written sink state taken before) (take : sink.take s before = (.ok (), now)) :
      Written sink state (taken ++ [s]) now

section Samples

variable {e : Ephemeris ℝ ℝ} {start step : ℝ} {sink : Sink σ ℝ} {taken : List (Sample ℝ)}
  {s : Sample ℝ} {state now : σ} {k : ℕ} {o : Observation ℝ}

theorem sample?_of_seen (h : e.observe (start + k * step) = .ok o) :
    sample? e start step k = some ⟨years step k, o.altitudeKm⟩ := by
  rw [sample?, h]
  rfl

theorem samples_succ (h : e.observe (start + k * step) = .ok o) :
    samples e start step (k + 1) = samples e start step k ++ [⟨years step k, o.altitudeKm⟩] := by
  simp [samples, List.range_succ, List.filterMap_append, sample?_of_seen h]

theorem samples_prefix {m n : ℕ} (h : m ≤ n) : samples e start step m <+: samples e start step n := by
  obtain ⟨d, rfl⟩ := Nat.exists_eq_add_of_le h
  unfold samples
  rw [List.range_add, List.filterMap_append]
  exact List.prefix_append _ _

/-- Where the satellite is seen all along, there is a sample for each step. -/
theorem samples_seen {n : ℕ} (h : ∀ k < n, ∃ o, e.observe (start + k * step) = .ok o) :
    (samples e start step n).length = n ∧ ∀ k < n, ∃ o, e.observe (start + k * step) = .ok o ∧
      (samples e start step n)[k]? = some ⟨years step k, o.altitudeKm⟩ := by
  induction n with
  | zero => exact ⟨rfl, fun k hk => absurd hk (Nat.not_lt_zero k)⟩
  | succ n ih =>
    obtain ⟨hfore, last, hlast⟩ := Nat.forall_lt_succ_right.mp h
    obtain ⟨hlength, hplaces⟩ := ih hfore
    rw [samples_succ hlast]
    refine ⟨by rw [List.length_append, hlength, List.length_singleton],
      Nat.forall_lt_succ_right.mpr ⟨fun k hk => ?_, last, hlast, by simp [hlength]⟩⟩
    obtain ⟨o, ho, hplace⟩ := hplaces k hk
    exact ⟨o, ho, by rw [List.getElem?_append_left (hlength.symm ▸ hk), hplace]⟩

theorem written_nil : Written sink state [] now ↔ now = state := by
  constructor
  · intro h
    generalize htaken : ([] : List (Sample ℝ)) = taken at h
    cases h with
    | start => rfl
    | next => simp at htaken
  · rintro rfl
    exact .start

theorem written_concat : Written sink state (taken ++ [s]) now ↔
    ∃ before, Written sink state taken before ∧ sink.take s before = (.ok (), now) := by
  constructor
  · intro h
    generalize htaken : taken ++ [s] = all at h
    cases h with
    | start => simp at htaken
    | next written take =>
      obtain ⟨rfl, hlast⟩ := List.append_inj' htaken rfl
      obtain rfl := List.singleton_inj.mp hlast
      exact ⟨_, written, take⟩
  · rintro ⟨before, hwritten, htake⟩
    exact .next hwritten htake

end Samples

/-! ## One step -/

section Step

variable {e : Ephemeris ℝ ℝ} {start step : ℝ} {limits : Limits ℝ} {sink : Sink σ ℝ}
  {fuel k : ℕ} {y altitude : ℝ} {before now : σ}

theorem follow_of_ended (h : ¬ (y < limits.maxYears ∧ limits.floorKm < altitude)) :
    follow e start step limits sink fuel k y altitude now = ⟨now, .ok y⟩ := by
  cases fuel with
  | zero => rfl
  | succ fuel => rw [follow, if_neg h]

section Goes

variable (hgoes : y < limits.maxYears ∧ limits.floorKm < altitude)
include hgoes

theorem follow_unwritten {cause : IoError}
    (htake : sink.take ⟨y, altitude⟩ before = (.error cause, now)) :
    follow e start step limits sink (fuel + 1) k y altitude before = ⟨now, .error (.write cause)⟩ := by
  rw [follow, if_pos hgoes, htake]

variable (htake : sink.take ⟨y, altitude⟩ before = (.ok (), now))
include htake

theorem follow_seen {o : Observation ℝ} (ho : e.observe (start + (k + 1 : ℕ) * step) = .ok o) :
    follow e start step limits sink (fuel + 1) k y altitude before =
      follow e start step limits sink fuel (k + 1) (years step (k + 1)) o.altitudeKm now := by
  have hobserve : e.observe (Timeline.later start (Visibility.grid step (k + 1))) = .ok o := ho
  rw [follow, if_pos hgoes, htake]
  dsimp only
  rw [hobserve, yearsAt_eq]

theorem follow_decayed {detail : String}
    (h : e.observe (start + (k + 1 : ℕ) * step) = .error (.propagation detail)) :
    follow e start step limits sink (fuel + 1) k y altitude before =
      ⟨now, .ok (years step (k + 1))⟩ := by
  have hobserve : e.observe (Timeline.later start (Visibility.grid step (k + 1))) =
    .error (.propagation detail) := h
  rw [follow, if_pos hgoes, htake]
  dsimp only
  rw [hobserve, yearsAt_eq]

theorem follow_failed {cause : PredictionError ℝ} (h : Fails e start step (k + 1) cause) :
    follow e start step limits sink (fuel + 1) k y altitude before = ⟨now, .error cause⟩ := by
  have hobserve : e.observe (Timeline.later start (Visibility.grid step (k + 1))) = .error cause := h.1
  rw [follow, if_pos hgoes, htake]
  dsimp only
  rw [hobserve]
  cases cause with
  | propagation detail => exact absurd rfl (h.2 detail)
  | _ => rfl

end Goes

end Step

/-! ## How far an orbit has been followed -/

section Orbit

variable (e : Ephemeris ℝ ℝ) (start step : ℝ) (limits : Limits ℝ) (sink : Sink σ ℝ) (state : σ)

/-- The orbit goes on after each of the first `n` samples, and the sink has taken them. -/
inductive Reached : ℕ → σ → Prop where
  | start : Reached 0 state
  | next {n : ℕ} {o : Observation ℝ} {before now : σ} (reached : Reached n before)
      (goes : ¬ Ends e start step limits n) (seen : e.observe (start + n * step) = .ok o)
      (take : sink.take ⟨years step n, o.altitudeKm⟩ before = (.ok (), now)) : Reached (n + 1) now

/-- An orbit is followed to sample `n` and not beyond. -/
inductive Closes (n : ℕ) : Report σ ℝ → Prop where
  | ended {now : σ} (reached : Reached e start step limits sink state n now)
      (ends : Ends e start step limits n) (sound : ∀ cause, ¬ Fails e start step n cause) :
      Closes n ⟨now, .ok (years step n)⟩
  | failed {now : σ} {cause : PredictionError ℝ}
      (reached : Reached e start step limits sink state n now)
      (fails : Fails e start step n cause) : Closes n ⟨now, .error cause⟩
  | unwritten {o : Observation ℝ} {before now : σ} {cause : IoError}
      (reached : Reached e start step limits sink state n before)
      (goes : ¬ Ends e start step limits n) (seen : e.observe (start + n * step) = .ok o)
      (take : sink.take ⟨years step n, o.altitudeKm⟩ before = (.error cause, now)) :
      Closes n ⟨now, .error (.write cause)⟩

end Orbit

section Followed

variable {e : Ephemeris ℝ ℝ} {start step : ℝ} {limits : Limits ℝ} {sink : Sink σ ℝ} {state now : σ}
  {fuel k n : ℕ} {o first : Observation ℝ} {report : Report σ ℝ}

theorem ends_iff_of_seen (h : e.observe (start + k * step) = .ok o) :
    Ends e start step limits k ↔ ¬ (years step k < limits.maxYears ∧ limits.floorKm < o.altitudeKm) := by
  rw [not_and_or, not_lt, not_lt]
  constructor
  · rintro (hold | ⟨o', ho', hlow⟩ | ⟨detail, -, hunseen⟩)
    · exact .inl hold
    · obtain rfl : o' = o := Except.ok.inj (ho'.symm.trans h)
      exact .inr hlow
    · exact absurd (hunseen.symm.trans h) nofun
  · rintro (hold | hlow)
    · exact .old hold
    · exact .low o h hlow

theorem goes_of_seen (ho : e.observe (start + k * step) = .ok o) (h : ¬ Ends e start step limits k) :
    years step k < limits.maxYears ∧ limits.floorKm < o.altitudeKm :=
  not_not.mp (mt (ends_iff_of_seen ho).mpr h)

/-- A sample at which the orbit goes on is observed, unless something fails there. -/
theorem seen_or_fails (hfirst : e.observe start = .ok first) (h : ¬ Ends e start step limits k) :
    (∃ o, e.observe (start + k * step) = .ok o) ∨ ∃ cause, Fails e start step k cause := by
  cases hobs : e.observe (start + k * step) with
  | ok o => exact .inl ⟨o, rfl⟩
  | error cause =>
    refine .inr ⟨cause, hobs, ?_⟩
    rintro detail rfl
    rcases Nat.eq_zero_or_pos k with rfl | hpos
    · rw [Nat.cast_zero, zero_mul, add_zero, hfirst] at hobs
      exact absurd hobs nofun
    · exact h (.decayed detail hpos hobs)

theorem seen_of_sound (hfirst : e.observe start = .ok first)
    (hgoes : ∀ k < n, ¬ Ends e start step limits k)
    (hsound : ∀ k < n, ∀ cause, ¬ Fails e start step k cause) :
    ∀ k < n, ∃ o, e.observe (start + k * step) = .ok o :=
  fun k hk => (seen_or_fails hfirst (hgoes k hk)).resolve_right (not_exists.mpr (hsound k hk))

namespace Reached

theorem each (h : Reached e start step limits sink state n now) :
    ∀ k < n, ¬ Ends e start step limits k ∧ ∃ o, e.observe (start + k * step) = .ok o := by
  induction h with
  | start => exact fun k hk => absurd hk (Nat.not_lt_zero k)
  | next _ goes seen _ ih => exact Nat.forall_lt_succ_right.mpr ⟨ih, goes, _, seen⟩

theorem goes (h : Reached e start step limits sink state n now) :
    ∀ k < n, ¬ Ends e start step limits k :=
  fun k hk => (h.each k hk).1

theorem written (h : Reached e start step limits sink state n now) :
    Written sink state (samples e start step n) now := by
  induction h with
  | start => exact .start
  | next _ _ seen take ih =>
    rw [samples_succ seen]
    exact .next ih take

theorem intro (hgoes : ∀ k < n, ¬ Ends e start step limits k)
    (hseen : ∀ k < n, ∃ o, e.observe (start + k * step) = .ok o)
    (hwritten : Written sink state (samples e start step n) now) :
    Reached e start step limits sink state n now := by
  induction n generalizing now with
  | zero =>
    obtain rfl := written_nil.mp hwritten
    exact .start
  | succ n ih =>
    obtain ⟨hfore, hgo⟩ := Nat.forall_lt_succ_right.mp hgoes
    obtain ⟨hshown, o, ho⟩ := Nat.forall_lt_succ_right.mp hseen
    rw [samples_succ ho] at hwritten
    obtain ⟨before, hbefore, htake⟩ := written_concat.mp hwritten
    exact .next (ih hfore hshown hbefore) hgo ho htake

variable (hfirst : e.observe start = .ok first)
include hfirst

/-- What is left to follow from the last sample, whatever fuel is left for it. -/
theorem follow_eq (h : Reached e start step limits sink state n now)
    (ho : e.observe (start + n * step) = .ok o) (fuel : ℕ) :
    follow e start step limits sink (fuel + n) 0 0 first.altitudeKm state =
      follow e start step limits sink fuel n (years step n) o.altitudeKm now := by
  induction h generalizing o fuel with
  | start =>
    rw [Nat.cast_zero, zero_mul, add_zero, hfirst] at ho
    rw [years_zero, Except.ok.inj ho, Nat.add_zero]
  | @next n last before now _ hgo hlast htake ih =>
    rw [← follow_seen (goes_of_seen hlast hgo) htake ho, ← ih hlast (fuel + 1),
      Nat.add_right_comm fuel 1 n]
    rfl

/-- A sample that is not observed comes after one that is. -/
theorem follow_unseen {cause : PredictionError ℝ} (h : Reached e start step limits sink state n now)
    (hn : n ≤ fuel) (hunseen : e.observe (start + n * step) = .error cause) :
    ∃ m altitude before spare, n = m + 1 ∧
      (years step m < limits.maxYears ∧ limits.floorKm < altitude) ∧
      sink.take ⟨years step m, altitude⟩ before = (.ok (), now) ∧
      follow e start step limits sink fuel 0 0 first.altitudeKm state =
        follow e start step limits sink (spare + 1) m (years step m) altitude before := by
  cases h with
  | start =>
    rw [Nat.cast_zero, zero_mul, add_zero, hfirst] at hunseen
    exact absurd hunseen nofun
  | @next m last before _ hreached hgo hlast htake =>
    obtain ⟨spare, rfl⟩ := Nat.exists_eq_add_of_le' hn
    refine ⟨m, last.altitudeKm, before, spare, rfl, goes_of_seen hlast hgo, htake, ?_⟩
    rw [← hreached.follow_eq hfirst hlast (spare + 1), Nat.add_right_comm spare 1 m]
    rfl

end Reached

/-- The loop reports what closes the orbit, if its fuel lasts for as long as the orbit goes on. -/
theorem Closes.follow_eq (hfirst : e.observe start = .ok first)
    (hfuel : ∀ j, (∀ k < j, ¬ Ends e start step limits k) → j ≤ fuel)
    (h : Closes e start step limits sink state n report) :
    follow e start step limits sink fuel 0 0 first.altitudeKm state = report := by
  cases h with
  | @ended now reached ends sound =>
    have hn := hfuel n reached.goes
    cases hobs : e.observe (start + n * step) with
    | ok o =>
      obtain ⟨spare, rfl⟩ := Nat.exists_eq_add_of_le' hn
      rw [reached.follow_eq hfirst hobs spare, follow_of_ended ((ends_iff_of_seen hobs).mp ends)]
    | error cause =>
      obtain ⟨detail, rfl⟩ : ∃ detail, cause = .propagation detail := by
        by_contra hother
        exact sound cause ⟨hobs, fun detail h => hother ⟨detail, h⟩⟩
      obtain ⟨m, altitude, before, spare, rfl, hgoes, htake, hfollow⟩ :=
        reached.follow_unseen hfirst hn hobs
      rw [hfollow, follow_decayed hgoes htake hobs]
  | failed reached fails =>
    obtain ⟨m, altitude, before, spare, rfl, hgoes, htake, hfollow⟩ :=
      reached.follow_unseen hfirst (hfuel n reached.goes) fails.1
    rw [hfollow, follow_failed hgoes htake fails]
  | unwritten reached goes seen take =>
    have hn : n + 1 ≤ fuel := hfuel (n + 1) (Nat.forall_lt_succ_right.mpr ⟨reached.goes, goes⟩)
    obtain ⟨spare, rfl⟩ := Nat.exists_eq_add_of_le' hn
    have hfollow := reached.follow_eq hfirst seen (spare + 1)
    rw [Nat.add_right_comm spare 1 n] at hfollow
    exact hfollow.trans (follow_unwritten (goes_of_seen seen goes) take)

end Followed

/-! ## Every orbit closes -/

section Bound

variable {e : Ephemeris ℝ ℝ} {start step : ℝ} {limits : Limits ℝ} {n : ℕ}

/-- The orbit goes on for no longer than it takes to reach the years it is followed for. -/
theorem le_of_goes (hstep : 0 < step) (h : ∀ k < n, ¬ Ends e start step limits k) :
    n ≤ ⌈limits.maxYears * (1440 * 365.25) / step⌉₊ := by
  cases n with
  | zero => exact Nat.zero_le _
  | succ m =>
    have hyoung : ¬ limits.maxYears ≤ years step m := fun hold => h m (Nat.lt_succ_self m) (.old hold)
    rw [years_le_iff hstep, not_le] at hyoung
    exact Nat.lt_ceil.mpr hyoung

theorem cast_le_of_goes (hstep : 0 < step) (h : ∀ k < n, ¬ Ends e start step limits k) :
    (n : ℝ) ≤ max limits.maxYears 0 * (1440 * 365.25) / step + 1 := by
  have hmax : limits.maxYears * (1440 * 365.25) / step ≤
      max limits.maxYears 0 * (1440 * 365.25) / step := by
    gcongr
    exact le_max_left _ _
  have hnonneg : 0 ≤ max limits.maxYears 0 * (1440 * 365.25) / step := by positivity
  calc (n : ℝ) ≤ ⌈max limits.maxYears 0 * (1440 * 365.25) / step⌉₊ := by
        exact_mod_cast (le_of_goes hstep h).trans (Nat.ceil_mono hmax)
    _ ≤ max limits.maxYears 0 * (1440 * 365.25) / step + 1 := (Nat.ceil_lt_add_one hnonneg).le

end Bound

section Estimate

variable {e : Ephemeris ℝ ℝ} {start step : ℝ} {limits : Limits ℝ} {sink : Sink σ ℝ} {state now : σ}
  {n : ℕ} {y : ℝ} {first : Observation ℝ} {report : Report σ ℝ}

theorem Reached.next_or_closes (hfirst : e.observe start = .ok first)
    (h : Reached e start step limits sink state n now) :
    (∃ after, Reached e start step limits sink state (n + 1) after) ∨
      ∃ report, Closes e start step limits sink state n report := by
  by_cases hfails : ∃ cause, Fails e start step n cause
  · exact .inr ⟨_, .failed h hfails.choose_spec⟩
  · by_cases hends : Ends e start step limits n
    · exact .inr ⟨_, .ended h hends (not_exists.mp hfails)⟩
    · obtain ⟨o, ho⟩ := (seen_or_fails hfirst hends).resolve_right hfails
      cases htake : sink.take ⟨years step n, o.altitudeKm⟩ now with
      | mk answer after =>
        cases answer with
        | ok => exact .inl ⟨after, .next h hends ho htake⟩
        | error cause => exact .inr ⟨_, .unwritten h hends ho htake⟩

variable (limits sink state) in
theorem exists_closes (hstep : 0 < step) (hfirst : e.observe start = .ok first) :
    ∃ n report, Closes e start step limits sink state n report := by
  have hrun : ∀ m, (∃ now, Reached e start step limits sink state m now) ∨
      ∃ n report, Closes e start step limits sink state n report := by
    intro m
    induction m with
    | zero => exact .inl ⟨state, .start⟩
    | succ m ih =>
      rcases ih with ⟨now, hreached⟩ | hcloses
      · exact (hreached.next_or_closes hfirst).imp_right fun hcloses => ⟨m, hcloses⟩
      · exact .inr hcloses
  refine (hrun (⌈limits.maxYears * (1440 * 365.25) / step⌉₊ + 1)).resolve_left ?_
  rintro ⟨now, hreached⟩
  exact absurd (le_of_goes hstep hreached.goes) (Nat.not_succ_le_self _)

theorem estimate_eq (hstep : 0 < step) (hfirst : e.observe start = .ok first) :
    estimate e start step limits sink state =
      follow e start step limits sink (⌈limits.maxYears * (1440 * 365.25) / step⌉₊ + 2) 0 0
        first.altitudeKm state := by
  have hminutes : (minutesPerYear : ℝ) = 1440 * 365.25 := by
    have h : (minutesPerYear : ℝ) = ((1440 : ℕ) : ℝ) * 365.25 := rfl
    rw [h, Nat.cast_ofNat]
  have h : estimate e start step limits sink state =
      follow e start step limits sink (Visibility.stepBound (limits.maxYears * minutesPerYear) step)
        0 ((0 : ℕ) : ℝ) first.altitudeKm state := by
    rw [estimate, if_pos (by simpa [isStep_eq] using hstep), hfirst]
    rfl
  rw [h, Visibility.stepBound_eq, hminutes, Nat.cast_zero]

theorem estimate_of_unseen (hstep : 0 < step) {cause : PredictionError ℝ}
    (h : e.observe start = .error cause) :
    estimate e start step limits sink state = ⟨state, .error cause⟩ := by
  rw [estimate, if_pos (by simpa [isStep_eq] using hstep), h]

theorem Closes.estimate_eq (hstep : 0 < step) (hfirst : e.observe start = .ok first)
    (h : Closes e start step limits sink state n report) :
    estimate e start step limits sink state = report := by
  rw [Lifetime.estimate_eq hstep hfirst]
  exact h.follow_eq hfirst fun j hj => (le_of_goes hstep hj).trans (Nat.le_add_right _ 2)

end Estimate

/-! ## How long an orbit lasts -/

section Lasting

variable (e : Ephemeris ℝ ℝ) (start step : ℝ) (limits : Limits ℝ) (sink : Sink σ ℝ) (state : σ)

/-- An orbit that is seen at its start lasts for `K` steps, and how it is followed until then. -/
structure LastsUntil (K : ℕ) : Prop where
  least : IsLeast {k | Ends e start step limits k} K
  /-- The years of its end are reported if all goes well. -/
  lasted : (∀ k ≤ K, ∀ cause, ¬ Fails e start step k cause) →
    ∀ {now : σ}, Written sink state (samples e start step K) now →
      estimate e start step limits sink state = ⟨now, .ok (years step K)⟩
  /-- What is written by then is a sample for each step in front of the end. -/
  sampled : (∀ k < K, ∀ cause, ¬ Fails e start step k cause) →
    (samples e start step K).length = K ∧ ∀ k < K, ∃ o, e.observe (start + k * step) = .ok o ∧
      (samples e start step K)[k]? = some ⟨years step k, o.altitudeKm⟩
  /-- The first failure to observe is reported as it is. -/
  failed : ∀ {j : ℕ} {cause : PredictionError ℝ} {now : σ}, j ≤ K → Fails e start step j cause →
    (∀ k < j, ∀ other, ¬ Fails e start step k other) →
      Written sink state (samples e start step j) now →
        estimate e start step limits sink state = ⟨now, .error cause⟩
  /-- The first sample that is refused is reported as it is. -/
  unwritten : ∀ {i : ℕ} {s : Sample ℝ} {cause : IoError} {before now : σ}, i < K →
    (∀ k ≤ i, ∀ other, ¬ Fails e start step k other) →
      Written sink state (samples e start step i) before → sample? e start step i = some s →
        sink.take s before = (.error cause, now) →
          estimate e start step limits sink state = ⟨now, .error (.write cause)⟩
  /-- `K` rounds of the loop are enough for it, -/
  loop : ∀ {first : Observation ℝ}, e.observe start = .ok first → ∀ {fuel : ℕ}, K ≤ fuel →
    follow e start step limits sink fuel 0 0 first.altitudeKm state =
      estimate e start step limits sink state
  /-- and they are not many. -/
  rounds : (K : ℝ) ≤ max limits.maxYears 0 * (1440 * 365.25) / step + 1

/-- A report that the orbit has lasted for `n` steps, all of them written. -/
structure Lasted (n : ℕ) (report : Report σ ℝ) : Prop where
  years : report.years = .ok (years step n)
  written : Written sink state (samples e start step n) report.sink

end Lasting

section Lasting

variable {e : Ephemeris ℝ ℝ} {start step : ℝ} {limits : Limits ℝ} {sink : Sink σ ℝ} {state : σ}
  {first : Observation ℝ}

section Until

variable {K n : ℕ} (hK : IsLeast {k | Ends e start step limits k} K)
include hK

theorem goes_of_isLeast (hn : n ≤ K) : ∀ k < n, ¬ Ends e start step limits k :=
  fun _ hk hends => absurd (hK.2 hends) (not_le.mpr (hk.trans_le hn))

/-- What is in front of the end is reached if nothing fails there and the sink takes it. -/
theorem reached_of_isLeast (hfirst : e.observe start = .ok first) (hn : n ≤ K)
    (hsound : ∀ k < n, ∀ cause, ¬ Fails e start step k cause) {now : σ}
    (hwritten : Written sink state (samples e start step n) now) :
    Reached e start step limits sink state n now :=
  have hgoes := goes_of_isLeast hK hn
  .intro hgoes (seen_of_sound hfirst hgoes hsound) hwritten

theorem lastsUntil (hstep : 0 < step) (hfirst : e.observe start = .ok first) :
    LastsUntil e start step limits sink state K where
  least := hK
  lasted hsound _ hwritten :=
    have hreached := reached_of_isLeast hK hfirst le_rfl (fun k hk => hsound k hk.le) hwritten
    (Closes.ended hreached hK.1 (hsound K le_rfl)).estimate_eq hstep hfirst
  sampled hsound := samples_seen (seen_of_sound hfirst (goes_of_isLeast hK le_rfl) hsound)
  failed hj hfails hsound hwritten :=
    have hreached := reached_of_isLeast hK hfirst hj hsound hwritten
    (Closes.failed hreached hfails).estimate_eq hstep hfirst
  unwritten := by
    intro i s cause before now hi hsound hwritten hsample htake
    have hgo := goes_of_isLeast hK le_rfl i hi
    obtain ⟨o, ho⟩ := (seen_or_fails hfirst hgo).resolve_right (not_exists.mpr (hsound i le_rfl))
    obtain rfl := Option.some.inj ((sample?_of_seen ho).symm.trans hsample)
    have hreached :=
      reached_of_isLeast hK hfirst hi.le (fun k hk => hsound k hk.le) hwritten
    exact (Closes.unwritten hreached hgo ho htake).estimate_eq hstep hfirst
  loop := by
    intro first hfirst fuel hfuel
    obtain ⟨n, report, hcloses⟩ := exists_closes limits sink state hstep hfirst
    rw [hcloses.estimate_eq hstep hfirst]
    refine hcloses.follow_eq hfirst fun j hj => le_trans ?_ hfuel
    exact not_lt.mp fun hlt => hj K hlt hK.1
  rounds := cast_le_of_goes hstep (goes_of_isLeast hK le_rfl)

end Until

variable (e start limits) in
/-- An orbit ends. -/
theorem exists_least (hstep : 0 < step) : ∃ K, IsLeast {k | Ends e start step limits k} K := by
  classical
  have hends : ∃ k, Ends e start step limits k := by
    by_contra hnone
    have h := le_of_goes (n := ⌈limits.maxYears * (1440 * 365.25) / step⌉₊ + 1) hstep
      fun k _ => not_exists.mp hnone k
    exact absurd h (Nat.not_succ_le_self _)
  exact ⟨Nat.find hends, Nat.find_spec hends, fun k hk => Nat.find_min' hends hk⟩

/-- A success is the report of the orbit's end. -/
theorem exists_lasted (hstep : 0 < step) {y : ℝ}
    (h : (estimate e start step limits sink state).years = .ok y) :
    ∃ n, IsLeast {k | Ends e start step limits k} n ∧ y = years step n ∧
      Lasted e start step sink state n (estimate e start step limits sink state) := by
  cases hfirst : e.observe start with
  | error cause =>
    rw [estimate_of_unseen hstep hfirst] at h
    exact absurd h nofun
  | ok first =>
    obtain ⟨n, report, hcloses⟩ := exists_closes limits sink state hstep hfirst
    rw [hcloses.estimate_eq hstep hfirst] at h ⊢
    cases hcloses with
    | ended reached ends sound =>
      refine ⟨n, ⟨ends, fun k hk => not_lt.mp fun hlt => reached.goes k hlt hk⟩, ?_, rfl, reached.written⟩
      exact (Except.ok.inj h).symm
    | failed | unwritten => exact absurd h nofun

/-- Followed for longer, an orbit ends no earlier. -/
theorem Ends.of_longer {more : ℝ} (hmore : limits.maxYears ≤ more) {k : ℕ}
    (h : Ends e start step { limits with maxYears := more } k) : Ends e start step limits k := by
  cases h with
  | old hold => exact .old (hmore.trans hold)
  | low o seen hlow => exact .low o seen hlow
  | decayed detail late unseen => exact .decayed detail late unseen

/-- An orbit lasts until the first sample that ends it.  Followed for more years it lasts no less, and
what is written for it begins with what was written before. -/
theorem lasting_law (hstep : 0 < step) :
    (∀ cause, e.observe start = .error cause →
      estimate e start step limits sink state = ⟨state, .error cause⟩) ∧
    (∀ first, e.observe start = .ok first → ∃ K, LastsUntil e start step limits sink state K) ∧
    ∀ more, limits.maxYears ≤ more → ∀ y y',
      (estimate e start step limits sink state).years = .ok y →
      (estimate e start step { limits with maxYears := more } sink state).years = .ok y' →
        y ≤ y' ∧ ∃ n n', samples e start step n <+: samples e start step n' ∧
          Lasted e start step sink state n (estimate e start step limits sink state) ∧
          Lasted e start step sink state n'
            (estimate e start step { limits with maxYears := more } sink state) := by
  refine ⟨fun cause => estimate_of_unseen hstep, fun first hfirst => ?_, fun more hmore y y' hy hy' => ?_⟩
  · obtain ⟨K, hK⟩ := exists_least e start limits hstep
    exact ⟨K, lastsUntil hK hstep hfirst⟩
  · obtain ⟨n, hn, rfl, hlasted⟩ := exists_lasted hstep hy
    obtain ⟨n', hn', rfl, hlasted'⟩ := exists_lasted hstep hy'
    have hle : n ≤ n' := hn.2 (hn'.1.of_longer hmore)
    exact ⟨years_mono hstep hle, n, n', samples_prefix hle, hlasted, hlasted'⟩

end Lasting

/-! ## A sinking orbit -/

/-- A sink that keeps its samples refuses none. -/
theorem written_record (taken : List (Sample ℝ)) :
    Written Sink.record #[] taken taken.toArray := by
  induction taken using List.reverseRecOn with
  | nil => exact .start
  | append_singleton taken s ih =>
    refine .next ih ?_
    simp [Sink.record]

/-- Sinks by ten kilometres a day, and cannot be computed after the fifteenth. -/
noncomputable def sinking : Ephemeris ℝ ℝ where
  name := "sinking"
  observe minutes :=
    if minutes ≤ 15 * 1440 then .ok ⟨0, 0, 400 - minutes / 144, 0⟩
    else .error (.propagation "decayed")

theorem sinking_seen {k : ℕ} (hk : k ≤ 15) :
    sinking.observe (0 + k * 1440) = .ok ⟨0, 0, 400 - 10 * k, 0⟩ := by
  have hreal : (k : ℝ) ≤ 15 := by exact_mod_cast hk
  have hsunk : (0 + k * 1440) / 144 = 10 * (k : ℝ) := by ring
  have hdays : 0 + k * 1440 ≤ (15 * 1440 : ℝ) := by linarith
  simp only [sinking, if_pos hdays, hsunk]

theorem sinking_ends : IsLeast {k | Ends sinking 0 1440 ⟨5, 100⟩ k} 16 := by
  constructor
  · refine .decayed "decayed" (by norm_num) ?_
    exact if_neg (by norm_num)
  · intro k hends
    by_contra hlt
    have hk : k ≤ 15 := by omega
    have hreal : (k : ℝ) ≤ 15 := by exact_mod_cast hk
    refine (ends_iff_of_seen (sinking_seen hk)).mp hends ⟨?_, ?_⟩
    · rw [years, div_lt_iff₀ (by norm_num)]
      linarith
    · linarith

theorem sinking_sound (k : ℕ) (cause : PredictionError ℝ) : ¬ Fails sinking 0 1440 k cause := by
  rintro ⟨hunseen, hother⟩
  simp only [sinking] at hunseen
  split at hunseen
  · exact absurd hunseen nofun
  · exact hother "decayed" (Except.error.inj hunseen).symm

theorem lasting_law_sinking :
    estimate sinking 0 1440 ⟨5, 100⟩ Sink.record #[] =
        ⟨(samples sinking 0 1440 16).toArray, .ok (years 1440 16)⟩ ∧
      (samples sinking 0 1440 16).length = 16 := by
  have hstart : sinking.observe 0 = .ok ⟨0, 0, 400, 0⟩ := by
    simpa using sinking_seen (Nat.zero_le 15)
  obtain ⟨K, hK⟩ : ∃ K, LastsUntil sinking 0 1440 ⟨5, 100⟩ Sink.record #[] K :=
    (lasting_law (by norm_num)).2.1 _ hstart
  obtain rfl : K = 16 := hK.least.unique sinking_ends
  exact ⟨hK.lasted (fun k _ => sinking_sound k) (written_record _),
    (hK.sampled fun k _ => sinking_sound k).1⟩

end EarthStation.Lifetime
