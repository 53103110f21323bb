import EarthStation.Visibility

/-!
# Seen — a rise that was found has been observed

* `LawfulGrid`: scalars in which no steps back are not a way forward.
* `refinedMinutesToCrossing_origin`: a refined answer is the answer of one search on one grid.
* `refinedMinutesToCrossing_seen`: the instant of a positive answer was observed by the search, so
  that observing it once more cannot fail.
-/

namespace EarthStation.Visibility

variable {τ α : Type} [Scalar α] [Timeline τ α]

/-- Zero steps back are not ahead of the start, whatever the step. -/
class LawfulGrid (α : Type) [Scalar α] : Prop where
  not_pos_zero_back : ∀ step : α, ¬ 0 < Heading.backward.minutes (grid step 0)

/-- Zero times a double is a zero or undefined, and the same holds of its negation; neither is above
zero. -/
instance : LawfulGrid Float where
  not_pos_zero_back step := by
    intro h
    have hz : (Scalar.natural 0 : Float).toModel.unpack = .zero .positive := rfl
    have hlt : Float.lt (Scalar.natural 0) (-(Scalar.natural 0 * step)) = true := h
    unfold Float.lt at hlt
    rw [decide_eq_true_iff] at hlt
    change Float.Model.UnpackedFloat.lt (Scalar.natural 0 : Float).toModel.unpack
      (Float.Model.pack (Float.Model.pack (Float.Model.UnpackedFloat.mul _
        (Scalar.natural 0 : Float).toModel.unpack step.toModel.unpack)).unpack.neg).unpack = true
      at hlt
    rw [hz] at hlt
    cases hs : step.toModel.unpack with
    | notANumber => rw [hs] at hlt; revert hlt; decide
    | infinity s => rw [hs] at hlt; revert hlt; cases s <;> decide
    | zero s => rw [hs] at hlt; revert hlt; cases s <;> decide
    | finite s m e hm =>
      rw [hs] at hlt
      revert hlt
      cases s <;> dsimp only [Float.Model.UnpackedFloat.mul] <;> decide

/-! ## One grid -/

/-- A walk ends where it stands or at an instant that it has looked at. -/
theorem walk_seen {e : Ephemeris τ α} {start : τ} {horizon step m : α} {heading : Heading} :
    ∀ {fuel k : Nat} {elevation : α},
      (walk e start horizon step heading fuel k elevation).result = .ok (some m) →
        (heading.stays elevation = false ∧ m = heading.minutes (grid step k)) ∨
          ∃ o, e.observe (Timeline.later start m) = .ok o
  | 0, _, _, h => by simp [walk] at h
  | fuel + 1, k, elevation, h => by
    rw [walk] at h
    split at h
    · split at h
      · simp at h
      · obtain ⟨o, ho, h⟩ := Looks.result_bind_eq_ok.mp h
        rcases walk_seen h with ⟨-, rfl⟩ | hs
        · exact Or.inr ⟨o, ho⟩
        · exact Or.inr hs
    · rename_i hstay
      simp only [Looks.result_pure, Except.ok.injEq, Option.some.injEq] at h
      exact Or.inl ⟨by simpa using hstay, h.symm⟩

/-- A walk that starts forward starts below the horizon, where it goes on. -/
theorem stays_forward {elevation : α} (h : Heading.ofElevation elevation = .forward) :
    Heading.forward.stays elevation = true := by
  unfold Heading.ofElevation at h
  split at h
  · simpa [Heading.stays] using ‹elevation < 0›
  · simp at h

theorem minutesToCrossing_seen [LawfulGrid α] {e : Ephemeris τ α} {start : τ} {horizon step m : α}
    (h : (minutesToCrossing e start horizon step).result = .ok (some m)) (hm : 0 < m) :
    ∃ o, e.observe (Timeline.later start m) = .ok o := by
  unfold minutesToCrossing at h
  split at h
  · obtain ⟨first, -, h⟩ := Looks.result_bind_eq_ok.mp h
    rcases walk_seen h with ⟨hstay, rfl⟩ | hs
    · cases hd : Heading.ofElevation first.elevationDeg with
      | forward => simp [hd, stays_forward hd] at hstay
      | backward => rw [hd] at hm; exact absurd hm (LawfulGrid.not_pos_zero_back step)
    · exact hs
  · simp at h

/-! ## Finer grids -/

/-- A round of refinement keeps the estimate or replaces it by the answer of a search. -/
theorem refine_origin {e : Ephemeris τ α} {start : τ} {horizon : α} {state state' : Option α × α}
    {round : α × α} (h : (refine e start horizon state round).result = .ok state') :
    state' = state ∨ (minutesToCrossing e start horizon round.2).result = .ok state'.1 := by
  unfold refine at h
  split at h
  · split at h
    · obtain ⟨estimate, he, h⟩ := Looks.result_bind_eq_ok.mp h
      simp only [Looks.result_pure, Except.ok.injEq] at h
      exact Or.inr (by rw [he, ← h])
    · simp only [Looks.result_pure, Except.ok.injEq] at h
      exact Or.inl h.symm
  · simp only [Looks.result_pure, Except.ok.injEq] at h
    exact Or.inl h.symm

theorem foldlM_refine_origin {e : Ephemeris τ α} {start : τ} {horizon : α}
    {rounds : List (α × α)} {state state' : Option α × α}
    (h : (rounds.foldlM (refine e start horizon) state).result = .ok state') :
    state' = state ∨
      ∃ round ∈ rounds, (minutesToCrossing e start horizon round.2).result = .ok state'.1 := by
  induction rounds generalizing state with
  | nil =>
    simp only [List.foldlM_nil, Looks.result_pure, Except.ok.injEq] at h
    exact Or.inl h.symm
  | cons round rounds ih =>
    rw [List.foldlM_cons] at h
    obtain ⟨next, hn, h⟩ := Looks.result_bind_eq_ok.mp h
    rcases ih h with rfl | ⟨later, hl, hr⟩
    · rcases refine_origin hn with hs | hs
      · exact Or.inl hs
      · exact Or.inr ⟨round, List.mem_cons_self, hs⟩
    · exact Or.inr ⟨later, List.mem_cons_of_mem _ hl, hr⟩

/-- **A refined answer is the answer of one search**, on the first grid or on one of the finer ones. -/
theorem refinedMinutesToCrossing_origin {e : Ephemeris τ α} {start : τ} {horizon step : α}
    {answer : Option α}
    (h : (refinedMinutesToCrossing e start horizon step).result = .ok answer) :
    ∃ grid, (minutesToCrossing e start horizon grid).result = .ok answer := by
  unfold refinedMinutesToCrossing at h
  obtain ⟨estimate, he, h⟩ := Looks.result_bind_eq_ok.mp h
  obtain ⟨state, hs, h⟩ := Looks.result_bind_eq_ok.mp h
  simp only [Looks.result_pure, Except.ok.injEq] at h
  subst h
  rcases foldlM_refine_origin hs with rfl | ⟨round, -, hr⟩
  · exact ⟨step, he⟩
  · exact ⟨round.2, hr⟩

/-- **A rise ahead has been seen**: the search has observed the instant that it answers with. -/
theorem refinedMinutesToCrossing_seen [LawfulGrid α] {e : Ephemeris τ α} {start : τ}
    {horizon step m : α}
    (h : (refinedMinutesToCrossing e start horizon step).result = .ok (some m)) (hm : 0 < m) :
    ∃ o, e.observe (Timeline.later start m) = .ok o := by
  obtain ⟨grid, hg⟩ := refinedMinutesToCrossing_origin h
  exact minutesToCrossing_seen hg hm

end EarthStation.Visibility
