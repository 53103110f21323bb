import EarthStation.Proofs.Rotator.Tenths
import Mathlib.Algebra.Group.ModEq

/-!
# Unwrapping — the nearest azimuth for a direction, in exact degrees

* `Tracking.mem_turns_iff`: the candidates are all azimuths of the range for a direction, whatever the
  number of turns.
* `Tracking.Preferred`, `Tracking.nearest_spec`: of candidates in order, the first of the nearest ones is
  taken.
* `Tracking.Unwraps`, `Tracking.unwraps_unwrapAzimuth`: the best azimuth for a direction, which
  unwrapping finds.
* `Tracking.unwrapping_law`: unwrapping is the best choice, and following again changes nothing.
-/

namespace EarthStation.Tracking

open AddCommGroup
open Rotator

/-! ## The candidates -/

theorem wrap_eq (azimuth : ℝ) : Scalar.wrap azimuth 360 = azimuth - 360 * ⌊azimuth / 360⌋ := by
  have h : Scalar.wrap azimuth 360 = azimuth - |(360 : ℝ)| * ⌊azimuth / |(360 : ℝ)|⌋ := rfl
  rwa [abs_of_pos (by norm_num)] at h

theorem wrap_mem (azimuth : ℝ) : Scalar.wrap azimuth 360 ∈ Set.Ico 0 360 := by
  have hlow := Int.floor_le (azimuth / 360)
  have hhigh := Int.lt_floor_add_one (azimuth / 360)
  rw [wrap_eq]
  constructor <;> linarith

theorem wrap_modEq (azimuth : ℝ) : Scalar.wrap azimuth 360 ≡ azimuth [PMOD 360] := by
  rw [wrap_eq, modEq_iff_eq_add_zsmul]
  exact ⟨⌊azimuth / 360⌋, by rw [zsmul_eq_mul]; ring⟩

theorem turns_eq (base : ℝ) : turns base =
    [base - 360, base, base + 360].filter fun a => Scalar.within a azimuthMin azimuthMax := by
  have h : turns base = [base - ((360 : ℕ) : ℝ), base, base + ((360 : ℕ) : ℝ)].filter
    fun a => Scalar.within a azimuthMin azimuthMax := rfl
  rwa [Nat.cast_ofNat] at h

theorem pairwise_turns (base : ℝ) : (turns base).Pairwise (· < ·) := by
  rw [turns_eq]
  refine List.Pairwise.filter _ ?_
  rw [List.pairwise_cons, List.pairwise_pair]
  simp only [List.forall_mem_cons, List.not_mem_nil, false_imp_iff, implies_true, and_true]
  exact ⟨⟨by linarith, by linarith⟩, by linarith⟩

/-- A turn back, none or a turn on: no other number of turns leads from `[0, 360)` into the range. -/
theorem mem_near_iff {base b : ℝ} (hbase : base ∈ Set.Ico 0 360) (hb : b ∈ Set.Icc (-179) 539) :
    b ∈ [base - 360, base, base + 360] ↔ base ≡ b [PMOD 360] := by
  simp only [List.mem_cons, List.not_mem_nil, or_false, modEq_iff_eq_add_zsmul, zsmul_eq_mul]
  constructor
  · rintro (rfl | rfl | rfl)
    · exact ⟨-1, by push_cast; ring⟩
    · exact ⟨0, by push_cast; ring⟩
    · exact ⟨1, by push_cast; ring⟩
  · rintro ⟨z, rfl⟩
    obtain ⟨hlow, hhigh⟩ := hb
    have hback : -2 < z := by
      have : (-2 : ℝ) < z := by linarith [hbase.2]
      exact_mod_cast this
    have hon : z < 2 := by
      have : (z : ℝ) < 2 := by linarith [hbase.1]
      exact_mod_cast this
    obtain rfl | rfl | rfl : z = -1 ∨ z = 0 ∨ z = 1 := by omega
    · exact Or.inl (by push_cast; ring)
    · exact Or.inr (Or.inl (by push_cast; ring))
    · exact Or.inr (Or.inr (by push_cast; ring))

/-- **The candidates are all azimuths of the range for a direction**, whatever the number of turns. -/
theorem mem_turns_iff {azimuth b : ℝ} :
    b ∈ turns (Scalar.wrap azimuth 360) ↔ b ≡ azimuth [PMOD 360] ∧ b ∈ Set.Icc (-179) 539 := by
  have hbase := wrap_modEq azimuth
  rw [turns_eq, List.mem_filter, within_iff_mem, azimuthMin_eq, azimuthMax_eq]
  refine and_congr_left fun hb => ?_
  rw [mem_near_iff (wrap_mem azimuth) hb]
  exact ⟨fun h => h.symm.trans hbase, fun h => hbase.trans h.symm⟩

/-! ## The choice -/

/-- Of two azimuths the first is nearer to the reference, or as near and not larger. -/
def Preferred (reference a b : ℝ) : Prop :=
  |a - reference| < |b - reference| ∨ |a - reference| = |b - reference| ∧ a ≤ b

theorem Preferred.refl (reference a : ℝ) : Preferred reference a a := Or.inr ⟨rfl, le_rfl⟩

theorem Preferred.trans {reference a b c : ℝ} (hab : Preferred reference a b)
    (hbc : Preferred reference b c) : Preferred reference a c := by
  rcases hab with hab | ⟨hab, hle⟩
  · rcases hbc with hbc | ⟨hbc, -⟩
    · exact Or.inl (hab.trans hbc)
    · exact Or.inl (hab.trans_eq hbc)
  · rcases hbc with hbc | ⟨hbc, hle'⟩
    · exact Or.inl (hab.trans_lt hbc)
    · exact Or.inr ⟨hab.trans hbc, hle.trans hle'⟩

theorem nearest_cons (reference best a : ℝ) (rest : List ℝ) :
    nearest reference best (a :: rest) =
      if |a - reference| < |best - reference| then nearest reference a rest
      else nearest reference best rest := by
  rw [nearest, scalarAbs_eq, scalarAbs_eq]

/-- **Of candidates in order, the first of the nearest ones is taken.** -/
theorem nearest_spec {reference best : ℝ} {candidates : List ℝ}
    (hsorted : (best :: candidates).Pairwise (· < ·)) :
    ∀ b ∈ best :: candidates, Preferred reference (nearest reference best candidates) b := by
  induction candidates generalizing best with
  | nil =>
    intro b hb
    obtain rfl := List.mem_singleton.mp hb
    exact Preferred.refl reference b
  | cons a rest ih =>
    rw [List.pairwise_cons] at hsorted
    obtain ⟨hfirst, hsorted⟩ := hsorted
    rw [nearest_cons]
    split
    · rename_i hnearer
      have hchosen := ih hsorted
      exact List.forall_mem_cons.mpr
        ⟨(hchosen a List.mem_cons_self).trans (Or.inl hnearer), hchosen⟩
    · rename_i hnearer
      have hsorted' : (best :: rest).Pairwise (· < ·) :=
        List.pairwise_cons.mpr
          ⟨fun b hb => hfirst b (List.mem_cons_of_mem a hb), (List.pairwise_cons.mp hsorted).2⟩
      obtain ⟨hbest, hrest⟩ := List.forall_mem_cons.mp (ih hsorted')
      -- the first one is kept before one that is as near, which is larger
      have hkept : Preferred reference best a := by
        rcases lt_or_eq_of_le (not_lt.mp hnearer) with hlt | heq
        · exact Or.inl hlt
        · exact Or.inr ⟨heq, (hfirst a List.mem_cons_self).le⟩
      exact List.forall_mem_cons.mpr
        ⟨hbest, List.forall_mem_cons.mpr ⟨hbest.trans hkept, hrest⟩⟩

theorem unwrapAzimuth_of_cons {azimuth a : ℝ} {rest : List ℝ} (last : Option ℝ)
    (h : turns (Scalar.wrap azimuth 360) = a :: rest) :
    unwrapAzimuth azimuth last = nearest (last.getD (Scalar.wrap azimuth 360)) a rest := by
  unfold unwrapAzimuth
  dsimp only
  rw [h]

theorem wrap_mem_turns (azimuth : ℝ) :
    Scalar.wrap azimuth 360 ∈ turns (Scalar.wrap azimuth 360) := by
  obtain ⟨hlow, hhigh⟩ := wrap_mem azimuth
  exact mem_turns_iff.mpr ⟨wrap_modEq azimuth, by linarith, by linarith⟩

/-- What unwrapping takes, in terms of the candidates. -/
theorem unwrapAzimuth_chosen (azimuth : ℝ) (last : Option ℝ) :
    unwrapAzimuth azimuth last ∈ turns (Scalar.wrap azimuth 360) ∧
      ∀ b ∈ turns (Scalar.wrap azimuth 360),
        Preferred (last.getD (Scalar.wrap azimuth 360)) (unwrapAzimuth azimuth last) b := by
  have hsorted := pairwise_turns (Scalar.wrap azimuth 360)
  cases hturns : turns (Scalar.wrap azimuth 360) with
  | nil =>
    have hbase := wrap_mem_turns azimuth
    rw [hturns] at hbase
    cases hbase
  | cons a rest =>
    rw [hturns] at hsorted
    rw [unwrapAzimuth_of_cons last hturns]
    exact ⟨nearest_mem _ a rest, nearest_spec hsorted⟩

/-! ## Unwrapping -/

/-- The best azimuth for a direction. -/
structure Unwraps (azimuth : ℝ) (last : Option ℝ) (u : ℝ) : Prop where
  direction : u ≡ azimuth [PMOD 360]
  inRange : u ∈ Set.Icc (-179) 539
  nearest : ∀ l, last = some l → ∀ b, b ≡ azimuth [PMOD 360] → b ∈ Set.Icc (-179) 539 →
    |u - l| ≤ |b - l|
  tie : ∀ l, last = some l → ∀ b, b ≡ azimuth [PMOD 360] → b ∈ Set.Icc (-179) 539 →
    |b - l| = |u - l| → u ≤ b
  fresh : last = none → u ∈ Set.Ico 0 360

theorem unwraps_unwrapAzimuth (azimuth : ℝ) (last : Option ℝ) :
    Unwraps azimuth last (unwrapAzimuth azimuth last) := by
  obtain ⟨hmem, hpreferred⟩ := unwrapAzimuth_chosen azimuth last
  obtain ⟨hdirection, hrange⟩ := mem_turns_iff.mp hmem
  refine ⟨hdirection, hrange, ?_, ?_, ?_⟩
  · rintro l rfl b hb hb'
    rcases hpreferred b (mem_turns_iff.mpr ⟨hb, hb'⟩) with hlt | ⟨heq, -⟩
    · exact hlt.le
    · exact heq.le
  · rintro l rfl b hb hb' htie
    rcases hpreferred b (mem_turns_iff.mpr ⟨hb, hb'⟩) with hlt | ⟨-, hle⟩
    · exact absurd htie hlt.ne'
    · exact hle
  · rintro rfl
    -- the reference is one of the candidates itself, which is nearest to it
    have hself : unwrapAzimuth azimuth none = Scalar.wrap azimuth 360 := by
      rcases hpreferred _ (wrap_mem_turns azimuth) with hlt | ⟨heq, -⟩
      · rw [Option.getD_none, sub_self, abs_zero] at hlt
        exact absurd hlt (not_lt.mpr (abs_nonneg _))
      · rwa [Option.getD_none, sub_self, abs_zero, abs_eq_zero, sub_eq_zero] at heq
    rw [hself]
    exact wrap_mem azimuth

/-- An azimuth that stands for the direction already is kept. -/
theorem unwrapAzimuth_self {azimuth u : ℝ} (hdirection : u ≡ azimuth [PMOD 360])
    (hrange : u ∈ Set.Icc (-179) 539) : unwrapAzimuth azimuth (some u) = u := by
  have hnearest := (unwraps_unwrapAzimuth azimuth (some u)).nearest u rfl u hdirection hrange
  rw [sub_self, abs_zero] at hnearest
  exact sub_eq_zero.mp (abs_eq_zero.mp (le_antisymm hnearest (abs_nonneg _)))

theorem follow_reachable (azimuth elevation : ℝ) (last : Option (Position ℝ)) :
    (follow azimuth elevation last).Reachable := by
  refine ⟨(unwraps_unwrapAzimuth azimuth _).inRange, ?_⟩
  have horder : (elevationMin : ℝ) ≤ elevationMax := by
    rw [elevationMin_eq, elevationMax_eq]
    norm_num
  rw [← elevationMin_eq, ← elevationMax_eq]
  exact clamp_mem horder elevation

/-- **Unwrapping takes the best azimuth for a direction**: of all that stand for it and are in the range,
whatever the number of turns, the one that is nearest to the last azimuth, and the smaller of two; the one
in the first turn if there is no last azimuth.  So a direction leads to a position within reach, and
following it again from there changes nothing. -/
theorem unwrapping_law :
    (∀ (azimuth : ℝ) (last : Option ℝ), Unwraps azimuth last (unwrapAzimuth azimuth last)) ∧
      ∀ (azimuth elevation : ℝ) (last : Option (Position ℝ)),
        (follow azimuth elevation last).Reachable ∧
          follow azimuth elevation (some (follow azimuth elevation last)) =
            follow azimuth elevation last := by
  refine ⟨unwraps_unwrapAzimuth, fun azimuth elevation last => ⟨follow_reachable _ _ _, ?_⟩⟩
  have hbest := unwraps_unwrapAzimuth azimuth (last.map (·.azimuthDeg))
  have hkept := unwrapAzimuth_self hbest.direction hbest.inRange
  unfold follow
  rw [Option.map_some, hkept]

/-- From due south the ways to north on either side are as long, and the one to the smaller azimuth is
taken; from a degree further on north is ahead. -/
theorem unwrapping_law_north :
    unwrapAzimuth 0 (some (180 : ℝ)) = 0 ∧ unwrapAzimuth 0 (some (181 : ℝ)) = 360 := by
  have hnorth {u : ℝ} (hdirection : u ≡ 0 [PMOD 360]) (hrange : u ∈ Set.Icc (-179) 539) :
      u = 0 ∨ u = 360 := by
    have hnear := (mem_near_iff (by norm_num) hrange).mpr hdirection.symm
    simp only [List.mem_cons, List.not_mem_nil, or_false, zero_sub, zero_add] at hnear
    rcases hnear with rfl | hnear
    · exact absurd hrange.1 (by norm_num)
    · exact hnear
  constructor
  · have hbest := unwrapping_law.1 0 (some 180)
    rcases hnorth hbest.direction hbest.inRange with h | h
    · exact h
    · have hle := hbest.tie 180 rfl 0 modEq_rfl (by norm_num) (by rw [h]; norm_num)
      rw [h] at hle
      norm_num at hle
  · have hbest := unwrapping_law.1 0 (some 181)
    rcases hnorth hbest.direction hbest.inRange with h | h
    · have hle := hbest.nearest 181 rfl 360 self_modEq_zero (by norm_num)
      rw [h] at hle
      norm_num at hle
    · exact h

end EarthStation.Tracking
