import EarthStation.Geometry
import EarthStation.Proofs.Exact
import Mathlib.Tactic.LinearCombination

/-!
# Geometry — the frames of an observer agree

* `Turn.Proper`: what is assumed of the sine and the cosine of an angle.
* `Turn.dot_position`, `Horizon.components_sq`: the frames keep inner products and lengths.
* `Turn.velocity_eq`: the Earth-fixed velocity is what is left of the inertial one after the rotation of the
  Earth.
* `Horizon.elevationSine_eq`: the sine of the elevation is never clamped.
* `Horizon.rangeRate_mul_range`: the range grows by the speed along the line of sight.
* `Horizon.frames_law`: the components of a sight belong to its range, and its range rate is the speed along
  the line of sight, as seen from the rotating Earth.
-/

namespace EarthStation

/-! ## Vectors -/

namespace Vec3

/-- The cross product. -/
def cross (a b : Vec3 ℝ) : Vec3 ℝ :=
  ⟨a.y * b.z - a.z * b.y, a.z * b.x - a.x * b.z, a.x * b.y - a.y * b.x⟩

theorem dot_eq (a b : Vec3 ℝ) : a.dot b = a.x * b.x + a.y * b.y + a.z * b.z := rfl

theorem sub_eq (a b : Vec3 ℝ) : a - b = ⟨a.x - b.x, a.y - b.y, a.z - b.z⟩ := rfl

theorem dot_self_nonneg (a : Vec3 ℝ) : 0 ≤ a.dot a := by
  rw [dot_eq]
  exact add_nonneg (add_nonneg (mul_self_nonneg _) (mul_self_nonneg _)) (mul_self_nonneg _)

theorem norm_sq (a : Vec3 ℝ) : a.norm ^ 2 = a.dot a := Real.sq_sqrt a.dot_self_nonneg

theorem norm_nonneg (a : Vec3 ℝ) : 0 ≤ a.norm := Real.sqrt_nonneg _

/-- A vector without length is orthogonal to every other. -/
theorem dot_of_norm_eq_zero (a : Vec3 ℝ) {b : Vec3 ℝ} (h : b.norm = 0) : a.dot b = 0 := by
  have hsq : b.x * b.x + b.y * b.y + b.z * b.z = 0 := by
    rw [← dot_eq, ← norm_sq, h]
    norm_num
  have hx := mul_self_nonneg b.x
  have hy := mul_self_nonneg b.y
  have hz := mul_self_nonneg b.z
  have hx' : b.x = 0 := mul_self_eq_zero.mp (by linarith)
  have hy' : b.y = 0 := mul_self_eq_zero.mp (by linarith)
  have hz' : b.z = 0 := mul_self_eq_zero.mp (by linarith)
  rw [dot_eq, hx', hy', hz']
  ring

end Vec3

/-! ## The rotation of the Earth -/

/-- The sine and the cosine of some angle. -/
def Turn.Proper (t : Turn ℝ) : Prop := t.sin ^ 2 + t.cos ^ 2 = 1

/-- The rotation of the Earth about the third axis. -/
noncomputable def earthSpin : Vec3 ℝ := ⟨0, 0, earthRate⟩

namespace Turn

theorem position_eq (t : Turn ℝ) (p : Vec3 ℝ) :
    t.position p = ⟨p.x * t.cos + p.y * t.sin, -p.x * t.sin + p.y * t.cos, p.z⟩ := rfl

/-- **Inner products are kept** in the frame that turns with the Earth. -/
theorem dot_position {t : Turn ℝ} (ht : t.Proper) (a b : Vec3 ℝ) :
    (t.position a).dot (t.position b) = a.dot b := by
  unfold Proper at ht
  simp only [position_eq, Vec3.dot_eq]
  linear_combination (a.x * b.x + a.y * b.y) * ht

/-- **The Earth-fixed velocity** is the inertial one without that of the Earth below, turned with the
Earth. -/
theorem velocity_eq (t : Turn ℝ) (p v : Vec3 ℝ) :
    t.velocity p v = t.position (v - earthSpin.cross p) := by
  show (⟨(t.position v).x + earthRate * (t.position p).y,
    (t.position v).y - earthRate * (t.position p).x, (t.position v).z⟩ : Vec3 ℝ) = _
  simp only [position_eq, Vec3.sub_eq, Vec3.cross, earthSpin, Vec3.mk.injEq]
  refine ⟨?_, ?_, ?_⟩ <;> ring

/-- Only the null vector is turned into the null vector. -/
theorem position_eq_zero_iff {t : Turn ℝ} (ht : t.Proper) (a : Vec3 ℝ) :
    t.position a = ⟨0, 0, 0⟩ ↔ a = ⟨0, 0, 0⟩ := by
  obtain ⟨x, y, z⟩ := a
  simp only [position_eq, Vec3.mk.injEq]
  unfold Proper at ht
  constructor
  · rintro ⟨hfirst, hsecond, hz⟩
    refine ⟨?_, ?_, hz⟩
    · linear_combination t.cos * hfirst - t.sin * hsecond - x * ht
    · linear_combination t.sin * hfirst + t.cos * hsecond - y * ht
  · rintro ⟨rfl, rfl, rfl⟩
    simp

/-- A satellite rests in the Earth-fixed frame just if the rotation of the Earth carries it along. -/
theorem velocity_eq_zero_iff {t : Turn ℝ} (ht : t.Proper) (p v : Vec3 ℝ) :
    t.velocity p v = ⟨0, 0, 0⟩ ↔ v = earthSpin.cross p := by
  rw [velocity_eq, position_eq_zero_iff ht]
  obtain ⟨x, y, z⟩ := v
  obtain ⟨x', y', z'⟩ := earthSpin.cross p
  simp only [Vec3.sub_eq, Vec3.mk.injEq, sub_eq_zero]

end Turn

/-! ## The horizon -/

/-- The latitude and the longitude are given by the sines and cosines of some angles. -/
structure Horizon.Proper (h : Horizon ℝ) : Prop where
  latitude : h.latitude.Proper
  longitude : h.longitude.Proper

/-- The squared length of a vector in the axes of an observer. -/
def EastNorthUp.sq (d : EastNorthUp ℝ) : ℝ := d.east ^ 2 + d.north ^ 2 + d.up ^ 2

namespace Horizon

theorem components_eq (h : Horizon ℝ) (d : Vec3 ℝ) :
    h.components d =
      { east := -h.longitude.sin * d.x + h.longitude.cos * d.y
        north := -h.latitude.sin * h.longitude.cos * d.x - h.latitude.sin * h.longitude.sin * d.y
          + h.latitude.cos * d.z
        up := h.latitude.cos * h.longitude.cos * d.x + h.latitude.cos * h.longitude.sin * d.y
          + h.latitude.sin * d.z } := rfl

/-- **Lengths are kept** in the axes of an observer. -/
theorem components_sq {h : Horizon ℝ} (hh : h.Proper) (d : Vec3 ℝ) :
    (h.components d).sq = d.dot d := by
  have hlatitude := hh.latitude
  have hlongitude := hh.longitude
  unfold Turn.Proper at hlatitude hlongitude
  rw [components_eq, EastNorthUp.sq, Vec3.dot_eq]
  -- north and up share what the vector has along the meridian and along the axis of the Earth
  linear_combination
    ((h.longitude.cos * d.x + h.longitude.sin * d.y) ^ 2 + d.z ^ 2) * hlatitude
      + (d.x ^ 2 + d.y ^ 2) * hlongitude

end Horizon

/-! ## A sight -/

theorem scalarClamp_of_mem {x lo hi : ℝ} (hlo : lo ≤ x) (hhi : x ≤ hi) :
    Scalar.clamp x lo hi = x := by
  have h : Scalar.clamp x lo hi = if x < lo then lo else if hi < x then hi else x := rfl
  rw [h, if_neg (not_lt.mpr hlo), if_neg (not_lt.mpr hhi)]

/-- The Earth-fixed vector from an observer to a satellite. -/
noncomputable def Turn.sightline (t : Turn ℝ) (site p : Vec3 ℝ) : Vec3 ℝ := t.position p - site

namespace Horizon

variable {h : Horizon ℝ} {sidereal : Turn ℝ} {site p v : Vec3 ℝ}

theorem components_sight :
    (h.sight sidereal site p v).components = h.components (sidereal.sightline site p) := rfl

theorem range_sight :
    (h.sight sidereal site p v).range = (sidereal.sightline site p).norm := rfl

theorem elevationSine_sight :
    (h.sight sidereal site p v).elevationSine =
      if 0 < (h.sight sidereal site p v).range then
        Scalar.clamp ((h.sight sidereal site p v).components.up / (h.sight sidereal site p v).range)
          (-1) 1
      else 0 := by
  have heq : (h.sight sidereal site p v).elevationSine =
      if ((0 : ℕ) : ℝ) < (h.sight sidereal site p v).range then
        Scalar.clamp ((h.sight sidereal site p v).components.up / (h.sight sidereal site p v).range)
          (-((1 : ℕ) : ℝ)) ((1 : ℕ) : ℝ)
      else ((0 : ℕ) : ℝ) := rfl
  rw [heq, Nat.cast_zero, Nat.cast_one]

theorem rangeRate_sight :
    (h.sight sidereal site p v).rangeRate =
      if 0 < (h.sight sidereal site p v).range then
        (sidereal.velocity p v).dot (sidereal.sightline site p) / (h.sight sidereal site p v).range
      else 0 := by
  have heq : (h.sight sidereal site p v).rangeRate =
      if ((0 : ℕ) : ℝ) < (h.sight sidereal site p v).range then
        (sidereal.velocity p v).dot (sidereal.sightline site p) / (h.sight sidereal site p v).range
      else ((0 : ℕ) : ℝ) := rfl
  rw [heq, Nat.cast_zero]

/-- **The components of a sight belong to its range.** -/
theorem sq_components_sight (hh : h.Proper) :
    (h.sight sidereal site p v).components.sq = (h.sight sidereal site p v).range ^ 2 := by
  rw [components_sight, range_sight, components_sq hh, Vec3.norm_sq]

theorem up_sq_le (hh : h.Proper) :
    (h.sight sidereal site p v).components.up ^ 2 ≤ (h.sight sidereal site p v).range ^ 2 := by
  rw [← sq_components_sight hh]
  show _ ≤ _ ^ 2 + _ ^ 2 + _ ^ 2
  linarith [sq_nonneg (h.sight sidereal site p v).components.east,
    sq_nonneg (h.sight sidereal site p v).components.north]

/-- **The sine of the elevation is never clamped.** -/
theorem elevationSine_eq (hh : h.Proper) :
    (h.sight sidereal site p v).elevationSine =
      if 0 < (h.sight sidereal site p v).range then
        (h.sight sidereal site p v).components.up / (h.sight sidereal site p v).range
      else 0 := by
  rw [elevationSine_sight]
  by_cases hrange : 0 < (h.sight sidereal site p v).range
  · rw [if_pos hrange, if_pos hrange]
    have hsq : (h.sight sidereal site p v).components.up ^ 2 ≤
      (h.sight sidereal site p v).range ^ 2 := up_sq_le hh
    obtain ⟨hlow, hhigh⟩ := abs_le_of_sq_le_sq' hsq hrange.le
    refine scalarClamp_of_mem ?_ ?_
    · rw [le_div_iff₀ hrange]
      linarith
    · rw [div_le_iff₀ hrange]
      linarith
  · rw [if_neg hrange, if_neg hrange]

/-- The range grows as the satellite moves along the line of sight. -/
theorem rangeRate_mul_range :
    (h.sight sidereal site p v).rangeRate * (h.sight sidereal site p v).range =
      (sidereal.velocity p v).dot (sidereal.sightline site p) := by
  rw [rangeRate_sight]
  by_cases hrange : 0 < (h.sight sidereal site p v).range
  · rw [if_pos hrange, div_mul_cancel₀ _ hrange.ne']
  · have hzero : (sidereal.sightline site p).norm = 0 :=
      le_antisymm (not_lt.mp hrange) (Vec3.norm_nonneg _)
    rw [if_neg hrange, zero_mul, Vec3.dot_of_norm_eq_zero _ hzero]

/-- What rests on the Earth comes neither closer nor farther away. -/
theorem rangeRate_of_velocity_eq_zero (hrest : sidereal.velocity p v = ⟨0, 0, 0⟩) :
    (h.sight sidereal site p v).rangeRate = 0 := by
  rw [rangeRate_sight, hrest, Vec3.dot_eq]
  split <;> simp

/-- **The frames of an observer agree.**  The frame that turns with the Earth and the axes of an observer
keep lengths, so that the components of a sight belong to its range and the sine of its elevation is never
clamped.  Its range rate is the speed along the line of sight that is left after the rotation of the
Earth; a satellite that the rotation of the Earth carries along, and no other, rests in the Earth-fixed
frame, and its range rate is zero. -/
theorem frames_law (hh : h.Proper) (hsidereal : sidereal.Proper) (site p v : Vec3 ℝ) :
    let seen := h.sight sidereal site p v
    (∀ a, (sidereal.position a).dot (sidereal.position a) = a.dot a) ∧
    (∀ a, (h.components a).sq = a.dot a) ∧
    seen.components.sq = seen.range ^ 2 ∧
    seen.components.up ^ 2 ≤ seen.range ^ 2 ∧
    seen.elevationSine = (if 0 < seen.range then seen.components.up / seen.range else 0) ∧
    seen.rangeRate * seen.range =
      (sidereal.position (v - earthSpin.cross p)).dot (sidereal.position p - site) ∧
    (sidereal.velocity p v = ⟨0, 0, 0⟩ ↔ v = earthSpin.cross p) ∧
    (v = earthSpin.cross p → seen.rangeRate = 0) := by
  have hrest := Turn.velocity_eq_zero_iff hsidereal p v
  refine ⟨fun a => Turn.dot_position hsidereal a a, components_sq hh, sq_components_sight hh,
    up_sq_le hh, elevationSine_eq hh, ?_, hrest, fun hv => ?_⟩
  · rw [← Turn.velocity_eq]
    exact rangeRate_mul_range
  · exact rangeRate_of_velocity_eq_zero (hrest.mpr hv)

/-- An observer in the south, a quarter of a turn after the inertial frame, and a satellite at rest in that
frame: it comes closer by the rotation of the Earth alone. -/
theorem frames_law_south :
    Horizon.Proper ⟨⟨-3 / 5, 4 / 5⟩, ⟨-4 / 5, 3 / 5⟩⟩ ∧ Turn.Proper ⟨1, 0⟩ ∧
      ∃ seen : Sight ℝ, seen = Horizon.sight ⟨⟨-3 / 5, 4 / 5⟩, ⟨-4 / 5, 3 / 5⟩⟩ ⟨1, 0⟩ ⟨6378, 0, 0⟩
          ⟨-300, 7000, 400⟩ ⟨0, 0, 0⟩ ∧
        seen.components.sq = seen.range ^ 2 ∧
        seen.rangeRate * seen.range = -1913400 * 7.292115e-5 := by
  have hh : Horizon.Proper ⟨⟨-3 / 5, 4 / 5⟩, ⟨-4 / 5, 3 / 5⟩⟩ :=
    ⟨by norm_num [Turn.Proper], by norm_num [Turn.Proper]⟩
  have hsidereal : Turn.Proper ⟨1, 0⟩ := by norm_num [Turn.Proper]
  obtain ⟨-, -, hlength, -, -, hrate, -⟩ :=
    frames_law hh hsidereal ⟨6378, 0, 0⟩ ⟨-300, 7000, 400⟩ ⟨0, 0, 0⟩
  have hearth : (earthRate : ℝ) = 7.292115e-5 := rfl
  refine ⟨hh, hsidereal, _, rfl, hlength, ?_⟩
  rw [hrate]
  norm_num [Turn.position_eq, Vec3.sub_eq, Vec3.dot_eq, Vec3.cross, earthSpin, hearth]

end Horizon

end EarthStation
