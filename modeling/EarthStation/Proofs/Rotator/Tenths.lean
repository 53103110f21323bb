import EarthStation.Proofs.Exact
import EarthStation.Proofs.Rotator.Range

/-!
# Tenths — what an order says, in exact degrees

* `Rotator.Position.Reachable`: the mechanical range; the check of a position is exact there.
* `Rotator.NearestTenth`: the whole number of tenths that is nearest to an angle.
* `Rotator.Conveys`: what four ASCII digits say of an angle.
* `Rotator.conveys_encodeAngle`: neither the clamp of the tenths nor the cut into digits changes them.
* `Rotator.setFrame_exact`: an order carries its target to the nearest tenth.
-/

namespace EarthStation.Rotator

open Wire (Bytes)

/-! ## The range -/

theorem azimuthMin_eq : (azimuthMin : ℝ) = -179 := by
  have h : (azimuthMin : ℝ) = -((179 : ℕ) : ℝ) := rfl
  rw [h, Nat.cast_ofNat]

theorem azimuthMax_eq : (azimuthMax : ℝ) = 539 := Nat.cast_ofNat

theorem elevationMin_eq : (elevationMin : ℝ) = 0 := Nat.cast_zero

theorem elevationMax_eq : (elevationMax : ℝ) = 90 := Nat.cast_ofNat

theorem within_iff_mem {x lo hi : ℝ} : Scalar.within x lo hi = true ↔ x ∈ Set.Icc lo hi := by
  unfold Scalar.within
  rw [Bool.and_eq_true, decide_eq_true_iff, decide_eq_true_iff]
  exact Iff.rfl

theorem clamp_of_mem {x lo hi : ℝ} (h : x ∈ Set.Icc lo hi) : Scalar.clamp x lo hi = x := by
  have hclamp : Scalar.clamp x lo hi = if x < lo then lo else if hi < x then hi else x := rfl
  rw [hclamp, if_neg (not_lt.mpr h.1), if_neg (not_lt.mpr h.2)]

theorem clamp_mem {lo hi : ℝ} (horder : lo ≤ hi) (x : ℝ) : Scalar.clamp x lo hi ∈ Set.Icc lo hi := by
  have hclamp : Scalar.clamp x lo hi = if x < lo then lo else if hi < x then hi else x := rfl
  rw [hclamp]
  split
  · exact Set.left_mem_Icc.mpr horder
  · split
    · exact Set.right_mem_Icc.mpr horder
    · exact ⟨not_lt.mp ‹_›, not_lt.mp ‹_›⟩

/-- Holds of positions in the mechanical range. -/
def Position.Reachable (p : Position ℝ) : Prop :=
  p.azimuthDeg ∈ Set.Icc (-179) 539 ∧ p.elevationDeg ∈ Set.Icc 0 90

theorem withinLimits_iff_reachable {p : Position ℝ} : p.withinLimits = true ↔ p.Reachable := by
  unfold Position.withinLimits Position.Reachable
  rw [Bool.and_eq_true, within_iff_mem, within_iff_mem, azimuthMin_eq, azimuthMax_eq,
    elevationMin_eq, elevationMax_eq]

theorem Position.Reachable.clamp_eq {p : Position ℝ} (h : p.Reachable) : p.clamp = p := by
  unfold Position.clamp
  rw [azimuthMin_eq, azimuthMax_eq, elevationMin_eq, elevationMax_eq, clamp_of_mem h.1,
    clamp_of_mem h.2]

theorem Position.Reachable.setFrame_eq {p : Position ℝ} (h : p.Reachable) :
    setFrame p = .ok (frame .set (encodeAngle p.azimuthDeg) (encodeAngle p.elevationDeg)) :=
  setFrame_of_within (withinLimits_iff_reachable.mpr h) h.clamp_eq

theorem setFrame_of_not_reachable {p : Position ℝ} (h : ¬ p.Reachable) :
    setFrame p = .error (.limit p.azimuthDeg p.elevationDeg) := by
  have hchecked : p.checked = .error (.limit p.azimuthDeg p.elevationDeg) :=
    if_neg fun hwithin => h (withinLimits_iff_reachable.mp hwithin)
  unfold setFrame
  rw [hchecked]

/-! ## Tenths of a degree -/

/-- A whole number of tenths that is nearest to an angle; of two of them, the larger one. -/
structure NearestTenth (angle tenth : ℝ) : Prop where
  whole : ∃ k : ℤ, tenth = k / 10
  low : angle - 1 / 20 < tenth
  high : tenth ≤ angle + 1 / 20

theorem NearestTenth.eq_of_whole {angle tenth : ℝ} (h : NearestTenth angle tenth)
    (hangle : ∃ k : ℤ, angle = k / 10) : tenth = angle := by
  obtain ⟨⟨j, rfl⟩, hlow, hhigh⟩ := h
  obtain ⟨k, rfl⟩ := hangle
  have hle : j < k + 1 := by
    have : (j : ℝ) < k + 1 := by linarith
    exact_mod_cast this
  have hge : k < j + 1 := by
    have : (k : ℝ) < j + 1 := by linarith
    exact_mod_cast this
  obtain rfl : j = k := by omega
  rfl

/-- The number of tenths of a degree, from -360 on, that is nearest to an angle. -/
noncomputable def roundedTenths (angle : ℝ) : ℤ := roundAway (10 * (angle + 360))

/-- An angle rounded to tenths of a degree. -/
noncomputable def toTenths (angle : ℝ) : ℝ := roundedTenths angle / 10 - 360

theorem nearestTenth_toTenths {angle : ℝ} (h : 0 ≤ roundedTenths angle) :
    NearestTenth angle (toTenths angle) := by
  have hlow := lt_roundAway h
  have hhigh := (abs_le.mp (abs_roundAway_sub_le (10 * (angle + 360)))).2
  unfold toTenths roundedTenths
  refine ⟨⟨roundAway (10 * (angle + 360)) - 3600, ?_⟩, by linarith, by linarith⟩
  push_cast
  ring

/-- The clamp does not change a rounded number that is within its bounds. -/
theorem nearestIn_of_between {lo hi : ℤ} {x : ℝ} (hlow : lo ≤ roundAway x) (hhigh : roundAway x ≤ hi) :
    Scalar.nearestIn lo hi x = roundAway x := by
  have h : Scalar.nearestIn lo hi x = max lo (min hi (roundAway x)) := rfl
  rw [h, min_eq_right hhigh, max_eq_right hlow]

theorem tenths_eq {bound : ℕ} {angle : ℝ} (hlow : 0 ≤ roundedTenths angle)
    (hhigh : roundedTenths angle ≤ bound) : (tenths bound angle : ℤ) = roundedTenths angle := by
  have htenths : tenths bound angle =
      (Scalar.nearestIn 0 bound (((10 : ℕ) : ℝ) * (angle + ((360 : ℕ) : ℝ)))).toNat := rfl
  rw [Nat.cast_ofNat, Nat.cast_ofNat, nearestIn_of_between hlow hhigh] at htenths
  rw [htenths]
  exact Int.toNat_of_nonneg hlow

/-! ## Orders -/

/-- What four ASCII digits say of an angle: they read as the number `n` of tenths from -360 on. -/
structure Conveys (digits : Bytes) (angle : ℝ) (lo hi : ℤ) (n : ℕ) : Prop where
  length : digits.length = 4
  ascii : ∀ d ∈ digits, 0x30 ≤ d ∧ d ≤ 0x39
  read : number? digits = some n
  /-- No digit wraps. -/
  fits : n ≤ 9999
  unclamped : Scalar.nearestIn 0 9999 (10 * (angle + 360)) = roundAway (10 * (angle + 360))
  rounded : (n : ℤ) = roundAway (10 * (angle + 360))
  near : |(n : ℝ) / 10 - 360 - angle| ≤ 1 / 20
  within : (n : ℝ) / 10 - 360 ∈ Set.Icc (lo : ℝ) hi
  /-- Whole tenths are recovered. -/
  whole : (∃ k : ℤ, angle = k / 10) → (n : ℝ) / 10 - 360 = angle

theorem ascii_encodeAngle {α : Type} [Scalar α] (angle : α) :
    ∀ d ∈ encodeAngle angle, 0x30 ≤ d ∧ d ≤ 0x39 := by
  have hmod (k : ℕ) : k % 10 < 10 := Nat.mod_lt k (by norm_num)
  simp [encodeAngle, fourDigits, ascii_bounds (hmod _)]

/-- **Digits convey an angle to the nearest tenth**, and no further than to the limits. -/
theorem conveys_encodeAngle {angle : ℝ} {lo hi : ℤ} (hangle : angle ∈ Set.Icc (lo : ℝ) hi)
    (hlo : -360 ≤ lo) (hhi : hi ≤ 639) :
    Conveys (encodeAngle angle) angle lo hi (tenths 9999 angle) := by
  have hlow : 10 * (lo + 360) ≤ roundedTenths angle :=
    le_roundAway (by push_cast; linarith [hangle.1])
  have hhigh : roundedTenths angle ≤ 10 * (hi + 360) :=
    roundAway_le (by push_cast; linarith [hangle.2])
  have hcount : (tenths 9999 angle : ℤ) = roundedTenths angle := tenths_eq (by omega) (by omega)
  have hreal : (tenths 9999 angle : ℝ) = roundedTenths angle := by exact_mod_cast hcount
  have hnearest : NearestTenth angle (tenths 9999 angle / 10 - 360) := by
    rw [hreal]
    exact nearestTenth_toTenths (by omega)
  refine ⟨rfl, ascii_encodeAngle angle, number?_encodeAngle (by omega), by omega, ?_, hcount, ?_, ?_,
    hnearest.eq_of_whole⟩
  · exact nearestIn_of_between (by change 0 ≤ roundedTenths angle; omega)
      (by change roundedTenths angle ≤ 9999; omega)
  · rw [abs_le]
    constructor <;> linarith [hnearest.low, hnearest.high]
  · have hlow' : (10 * (lo + 360) : ℝ) ≤ roundedTenths angle := by exact_mod_cast hlow
    have hhigh' : (roundedTenths angle : ℝ) ≤ 10 * (hi + 360) := by exact_mod_cast hhigh
    rw [hreal]
    constructor <;> linarith

theorem Conveys.angle_eq {digits : Bytes} {angle angle' : ℝ} {lo hi : ℤ} {n n' : ℕ}
    (h : Conveys digits angle lo hi n) (h' : Conveys digits angle' lo hi n')
    (hwhole : ∃ k : ℤ, angle = k / 10) (hwhole' : ∃ k : ℤ, angle' = k / 10) : angle = angle' := by
  have hread : n = n' := Option.some.inj (h.read.symm.trans h'.read)
  rw [← h.whole hwhole, ← h'.whole hwhole', hread]

/-- The frame of an order to a position: four digits for each angle, each with a zero byte behind them,
between the byte that begins every frame and those that end an order. -/
def Carries (bytes : Bytes) (p : Position ℝ) : Prop :=
  ∃ azimuth elevation m n, bytes = 0x57 :: azimuth ++ 0x00 :: elevation ++ [0x00, 0x2F, 0x20] ∧
    Conveys azimuth p.azimuthDeg (-179) 539 m ∧ Conveys elevation p.elevationDeg 0 90 n

theorem reachable_of_setFrame {p : Position ℝ} {bytes : Bytes} (h : setFrame p = .ok bytes) :
    p.Reachable := by
  by_contra hout
  cases h.symm.trans (setFrame_of_not_reachable hout)

theorem carries_of_setFrame {p : Position ℝ} {bytes : Bytes} (h : setFrame p = .ok bytes) :
    Carries bytes p := by
  have hreach := reachable_of_setFrame h
  obtain rfl := Except.ok.inj (hreach.setFrame_eq.symm.trans h)
  refine ⟨_, _, tenths 9999 p.azimuthDeg, tenths 9999 p.elevationDeg, rfl, ?_, ?_⟩
  · exact conveys_encodeAngle (by exact_mod_cast hreach.1) (by norm_num) (by norm_num)
  · exact conveys_encodeAngle (by exact_mod_cast hreach.2) (by norm_num) (by norm_num)

/-- Holds of positions whose angles are whole tenths of a degree. -/
def Position.InTenths (p : Position ℝ) : Prop :=
  (∃ k : ℤ, p.azimuthDeg = k / 10) ∧ ∃ k : ℤ, p.elevationDeg = k / 10

theorem Carries.eq {bytes : Bytes} {p q : Position ℝ} (hp : Carries bytes p) (hq : Carries bytes q)
    (hwhole : p.InTenths) (hwhole' : q.InTenths) : p = q := by
  obtain ⟨azimuth, elevation, m, n, rfl, hazimuth, helevation⟩ := hp
  obtain ⟨azimuth', elevation', m', n', hsame, hazimuth', helevation'⟩ := hq
  obtain ⟨hfront, -⟩ := List.append_inj' hsame rfl
  obtain ⟨hdigits, hrest⟩ := List.append_inj hfront (by simp [hazimuth.length, hazimuth'.length])
  obtain rfl := List.tail_eq_of_cons_eq hdigits
  obtain rfl := List.tail_eq_of_cons_eq hrest
  have hleft := hazimuth.angle_eq hazimuth' hwhole.1 hwhole'.1
  have hup := helevation.angle_eq helevation' hwhole.2 hwhole'.2
  cases p
  cases q
  exact congrArg₂ Position.mk hleft hup

/-- What is to be said of the order to go to a position. -/
structure OrderedExactly (p : Position ℝ) : Prop where
  accepted : (∃ bytes, setFrame p = .ok bytes) ↔ p.Reachable
  refused : ¬ p.Reachable → setFrame p = .error (.limit p.azimuthDeg p.elevationDeg)
  unclamped : p.Reachable → p.clamp = p
  carried : ∀ bytes, setFrame p = .ok bytes → Carries bytes p
  /-- Different positions in whole tenths have different frames. -/
  distinct : p.InTenths → ∀ q : Position ℝ, q.InTenths → ∀ bytes,
    setFrame p = .ok bytes → setFrame q = .ok bytes → p = q

/-- **An order carries its target to the nearest tenth.**  It is sent just if the target is in the
mechanical range.  Then its digits stand for angles that are in the range too, at most half a tenth off
the target, and not off it at all if the target is in whole tenths. -/
theorem setFrame_exact (p : Position ℝ) : OrderedExactly p where
  accepted := ⟨fun ⟨_, h⟩ => reachable_of_setFrame h, fun h => ⟨_, h.setFrame_eq⟩⟩
  refused := setFrame_of_not_reachable
  unclamped := Position.Reachable.clamp_eq
  carried _ := carries_of_setFrame
  distinct hp _ hq _ hpBytes hqBytes :=
    (carries_of_setFrame hpBytes).eq (carries_of_setFrame hqBytes) hp hq

/-- A target in a corner of the range, half a tenth off whole ones, is ordered within the range; one
that would be rounded into it is refused. -/
theorem setFrame_exact_corner :
    (⟨-178.95, 89.95⟩ : Position ℝ).Reachable ∧
      (∃ azimuth elevation,
        setFrame (⟨-178.95, 89.95⟩ : Position ℝ) =
          .ok (0x57 :: azimuth ++ 0x00 :: elevation ++ [0x00, 0x2F, 0x20]) ∧
        number? azimuth = some 1811 ∧ number? elevation = some 4500) ∧
      ¬ (⟨539.04, 0⟩ : Position ℝ).Reachable ∧
      setFrame (⟨539.04, 0⟩ : Position ℝ) = .error (.limit 539.04 0) := by
  have hcorner : (⟨-178.95, 89.95⟩ : Position ℝ).Reachable := by
    refine ⟨⟨?_, ?_⟩, ?_, ?_⟩ <;> norm_num
  have hbeyond : ¬ (⟨539.04, 0⟩ : Position ℝ).Reachable := by
    rintro ⟨⟨-, hhigh⟩, -⟩
    norm_num at hhigh
  obtain ⟨bytes, hbytes⟩ := (setFrame_exact ⟨-178.95, 89.95⟩).accepted.mpr hcorner
  obtain ⟨azimuth, elevation, m, n, rfl, hazimuth, helevation⟩ :=
    (setFrame_exact ⟨-178.95, 89.95⟩).carried bytes hbytes
  have hm : m = 1811 := by
    have hrounded := hazimuth.rounded
    norm_num [roundAway] at hrounded
    exact_mod_cast hrounded
  have hn : n = 4500 := by
    have hrounded := helevation.rounded
    norm_num [roundAway] at hrounded
    exact_mod_cast hrounded
  exact ⟨hcorner, ⟨azimuth, elevation, hbytes, hm ▸ hazimuth.read, hn ▸ helevation.read⟩, hbeyond,
    (setFrame_exact ⟨539.04, 0⟩).refused hbeyond⟩

end EarthStation.Rotator
