import EarthStation.Proofs.Binary64.Whole
import EarthStation.Rotator.Frame
import EarthStation.Tracking.Pointing

/-!
# Range — positions and frames within the mechanical range

* `Rotator.Reach`, `Rotator.Position.InReach`: the mechanical range, in exact degrees.
* `Rotator.withinLimits_iff`: the check of a position is exact.
* `Tracking.follow_inReach`: a direction leads to a position within reach, however large its angles are.
* `Rotator.orderedAngles`, `Rotator.FrameInReach`: the angles that a frame orders, if it is an order.
* `Rotator.setFrame_of_inReach`: a position within reach is not refused, and its frame orders angles
  within reach.
-/

namespace EarthStation.Rotator

open Binary64
open Wire (Bytes)

/-! ## Comparisons with the limits -/

theorem within_iff {x lo hi : Float} (hlo : Defined lo) (hhi : Defined hi) :
    Scalar.within x lo hi = true ↔ Defined x ∧ value lo ≤ value x ∧ value x ≤ value hi := by
  unfold Scalar.within
  rw [Bool.and_eq_true, decide_eq_true_iff, decide_eq_true_iff]
  constructor
  · rintro ⟨hle, hle'⟩
    obtain ⟨-, hx, hlow⟩ := le_iff.mp hle
    exact ⟨hx, hlow, (le_iff.mp hle').2.2⟩
  · rintro ⟨hx, hlow, hhigh⟩
    exact ⟨le_iff.mpr ⟨hlo, hx, hlow⟩, le_iff.mpr ⟨hx, hhi, hhigh⟩⟩

/-- What is clamped is within the limits. -/
theorem clamp_within {x lo hi : Float} (hx : Defined x) (hlo : Defined lo) (hhi : Defined hi)
    (horder : value lo ≤ value hi) : Scalar.within (Scalar.clamp x lo hi) lo hi = true := by
  rw [within_iff hlo hhi]
  unfold Scalar.clamp
  split
  · exact ⟨hlo, le_rfl, horder⟩
  · rename_i hlow
    split
    · exact ⟨hhi, horder, le_rfl⟩
    · rename_i hhigh
      exact ⟨hx, (le_iff.mp ((not_lt_iff hx hlo).mp hlow)).2.2,
        (le_iff.mp ((not_lt_iff hhi hx).mp hhigh)).2.2⟩

/-- What is within the limits is not changed by clamping. -/
theorem clamp_of_within {x lo hi : Float} (h : Scalar.within x lo hi = true) :
    Scalar.clamp x lo hi = x := by
  unfold Scalar.within at h
  rw [Bool.and_eq_true, decide_eq_true_iff, decide_eq_true_iff] at h
  obtain ⟨hlo, hx, hlow⟩ := le_iff.mp h.1
  obtain ⟨-, hhi, hhigh⟩ := le_iff.mp h.2
  unfold Scalar.clamp
  rw [if_neg ((not_lt_iff hx hlo).mpr h.1), if_neg ((not_lt_iff hhi hx).mpr h.2)]

/-- A number of few bits. -/
theorem natural_exact {n : ℕ} (hn : n < 2 ^ 53) :
    Defined (Scalar.natural n : Float) ∧ value (Scalar.natural n) = n :=
  ⟨(near_natural n).defined, value_natural hn⟩

theorem azimuth_within_iff {x : Float} :
    Scalar.within x azimuthMin azimuthMax = true ↔
      Defined x ∧ -179 ≤ value x ∧ value x ≤ 539 := by
  obtain ⟨hdefined, hvalue⟩ := natural_exact (n := 179) (by norm_num)
  obtain ⟨hmax, hvalue'⟩ := natural_exact (n := 539) (by norm_num)
  obtain ⟨hmin, hneg⟩ := value_neg hdefined
  have hlow : value (azimuthMin : Float) = -179 := hneg.trans (by rw [hvalue]; norm_num)
  have hhigh : value (azimuthMax : Float) = 539 := hvalue'.trans (by norm_num)
  have hwithin : Scalar.within x azimuthMin azimuthMax = true ↔
      Defined x ∧ value azimuthMin ≤ value x ∧ value x ≤ value azimuthMax := within_iff hmin hmax
  rwa [hlow, hhigh] at hwithin

theorem elevation_limits :
    (Defined (elevationMin : Float) ∧ value (elevationMin : Float) = 0) ∧
      Defined (elevationMax : Float) ∧ value (elevationMax : Float) = 90 := by
  obtain ⟨hmin, hvalue⟩ := natural_exact (n := 0) (by norm_num)
  obtain ⟨hmax, hvalue'⟩ := natural_exact (n := 90) (by norm_num)
  exact ⟨⟨hmin, hvalue.trans (by norm_num)⟩, hmax, hvalue'.trans (by norm_num)⟩

theorem elevation_within_iff {x : Float} :
    Scalar.within x elevationMin elevationMax = true ↔
      Defined x ∧ 0 ≤ value x ∧ value x ≤ 90 := by
  obtain ⟨⟨hmin, hlow⟩, hmax, hhigh⟩ := elevation_limits
  have hwithin := within_iff (x := x) hmin hmax
  rwa [hlow, hhigh] at hwithin

/-! ## Positions -/

/-- The mechanical range: azimuths from -179 to 539 degrees, elevations from 0 to 90. -/
structure Reach (azimuth elevation : ℚ) : Prop where
  azimuth : -179 ≤ azimuth ∧ azimuth ≤ 539
  elevation : 0 ≤ elevation ∧ elevation ≤ 90

/-- Holds of positions whose exact angles are in the mechanical range. -/
structure Position.InReach (p : Position Float) : Prop where
  azimuthDefined : Defined p.azimuthDeg
  elevationDefined : Defined p.elevationDeg
  reach : Reach (value p.azimuthDeg) (value p.elevationDeg)

/-- **The check of a position is exact.** -/
theorem withinLimits_iff {p : Position Float} : p.withinLimits = true ↔ p.InReach := by
  unfold Position.withinLimits
  rw [Bool.and_eq_true, azimuth_within_iff, elevation_within_iff]
  exact ⟨fun h => ⟨h.1.1, h.2.1, h.1.2, h.2.2⟩,
    fun h => ⟨⟨h.azimuthDefined, h.reach.azimuth⟩, h.elevationDefined, h.reach.elevation⟩⟩

/-- Positions within reach are finite: neither undefined nor infinite. -/
theorem Position.InReach.finite {p : Position Float} (h : p.InReach) :
    p.azimuthDeg.isFinite = true ∧ p.elevationDeg.isFinite = true := by
  obtain ⟨hleft, hright⟩ := h.reach.azimuth
  obtain ⟨hflat, hsteep⟩ := h.reach.elevation
  have hazimuth : |value p.azimuthDeg| ≤ (539 : ℕ) :=
    abs_le.mpr ⟨by push_cast; linarith, by push_cast; linarith⟩
  have helevation : |value p.elevationDeg| ≤ (90 : ℕ) :=
    abs_le.mpr ⟨by push_cast; linarith, by push_cast; linarith⟩
  exact ⟨finite_of_abs_le h.azimuthDefined (by norm_num) hazimuth,
    finite_of_abs_le h.elevationDefined (by norm_num) helevation⟩

theorem checked_eq_ok_iff {p q : Position Float} : p.checked = .ok q ↔ p.InReach ∧ q = p := by
  rw [← withinLimits_iff]
  unfold Position.checked
  split
  · rename_i hwithin
    exact ⟨fun h => ⟨hwithin, (Except.ok.inj h).symm⟩, fun h => congrArg Except.ok h.2.symm⟩
  · rename_i hbeyond
    exact ⟨nofun, fun h => absurd h.1 hbeyond⟩

theorem home_inReach : (Position.home : Position Float).InReach :=
  withinLimits_iff.mp (by decide +kernel)

end EarthStation.Rotator

/-! ## Directions -/

namespace EarthStation.Tracking

open Binary64 Rotator

theorem nearest_mem {α : Type} [Scalar α] (reference best : α) (candidates : List α) :
    nearest reference best candidates ∈ best :: candidates := by
  induction candidates generalizing best with
  | nil => exact List.mem_singleton_self best
  | cons a rest ih =>
    rw [nearest]
    split
    · exact List.mem_cons_of_mem _ (ih a)
    · rcases List.mem_cons.mp (ih best) with heq | hrest
      · rw [heq]
        exact List.mem_cons_self
      · exact List.mem_cons_of_mem _ (List.mem_cons_of_mem _ hrest)

/-- An azimuth of any size is unwrapped to one in the range of the rotator. -/
theorem unwrapAzimuth_within {azimuth : Float} (h : azimuth.isFinite = true) (last : Option Float) :
    Scalar.within (unwrapAzimuth azimuth last) azimuthMin azimuthMax = true := by
  obtain ⟨-, hturn⟩ := natural_exact (n := 360) (by norm_num)
  have hturn' : value (Scalar.natural 360 : Float) = 360 := hturn.trans (by norm_num)
  obtain ⟨hdefined, hlow, hhigh⟩ : Defined (Scalar.wrap azimuth 360) ∧
      0 ≤ value (Scalar.wrap azimuth 360) ∧ value (Scalar.wrap azimuth 360) ≤ 360 := by
    have hwrap := wrap_bounds h (finite_natural (n := 360) (by norm_num)) (by rw [hturn']; norm_num)
    rwa [hturn', abs_of_pos (by norm_num)] at hwrap
  have hbase : Scalar.within (Scalar.wrap azimuth 360) azimuthMin azimuthMax = true :=
    azimuth_within_iff.mpr ⟨hdefined, by linarith, by linarith⟩
  unfold unwrapAzimuth
  dsimp only
  cases hturns : turns (Scalar.wrap azimuth 360) with
  | nil => exact hbase
  | cons a rest =>
    have hmem := nearest_mem (last.getD (Scalar.wrap azimuth 360)) a rest
    rw [← hturns, turns] at hmem
    exact (List.mem_filter.mp hmem).2

/-- **A direction leads to a position within reach**, of whatever size its angles are. -/
theorem follow_inReach {azimuth elevation : Float} (hazimuth : azimuth.isFinite = true)
    (helevation : elevation.isFinite = true) (last : Option (Position Float)) :
    (follow azimuth elevation last).InReach := by
  obtain ⟨⟨hmin, hlow⟩, hmax, hhigh⟩ := elevation_limits
  have hclamped := clamp_within (defined_of_finite helevation) hmin hmax (by rw [hlow, hhigh]; norm_num)
  have hunwrapped := unwrapAzimuth_within hazimuth (last.map (·.azimuthDeg))
  refine withinLimits_iff.mp ?_
  unfold Position.withinLimits
  rw [Bool.and_eq_true]
  exact ⟨hunwrapped, hclamped⟩

end EarthStation.Tracking

/-! ## Frames -/

namespace EarthStation.Rotator

open Binary64
open Wire (Bytes)

/-- The number that ASCII digits stand for, most significant first. -/
def number? (digits : Bytes) : Option ℕ :=
  digits.foldl (fun n d => n.bind fun n =>
    if 0x30 ≤ d ∧ d ≤ 0x39 then some (10 * n + (d.toNat - 0x30)) else none) (some 0)

/-- The angles that a frame orders: two groups of digits that count tenths of a degree from -360 on. -/
def orderedAngles : Bytes → Option (ℚ × ℚ)
  | [_, a1, a2, a3, a4, _, e1, e2, e3, e4, _, _, _] =>
    match number? [a1, a2, a3, a4], number? [e1, e2, e3, e4] with
    | some azimuth, some elevation => some (azimuth / 10 - 360, elevation / 10 - 360)
    | _, _ => none
  | _ => none

/-- Holds of the frames that order a position. -/
def IsOrder (bytes : Bytes) : Prop := bytes[11]? = some Command.set.code

instance (bytes : Bytes) : Decidable (IsOrder bytes) :=
  inferInstanceAs (Decidable (bytes[11]? = some Command.set.code))

/-- Holds of frames that order angles within reach, if they order any. -/
def FrameInReach (bytes : Bytes) : Prop :=
  IsOrder bytes → ∃ azimuth elevation,
    orderedAngles bytes = some (azimuth, elevation) ∧ Reach azimuth elevation

theorem toNat_ascii {d : ℕ} (hd : d < 10) : (0x30 + UInt8.ofNat d).toNat = 0x30 + d := by
  rw [UInt8.toNat_add, UInt8.toNat_ofNat']
  change (48 + d % 256) % 256 = 48 + d
  omega

theorem ascii_bounds {d : ℕ} (hd : d < 10) :
    0x30 ≤ 0x30 + UInt8.ofNat d ∧ 0x30 + UInt8.ofNat d ≤ 0x39 := by
  rw [UInt8.le_iff_toNat_le, UInt8.le_iff_toNat_le, toNat_ascii hd]
  change 48 ≤ 48 + d ∧ 48 + d ≤ 57
  omega

theorem digit_spec {d : ℕ} (hd : d < 10) (n : ℕ) :
    (if 0x30 ≤ 0x30 + UInt8.ofNat d ∧ 0x30 + UInt8.ofNat d ≤ 0x39 then
      some (10 * n + ((0x30 + UInt8.ofNat d).toNat - 0x30)) else none) = some (10 * n + d) := by
  rw [if_pos (ascii_bounds hd), toNat_ascii hd, Nat.add_sub_cancel_left]

/-- The digits of an angle stand for its tenths. -/
theorem number?_encodeAngle {α : Type} [Scalar α] {angle : α} (h : tenths 9999 angle < 10000) :
    number? (encodeAngle angle) = some (tenths 9999 angle) := by
  have hmod (k : ℕ) : k % 10 < 10 := Nat.mod_lt k (by norm_num)
  unfold encodeAngle fourDigits number?
  simp only [List.map_cons, List.map_nil, List.foldl_cons, List.foldl_nil, Option.bind_some,
    digit_spec (hmod _)]
  exact congrArg some (by omega)

/-- The tenths of an angle lie between the same whole degrees. -/
theorem tenths_between {angle : Float} (hdefined : Defined angle) {a b : ℕ}
    (ha : (a : ℚ) ≤ value angle + 360) (hb : value angle + 360 ≤ b) (hbound : b ≤ 999) :
    10 * a ≤ tenths 9999 angle ∧ tenths 9999 angle ≤ 10 * b := by
  have hb' : (b : ℚ) ≤ 999 := by exact_mod_cast hbound
  have ha' : (0 : ℚ) ≤ a := Nat.cast_nonneg a
  have habs : |value angle| ≤ (999 : ℕ) :=
    abs_le.mpr ⟨by push_cast; linarith, by push_cast; linarith⟩
  have hfinite : angle.isFinite = true := finite_of_abs_le hdefined (by norm_num) habs
  obtain ⟨-, hoffset⟩ := natural_exact (n := 360) (by norm_num)
  obtain ⟨-, hten⟩ := natural_exact (n := 10) (by norm_num)
  have hsum := near_add hfinite (finite_natural (n := 360) (by norm_num))
  rw [hoffset, Nat.cast_ofNat] at hsum
  obtain ⟨hsumFinite, hsumLow, hsumHigh⟩ := hsum.between ha hb (by omega)
  have hproduct := near_mul (finite_natural (n := 10) (by norm_num)) hsumFinite
  rw [hten] at hproduct
  obtain ⟨hproductFinite, hlow, hhigh⟩ := hproduct.between (a := 10 * a) (b := 10 * b)
    (by push_cast; linarith) (by push_cast; linarith) (by omega)
  obtain ⟨hnearest, hnearest'⟩ := @nearest_bounds _ hproductFinite _ _ 9999 hlow hhigh (by omega)
  have htenths : tenths 9999 angle = (nearest 0 (9999 : ℕ)
    (Scalar.natural 10 * (angle + Scalar.natural 360))).toNat := rfl
  rw [htenths]
  omega

/-- The frame of a position that the rotator can take. -/
theorem setFrame_of_within {α : Type} [Scalar α] {p : Position α} (hwithin : p.withinLimits = true)
    (hclamp : p.clamp = p) :
    setFrame p = .ok (frame .set (encodeAngle p.azimuthDeg) (encodeAngle p.elevationDeg)) := by
  have hchecked : p.checked = .ok p := if_pos hwithin
  unfold setFrame
  rw [hchecked]
  dsimp only
  rw [hclamp]

/-- **A position within reach is not refused, and its frame orders angles within reach**, even at the
edges of the range, where tenths are rounded. -/
theorem setFrame_of_inReach {p : Position Float} (h : p.InReach) :
    ∃ bytes, setFrame p = .ok bytes ∧ IsOrder bytes ∧ FrameInReach bytes := by
  have hwithin := withinLimits_iff.mpr h
  have hclamp : p.clamp = p := by
    have hangles := hwithin
    unfold Position.withinLimits at hangles
    rw [Bool.and_eq_true] at hangles
    unfold Position.clamp
    rw [clamp_of_within hangles.1, clamp_of_within hangles.2]
  have hframe := setFrame_of_within hwithin hclamp
  obtain ⟨hleft, hright⟩ := h.reach.azimuth
  obtain ⟨hflat, hsteep⟩ := h.reach.elevation
  obtain ⟨hazimuth, hazimuth'⟩ := tenths_between h.azimuthDefined (a := 181) (b := 899)
    (by push_cast; linarith) (by push_cast; linarith) (by norm_num)
  obtain ⟨helevation, helevation'⟩ := tenths_between h.elevationDefined (a := 360) (b := 450)
    (by push_cast; linarith) (by push_cast; linarith) (by norm_num)
  refine ⟨_, hframe, rfl, fun _ => ⟨tenths 9999 p.azimuthDeg / 10 - 360,
    tenths 9999 p.elevationDeg / 10 - 360, ?_, ?_⟩⟩
  · have hangle : number? (encodeAngle p.azimuthDeg) = some (tenths 9999 p.azimuthDeg) :=
      number?_encodeAngle (by omega)
    have hangle' : number? (encodeAngle p.elevationDeg) = some (tenths 9999 p.elevationDeg) :=
      number?_encodeAngle (by omega)
    change (match number? (encodeAngle p.azimuthDeg), number? (encodeAngle p.elevationDeg) with
      | some azimuth, some elevation =>
        some ((azimuth : ℚ) / 10 - 360, (elevation : ℚ) / 10 - 360)
      | _, _ => none) = _
    rw [hangle, hangle']
  · have hazimuth₁ : (1810 : ℚ) ≤ tenths 9999 p.azimuthDeg := by exact_mod_cast hazimuth
    have hazimuth₂ : (tenths 9999 p.azimuthDeg : ℚ) ≤ 8990 := by exact_mod_cast hazimuth'
    have helevation₁ : (3600 : ℚ) ≤ tenths 9999 p.elevationDeg := by exact_mod_cast helevation
    have helevation₂ : (tenths 9999 p.elevationDeg : ℚ) ≤ 4500 := by exact_mod_cast helevation'
    exact ⟨⟨by linarith, by linarith⟩, by linarith, by linarith⟩

end EarthStation.Rotator
