import EarthStation.CommandLine
import EarthStation.Proofs.Exchange
import EarthStation.Proofs.Rotator.Range

/-!
# Validation — what holds of a configuration that is accepted

* `ensure_eq_ok_iff`, `forM_eq_ok_iff`, `not_lt_iff_ordered`: when a check goes through.
* `Tunable`, `exists_text_of_hertz`, `exists_text_of_auxiliaryTarget`: what is read of the frequencies.
* `exists_settings_iff`: the tracking has settings just if all frequencies are read.
* `Validated`, `validate_eq_ok_iff`: what holds of a configuration that is accepted.
* `Validated.resolution_nonneg`: what the tracking takes over from it as its resolution.
* `standard_validated`, `validated_of_load`, `validated_of_command`: where configurations come from.
* `validation_law`: validation is sound, up to the ends of search bands that are no numbers.
-/

namespace EarthStation.Config

open Binary64 (Defined)

/-! ## Checks -/

theorem ensure_eq_ok_iff {condition : Bool} {flaw : Flaw} {u : Unit} :
    ensure condition flaw = .ok u ↔ condition = true := by
  cases condition with
  | false => exact ⟨nofun, nofun⟩
  | true => exact ⟨fun _ => rfl, fun _ => rfl⟩

theorem forM_eq_ok_iff {ε β : Type} {check : β → Except ε Unit} {l : List β} {u : Unit} :
    l.forM check = .ok u ↔ ∀ b ∈ l, check b = .ok u := by
  induction l with
  | nil => exact ⟨fun _ => by simp, fun _ => rfl⟩
  | cons b l ih =>
    have hcons : (b :: l).forM check = check b >>= fun _ => l.forM check := rfl
    rw [hcons, bind_eq_ok_iff, List.forall_mem_cons, ← ih]
    exact ⟨fun ⟨_, hb, hl⟩ => ⟨hb, hl⟩, fun ⟨hb, hl⟩ => ⟨u, hb, hl⟩⟩

/-- The ends of a band are in order, if both are numbers. -/
def Ordered (least greatest : Float) : Prop := Defined least → Defined greatest → least ≤ greatest

/-- The check of a band does not see ends that are no numbers. -/
theorem not_lt_iff_ordered {least greatest : Float} :
    ¬ greatest < least ↔ Ordered least greatest := by
  constructor
  · intro h hleast hgreatest
    exact (Binary64.not_lt_iff hgreatest hleast).mp h
  · intro h hlt
    obtain ⟨hgreatest, hleast, -⟩ := Binary64.lt_iff.mp hlt
    exact (Binary64.not_lt_iff hgreatest hleast).mpr (h hleast hgreatest) hlt

/-! ## Frequencies -/

/-- Holds of the frequencies that a device can be tuned to. -/
structure Tunable (hz : Float) : Prop where
  finite : hz.isFinite = true
  positive : 0.0 < hz

theorem tunable_of_text {text : String} {hz : Float} (h : Frequency.ofText? text = some hz) :
    Tunable hz := by
  unfold Frequency.ofText? at h
  obtain ⟨value, -, h⟩ := Option.bind_eq_some_iff.mp h
  obtain ⟨scale, -, h⟩ := Option.bind_eq_some_iff.mp h
  dsimp only at h
  split at h
  · rename_i hread
    obtain rfl := Option.some.inj h
    obtain ⟨hfinite, hpositive⟩ := Bool.and_eq_true_iff.mp hread
    exact ⟨hfinite, of_decide_eq_true hpositive⟩
  · cases h

/-- A frequency that is there was read of a text. -/
theorem exists_text_of_hertz {name : String} {text : Option String} {hz : Float}
    (h : FrequencySection.hertz name text = .ok (some hz)) :
    ∃ text, Frequency.ofText? text = some hz := by
  cases text with
  | none => cases h
  | some text =>
    unfold FrequencySection.hertz at h
    dsimp only at h
    split at h
    · rename_i hread
      cases h
      exact ⟨text, hread⟩
    · cases h

theorem tunable_of_hertz {name : String} {text : Option String} {hz? : Option Float}
    (h : FrequencySection.hertz name text = .ok hz?) : ∀ hz, hz? = some hz → Tunable hz := by
  rintro hz rfl
  obtain ⟨_, hread⟩ := exists_text_of_hertz h
  exact tunable_of_text hread

/-- The auxiliary frequency was read of a text, and the auxiliary position is within reach. -/
theorem exists_text_of_auxiliaryTarget {s : FrequencySection} {a : Tracking.Auxiliary Float}
    (h : s.auxiliaryTarget = .ok (some a)) :
    (∃ text, Frequency.ofText? text = some a.frequencyHz) ∧ a.position.InReach := by
  unfold FrequencySection.auxiliaryTarget at h
  split at h
  · cases h
  · split at h
    · cases h
    · rename_i hread
      split at h
      · rename_i hchecked
        cases h
        obtain ⟨hreach, rfl⟩ := Rotator.checked_eq_ok_iff.mp hchecked
        exact ⟨⟨_, hread⟩, hreach⟩
      · cases h

theorem sound_of_auxiliaryTarget {s : FrequencySection} {a : Tracking.Auxiliary Float}
    (h : s.auxiliaryTarget = .ok (some a)) : Tunable a.frequencyHz ∧ a.position.InReach := by
  obtain ⟨⟨_, hread⟩, hreach⟩ := exists_text_of_auxiliaryTarget h
  exact ⟨tunable_of_text hread, hreach⟩

/-- **The tracking has settings** just if all frequencies are read, and it is set to them. -/
theorem exists_settings_iff {c : Config} {uplinkHz downlinkHz : Option Float}
    {auxiliary : Option (Tracking.Auxiliary Float)} :
    (∃ s, c.settings = .ok s ∧
        s.uplinkHz = uplinkHz ∧ s.downlinkHz = downlinkHz ∧ s.auxiliary = auxiliary) ↔
      FrequencySection.hertz "uplink" c.frequencies.uplink = .ok uplinkHz ∧
        FrequencySection.hertz "downlink" c.frequencies.downlink = .ok downlinkHz ∧
        c.frequencies.auxiliaryTarget = .ok auxiliary := by
  constructor
  · rintro ⟨s, h, rfl, rfl, rfl⟩
    unfold settings at h
    obtain ⟨uplinkHz, hup, h⟩ := bind_eq_ok_iff.mp h
    obtain ⟨downlinkHz, hdown, h⟩ := bind_eq_ok_iff.mp h
    obtain ⟨auxiliary, haux, h⟩ := bind_eq_ok_iff.mp h
    obtain rfl := Except.ok.inj h
    exact ⟨hup, hdown, haux⟩
  · rintro ⟨hup, hdown, haux⟩
    unfold settings
    rw [hup, hdown, haux]
    exact ⟨_, rfl, rfl, rfl, rfl⟩

/-! ## The whole configuration -/

/-- What holds of a configuration that can be used. -/
structure Validated (c : Config) : Prop where
  site : ∃ site, c.station.site = .ok site ∧ -90.0 ≤ site.latitudeDeg ∧ site.latitudeDeg ≤ 90.0
  tick : 0 < c.tracking.tickNanos
  lockout : 1 ≤ c.tracking.lockoutTicks
  filter : 1 ≤ c.radio.filter ∧ c.radio.filter ≤ 3
  prepMinutes : 0.0 ≤ c.tracking.prepMinutes
  azimuthThreshold : 0.0 ≤ c.tracking.azimuthThresholdDeg
  elevationThreshold : 0.0 ≤ c.tracking.elevationThresholdDeg
  dopplerResolution : 0.0 ≤ c.tracking.dopplerResolutionHz
  horizonMinutes : 0.0 ≤ c.tracking.horizonMinutes
  altitude : Ordered c.search.minAltitudeKm c.search.maxAltitudeKm
  minutes : Ordered c.search.minMinutes c.search.maxMinutes
  elevation : Ordered c.search.minElevationDeg c.search.maxElevationDeg
  /-- The tracking has settings, with frequencies and an auxiliary position that the devices take. -/
  settings : ∃ s, c.settings = .ok s ∧ c.frequencies.auxiliaryTarget = .ok s.auxiliary ∧
    (∀ hz, s.uplinkHz = some hz ∨ s.downlinkHz = some hz → Tunable hz) ∧
    ∀ a, s.auxiliary = some a → Tunable a.frequencyHz ∧ a.position.InReach

theorem site_check_iff {site : Site} :
    Scalar.within site.latitudeDeg (-90.0) 90.0 = true ↔
      -90.0 ≤ site.latitudeDeg ∧ site.latitudeDeg ≤ 90.0 := by
  unfold Scalar.within
  rw [Bool.and_eq_true, decide_eq_true_iff, decide_eq_true_iff]

theorem amounts_check_iff {t : TrackingSection} :
    (∀ a ∈ amounts t, 0.0 ≤ a.2) ↔
      0.0 ≤ t.prepMinutes ∧ 0.0 ≤ t.azimuthThresholdDeg ∧ 0.0 ≤ t.elevationThresholdDeg ∧
        0.0 ≤ t.dopplerResolutionHz ∧ 0.0 ≤ t.horizonMinutes := by
  simp [amounts]

theorem bands_check_iff {s : PassSearch.Criteria Float} :
    (∀ b ∈ bands s, (!decide (b.2.2 < b.2.1)) = true) ↔
      Ordered s.minAltitudeKm s.maxAltitudeKm ∧ Ordered s.minMinutes s.maxMinutes ∧
        Ordered s.minElevationDeg s.maxElevationDeg := by
  simp [bands, not_lt_iff_ordered]

/-- The check goes through just if the configuration can be used. -/
theorem validate_eq_ok_iff {c : Config} : c.validate = .ok () ↔ Validated c := by
  unfold validate
  simp only [bind_eq_ok_iff, ensure_eq_ok_iff, forM_eq_ok_iff, exists_const, site_check_iff,
    bands_check_iff, bne_iff_ne, decide_eq_true_iff, amounts_check_iff]
  constructor
  · rintro ⟨site, hsite, hlatitude, htick, hlockout, hfilter, hamounts, hbands, uplinkHz, hup,
      downlinkHz, hdown, auxiliary, haux, -⟩
    obtain ⟨hprep, hazimuth, helevation, hresolution, hhorizon⟩ := hamounts
    obtain ⟨s, hs, rfl, rfl, rfl⟩ := exists_settings_iff.mpr ⟨hup, hdown, haux⟩
    have htunable (hz : Float) (h : s.uplinkHz = some hz ∨ s.downlinkHz = some hz) : Tunable hz :=
      h.elim (tunable_of_hertz hup hz) (tunable_of_hertz hdown hz)
    have hsound (a : Tracking.Auxiliary Float) (h : s.auxiliary = some a) :
        Tunable a.frequencyHz ∧ a.position.InReach :=
      sound_of_auxiliaryTarget (h ▸ haux)
    exact ⟨⟨site, hsite, hlatitude⟩, Nat.pos_of_ne_zero htick, Nat.pos_of_ne_zero hlockout, hfilter,
      hprep, hazimuth, helevation, hresolution, hhorizon, hbands.1, hbands.2.1, hbands.2.2,
      s, hs, haux, htunable, hsound⟩
  · intro h
    obtain ⟨site, hsite, hlatitude⟩ := h.site
    obtain ⟨s, hs, -⟩ := h.settings
    obtain ⟨hup, hdown, haux⟩ := exists_settings_iff.mp ⟨s, hs, rfl, rfl, rfl⟩
    exact ⟨site, hsite, hlatitude, h.tick.ne', Nat.ne_of_gt h.lockout, h.filter,
      ⟨h.prepMinutes, h.azimuthThreshold, h.elevationThreshold, h.dopplerResolution,
        h.horizonMinutes⟩, ⟨h.altitude, h.minutes, h.elevation⟩,
      s.uplinkHz, hup, s.downlinkHz, hdown, s.auxiliary, haux, rfl⟩

/-- The tracking never asks for a resolution below zero. -/
theorem Validated.resolution_nonneg {c : Config} (h : Validated c) {s : Tracking.Settings Float}
    (hs : c.settings = .ok s) : 0 ≤ s.dopplerResolutionHz := by
  unfold Config.settings at hs
  obtain ⟨uplinkHz, -, hs⟩ := bind_eq_ok_iff.mp hs
  obtain ⟨downlinkHz, -, hs⟩ := bind_eq_ok_iff.mp hs
  obtain ⟨auxiliary, -, hs⟩ := bind_eq_ok_iff.mp hs
  obtain rfl := Except.ok.inj hs
  have hzero : (0 : Float) = 0.0 := rfl
  rw [hzero]
  exact h.dopplerResolution

/-- The values that stand where none are given can be used. -/
theorem standard_validated : Validated standard :=
  validate_eq_ok_iff.mp (eq_ok_of_isOk (by decide +kernel))

theorem validated_of_load {read : String → Option Config} {text : String} {c : Config}
    (h : load read text = .ok c) : Validated c := by
  unfold load at h
  split at h
  · cases h
  · obtain ⟨_, hchecked, rfl⟩ := map_eq_ok_iff.mp h
    exact validate_eq_ok_iff.mp (mapError_eq_ok_iff.mp hchecked)

theorem validated_of_command {command : CommandLine.Command} {c c' : Config}
    (h : command.configure c = .ok c') : Validated c' := by
  -- whatever the command, its options are applied first
  have happlied : ∃ applied : Config, (applied.validate >>= fun _ => pure applied) = .ok c' := by
    unfold CommandLine.Command.configure at h
    cases command <;> exact (bind_eq_ok_iff.mp h).imp fun _ h => h.2
  obtain ⟨applied, h⟩ := happlied
  obtain ⟨_, hchecked, h⟩ := bind_eq_ok_iff.mp h
  obtain rfl : applied = c' := Except.ok.inj h
  exact validate_eq_ok_iff.mp hchecked

/-- **Validation is sound.**  A configuration is accepted just if it can be used, and no other is loaded from
a text, whatever reads it, or comes of the options of a command.  The ends of its search bands are in
order, if both are numbers. -/
theorem validation_law (c : Config) :
    (c.validate = .ok () ↔ Validated c) ∧
      (∀ (read : String → Option Config) (text : String), load read text = .ok c → Validated c) ∧
      ∀ (command : CommandLine.Command) (c₀ : Config), command.configure c₀ = .ok c → Validated c :=
  ⟨validate_eq_ok_iff, fun _ _ h => validated_of_load h, fun _ _ h => validated_of_command h⟩

/-- The standard values with a lower end of the elevations that is no number. -/
def unordered : Config := { standard with search := { standard.search with minElevationDeg := 0 / 0 } }

/-- A band whose lower end is no number is accepted, although its ends are not in order. -/
theorem unordered_band_accepted :
    unordered.validate = .ok () ∧
      ¬ unordered.search.minElevationDeg ≤ unordered.search.maxElevationDeg :=
  ⟨eq_ok_of_isOk (by decide +kernel), by decide +kernel⟩

end EarthStation.Config
