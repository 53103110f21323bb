import EarthStation.Proofs.Config.Validation
import EarthStation.Proofs.Radio.Books
import EarthStation.Proofs.Radio.Codec
import EarthStation.Tracking.Controller

/-!
# Frequencies — which accepted frequencies a radio can be tuned to

* `Binary64.exists_natural_of_round`: what is rounded and not negative is a natural number.
* `Radio.Carried`, `Radio.carried_iff`: whole hertz are carried by a frame if they have ten digits.
* `Radio.Link.tune_of_refused`, `Tracking.Controller.retune_of_refused`: a radio is tuned to no others,
  however often that is tried.
* `Tracking.Settings.Names`, `Config.whole_of_names`: the frequencies of a configuration are whole hertz.
* `Config.Unheard`: what becomes of the others.
* `Config.frequencies_law`: the frequencies that are accepted are carried up to ten digits.
* `Config.eleven_digits_accepted`: one digit more is accepted and not carried.
-/

namespace EarthStation

/-! ## Whole hertz -/

namespace Binary64

/-- What is rounded and not negative is a natural number. -/
theorem exists_natural_of_round {x : Float} (hx : (Binary64.round x).isFinite = true)
    (h : 0 ≤ value (Binary64.round x)) : ∃ n : ℕ, value (Binary64.round x) = n := by
  cases hdecode : decode x with
  | undefined =>
    have hsame : Binary64.round x = x := by simp [Binary64.round, hdecode]
    obtain ⟨_, _, _, hfinite, -⟩ := decode_finite (hsame ▸ hx)
    rw [hdecode] at hfinite
    cases hfinite
  | infinite negative =>
    have hsame : Binary64.round x = x := by simp [Binary64.round, hdecode]
    obtain ⟨_, _, _, hfinite, -⟩ := decode_finite (hsame ▸ hx)
    rw [hdecode] at hfinite
    cases hfinite
  | finite negative m e =>
    by_cases he : 0 ≤ e
    · -- what has no fraction stays as it is
      have hsame : Binary64.round x = x := by simp [Binary64.round, hdecode, he]
      rw [hsame] at hx h ⊢
      obtain ⟨_, m', e', hfinite, hvalue, -⟩ := decode_nonneg hx h
      rw [hdecode] at hfinite
      cases hfinite
      obtain ⟨k, rfl⟩ := Int.eq_ofNat_of_zero_le he
      exact ⟨m * 2 ^ k, by rw [hvalue]; push_cast; simp⟩
    · have hround : Binary64.round x = encode negative ⌊(m : ℚ) * 2 ^ e + 1 / 2⌋₊ 0 := by
        unfold Binary64.round
        rw [hdecode]
        dsimp only
        rw [if_neg he, halfUp_fraction]
      have hless : (m : ℚ) * 2 ^ e ≤ m :=
        mul_le_of_le_one_right (Nat.cast_nonneg m) (zpow_le_one_of_nonpos₀ one_le_two (by omega))
      have hsmall := (floor_half_le hless).trans_lt (mantissa_lt hdecode)
      have hnear := near_encode negative ⌊(m : ℚ) * 2 ^ e + 1 / 2⌋₊ 0
      rw [zpow_zero, mul_one, ← hround] at hnear
      cases negative with
      | false => exact ⟨_, (Near.natural hnear hsmall).1⟩
      | true =>
        refine ⟨0, le_antisymm ?_ (by exact_mod_cast h)⟩
        have hnegative : signed (signOf true) (⌊(m : ℚ) * 2 ^ e + 1 / 2⌋₊ : ℚ) ≤ 0 := by
          simp [signOf, signed]
        exact_mod_cast hnear.le 0 dyadic_zero (by linarith [beyond_pos]) hnegative

end Binary64

/-! ## Frequencies in frames -/

namespace Radio

open Binary64 (value)
open Wire (Bytes Line Peer)

/-- Holds of the frequencies that a frame carries and that are read from it as they are. -/
def Carried (hz : Float) : Prop :=
  ∃ bytes, encodeFrequency hz = .ok bytes ∧
    ∃ f : Float, decodeFrequency bytes = .ok f ∧ (f == hz) = true

/-- Holds of the frequencies that are a natural number of hertz, and not none. -/
structure Whole (hz : Float) : Prop where
  finite : hz.isFinite = true
  positive : 0 < value hz
  natural : ∃ n : ℕ, value hz = n

/-- Whole hertz are carried if they are encoded: rounding does not change them. -/
theorem carried_iff_encoded {hz : Float} (h : Whole hz) :
    Carried hz ↔ ∃ bytes, (encodeFrequency hz : Except (Fault Float) Bytes) = .ok bytes := by
  constructor
  · rintro ⟨bytes, hwritten, -⟩
    exact ⟨bytes, hwritten⟩
  · rintro ⟨bytes, hwritten⟩
    obtain ⟨n, hn⟩ := h.natural
    obtain ⟨f, hread, hsame, hvalue⟩ := frequencyExact.readBack hz bytes hwritten
    refine ⟨bytes, hwritten, f, hread, Binary64.beq_iff.mpr ⟨(Binary64.beq_iff.mp hsame).1,
      Binary64.defined_of_finite h.finite, ?_⟩⟩
    rw [hvalue, hn, Binary64.floor_half_natural]

/-- **Whole hertz are carried** just if they have at most ten digits. -/
theorem carried_iff {hz : Float} (h : Whole hz) : Carried hz ↔ hz < (10000000000 : Float) := by
  have hbound : (10000000000 : Float) = Scalar.natural 10000000000 := rfl
  obtain ⟨n, hn⟩ := h.natural
  have hless : hz < (10000000000 : Float) ↔ n < 10 ^ 10 := by
    rw [hbound, Binary64.lt_iff, Binary64.value_natural (by norm_num), hn]
    constructor
    · rintro ⟨-, -, hlt⟩
      exact_mod_cast hlt
    · intro hlt
      exact ⟨Binary64.defined_of_finite h.finite, (Binary64.near_natural _).defined,
        by exact_mod_cast hlt⟩
  have hfloor : ⌊value hz + 1 / 2⌋₊ = n := by rw [hn, Binary64.floor_half_natural]
  rw [hless, carried_iff_encoded h]
  constructor
  · rintro ⟨bytes, hwritten⟩
    obtain ⟨⟨-, -, hdigits⟩, -⟩ := encodeFrequency_eq_ok_iff.mp hwritten
    rwa [hfloor] at hdigits
  · intro hlt
    exact ⟨_, encodeFrequency_eq_ok_iff.mpr ⟨⟨h.finite, h.positive.le, hfloor ▸ hlt⟩, rfl⟩⟩

/-- A frequency that is not encoded is named in the fault. -/
theorem encodeFrequency_error {α : Type} [Scalar α] {hz : α} {e : Fault α}
    (h : encodeFrequency hz = .error e) : e = .value hz := by
  unfold encodeFrequency at h
  split at h
  · revert h
    cases (Bcd.encode .reverse frequencyBytes (Scalar.nearestIn 0 (UInt64.size - 1 : Nat) hz).toNat :
      Except (Fault α) Bytes) with
    | error e' => exact fun h => (Except.error.inj h).symm
    | ok bytes => exact nofun
  · exact (Except.error.inj h).symm

theorem encodeFrequency_of_not_carried {hz : Float} (h : Whole hz) (hnot : ¬ Carried hz) :
    encodeFrequency hz = .error (.value hz) := by
  cases hencode : (encodeFrequency hz : Except (Fault Float) Bytes) with
  | error e => rw [encodeFrequency_error hencode]
  | ok bytes => exact absurd ((carried_iff_encoded h).mpr ⟨bytes, hencode⟩) hnot

/-! ## Frequencies that a radio is not tuned to -/

namespace Link

variable {δ α : Type} [Peer δ] [Scalar α]

/-- A tuning fails if its frequency cannot be encoded, and the radio keeps the one that it has. -/
theorem tune_of_refused {hz : α} {e : Fault α} (h : encodeFrequency hz = .error e) (v : Vfo)
    (l : Link δ α) :
    ∃ e' l', tune v hz l = (.error e', l') ∧ l'.lastCommandedHz = l.lastCommandedHz := by
  rw [tune_eq]
  rcases goTo_books v l with ⟨e', l', hgo, hbooks⟩ | ⟨-, l', hgo, hbooks⟩
  · exact ⟨e', l', Exchange.run_bind_of_error hgo, congrArg Books.commandedHz hbooks⟩
  · refine ⟨e, l', ?_, congrArg Books.commandedHz hbooks⟩
    rw [Exchange.run_bind_of_ok hgo]
    exact Exchange.run_bind_of_error (setFrequency_of_error h l')

end Link

end Radio

namespace Tracking

open Wire (Peer)

/-- A channel whose frequency cannot be encoded never has it recorded, so it is tried again. -/
theorem Controller.retune_of_refused {δ α : Type} [Peer δ] [Scalar α] {hz : α} {e : Radio.Fault α}
    (h : Radio.encodeFrequency hz = .error e) (resolutionHz : α) (channel : Channel α)
    (radio : Equipment (Radio.Link δ α)) :
    (Controller.retune resolutionHz hz channel radio).1 = channel := by
  unfold retune
  split
  · cases radio with
    | connected l =>
      obtain ⟨e', l', htune, -⟩ := Radio.Link.tune_of_refused h channel.vfo l
      simp only [Equipment.use, Radio.Device.tune, htune]
    | _ => rfl
  · rfl

/-- The frequencies that the tracking is set to. -/
def Settings.Names {α : Type} (s : Settings α) (hz : α) : Prop :=
  s.uplinkHz = some hz ∨ s.downlinkHz = some hz ∨ ∃ a, s.auxiliary = some a ∧ a.frequencyHz = hz

end Tracking

/-! ## Frequencies in configurations -/

namespace Config

open Binary64 (value)
open Radio (Carried Vfo Whole)
open Wire (Peer)

theorem whole_of_text {text : String} {hz : Float} (h : Frequency.ofText? text = some hz) :
    Whole hz := by
  obtain ⟨hfinite, hpositive⟩ := tunable_of_text h
  have hpositive' : 0 < value hz := by
    obtain ⟨-, -, hlt⟩ := Binary64.lt_iff.mp hpositive
    rwa [Binary64.value_zero.2] at hlt
  unfold Frequency.ofText? at h
  obtain ⟨amount, -, h⟩ := Option.bind_eq_some_iff.mp h
  obtain ⟨scale, -, h⟩ := Option.bind_eq_some_iff.mp h
  dsimp only at h
  split at h
  · obtain rfl := Option.some.inj h
    exact ⟨hfinite, hpositive', Binary64.exists_natural_of_round hfinite hpositive'.le⟩
  · cases h

/-- **The frequencies of a configuration are whole hertz.** -/
theorem whole_of_names {c : Config} {s : Tracking.Settings Float} (h : c.settings = .ok s) {hz : Float}
    (hnames : s.Names hz) : Whole hz := by
  obtain ⟨hup, hdown, haux⟩ := exists_settings_iff.mp ⟨s, h, rfl, rfl, rfl⟩
  have hread : ∃ text, Frequency.ofText? text = some hz := by
    rcases hnames with huplink | hdownlink | ⟨a, hauxiliary, rfl⟩
    · exact exists_text_of_hertz (hup.trans (congrArg _ huplink))
    · exact exists_text_of_hertz (hdown.trans (congrArg _ hdownlink))
    · exact (exists_text_of_auxiliaryTarget (haux.trans (congrArg _ hauxiliary))).1
  obtain ⟨text, hread⟩ := hread
  exact whole_of_text hread

/-- A radio is not tuned to a frequency, however often that is tried. -/
structure Unheard (hz : Float) : Prop where
  /-- A tuning fails, and the radio keeps the frequency that it has. -/
  link {δ : Type} [Peer δ] (v : Vfo) (l : Radio.Link δ Float) :
    ∃ e l', Radio.Link.tune v hz l = (.error e, l') ∧ l'.lastCommandedHz = l.lastCommandedHz
  /-- It is not recorded, so that the next tick tries it again. -/
  channel {δ : Type} [Peer δ] (resolutionHz : Float) (channel : Tracking.Channel Float)
    (radio : Tracking.Equipment (Radio.Link δ Float)) :
    (Tracking.Controller.retune resolutionHz hz channel radio).1 = channel

theorem unheard_of_not_carried {hz : Float} (h : Whole hz) (hnot : ¬ Carried hz) : Unheard hz where
  link := Radio.Link.tune_of_refused (Radio.encodeFrequency_of_not_carried h hnot)
  channel := Tracking.Controller.retune_of_refused (Radio.encodeFrequency_of_not_carried h hnot)

/-- **The law of the frequencies.**  A configuration that is accepted gives settings to the tracking, and
the frequencies that these name are carried by a frame as they are, up to ten digits.  To others the
radio is never tuned. -/
theorem frequencies_law (c : Config) (h : c.validate = .ok ()) :
    ∃ s, c.settings = .ok s ∧ ∀ hz, s.Names hz →
      (Carried hz ↔ hz < (10000000000 : Float)) ∧ (¬ Carried hz → Unheard hz) := by
  obtain ⟨s, hs, -⟩ := (validate_eq_ok_iff.mp h).settings
  refine ⟨s, hs, fun hz hnames => ?_⟩
  have hwhole := whole_of_names hs hnames
  exact ⟨Radio.carried_iff hwhole, unheard_of_not_carried hwhole⟩

/-- The standard values with an uplink of nine digits and a downlink of eleven. -/
def elevenDigits : Config :=
  { standard with
    frequencies := { standard.frequencies with uplink := some "145.9 MHz", downlink := some "10 GHz" } }

theorem elevenDigits_settings : ∃ s, elevenDigits.settings = .ok s ∧ s.uplinkHz = some 145900000 ∧
    s.downlinkHz = some 10000000000 := by
  have hread : elevenDigits.settings.toOption.any (fun s =>
      decide (s.uplinkHz = some 145900000 ∧ s.downlinkHz = some 10000000000)) = true := by
    decide +kernel
  cases hs : elevenDigits.settings with
  | error flaw =>
    rw [hs] at hread
    cases hread
  | ok s =>
    rw [hs] at hread
    exact ⟨s, rfl, of_decide_eq_true hread⟩

theorem elevenDigits_validated : elevenDigits.validate = .ok () := eq_ok_of_isOk (by decide +kernel)

theorem frequencies_law_elevenDigits : elevenDigits.validate = .ok () ∧ ∃ s,
    elevenDigits.settings = .ok s ∧ (∃ hz, s.uplinkHz = some hz ∧ Carried hz) ∧
      ∃ hz, s.downlinkHz = some hz ∧ ¬ Carried hz ∧ Unheard hz := by
  obtain ⟨s, hs, hup, hdown⟩ := elevenDigits_settings
  obtain ⟨s', hs', hlaw⟩ := frequencies_law elevenDigits elevenDigits_validated
  obtain rfl := Except.ok.inj (hs.symm.trans hs')
  obtain ⟨hup', -⟩ := hlaw _ (.inl hup)
  obtain ⟨hdown', hunheard⟩ := hlaw _ (.inr (.inl hdown))
  have hnot : ¬ Carried 10000000000 := mt hdown'.mp (by decide +kernel)
  exact ⟨elevenDigits_validated, s, hs, ⟨_, hup, hup'.mpr (by decide +kernel)⟩, _, hdown, hnot,
    hunheard hnot⟩

/-- A frequency of eleven digits is accepted, and no frame carries it. -/
theorem eleven_digits_accepted : elevenDigits.validate = .ok () ∧ ∃ s,
    elevenDigits.settings = .ok s ∧ s.downlinkHz = some 10000000000 ∧
      Radio.encodeFrequency (10000000000 : Float) = .error (.value 10000000000) := by
  obtain ⟨s, hs, -, hdown⟩ := elevenDigits_settings
  have hwhole := whole_of_names hs (.inr (.inl hdown))
  exact ⟨elevenDigits_validated, s, hs, hdown, Radio.encodeFrequency_of_not_carried hwhole
    (mt (Radio.carried_iff hwhole).mp (by decide +kernel))⟩

end Config

end EarthStation
