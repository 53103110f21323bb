import EarthStation.Proofs.Tracking.Coherence
import EarthStation.Proofs.Tracking.Tape

/-!
# Tuning — what a step tells the radio

* `Channel.tuning`, `retune_spec`: one channel is tuned by one call at most, and remembers it.
* `Carrier`, `Controller.Serves`, `Controller.turn`: what the radio is tuned for, when a carrier is in
  use, and the radio when it is its turn.
* `Controller.tunings`: the calls for a carrier.
* `Told`, `commandRadio_told`: commanding the radio makes these calls, one carrier after another.
* `step_radio`: so does a step that goes through, and one that fails makes no call.
-/

namespace EarthStation

namespace Radio.Record

variable {α : Type}

/-- The last frequency that was tuned to with success, when it was `last` before the call. -/
def tuned (last : Option α) : Record α → Option α
  | tune _ hz (some _) => some hz
  | _ => last

end Radio.Record

namespace Tracking

open Radio (Record)

/-! ## One channel -/

section Channel

variable {α κ : Type} [Scalar α] [Radio.Device κ α]

namespace Channel

/-- The call that tunes the radio to a frequency of a channel, with its answer.  There is none if the
radio is not there, or if the frequency is near the last one. -/
def tuning (resolutionHz hz : α) (channel : Channel α) (radio : Equipment (Taped κ (Record α))) :
    List (Record α) :=
  if channel.needsRetune hz resolutionHz && radio.isAvailable then
    [.tune channel.vfo hz (radio.use Radio.Fault.isDisconnect (Radio.Device.tune channel.vfo hz)).1]
  else []

omit [Radio.Device κ α] in
theorem needsRetune_iff {channel : Channel α} {hz resolutionHz : α} :
    channel.needsRetune hz resolutionHz = true ↔
      ∀ last, channel.lastCommandedHz = some last → resolutionHz < Scalar.abs (hz - last) := by
  unfold needsRetune
  cases channel.lastCommandedHz <;> simp

end Channel

/-- What becomes of a channel, if there is one, by the calls for it. -/
structure Tuned (calls : List (Record α)) (before after : Option (Channel α)) : Prop where
  lastCommandedHz : after.bind (·.lastCommandedHz) =
    calls.foldl Record.tuned (before.bind (·.lastCommandedHz))
  reset : after.map Channel.reset = before.map Channel.reset

omit [Scalar α] [Radio.Device κ α] in
theorem Tuned.refl (channel : Option (Channel α)) : Tuned [] channel channel := ⟨rfl, rfl⟩

namespace Controller

/-- **A channel is tuned by one call at most**, and remembers the frequency if that succeeds. -/
theorem retune_spec (resolutionHz hz : α) (channel : Channel α)
    (radio : Equipment (Taped κ (Record α))) :
    (retune resolutionHz hz channel radio).2.calls =
        radio.calls ++ channel.tuning resolutionHz hz radio ∧
      Tuned (channel.tuning resolutionHz hz radio) (some channel)
        (some (retune resolutionHz hz channel radio).1) := by
  unfold retune Channel.tuning
  cases channel.needsRetune hz resolutionHz with
  | false => exact ⟨(List.append_nil _).symm, .refl _⟩
  | true =>
    rcases hu : radio.use Radio.Fault.isDisconnect (Radio.Device.tune channel.vfo hz) with
      ⟨answer, radio'⟩
    have hcalls := Equipment.calls_of_use (Record.tune channel.vfo hz) hu
    cases answer with
    | none =>
      refine ⟨hcalls, ?_, rfl⟩
      cases radio.isAvailable <;> rfl
    | some confirmed =>
      have ha : radio.isAvailable = true :=
        Equipment.isAvailable_before_use hu (Equipment.isAvailable_of_use hu)
      refine ⟨hcalls, ?_, rfl⟩
      rw [ha]
      rfl

/-- The same of a channel that may not be configured. -/
theorem retuneIfSet_spec (resolutionHz : α) (hz : Channel α → α) (channel : Option (Channel α))
    (radio : Equipment (Taped κ (Record α))) :
    let calls := channel.elim [] fun ch => ch.tuning resolutionHz (hz ch) radio
    (retuneIfSet resolutionHz hz channel radio).2.calls = radio.calls ++ calls ∧
      Tuned calls channel (retuneIfSet resolutionHz hz channel radio).1 := by
  cases channel with
  | none => exact ⟨(List.append_nil _).symm, .refl _⟩
  | some ch => exact retune_spec resolutionHz (hz ch) ch radio

/-- A radio that is there after a channel was tuned was there before. -/
theorem isAvailable_before_retune {resolutionHz : α} {hz : Channel α → α}
    {channel : Option (Channel α)} {radio : Equipment κ}
    (h : (retuneIfSet resolutionHz hz channel radio).2.isAvailable = true) :
    radio.isAvailable = true := by
  cases channel with
  | none => exact h
  | some ch =>
    unfold retuneIfSet retune at h
    dsimp only at h
    split at h
    · rcases hu : radio.use Radio.Fault.isDisconnect (Radio.Device.tune ch.vfo (hz ch)) with
        ⟨_ | confirmed, radio'⟩
      · rw [hu] at h
        exact Equipment.isAvailable_before_use hu h
      · rw [hu] at h
        exact Equipment.isAvailable_before_use hu h
    · exact h

end Controller

end Channel

/-! ## All channels -/

/-- What the radio is tuned for: one of the two directions, or the auxiliary frequency. -/
inductive Carrier where
  | signal (direction : Direction)
  | reference

/-- The frequency that a channel is to be kept on. -/
def Carrier.wanted {α : Type} [Scalar α] (rangeRateKmS : α) (channel : Channel α) : Carrier → α
  | signal _ => channel.shifted rangeRateKmS
  | reference => channel.nominalHz

namespace Controller

variable {τ α ρ κ : Type}

def channel (c : Controller τ α ρ κ) : Carrier → Option (Channel α)
  | .signal .uplink => c.uplink
  | .signal .downlink => c.downlink
  | .reference => c.reference

/-- The frequency that the radio was last told for a carrier, as its channel remembers it. -/
def lastTuned (c : Controller τ α ρ κ) (k : Carrier) : Option α :=
  (c.channel k).bind (·.lastCommandedHz)

/-- The carrier is in use: the auxiliary frequency after it was chosen, and otherwise both directions
while a pass is near. -/
def Serves (c : Controller τ α ρ κ) (k : Carrier) : Prop :=
  c.session.engaged = true ∧
    match k with
    | .signal _ => c.session.auxiliary = false ∧ (c.session.phase = .armed ∨ c.session.phase = .tracking)
    | .reference => c.session.auxiliary = true

instance (c : Controller τ α ρ κ) (k : Carrier) : Decidable (c.Serves k) :=
  match k with
  | .signal _ => inferInstanceAs (Decidable (_ ∧ _ ∧ (_ ∨ _)))
  | .reference => inferInstanceAs (Decidable (_ ∧ _))

variable [Scalar α]

/-- The radio when it is the turn of a carrier. -/
def turn [Radio.Device κ α] (rangeRateKmS : α) (c : Controller τ α ρ κ) : Carrier → Equipment κ
  | .signal .uplink => (enterSatelliteMode c).radio
  | .signal .downlink =>
    (retuneIfSet c.settings.dopplerResolutionHz (·.shifted rangeRateKmS) c.uplink
      (enterSatelliteMode c).radio).2
  | .reference => c.radio

/-- The calls for a carrier. -/
def tunings [Radio.Device κ α] (rangeRateKmS : α) (c : Controller τ α ρ (Taped κ (Record α)))
    (k : Carrier) : List (Record α) :=
  if c.Serves k then
    (c.channel k).elim [] fun ch =>
      ch.tuning c.settings.dopplerResolutionHz (k.wanted rangeRateKmS ch) (c.turn rangeRateKmS k)
  else []

section Calls

variable [Radio.Device κ α] {rangeRateKmS : α} {c : Controller τ α ρ (Taped κ (Record α))}

theorem tunings_of_serves (rangeRateKmS : α) {k : Carrier} (h : c.Serves k) :
    c.tunings rangeRateKmS k = (c.channel k).elim [] fun ch =>
      ch.tuning c.settings.dopplerResolutionHz (k.wanted rangeRateKmS ch) (c.turn rangeRateKmS k) :=
  if_pos h

theorem tunings_of_not_serves {k : Carrier} (h : ¬ c.Serves k) : c.tunings rangeRateKmS k = [] :=
  if_neg h

/-- A radio that is not there is not tuned. -/
theorem tunings_of_unavailable {k : Carrier} (h : (c.turn rangeRateKmS k).isAvailable = false) :
    c.tunings rangeRateKmS k = [] := by
  unfold tunings
  split
  · cases c.channel k with
    | none => rfl
    | some ch =>
      dsimp only [Option.elim]
      unfold Channel.tuning
      rw [h, Bool.and_false]
      rfl
  · rfl

omit [Scalar α] in
/-- The satellite mode is switched on first, if that has not been done. -/
theorem enterSatelliteMode_calls (c : Controller τ α ρ (Taped κ (Record α))) :
    ∃ switching, (∀ r ∈ switching, ∃ done, r = .satelliteMode true done) ∧
      (enterSatelliteMode c).radio.calls = c.radio.calls ++ switching := by
  unfold enterSatelliteMode
  split
  · exact ⟨[], by simp, (List.append_nil _).symm⟩
  · rcases hu : c.radio.use Radio.Fault.isDisconnect (Radio.Device.setSatelliteMode true) with
      ⟨answer, radio⟩
    have hcalls := Equipment.calls_of_use (fun answer => Record.satelliteMode true answer.isSome) hu
    refine ⟨_, fun r hr => ?_, hcalls⟩
    split at hr
    · exact ⟨_, List.mem_singleton.mp hr⟩
    · exact absurd hr List.not_mem_nil

omit [Scalar α] in
theorem enterSatelliteMode_available {c : Controller τ α ρ κ}
    (h : (enterSatelliteMode c).radio.isAvailable = true) : c.radio.isAvailable = true := by
  unfold enterSatelliteMode at h
  split at h
  · exact h
  · rcases hu : c.radio.use Radio.Fault.isDisconnect (Radio.Device.setSatelliteMode true) with
      ⟨answer, radio⟩
    rw [hu] at h
    exact Equipment.isAvailable_before_use hu h

/-- A radio that is there at the turn of a carrier was there before. -/
theorem available_of_turn {c : Controller τ α ρ κ} {k : Carrier}
    (h : (c.turn rangeRateKmS k).isAvailable = true) : c.radio.isAvailable = true := by
  match k with
  | .reference => exact h
  | .signal .uplink => exact enterSatelliteMode_available h
  | .signal .downlink => exact enterSatelliteMode_available (isAvailable_before_retune h)

omit [Scalar α] [Radio.Device κ α] in
theorem not_serves_signal {c : Controller τ α ρ κ} (h : c.Serves .reference) (d : Direction) :
    ¬ c.Serves (.signal d) := by
  intro h'
  exact absurd (h.2.symm.trans h'.2.1) (by simp)

omit [Scalar α] [Radio.Device κ α] in
/-- What the radio has to do tells which carriers are in use, as long as it is there. -/
theorem errand_cases (c : Controller τ α ρ κ) :
    (c.errand = .nothing ∧ (c.radio.isAvailable = true → ∀ k, ¬ c.Serves k)) ∨
      (c.errand = .reference ∧ c.Serves .reference) ∨
      (c.errand = .channels ∧ ∀ d, c.Serves (.signal d)) := by
  unfold errand Serves
  cases c.radio.isAvailable with
  | false => exact .inl ⟨rfl, nofun⟩
  | true =>
    cases c.session.engaged with
    | false => exact .inl ⟨rfl, fun _ k h => absurd h.1 (by simp)⟩
    | true =>
      cases c.session.auxiliary with
      | true => exact .inr (.inl ⟨rfl, rfl, rfl⟩)
      | false =>
        cases c.session.phase with
        | armed => exact .inr (.inr ⟨rfl, fun _ => ⟨rfl, rfl, .inl rfl⟩⟩)
        | tracking => exact .inr (.inr ⟨rfl, fun _ => ⟨rfl, rfl, .inr rfl⟩⟩)
        | idle => exact .inl ⟨rfl, fun _ k h => by cases k <;> simp at h⟩
        | coolingDown => exact .inl ⟨rfl, fun _ k h => by cases k <;> simp at h⟩

end Calls

/-- What a step tells the radio, from the state in which it is to be commanded to the one after it. -/
structure Told [Radio.Device κ α] (rangeRateKmS : α) (c c' : Controller τ α ρ (Taped κ (Record α))) :
    Prop where
  /-- The satellite mode is switched on at first, if at all, and then the carriers are tuned to. -/
  calls : ∃ switching, (∀ r ∈ switching, ∃ done, r = .satelliteMode true done) ∧
    c'.radio.calls = c.radio.calls ++ switching ++ c.tunings rangeRateKmS (.signal .uplink) ++
      c.tunings rangeRateKmS (.signal .downlink) ++ c.tunings rangeRateKmS .reference
  tuned : ∀ k, Tuned (c.tunings rangeRateKmS k) (c.channel k) (c'.channel k)
  available : c'.radio.isAvailable = true → ∀ k, c.Serves k →
    (c.turn rangeRateKmS k).isAvailable = true

/-- **Commanding the radio** makes the calls for the carriers, and their channels remember them. -/
theorem commandRadio_told [Radio.Device κ α] (rangeRateKmS : α)
    (c : Controller τ α ρ (Taped κ (Record α))) : Told rangeRateKmS c (commandRadio rangeRateKmS c) := by
  rw [commandRadio_eq]
  obtain ⟨he, hnone⟩ | ⟨he, hserves⟩ | ⟨he, hserves⟩ := errand_cases c
  · rw [he]
    have hno (k : Carrier) : c.tunings rangeRateKmS k = [] := by
      cases ha : (c.turn rangeRateKmS k).isAvailable with
      | false => exact tunings_of_unavailable ha
      | true => exact tunings_of_not_serves (hnone (available_of_turn ha) k)
    refine ⟨⟨[], by simp, by simp [hno]⟩, fun k => ?_, fun ha k h => absurd h (hnone ha k)⟩
    rw [hno k]
    exact .refl _
  · rw [he]
    obtain ⟨hcalls, htuned⟩ :=
      retuneIfSet_spec c.settings.dopplerResolutionHz (·.nominalHz) c.reference c.radio
    have hreference := tunings_of_serves rangeRateKmS hserves
    have hsignal (d : Direction) : c.tunings rangeRateKmS (.signal d) = [] :=
      tunings_of_not_serves (not_serves_signal hserves d)
    refine ⟨⟨[], by simp, ?_⟩, fun k => ?_, fun ha k h => ?_⟩
    · rw [hsignal, hsignal, hreference, List.append_nil, List.append_nil, List.append_nil]
      exact hcalls
    · match k with
      | .reference => exact hreference ▸ htuned
      | .signal .uplink => exact hsignal _ ▸ .refl _
      | .signal .downlink => exact hsignal _ ▸ .refl _
    · match k with
      | .reference => exact isAvailable_before_retune ha
      | .signal d => exact absurd h (not_serves_signal hserves d)
  · rw [he]
    obtain ⟨switching, hon, hswitched⟩ := enterSatelliteMode_calls c
    obtain ⟨hsettings, huplink, hdownlink, hreference⟩ : (enterSatelliteMode c).settings = c.settings ∧
        (enterSatelliteMode c).uplink = c.uplink ∧ (enterSatelliteMode c).downlink = c.downlink ∧
        (enterSatelliteMode c).reference = c.reference := by
      unfold enterSatelliteMode
      split <;> exact ⟨rfl, rfl, rfl, rfl⟩
    have hno : c.tunings rangeRateKmS .reference = [] :=
      tunings_of_not_serves fun h => not_serves_signal h .uplink (hserves .uplink)
    obtain ⟨hup, hupTuned⟩ := retuneIfSet_spec c.settings.dopplerResolutionHz
      (·.shifted rangeRateKmS) c.uplink (enterSatelliteMode c).radio
    obtain ⟨hdown, hdownTuned⟩ := retuneIfSet_spec c.settings.dopplerResolutionHz
      (·.shifted rangeRateKmS) c.downlink (c.turn rangeRateKmS (.signal .downlink))
    dsimp only
    unfold tuneChannels
    rw [hsettings, huplink, hdownlink]
    refine ⟨⟨switching, hon, ?_⟩, fun k => ?_, fun ha k h => ?_⟩
    · rw [tunings_of_serves rangeRateKmS (hserves .uplink),
        tunings_of_serves rangeRateKmS (hserves .downlink), hno, List.append_nil, ← hswitched]
      exact hdown.trans (congrArg (· ++ _) hup)
    · match k with
      | .reference =>
        rw [hno]
        exact hreference ▸ .refl _
      | .signal .uplink =>
        rw [tunings_of_serves rangeRateKmS (hserves .uplink)]
        exact hupTuned
      | .signal .downlink =>
        rw [tunings_of_serves rangeRateKmS (hserves .downlink)]
        exact hdownTuned
    · have hsecond : (c.turn rangeRateKmS (.signal .downlink)).isAvailable = true :=
        isAvailable_before_retune ha
      match k with
      | .reference => exact absurd (hserves .uplink) (not_serves_signal h .uplink)
      | .signal .uplink => exact isAvailable_before_retune hsecond
      | .signal .downlink => exact hsecond

/-! ## Steps -/

/-- All that commanding the radio depends on is the same in two states. -/
structure SameRadio (c d : Controller τ α ρ κ) : Prop where
  settings : d.settings = c.settings
  radio : d.radio = c.radio
  channel : ∀ k, d.channel k = c.channel k
  engaged : d.session.engaged = c.session.engaged
  auxiliary : d.session.auxiliary = c.session.auxiliary
  phase : d.session.phase = c.session.phase
  satelliteMode : d.session.satelliteMode = c.session.satelliteMode

namespace SameRadio

variable [Radio.Device κ α]

omit [Scalar α] [Radio.Device κ α] in
theorem serves_iff {c d : Controller τ α ρ κ} (h : SameRadio c d) (k : Carrier) :
    d.Serves k ↔ c.Serves k := by
  unfold Serves
  rw [h.engaged, h.auxiliary, h.phase]

omit [Scalar α] in
theorem enterSatelliteMode {c d : Controller τ α ρ κ} (h : SameRadio c d) :
    (enterSatelliteMode d).radio = (enterSatelliteMode c).radio := by
  unfold Controller.enterSatelliteMode
  rw [h.satelliteMode, h.radio]
  split
  · exact h.radio
  · rfl

theorem turn {c d : Controller τ α ρ κ} (h : SameRadio c d) (rangeRateKmS : α) (k : Carrier) :
    d.turn rangeRateKmS k = c.turn rangeRateKmS k := by
  have huplink : d.uplink = c.uplink := h.channel (.signal .uplink)
  match k with
  | .reference => exact h.radio
  | .signal .uplink => exact h.enterSatelliteMode
  | .signal .downlink =>
    unfold Controller.turn
    dsimp only
    rw [h.settings, huplink, h.enterSatelliteMode]

theorem tunings {c d : Controller τ α ρ (Taped κ (Record α))} (h : SameRadio c d) (rangeRateKmS : α)
    (k : Carrier) : d.tunings rangeRateKmS k = c.tunings rangeRateKmS k := by
  by_cases hs : c.Serves k
  · rw [tunings_of_serves rangeRateKmS hs, tunings_of_serves rangeRateKmS ((h.serves_iff k).mpr hs),
      h.channel, h.settings, h.turn]
  · rw [tunings_of_not_serves hs, tunings_of_not_serves fun hd => hs ((h.serves_iff k).mp hd)]

theorem told {c d c' : Controller τ α ρ (Taped κ (Record α))} {rangeRateKmS : α} (h : SameRadio c d)
    (ht : Told rangeRateKmS d c') : Told rangeRateKmS c c' := by
  obtain ⟨hcalls, htuned, havailable⟩ := ht
  simp only [h.tunings, h.radio, h.channel, h.turn] at hcalls htuned havailable
  exact ⟨hcalls, htuned, fun ha k hs => havailable ha k ((h.serves_iff k).mpr hs)⟩

end SameRadio

variable [Timeline τ α] [Chronology τ] [Rotator.Device ρ α] [Radio.Device κ α]

/-- The state in the phase of a later one. -/
def inPhase (phase : Phase) (c : Controller τ α ρ κ) : Controller τ α ρ κ :=
  { c with session := { c.session with phase } }

omit [Scalar α] [Timeline τ α] [Chronology τ] [Rotator.Device ρ α] [Radio.Device κ α] in
@[simp] theorem channel_inPhase (phase : Phase) (c : Controller τ α ρ κ) (k : Carrier) :
    (c.inPhase phase).channel k = c.channel k := by
  match k with
  | .signal .uplink => rfl
  | .signal .downlink => rfl
  | .reference => rfl

/-- **What a step tells the radio**: nothing if it fails, and otherwise what follows from its look and
from the phase that it leads to. -/
theorem step_radio [Visibility.LawfulGrid α] (now : τ)
    (c : Controller τ α ρ (Taped κ (Record α))) :
    ((step now c).1 ≠ .ok () ∧ SameRadio c (step now c).2) ∨
      ((step now c).1 = .ok () ∧ ∃ o, c.satellite.observe now = .ok o ∧
        (step now c).2.observation = some (now, o) ∧
        Told o.rangeRateKmS (c.inPhase (step now c).2.session.phase) (step now c).2) := by
  rcases step_cases now c with ⟨cause, n, -, hstep⟩ | ⟨o, minutes, target, n, ho, -, -, hstep⟩
  · rw [hstep]
    exact .inl ⟨by simp, rfl, rfl, fun _ => rfl, rfl, rfl, rfl, rfl⟩
  · let before := seen now o minutes (c.looked n)
    let aimed := commandRotator target before
    have hafter : (step now c).2 = commandRadio o.rangeRateKmS aimed := congrArg Prod.snd hstep
    have hrotator : aimed.withoutRotator = before.withoutRotator :=
      commandRotator_withoutRotator target before
    have hradio : (step now c).2.withoutRadio = aimed.withoutRadio := by
      rw [hafter]
      exact commandRadio_withoutRadio o.rangeRateKmS aimed
    have hphase : (step now c).2.session.phase = aimed.session.phase :=
      congrArg (fun e => e.session.phase) hradio
    have hobserved : (step now c).2.observation = some (now, o) :=
      (congrArg (fun e => e.observation) hradio).trans (congrArg (fun e => e.observation) hrotator)
    have hsame : SameRadio (c.inPhase (step now c).2.session.phase) aimed :=
      { settings := congrArg (fun e => e.settings) hrotator
        radio := congrArg (fun e => e.radio) hrotator
        channel := fun k => congrArg (fun e => e.channel k) hrotator
        engaged := congrArg (fun e => e.session.engaged) hrotator
        auxiliary := congrArg (fun e => e.session.auxiliary) hrotator
        phase := hphase.symm
        satelliteMode := congrArg (fun e => e.session.satelliteMode) hrotator }
    refine .inr ⟨congrArg Prod.fst hstep, o, ho, hobserved, hsame.told ?_⟩
    rw [hafter]
    exact commandRadio_told o.rangeRateKmS aimed

end Controller

end Tracking

end EarthStation
