import EarthStation.Proofs.Tracking.Deeds
import EarthStation.Proofs.Tracking.Isolation
import Mathlib.Logic.Relation

/-!
# Loss — a device is lost by a disconnect, and by nothing else

* `IoError.isDisconnect_iff`, `Rotator.Fault.isDisconnect_iff`, `Radio.Fault.isDisconnect_iff`: the
  faults that mean a disconnect.
* `Rotator.Used`, `Radio.Used`: what becomes of a device by one call.
* `Controller.OnlyCalls`, `onlyCalls_invariant`: between two states of a run its devices are called, and
  nothing else happens to them.
* `Trial`, `Equipment.Since`: calls with the faults that came of them, and what they make of a device.
* `loss_law`: a device is lost by a call that meets a disconnect, and that call is its last one.
-/

namespace EarthStation

open Relation (ReflTransGen)

/-! ## Faults -/

/-- The classes of failures that mean a disconnect. -/
def IoKind.disconnects : List IoKind :=
  [brokenPipe, notConnected, connectionAborted, connectionReset, notFound, permissionDenied,
    unexpectedEof]

theorem IoError.isDisconnect_iff {e : IoError} :
    e.isDisconnect = true ↔ (∃ kind ∈ IoKind.disconnects, e.kind? = some kind) ∨
      e = system 5 ∨ e = system 6 ∨ e = system 19 := by
  unfold isDisconnect
  rw [Bool.or_eq_true]
  refine or_congr ?_ ?_
  · cases e.kind? with
    | none => simp
    | some kind => cases kind <;> simp [IoKind.disconnects]
  · split <;> simp_all

theorem Rotator.Fault.isDisconnect_iff {α : Type} {fault : Fault α} :
    fault.isDisconnect = true ↔ (∃ device detail, fault = .connection device detail) ∨
      ∃ cause, fault = .io cause ∧ cause.isDisconnect = true := by
  cases fault <;> simp [isDisconnect]

theorem Radio.Fault.isDisconnect_iff {α : Type} {fault : Fault α} :
    fault.isDisconnect = true ↔ (∃ device detail, fault = .connection device detail) ∨
      ∃ cause, fault = .io cause ∧ cause.isDisconnect = true := by
  cases fault <;> simp [isDisconnect]

/-! ## Calls -/

/-- What becomes of a rotator by one call. -/
inductive Rotator.Used {ρ α : Type} [Device ρ α] :
    Tracking.Equipment ρ → Tracking.Equipment ρ → Prop where
  | stop (e : Tracking.Equipment ρ) : Used e (e.use Fault.isDisconnect Device.stop).2
  | status (e : Tracking.Equipment ρ) : Used e (e.use Fault.isDisconnect Device.status).2
  | set (target : Position α) (e : Tracking.Equipment ρ) :
    Used e (e.use Fault.isDisconnect (Device.set target)).2

/-- What becomes of a radio by one call. -/
inductive Radio.Used {κ α : Type} [Device κ α] :
    Tracking.Equipment κ → Tracking.Equipment κ → Prop where
  | satelliteMode (on : Bool) (e : Tracking.Equipment κ) :
    Used e (e.use Fault.isDisconnect (Device.setSatelliteMode on)).2
  | tune (vfo : Vfo) (hz : α) (e : Tracking.Equipment κ) :
    Used e (e.use Fault.isDisconnect (Device.tune vfo hz)).2

namespace Tracking

namespace Controller

variable {τ α ρ κ : Type} [Rotator.Device ρ α] [Radio.Device κ α]

/-- Between two states both devices are called, and nothing else happens to them. -/
structure OnlyCalls (c c' : Controller τ α ρ κ) : Prop where
  rotator : ReflTransGen Rotator.Used c.rotator c'.rotator
  radio : ReflTransGen Radio.Used c.radio c'.radio

namespace OnlyCalls

theorem refl (c : Controller τ α ρ κ) : OnlyCalls c c := ⟨.refl, .refl⟩

theorem trans {c c' c'' : Controller τ α ρ κ} (h : OnlyCalls c c') (h' : OnlyCalls c' c'') :
    OnlyCalls c c'' :=
  ⟨h.rotator.trans h'.rotator, h.radio.trans h'.radio⟩

theorem shutdown (c : Controller τ α ρ κ) : OnlyCalls c (shutdown c) where
  rotator := by
    rw [(shutdown_spec c).1]
    exact .single (.stop c.rotator)
  radio := by
    rw [(shutdown_spec c).2.1]
    split
    · exact .single (.satelliteMode false c.radio)
    · exact .refl

variable [Scalar α]

theorem obey (command : Command α) (c : Controller τ α ρ κ) : OnlyCalls c (obey command c) where
  rotator := by
    cases command with
    | stop => exact .single (.stop c.rotator)
    | home => exact .single (.set Rotator.Position.home c.rotator)
    | auxiliary =>
      unfold Controller.obey
      dsimp only
      split <;> exact .refl
    | _ => exact .refl
  radio := by rw [obey_radio]

theorem commandRotator (target : Option (Rotator.Position α)) (c : Controller τ α ρ κ) :
    OnlyCalls c (commandRotator target c) where
  rotator := by
    rw [commandRotator_eq]
    cases c.move target with
    | rest => exact .refl
    | poll =>
      dsimp only
      rw [polled_rotator]
      exact .single (.status c.rotator)
    | order position =>
      dsimp only
      rw [sent_rotator]
      exact .single (.set position c.rotator)
  radio := by
    have hsame : (Controller.commandRotator target c).radio = c.radio :=
      congrArg (fun e => e.radio) (commandRotator_withoutRotator target c)
    rw [hsame]

omit [Rotator.Device ρ α] in
theorem retuneIfSet (resolutionHz : α) (hz : Channel α → α) (channel : Option (Channel α))
    (radio : Equipment κ) :
    ReflTransGen Radio.Used radio (retuneIfSet resolutionHz hz channel radio).2 := by
  cases channel with
  | none => exact .refl
  | some channel =>
    unfold Controller.retuneIfSet retune
    dsimp only
    split
    · rcases hu : radio.use Radio.Fault.isDisconnect (Radio.Device.tune channel.vfo (hz channel)) with
        ⟨answer, radio'⟩
      have hused := Radio.Used.tune channel.vfo (hz channel) radio
      rw [hu] at hused
      cases answer <;> exact .single hused
    · exact .refl

theorem commandRadio (rangeRateKmS : α) (c : Controller τ α ρ κ) :
    OnlyCalls c (commandRadio rangeRateKmS c) where
  rotator := by
    have hsame : (Controller.commandRadio rangeRateKmS c).rotator = c.rotator :=
      congrArg (fun e => e.rotator) (commandRadio_withoutRadio rangeRateKmS c)
    rw [hsame]
  radio := by
    rw [commandRadio_eq]
    cases c.errand with
    | nothing => exact .refl
    | reference => exact retuneIfSet _ _ _ c.radio
    | channels =>
      have henter : ReflTransGen Radio.Used c.radio (enterSatelliteMode c).radio := by
        unfold enterSatelliteMode
        split
        · exact .refl
        · exact .single (.satelliteMode true c.radio)
      exact henter.trans ((retuneIfSet _ _ _ _).trans (retuneIfSet _ _ _ _))

end OnlyCalls

/-- **A run reaches its devices by calls only.** -/
theorem onlyCalls_invariant [Scalar α] [Chronology τ] (c₀ : Controller τ α ρ κ) :
    Invariant (OnlyCalls c₀) where
  withCredit h _ := ⟨h.rotator, h.radio⟩
  obey command h := h.trans (.obey command _)
  looked _ h := ⟨h.rotator, h.radio⟩
  predicted _ _ _ h := ⟨h.rotator, h.radio⟩
  observed _ h := ⟨h.rotator, h.radio⟩
  commandRotator h _ := h.trans (.commandRotator _ _)
  commandRadio rangeRateKmS h := h.trans (.commandRadio rangeRateKmS _)

end Controller

/-! ## Calls and their faults -/

/-- A call to a device, with the fault that came of it, if any. -/
structure Trial (γ ε : Type) where
  call : γ
  fault : Option ε
deriving DecidableEq

/-- The call has met a disconnect. -/
def Trial.disconnects {γ ε : Type} (gone : ε → Bool) (t : Trial γ ε) : Bool := t.fault.any gone

/-- A step on the device that is put on the tape with the fault that comes of it. -/
def Taped.tried {δ γ ε β : Type} (call : γ) (step : Exchange δ ε β) :
    Exchange (Taped δ (Trial γ ε)) ε β := fun t =>
  match step t.device with
  | (.ok answer, device) => (.ok answer, ⟨device, t.calls ++ [⟨call, none⟩]⟩)
  | (.error fault, device) => (.error fault, ⟨device, t.calls ++ [⟨call, some fault⟩]⟩)

/-- Calls to a rotator with their faults. -/
abbrev RotatorTrial (α : Type) := Trial (Rotator.Call α) (Rotator.Fault α)

/-- Calls to a radio with their faults. -/
abbrev RadioTrial (α : Type) := Trial (Radio.Call α) (Radio.Fault α)

instance {ρ α : Type} [Rotator.Device ρ α] : Rotator.Device (Taped ρ (RotatorTrial α)) α where
  stop := Taped.tried .stop Rotator.Device.stop
  status := Taped.tried .status Rotator.Device.status
  set target := Taped.tried (.set target) (Rotator.Device.set target)

instance {κ α : Type} [Radio.Device κ α] : Radio.Device (Taped κ (RadioTrial α)) α where
  setSatelliteMode on := Taped.tried (.satelliteMode on) (Radio.Device.setSatelliteMode on)
  tune vfo hz := Taped.tried (.tune vfo hz) (Radio.Device.tune vfo hz)

namespace Equipment

variable {δ γ ε β : Type} {gone : ε → Bool}

/-- What has become of a device since some state, by the calls that were made to it. -/
structure Since (gone : ε → Bool) (e e' : Equipment (Taped δ (Trial γ ε)))
    (made : List (Trial γ ε)) : Prop where
  calls : e'.calls = e.calls ++ made
  /-- It cannot be used just if it could not be used then or one of the calls has met a disconnect. -/
  lost : e'.isAvailable = false ↔
    e.isAvailable = false ∨ ∃ t ∈ made, t.disconnects gone = true
  /-- No call comes after a disconnect. -/
  last : ∀ t ∈ made.dropLast, t.disconnects gone = false
  /-- A device that could not be used then is not called. -/
  silent : e.isAvailable = false → made = []

namespace Since

variable {e e' e'' : Equipment (Taped δ (Trial γ ε))} {made made' : List (Trial γ ε)}

theorem refl (e : Equipment (Taped δ (Trial γ ε))) : Since gone e e [] where
  calls := (List.append_nil _).symm
  lost := by simp
  last := by simp
  silent _ := rfl

theorem trans (h : Since gone e e' made) (h' : Since gone e' e'' made') :
    Since gone e e'' (made ++ made') where
  calls := by rw [h'.calls, h.calls, List.append_assoc]
  lost := by
    rw [h'.lost, h.lost, or_assoc]
    simp only [List.mem_append, or_and_right, exists_or]
  last := by
    -- after a disconnect among the first calls there are no others
    by_cases hnone : made' = []
    · rw [hnone, List.append_nil]
      exact h.last
    have hon : ∀ t ∈ made, t.disconnects gone = false := fun t ht =>
      Bool.eq_false_iff.mpr fun hlost => hnone (h'.silent (h.lost.mpr (.inr ⟨t, ht, hlost⟩)))
    intro t ht
    rw [List.dropLast_append_of_ne_nil hnone, List.mem_append] at ht
    exact ht.elim (hon t) (h'.last t)
  silent hlost := by
    rw [h.silent hlost, h'.silent (h.lost.mpr (.inl hlost))]
    rfl

/-- One call, which is made just if the device can be used. -/
theorem of_use (call : γ) (step : Exchange δ ε β) (e : Equipment (Taped δ (Trial γ ε))) :
    ∃ made, Since gone e (e.use gone (Taped.tried call step)).2 made := by
  cases e with
  | absent => exact ⟨[], refl _⟩
  | lost t => exact ⟨[], refl _⟩
  | connected t =>
    unfold use Taped.tried
    dsimp only
    rcases step t.device with ⟨fault | answer, device⟩
    · dsimp only
      cases hgone : gone fault <;>
        exact ⟨[⟨call, some fault⟩], rfl, by simp [isAvailable, Trial.disconnects, hgone], by simp, nofun⟩
    · exact ⟨[⟨call, none⟩], rfl, by simp [isAvailable, Trial.disconnects], by simp, nofun⟩

/-- What each step of a history makes of a device, the whole history makes of it. -/
theorem of_steps {Step : Equipment (Taped δ (Trial γ ε)) → Equipment (Taped δ (Trial γ ε)) → Prop}
    (hstep : ∀ {e₁ e₂}, Step e₁ e₂ → ∃ made, Since gone e₁ e₂ made) (h : ReflTransGen Step e e') :
    ∃ made, Since gone e e' made := by
  induction h with
  | refl => exact ⟨[], refl e⟩
  | tail _ hlast ih =>
    obtain ⟨made, hmade⟩ := ih
    obtain ⟨last, hlast⟩ := hstep hlast
    exact ⟨made ++ last, hmade.trans hlast⟩

variable {α ρ κ : Type}

theorem of_rotator [Rotator.Device ρ α] {e e' : Equipment (Taped ρ (RotatorTrial α))}
    (h : ReflTransGen Rotator.Used e e') : ∃ made, Since Rotator.Fault.isDisconnect e e' made := by
  refine of_steps (fun hused => ?_) h
  cases hused with
  | stop => exact of_use Rotator.Call.stop Rotator.Device.stop _
  | status => exact of_use Rotator.Call.status Rotator.Device.status _
  | set target => exact of_use (Rotator.Call.set target) (Rotator.Device.set target) _

theorem of_radio [Radio.Device κ α] {e e' : Equipment (Taped κ (RadioTrial α))}
    (h : ReflTransGen Radio.Used e e') : ∃ made, Since Radio.Fault.isDisconnect e e' made := by
  refine of_steps (fun hused => ?_) h
  cases hused with
  | satelliteMode on => exact of_use (Radio.Call.satelliteMode on) (Radio.Device.setSatelliteMode on) _
  | tune vfo hz => exact of_use (Radio.Call.tune vfo hz) (Radio.Device.tune vfo hz) _

end Since

end Equipment

namespace Controller

variable {τ α ρ κ : Type}

/-- What becomes of both devices between two states. -/
structure LossLaw (c c' : Controller τ α (Taped ρ (RotatorTrial α)) (Taped κ (RadioTrial α))) :
    Prop where
  rotator : ∃ made, Equipment.Since Rotator.Fault.isDisconnect c.rotator c'.rotator made
  radio : ∃ made, Equipment.Since Radio.Fault.isDisconnect c.radio c'.radio made

theorem OnlyCalls.lossLaw [Rotator.Device ρ α] [Radio.Device κ α]
    {c c' : Controller τ α (Taped ρ (RotatorTrial α)) (Taped κ (RadioTrial α))}
    (h : OnlyCalls c c') : LossLaw c c' :=
  ⟨Equipment.Since.of_rotator h.rotator, Equipment.Since.of_radio h.radio⟩

variable [Scalar α] [Timeline τ α] [Chronology τ] [Rotator.Device ρ α] [Radio.Device κ α]

/-- **The law of loss.**  From any state of a run to any later one, its end included, and from the
beginning of any command or step to its end, a device is lost just if one of the calls made to it in
between has met a disconnect, that call is the last of them, and a device that cannot be used is not
called.  A disconnect is a fault of the connection, or one of input and output of a few classes and
numbers; no fault of another kind is one. -/
theorem loss_law (satellite : Ephemeris τ α) (settings : Settings α) (rotator : Equipment ρ)
    (radio : Equipment κ) (events : List (Event τ α)) :
    let c₀ : Controller τ α (Taped ρ (RotatorTrial α)) (Taped κ (RadioTrial α)) :=
      fresh satellite settings rotator.taped radio.taped
    let c := after events c₀
    (∀ more, LossLaw c (after more c) ∧ LossLaw c (shutdown (after more c))) ∧
      (∀ d : Deed τ α (Taped ρ (RotatorTrial α)) (Taped κ (RadioTrial α)), LossLaw d.before d.after) ∧
      (∀ fault : Rotator.Fault α, fault.isDisconnect = true ↔
        (∃ device detail, fault = .connection device detail) ∨
          ∃ cause, fault = .io cause ∧ cause.isDisconnect = true) ∧
      (∀ fault : Radio.Fault α, fault.isDisconnect = true ↔
        (∃ device detail, fault = .connection device detail) ∨
          ∃ cause, fault = .io cause ∧ cause.isDisconnect = true) ∧
      ∀ cause : IoError, cause.isDisconnect = true ↔
        (∃ kind ∈ IoKind.disconnects, cause.kind? = some kind) ∨
          cause = .system 5 ∨ cause = .system 6 ∨ cause = .system 19 := by
  intro c₀ c
  refine ⟨fun more => ?_, fun d => ?_, fun _ => Rotator.Fault.isDisconnect_iff,
    fun _ => Radio.Fault.isDisconnect_iff, fun _ => IoError.isDisconnect_iff⟩
  · have hmore : OnlyCalls c (after more c) := (onlyCalls_invariant c).after (.refl c) more
    exact ⟨hmore.lossLaw, (hmore.trans (.shutdown _)).lossLaw⟩
  · exact ((onlyCalls_invariant d.before).deed d (.refl d.before)).lossLaw

end Controller

end Tracking

end EarthStation
