import EarthStation.Proofs.Tracking.Isolation

/-!
# Reachable — the states of a run, and what holds in all of them

* `Event`, `after`: commands and ticks one after another, in any order.
* `run_eq_shutdown`: a whole run ends in such a state.
* `InvariantUnder`: a property that every part of a tick keeps, and every command of some kind.
* `InvariantUnder.after`: it holds in every state that such commands and ticks lead to.
* `Invariant`, `Invariant.after`: a property that is kept whatever the commands.
* `fixed_invariant`: the satellite and the settings are the same throughout.
-/

namespace EarthStation.Tracking

/-- What can happen to a run before its end. -/
inductive Event (τ α : Type) where
  /-- A command that does not wait for the next tick. -/
  | command (command : Command α)
  | tick (commands : List (Command α)) (now : τ)

/-- The commands of an event. -/
def Event.commands {τ α : Type} : Event τ α → List (Command α)
  | .command c => [c]
  | .tick waiting _ => waiting

namespace Controller

variable {τ α ρ κ : Type} [Scalar α] [Timeline τ α] [Chronology τ] [Rotator.Device ρ α]
  [Radio.Device κ α]

/-- The state after one event. -/
def next (e : Event τ α) (c : Controller τ α ρ κ) : Controller τ α ρ κ :=
  match e with
  | .command command => (handle command c).2
  | .tick commands now => (tick commands now c).2

/-- The state after some events. -/
def after (events : List (Event τ α)) (c : Controller τ α ρ κ) : Controller τ α ρ κ :=
  events.foldl (fun c e => next e c) c

omit [Chronology τ] [Rotator.Device ρ α] [Radio.Device κ α] in
/-- Nothing is aimed at while the run is not engaged. -/
theorem target_of_disengaged {now : τ} {o : Observation α} {minutes : Option α}
    {c : Controller τ α ρ κ} (h : c.session.engaged = false) :
    c.target now o minutes = .ok none := by
  have haim : c.aim o minutes = .nothing := by
    unfold aim
    rw [h]
    rfl
  unfold target
  rw [haim]

/-- **A whole run is some of its ticks and then its end.** -/
theorem run_eq_shutdown (runs : Controller τ α ρ κ → Bool)
    (ticks : List (List (Command α) × τ)) (c : Controller τ α ρ κ) :
    ∃ n, run runs ticks c =
      shutdown (after ((ticks.take n).map fun t => .tick t.1 t.2) c) := by
  induction ticks generalizing c with
  | nil => exact ⟨0, rfl⟩
  | cons t rest ih =>
    unfold run
    split
    · obtain ⟨n, hn⟩ := ih (tick t.1 t.2 c).2
      exact ⟨n + 1, hn⟩
    · exact ⟨0, rfl⟩

/-! ## Properties that some commands keep -/

/-- A property that every part of a tick keeps, and every command that is allowed. -/
structure InvariantUnder (allowed : Command α → Prop) (P : Controller τ α ρ κ → Prop) : Prop where
  withCredit : ∀ {c : Controller τ α ρ κ} {n : Nat}, P c → n ≤ c.session.unlockedTicks →
    P (c.withCredit n)
  obey : ∀ {c : Controller τ α ρ κ} {command : Command α}, allowed command → P c →
    P (obey command c)
  looked : ∀ {c : Controller τ α ρ κ} (n : Nat), P c → P (c.looked n)
  predicted : ∀ {c : Controller τ α ρ κ} (now : τ) (o : Observation α) (minutes : Option α),
    P c → P (predicted now o minutes c)
  observed : ∀ {c : Controller τ α ρ κ} (look : τ × Observation α),
    P c → P { c with observation := some look }
  commandRotator : ∀ {c : Controller τ α ρ κ} {now : τ} {o : Observation α} {minutes : Option α}
    {target : Option (Rotator.Position α)}, P c → c.satellite.observe now = .ok o →
    c.target now o minutes = .ok target → P (commandRotator target c)
  commandRadio : ∀ {c : Controller τ α ρ κ} (rangeRateKmS : α), P c →
    P (commandRadio rangeRateKmS c)

namespace InvariantUnder

variable {allowed : Command α → Prop} {P : Controller τ α ρ κ → Prop}
  (hP : InvariantUnder allowed P)
include hP

theorem handle {c : Controller τ α ρ κ} (h : P c) {command : Command α} (ha : allowed command) :
    P (handle command c).2 := by
  rw [handle_eq]
  split
  · split
    · exact h
    · exact hP.obey ha (hP.withCredit h (Nat.zero_le _))
  · exact hP.obey ha h

theorem drain {c : Controller τ α ρ κ} (h : P c) {commands : List (Command α)}
    (ha : ∀ command ∈ commands, allowed command) : P (drain commands c).2 := by
  induction commands generalizing c with
  | nil => exact h
  | cons command rest ih =>
    obtain ⟨hfirst, hrest⟩ := List.forall_mem_cons.mp ha
    rw [drain_cons]
    exact ih (hP.handle h hfirst) hrest

theorem step {c : Controller τ α ρ κ} (h : P c) (now : τ) : P (step now c).2 := by
  rw [step_eq]
  cases ho : c.satellite.observe now with
  | error cause => exact hP.looked 1 h
  | ok o =>
    cases (search now c).result with
    | error cause => exact hP.looked _ (hP.looked 1 h)
    | ok minutes =>
      have hlooked := hP.looked ((Controller.predicted now o minutes c).aim o minutes).looks
        (hP.looked (search now c).count (hP.looked 1 h))
      dsimp only
      cases ht : (Controller.predicted now o minutes c).target now o minutes with
      | error cause => exact hP.predicted now o minutes hlooked
      | ok target =>
        have hseen := hP.observed (now, o) (hP.predicted now o minutes hlooked)
        -- neither the looks nor the observation noted have a part in the target
        exact hP.commandRadio _ (hP.commandRotator hseen ho ht)

theorem tick {c : Controller τ α ρ κ} (h : P c) {commands : List (Command α)}
    (ha : ∀ command ∈ commands, allowed command) (now : τ) : P (tick commands now c).2 := by
  have hstep := hP.step (hP.drain h ha) now
  rw [tick_eq]
  dsimp only
  split
  · exact hstep
  · exact hP.withCredit hstep (Nat.sub_le _ _)

/-- **It holds in every later state**, as long as all commands are allowed. -/
theorem after {c : Controller τ α ρ κ} (h : P c) {events : List (Event τ α)}
    (ha : ∀ e ∈ events, ∀ command ∈ e.commands, allowed command) : P (after events c) := by
  induction events generalizing c with
  | nil => exact h
  | cons e rest ih =>
    obtain ⟨hfirst, hrest⟩ := List.forall_mem_cons.mp ha
    cases e with
    | command command =>
      have hallowed : allowed command := hfirst command (List.mem_singleton_self command)
      exact ih (hP.handle h hallowed) hrest
    | tick commands now =>
      have hallowed : ∀ command ∈ commands, allowed command := hfirst
      exact ih (hP.tick h hallowed now) hrest

end InvariantUnder

/-! ## Properties that all commands keep -/

/-- A property that every part of a command and of a tick keeps. -/
structure Invariant (P : Controller τ α ρ κ → Prop) : Prop where
  withCredit : ∀ {c : Controller τ α ρ κ} {n : Nat}, P c → n ≤ c.session.unlockedTicks →
    P (c.withCredit n)
  obey : ∀ {c : Controller τ α ρ κ} (command : Command α), P c → P (obey command c)
  looked : ∀ {c : Controller τ α ρ κ} (n : Nat), P c → P (c.looked n)
  predicted : ∀ {c : Controller τ α ρ κ} (now : τ) (o : Observation α) (minutes : Option α),
    P c → P (predicted now o minutes c)
  observed : ∀ {c : Controller τ α ρ κ} (look : τ × Observation α),
    P c → P { c with observation := some look }
  commandRotator : ∀ {c : Controller τ α ρ κ} {target : Option (Rotator.Position α)}, P c →
    (c.session.engaged = false → target = none) → P (commandRotator target c)
  commandRadio : ∀ {c : Controller τ α ρ κ} (rangeRateKmS : α), P c →
    P (commandRadio rangeRateKmS c)

namespace Invariant

variable {P : Controller τ α ρ κ → Prop} (hP : Invariant P)
include hP

/-- The targets of ticks keep it, since none is chosen while the run is not engaged. -/
theorem under : InvariantUnder (fun _ => True) P where
  withCredit := hP.withCredit
  obey _ h := hP.obey _ h
  looked := hP.looked
  predicted := hP.predicted
  observed := hP.observed
  commandRotator h _ ht := by
    refine hP.commandRotator h fun hd => ?_
    have hnone := (target_of_disengaged hd).symm.trans ht
    simpa using hnone.symm
  commandRadio := hP.commandRadio

theorem handle {c : Controller τ α ρ κ} (h : P c) (command : Command α) :
    P (handle command c).2 :=
  hP.under.handle h trivial

theorem drain {c : Controller τ α ρ κ} (h : P c) (commands : List (Command α)) :
    P (drain commands c).2 :=
  hP.under.drain h fun _ _ => trivial

theorem tick {c : Controller τ α ρ κ} (h : P c) (commands : List (Command α)) (now : τ) :
    P (tick commands now c).2 :=
  hP.under.tick h (fun _ _ => trivial) now

/-- **An invariant holds in every later state.** -/
theorem after {c : Controller τ α ρ κ} (h : P c) (events : List (Event τ α)) :
    P (after events c) :=
  hP.under.after h fun _ _ _ _ => trivial

end Invariant

omit [Timeline τ α] in
/-- The satellite and the settings of a run never change. -/
theorem fixed_invariant (satellite : Ephemeris τ α) (settings : Settings α) :
    Invariant fun c : Controller τ α ρ κ => c.satellite = satellite ∧ c.settings = settings where
  withCredit h _ := h
  obey {c} command h := by
    have hframe := obey_frame command c
    exact ⟨hframe.satellite.trans h.1, hframe.settings.trans h.2⟩
  looked _ h := h
  predicted _ _ _ h := h
  observed _ h := h
  commandRotator {c target} h _ := by
    have hframe := commandRotator_frame target c
    exact ⟨hframe.satellite.trans h.1, hframe.settings.trans h.2⟩
  commandRadio {c} rangeRateKmS h := by
    have hframe := commandRadio_frame rangeRateKmS c
    exact ⟨hframe.satellite.trans h.1, hframe.settings.trans h.2⟩

end Controller

end EarthStation.Tracking
