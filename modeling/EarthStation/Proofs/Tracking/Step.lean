import EarthStation.Proofs.Visibility.Seen
import EarthStation.Tracking.Controller

/-!
# Step — what one step of the tracking can do

* `Aim`, `Controller.aim`: what the antenna is pointed by, worked out without looking at the satellite.
* `pointingTarget_eq`: the target follows from the aim with at most one look, at a rise ahead.
* `commandRotator_eq`, `commandRadio_eq`: what the devices are told.
* `step_eq`: a step as a look, a search, a choice of the target and the device commands.
* `step_cases`: a step fails by its first look or by the search and then changes nothing else, or it
  goes through.
* `step_frame`: a step leaves alone what the operator has set.
-/

namespace EarthStation.Tracking

open Rotator (Position)

/-- What the antenna is pointed by. -/
inductive Aim (α : Type) where
  | nothing
  | position (target : Position α)
  /-- The direction in which the satellite will rise. -/
  | rise (minutes : α)

/-- The number of looks that an aim takes. -/
def Aim.looks {α : Type} : Aim α → Nat
  | .rise _ => 1
  | _ => 0

/-- What the rotator has to do. -/
inductive Move (α : Type) where
  | rest
  /-- To tell where it is. -/
  | poll
  | order (position : Position α)

/-- What the radio is tuned to. -/
inductive Errand where
  | nothing
  /-- The auxiliary frequency. -/
  | reference
  /-- The frequencies of the satellite. -/
  | channels

namespace Controller

variable {τ α ρ κ : Type}

/-! ## Looks -/

/-- The state after so many more looks. -/
def looked (n : Nat) (c : Controller τ α ρ κ) : Controller τ α ρ κ := { c with looks := c.looks + n }

theorem looked_looked (m n : Nat) (c : Controller τ α ρ κ) :
    (c.looked m).looked n = c.looked (m + n) := by
  simp only [looked, Nat.add_assoc]

theorem ask_of_ok {β : Type} (question : Ephemeris τ α → Looks α β) {c : Controller τ α ρ κ} {b : β}
    (h : (question c.satellite).result = .ok b) :
    ask question c = (.ok b, c.looked (question c.satellite).count) := by
  change ((question c.satellite).result.mapError _, _) = _
  rw [h]
  rfl

theorem ask_of_error {β : Type} (question : Ephemeris τ α → Looks α β) {c : Controller τ α ρ κ}
    {cause : PredictionError α} (h : (question c.satellite).result = .error cause) :
    ask question c = (.error (.prediction cause), c.looked (question c.satellite).count) := by
  change ((question c.satellite).result.mapError _, _) = _
  rw [h]
  rfl

/-! ## The target -/

variable [Scalar α]

/-- What the antenna is pointed by, for an observation and the minutes to the next rise. -/
def aim (o : Observation α) (minutes : Option α) (c : Controller τ α ρ κ) : Aim α :=
  if !c.session.engaged then .nothing
  else match (if c.session.auxiliary then c.settings.auxiliary else none), c.session.pinned with
    | some auxiliary, _ => .position auxiliary.position
    | none, some pinned => .position pinned
    | none, none =>
      match c.session.phase, minutes with
      | .tracking, _ => .position (follow o.azimuthDeg o.elevationDeg c.session.lastCommanded)
      | .armed, some m =>
        if 0 < m then .rise m else .position (follow o.azimuthDeg 0 c.session.lastCommanded)
      | .armed, none => .position (follow o.azimuthDeg 0 c.session.lastCommanded)
      | .idle, _ | .coolingDown, _ => .nothing

/-- A rise is waited for only where it lies ahead. -/
theorem aim_eq_rise {o : Observation α} {minutes : Option α} {c : Controller τ α ρ κ} {m : α}
    (h : c.aim o minutes = .rise m) : minutes = some m ∧ 0 < m := by
  unfold aim at h
  split at h
  · simp at h
  · split at h
    · simp at h
    · simp at h
    · split at h
      · simp at h
      · split at h
        · rename_i hm
          simp only [Aim.rise.injEq] at h
          subst h
          exact ⟨rfl, hm⟩
        · simp at h
      all_goals simp at h

variable [Timeline τ α]

/-- The target of an aim; only a rise ahead is looked at. -/
def target (now : τ) (o : Observation α) (minutes : Option α) (c : Controller τ α ρ κ) :
    Except (PredictionError α) (Option (Position α)) :=
  match c.aim o minutes with
  | .nothing => .ok none
  | .position target => .ok (some target)
  | .rise m => (c.satellite.observe (Timeline.later now m)).map fun rise =>
      some (follow rise.azimuthDeg 0 c.session.lastCommanded)

/-- No target can fail but that of a rise ahead. -/
theorem target_error {now : τ} {o : Observation α} {minutes : Option α} {c : Controller τ α ρ κ}
    {cause : PredictionError α} (h : c.target now o minutes = .error cause) :
    ∃ m, (minutes = some m ∧ 0 < m) ∧
      c.satellite.observe (Timeline.later now m) = .error cause := by
  unfold target at h
  cases ha : c.aim o minutes with
  | nothing => simp [ha] at h
  | position target => simp [ha] at h
  | rise m =>
    rw [ha] at h
    cases ho : c.satellite.observe (Timeline.later now m) with
    | ok rise => simp [ho, Except.map] at h
    | error cause' =>
      simp only [ho, Except.map, Except.error.injEq] at h
      exact ⟨m, aim_eq_rise ha, by rw [ho, h]⟩

/-- **The target follows from the aim.** -/
theorem pointingTarget_eq (o : Observation α) (now : τ) (minutes : Option α)
    (c : Controller τ α ρ κ) :
    pointingTarget o now minutes c =
      ((c.target now o minutes).mapError .prediction, c.looked (c.aim o minutes).looks) := by
  unfold pointingTarget target aim
  rw [Exchange.run_bind_of_ok (Exchange.run_get c)]
  cases c.session.engaged with
  | false => rfl
  | true =>
    simp only [Bool.not_true, Bool.false_eq_true, if_false]
    generalize (if c.session.auxiliary then c.settings.auxiliary else none) = auxiliary
    cases auxiliary with
    | some auxiliary => rfl
    | none =>
      cases c.session.pinned with
      | some pinned => rfl
      | none =>
        cases c.session.phase with
        | tracking => rfl
        | idle => rfl
        | coolingDown => rfl
        | armed =>
          cases minutes with
          | none => rfl
          | some m =>
            by_cases hm : 0 < m
            · simp only [if_pos hm]
              cases ho : c.satellite.observe (Timeline.later now m) with
              | error cause =>
                exact Exchange.run_bind_of_error (ask_of_error (fun e => e.look _) ho)
              | ok rise => exact Exchange.run_bind_of_ok (ask_of_ok (fun e => e.look _) ho)
            · simp only [if_neg hm]
              rfl

/-! ## The antenna -/

section Antenna

variable [Rotator.Device ρ α]

/-- The target is noted and the rotator left alone. -/
def noted (target : Option (Position α)) (c : Controller τ α ρ κ) : Controller τ α ρ κ :=
  { c with session := { c.session with target } }

/-- The rotator is asked where it is. -/
def polled (c : Controller τ α ρ κ) : Controller τ α ρ κ :=
  let (answer, rotator) := c.rotator.use Rotator.Fault.isDisconnect Rotator.Device.status
  match answer with
  | some position =>
    { c with
      rotator
      session :=
        { c.session with
          lastReported := some position
          repointInFlight := !isSettled c.session.lastReported position } }
  | none => { c with rotator, session := { c.session with repointInFlight := false } }

/-- The rotator is sent to a position. -/
def sent (position : Position α) (c : Controller τ α ρ κ) : Controller τ α ρ κ :=
  let (answer, rotator) := c.rotator.use Rotator.Fault.isDisconnect (Rotator.Device.set position)
  match answer with
  | some reported =>
    { c with
      rotator
      session :=
        { c.session with
          lastCommanded := some position
          lastReported := reported
          repointInFlight := true } }
  | none => { c with rotator }

omit [Timeline τ α] in
@[simp] theorem polled_rotator (c : Controller τ α ρ κ) :
    c.polled.rotator = (c.rotator.use Rotator.Fault.isDisconnect Rotator.Device.status).2 := by
  unfold polled
  rcases c.rotator.use Rotator.Fault.isDisconnect Rotator.Device.status with ⟨_ | _, _⟩ <;> rfl

omit [Scalar α] [Timeline τ α] in
@[simp] theorem sent_rotator (position : Position α) (c : Controller τ α ρ κ) :
    (c.sent position).rotator =
      (c.rotator.use Rotator.Fault.isDisconnect (Rotator.Device.set position)).2 := by
  unfold sent
  rcases c.rotator.use Rotator.Fault.isDisconnect (Rotator.Device.set position) with
    ⟨_ | _, _⟩ <;> rfl

/-- What the rotator has to do for a target: tell where it is while it moves, and otherwise go to a
target that is far enough off. -/
def move (target : Option (Position α)) (c : Controller τ α ρ κ) : Move α :=
  if c.session.repointInFlight then .poll
  else match target with
    | none => .rest
    | some position =>
      if needsRepoint position c.session.lastCommanded c.settings.azimuthThresholdDeg
          c.settings.elevationThresholdDeg then .order position
      else .rest

omit [Timeline τ α] in
/-- **What the rotator is told** follows from its move. -/
theorem commandRotator_eq (target : Option (Position α)) (c : Controller τ α ρ κ) :
    commandRotator target c = match c.move target with
      | .rest => c.noted target
      | .poll => (c.noted target).polled
      | .order position => (c.noted target).sent position := by
  unfold commandRotator move
  dsimp only
  split
  · dsimp only [polled, noted]
    rcases c.rotator.use Rotator.Fault.isDisconnect Rotator.Device.status with ⟨_ | _, _⟩ <;> rfl
  · cases target with
    | none => rfl
    | some position =>
      dsimp only
      split
      · dsimp only [sent, noted]
        rcases c.rotator.use Rotator.Fault.isDisconnect (Rotator.Device.set position) with
          ⟨_ | _, _⟩ <;> rfl
      · rfl

omit [Timeline τ α] [Rotator.Device ρ α] in
theorem repointInFlight_of_poll {target : Option (Position α)} {c : Controller τ α ρ κ}
    (h : c.move target = .poll) : c.session.repointInFlight = true := by
  unfold move at h
  split at h
  · assumption
  · cases target with
    | none => simp at h
    | some position =>
      dsimp only at h
      split at h <;> simp at h

omit [Timeline τ α] [Rotator.Device ρ α] in
/-- The rotator is sent to the target only, and only while it does not move. -/
theorem of_order {target : Option (Position α)} {c : Controller τ α ρ κ}
    {position : Position α} (h : c.move target = .order position) :
    c.session.repointInFlight = false ∧ target = some position := by
  unfold move at h
  split at h
  · simp at h
  · rename_i hrest
    refine ⟨by simpa using hrest, ?_⟩
    cases target with
    | none => simp at h
    | some p =>
      dsimp only at h
      split at h
      · simp only [Move.order.injEq] at h
        rw [h]
      · simp at h

end Antenna

/-! ## The radio -/

section Radio

variable [Radio.Device κ α]

/-- What the radio is to be tuned to now. -/
def errand (c : Controller τ α ρ κ) : Errand :=
  if !c.radio.isAvailable || !c.session.engaged then .nothing
  else if c.session.auxiliary then .reference
  else match c.session.phase with
    | .armed | .tracking => .channels
    | .idle | .coolingDown => .nothing

/-- Tunes the channel of the auxiliary frequency. -/
def tuneReference (c : Controller τ α ρ κ) : Controller τ α ρ κ :=
  let (reference, radio) :=
    retuneIfSet c.settings.dopplerResolutionHz (·.nominalHz) c.reference c.radio
  { c with reference, radio }

omit [Timeline τ α] in
/-- **What the radio is told** follows from its errand. -/
theorem commandRadio_eq (rangeRateKmS : α) (c : Controller τ α ρ κ) :
    commandRadio rangeRateKmS c = match c.errand with
      | .nothing => c
      | .reference => tuneReference c
      | .channels => tuneChannels rangeRateKmS (enterSatelliteMode c) := by
  unfold commandRadio errand
  split
  · rfl
  · split
    · rfl
    · cases c.session.phase <;> rfl

end Radio

/-! ## The step -/

/-- The state after the look and the search, before a target is chosen. -/
def predicted [Chronology τ] (now : τ) (o : Observation α) (minutes : Option α)
    (c : Controller τ α ρ κ) : Controller τ α ρ κ :=
  { c with
    minutesToVisibility := minutes
    session := c.session.transition c.settings now o.elevationDeg minutes }

/-- The state after the choice of a target, before the devices are commanded. -/
def seen [Chronology τ] (now : τ) (o : Observation α) (minutes : Option α)
    (c : Controller τ α ρ κ) : Controller τ α ρ κ :=
  { predicted now o minutes c with observation := some (now, o) }

/-- The search of a step. -/
def search (now : τ) (c : Controller τ α ρ κ) : Looks α (Option α) :=
  Visibility.refinedMinutesToCrossing c.satellite now c.settings.horizonMinutes
    Visibility.coarseStep

variable [Chronology τ] [Rotator.Device ρ α] [Radio.Device κ α]

/-- A step is a look, a search, the choice of a target and the device commands. -/
theorem step_eq (now : τ) (c : Controller τ α ρ κ) :
    step now c = match c.satellite.observe now with
      | .error cause => (.error (.prediction cause), c.looked 1)
      | .ok o => match (search now c).result with
        | .error cause => (.error (.prediction cause), (c.looked 1).looked (search now c).count)
        | .ok minutes =>
          let n := ((predicted now o minutes c).aim o minutes).looks
          let c' := ((c.looked 1).looked (search now c).count).looked n
          match (predicted now o minutes c).target now o minutes with
          | .error cause => (.error (.prediction cause), predicted now o minutes c')
          | .ok target => (.ok (), commandRadio o.rangeRateKmS
              (commandRotator target (seen now o minutes c'))) := by
  unfold step
  cases ho : c.satellite.observe now with
  | error cause => exact Exchange.run_bind_of_error (ask_of_error (fun e => e.look now) ho)
  | ok o =>
    rw [Exchange.run_bind_of_ok (ask_of_ok (fun e => e.look now) ho),
      Exchange.run_bind_of_ok (Exchange.run_get _)]
    cases hs : (search now c).result with
    | error cause => exact Exchange.run_bind_of_error (ask_of_error _ hs)
    | ok minutes =>
      rw [Exchange.run_bind_of_ok (ask_of_ok _ hs), Exchange.run_bind_of_ok (Exchange.run_modify _ _)]
      -- the number of looks has no part in the target
      have htarget : pointingTarget o now minutes
          (predicted now o minutes ((c.looked 1).looked (search now c).count)) =
            (((predicted now o minutes c).target now o minutes).mapError .prediction, _) :=
        pointingTarget_eq o now minutes _
      dsimp only
      cases ht : (predicted now o minutes c).target now o minutes with
      | error cause =>
        rw [ht] at htarget
        exact Exchange.run_bind_of_error htarget
      | ok target =>
        rw [ht] at htarget
        exact (Exchange.run_bind_of_ok htarget).trans rfl

/-- A step that goes through chooses a target and commands the devices. -/
theorem step_of_ok {now : τ} {c : Controller τ α ρ κ} (h : (step now c).1 = .ok ()) :
    ∃ o minutes target n, step now c = (.ok (), commandRadio o.rangeRateKmS (commandRotator target
      (seen now o minutes (c.looked n)))) := by
  have hstep := step_eq now c
  cases ho : c.satellite.observe now with
  | error cause =>
    rw [hstep, ho] at h
    simp at h
  | ok o =>
    cases hs : (search now c).result with
    | error cause =>
      rw [hstep, ho, hs] at h
      simp at h
    | ok minutes =>
      cases ht : (predicted now o minutes c).target now o minutes with
      | error cause =>
        rw [hstep, ho, hs] at h
        simp [ht] at h
      | ok target =>
        simp only [ho, hs, ht, looked_looked] at hstep
        exact ⟨o, minutes, target, _, hstep⟩

variable [Visibility.LawfulGrid α]

/-- **What a step can do.**  It fails by the first look or by the search, with nothing changed but the
number of looks, or it chooses a target and commands the devices. -/
theorem step_cases (now : τ) (c : Controller τ α ρ κ) :
    (∃ cause n, (c.satellite.observe now = .error cause ∨ (search now c).result = .error cause) ∧
      step now c = (.error (.prediction cause), c.looked n)) ∨
    (∃ o minutes target n, c.satellite.observe now = .ok o ∧
      (search now c).result = .ok minutes ∧
      (predicted now o minutes c).target now o minutes = .ok target ∧
      step now c = (.ok (), commandRadio o.rangeRateKmS (commandRotator target
        (seen now o minutes (c.looked n))))) := by
  have hstep := step_eq now c
  cases ho : c.satellite.observe now with
  | error cause =>
    rw [ho] at hstep
    exact Or.inl ⟨cause, _, Or.inl rfl, hstep⟩
  | ok o =>
    cases hs : (search now c).result with
    | error cause =>
      rw [ho, hs] at hstep
      exact Or.inl ⟨cause, _, Or.inr rfl, hstep.trans (by rw [looked_looked])⟩
    | ok minutes =>
      cases ht : (predicted now o minutes c).target now o minutes with
      | ok target =>
        simp only [ho, hs, ht, looked_looked] at hstep
        exact Or.inr ⟨o, minutes, target, _, rfl, rfl, ht, hstep⟩
      | error cause =>
        -- a target that fails is that of a rise ahead, which the search has seen
        obtain ⟨m, ⟨rfl, hpos⟩, hf⟩ := target_error ht
        obtain ⟨rise, hr⟩ := Visibility.refinedMinutesToCrossing_seen hs hpos
        exact absurd (hr.symm.trans hf) (by simp)

/-! ## What a step leaves alone -/

/-- What only the operator changes is the same in two states. -/
structure SameOrders (c d : Controller τ α ρ κ) : Prop where
  satellite : d.satellite = c.satellite
  settings : d.settings = c.settings
  engaged : d.session.engaged = c.session.engaged
  pinned : d.session.pinned = c.session.pinned
  auxiliary : d.session.auxiliary = c.session.auxiliary
  unlockedTicks : d.session.unlockedTicks = c.session.unlockedTicks

omit [Scalar α] [Timeline τ α] [Chronology τ] [Rotator.Device ρ α] [Radio.Device κ α]
  [Visibility.LawfulGrid α] in
theorem SameOrders.trans {c d e : Controller τ α ρ κ} (h : SameOrders c d) (h' : SameOrders d e) :
    SameOrders c e :=
  ⟨h'.satellite.trans h.satellite, h'.settings.trans h.settings, h'.engaged.trans h.engaged,
    h'.pinned.trans h.pinned, h'.auxiliary.trans h.auxiliary,
    h'.unlockedTicks.trans h.unlockedTicks⟩

omit [Timeline τ α] [Chronology τ] [Radio.Device κ α] [Visibility.LawfulGrid α] in
theorem commandRotator_frame (target : Option (Position α)) (c : Controller τ α ρ κ) :
    SameOrders c (commandRotator target c) := by
  have hnoted : SameOrders c (c.noted target) := ⟨rfl, rfl, rfl, rfl, rfl, rfl⟩
  rw [commandRotator_eq]
  cases c.move target with
  | rest => exact hnoted
  | poll =>
    refine hnoted.trans ?_
    dsimp only [polled]
    rcases (c.noted target).rotator.use Rotator.Fault.isDisconnect Rotator.Device.status with
      ⟨_ | _, _⟩ <;> exact ⟨rfl, rfl, rfl, rfl, rfl, rfl⟩
  | order position =>
    refine hnoted.trans ?_
    dsimp only [sent]
    rcases (c.noted target).rotator.use Rotator.Fault.isDisconnect (Rotator.Device.set position) with
      ⟨_ | _, _⟩ <;> exact ⟨rfl, rfl, rfl, rfl, rfl, rfl⟩

omit [Timeline τ α] [Chronology τ] [Rotator.Device ρ α] [Visibility.LawfulGrid α] in
theorem commandRadio_frame (rangeRateKmS : α) (c : Controller τ α ρ κ) :
    SameOrders c (commandRadio rangeRateKmS c) := by
  rw [commandRadio_eq]
  cases c.errand with
  | nothing => exact ⟨rfl, rfl, rfl, rfl, rfl, rfl⟩
  | reference => exact ⟨rfl, rfl, rfl, rfl, rfl, rfl⟩
  | channels =>
    have henter : SameOrders c (enterSatelliteMode c) := by
      unfold enterSatelliteMode
      split <;> exact ⟨rfl, rfl, rfl, rfl, rfl, rfl⟩
    exact henter.trans ⟨rfl, rfl, rfl, rfl, rfl, rfl⟩

omit [Visibility.LawfulGrid α] in
/-- A step, failed or not, leaves alone what the operator has set. -/
theorem step_frame (now : τ) (c : Controller τ α ρ κ) : SameOrders c (step now c).2 := by
  rw [step_eq]
  cases c.satellite.observe now with
  | error cause => exact ⟨rfl, rfl, rfl, rfl, rfl, rfl⟩
  | ok o =>
    cases (search now c).result with
    | error cause => exact ⟨rfl, rfl, rfl, rfl, rfl, rfl⟩
    | ok minutes =>
      dsimp only
      cases (predicted now o minutes c).target now o minutes with
      | error cause => exact ⟨rfl, rfl, rfl, rfl, rfl, rfl⟩
      | ok target =>
        have hseen (n : Nat) : SameOrders c (seen now o minutes (c.looked n)) :=
          ⟨rfl, rfl, rfl, rfl, rfl, rfl⟩
        rw [looked_looked, looked_looked]
        exact (hseen _).trans
          ((commandRotator_frame target _).trans (commandRadio_frame o.rangeRateKmS _))

end Controller

end EarthStation.Tracking
