import EarthStation.Proofs.Exchange
import EarthStation.Proofs.Tracking.Coherence

/-!
# Phases — how a run moves from phase to phase

* `obeyed`, `Command.disarms`: the commands that an event accepts, and those that end the following.
* `drain_samePhase`, `drain_disarmed`, `step_phase`: what commands and a step do to the phase and to the
  instant since which the run cools down.
* `Undisturbed`, `Cools`: events that do not end a cooling down.
* `PhaseLaw`, `phase_law`: the phases of a run, tick by tick, and how long it cools down.
* `phases_astray`: a stop and a start between two ticks end a cooling down before its time, a pass
  begins a new one, and an elevation that is no number arms a run.
-/

namespace EarthStation.Tracking

/-- Holds of the commands after which nothing is followed until the next start. -/
def Command.disarms {α : Type} : Command α → Bool
  | stop | home => true
  | _ => false

namespace Session

variable {τ α : Type} [Scalar α] [Chronology τ] {s : Session τ α} {settings : Settings α} {now : τ}
  {elevationDeg : α} {minutes : Option α}

/-- The phase of a run that is engaged, once the pass is over. -/
theorem nextPhase_of_engaged (h : s.engaged = true) :
    s.nextPhase settings now elevationDeg minutes =
      if 0 < elevationDeg then .tracking
      else if minutes.any fun m => decide (m < settings.prepMinutes) then .armed
      else match s.phase with
        | .armed | .tracking => .coolingDown
        | .coolingDown => if s.hasCooledDown settings now then .idle else .coolingDown
        | .idle => .idle := by
  unfold nextPhase
  rw [h]
  rfl

theorem nextPhase_of_disengaged (h : s.engaged = false) :
    s.nextPhase settings now elevationDeg minutes = .idle := by
  unfold nextPhase
  rw [h]
  rfl

theorem nextPhase_eq_tracking_iff :
    s.nextPhase settings now elevationDeg minutes = .tracking ↔
      s.engaged = true ∧ 0 < elevationDeg := by
  cases h : s.engaged with
  | false => simp [nextPhase_of_disengaged h]
  | true =>
    rw [nextPhase_of_engaged h]
    by_cases hup : 0 < elevationDeg
    · simp [hup]
    · simp only [if_neg hup]
      split
      · simp [hup]
      · cases s.phase with
        | coolingDown => dsimp only; split <;> simp [hup]
        | _ => simp [hup]

theorem nextPhase_eq_armed_iff :
    s.nextPhase settings now elevationDeg minutes = .armed ↔
      s.engaged = true ∧ ¬ 0 < elevationDeg ∧ ∃ m, minutes = some m ∧ m < settings.prepMinutes := by
  have hnear : (minutes.any fun m => decide (m < settings.prepMinutes)) = true ↔
      ∃ m, minutes = some m ∧ m < settings.prepMinutes := by
    cases minutes <;> simp
  rw [← hnear]
  cases h : s.engaged with
  | false => simp [nextPhase_of_disengaged h]
  | true =>
    rw [nextPhase_of_engaged h]
    by_cases hup : 0 < elevationDeg
    · simp [hup]
    · simp only [if_neg hup]
      split
      · rename_i hsoon
        simp [hup, hsoon]
      · rename_i hsoon
        cases s.phase with
        | coolingDown => dsimp only; split <;> simp [hsoon]
        | _ => simp [hsoon]

/-- Only a pass leads to a cooling down. -/
theorem nextPhase_ne_coolingDown (h : s.phase = .idle) :
    s.nextPhase settings now elevationDeg minutes ≠ .coolingDown := by
  cases he : s.engaged with
  | false => simp [nextPhase_of_disengaged he]
  | true =>
    rw [nextPhase_of_engaged he, h]
    split
    · simp
    · split <;> simp

/-- A pass leads to a cooling down before the run is idle again. -/
theorem nextPhase_ne_idle (he : s.engaged = true) (h : s.phase = .armed ∨ s.phase = .tracking) :
    s.nextPhase settings now elevationDeg minutes ≠ .idle := by
  rw [nextPhase_of_engaged he]
  split
  · simp
  · split
    · simp
    · rcases h with h | h <;> simp [h]

/-- Without a pass ahead a run cools down until it has done so for long enough. -/
theorem nextPhase_of_coolingDown (he : s.engaged = true) (h : s.phase = .coolingDown)
    (hup : ¬ 0 < elevationDeg)
    (hsoon : (minutes.any fun m => decide (m < settings.prepMinutes)) = false) :
    s.nextPhase settings now elevationDeg minutes =
      if s.hasCooledDown settings now then .idle else .coolingDown := by
  rw [nextPhase_of_engaged he, if_neg hup, hsoon, h]
  rfl

end Session

namespace Controller

variable {τ α ρ κ : Type}

/-- The phase and the instant since which the run cools down are the same in two states. -/
structure SamePhase (c d : Controller τ α ρ κ) : Prop where
  phase : d.session.phase = c.session.phase
  idleSince : d.session.idleSince = c.session.idleSince

theorem SamePhase.trans {c d e : Controller τ α ρ κ} (h : SamePhase c d) (h' : SamePhase d e) :
    SamePhase c e :=
  ⟨h'.phase.trans h.phase, h'.idleSince.trans h.idleSince⟩

/-- Nothing is followed any more. -/
structure Disarmed (c : Controller τ α ρ κ) : Prop where
  phase : c.session.phase = .idle
  idleSince : c.session.idleSince = none

variable [Scalar α] [Rotator.Device ρ α]

/-! ## Commands -/

theorem obey_samePhase {command : Command α} (h : command.disarms = false)
    (c : Controller τ α ρ κ) : SamePhase c (obey command c) := by
  cases command with
  | stop => simp [Command.disarms] at h
  | home => simp [Command.disarms] at h
  | auxiliary => unfold obey; dsimp only; split <;> exact ⟨rfl, rfl⟩
  | _ => exact ⟨rfl, rfl⟩

theorem obey_disarmed {command : Command α} (h : command.disarms = true)
    (c : Controller τ α ρ κ) : Disarmed (obey command c) := by
  cases command with
  | stop => exact ⟨rfl, rfl⟩
  | home => exact ⟨rfl, rfl⟩
  | _ => simp [Command.disarms] at h

/-- The commands of a list that are accepted. -/
def acceptedOf (commands : List (Command α)) (c : Controller τ α ρ κ) : List (Command α) :=
  ((commands.zip (drain commands c).1).filter (·.2)).map (·.1)

@[simp] theorem acceptedOf_nil (c : Controller τ α ρ κ) : acceptedOf [] c = [] := rfl

theorem acceptedOf_cons (command : Command α) (rest : List (Command α)) (c : Controller τ α ρ κ) :
    acceptedOf (command :: rest) c =
      if (handle command c).1.isOk then command :: acceptedOf rest (handle command c).2
      else acceptedOf rest (handle command c).2 := by
  unfold acceptedOf
  rw [drain_cons, List.zip_cons_cons, List.filter_cons]
  split <;> simp_all

/-- An accepted command that disarms ends every phase. -/
theorem handle_disarmed {command : Command α} {c : Controller τ α ρ κ}
    (hok : (handle command c).1.isOk = true) (h : command.disarms = true) :
    Disarmed (handle command c).2 := by
  rw [handle_eq] at hok ⊢
  split
  · split
    · rename_i hchanges hlocked
      rw [if_pos hchanges, if_pos hlocked] at hok
      cases hok
    · exact obey_disarmed h _
  · exact obey_disarmed h _

/-- A command leaves the phase alone, unless it is accepted and disarms. -/
theorem handle_phase (command : Command α) (c : Controller τ α ρ κ) :
    SamePhase c (handle command c).2 ∨
      ((handle command c).1.isOk = true ∧ command.disarms = true) := by
  have hcredit : SamePhase c (c.withCredit 0) := ⟨rfl, rfl⟩
  rw [handle_eq]
  cases hd : command.disarms with
  | false =>
    refine Or.inl ?_
    split
    · split
      · exact ⟨rfl, rfl⟩
      · exact hcredit.trans (obey_samePhase hd _)
    · exact obey_samePhase hd c
  | true =>
    split
    · split
      · exact Or.inl ⟨rfl, rfl⟩
      · exact Or.inr ⟨rfl, rfl⟩
    · exact Or.inr ⟨rfl, rfl⟩

/-- **Commands leave the phase alone** as long as none is accepted that disarms. -/
theorem drain_samePhase {commands : List (Command α)} {c : Controller τ α ρ κ}
    (h : ∀ x ∈ acceptedOf commands c, x.disarms = false) : SamePhase c (drain commands c).2 := by
  induction commands generalizing c with
  | nil => exact ⟨rfl, rfl⟩
  | cons command rest ih =>
    rw [acceptedOf_cons] at h
    rw [drain_cons]
    rcases handle_phase command c with hnow | ⟨hok, hd⟩
    · refine hnow.trans (ih fun x hx => h x ?_)
      split
      · exact List.mem_cons_of_mem _ hx
      · exact hx
    · rw [if_pos hok] at h
      rw [h command List.mem_cons_self] at hd
      simp at hd

/-- **An accepted command that disarms ends every phase**, and no command after it begins another. -/
theorem drain_disarmed {commands : List (Command α)} {c : Controller τ α ρ κ}
    (h : ∃ x ∈ acceptedOf commands c, x.disarms = true) : Disarmed (drain commands c).2 := by
  induction commands generalizing c with
  | nil =>
    obtain ⟨x, hx, -⟩ := h
    cases hx
  | cons command rest ih =>
    rw [drain_cons]
    by_cases hrest : ∃ x ∈ acceptedOf rest (handle command c).2, x.disarms = true
    · exact ih hrest
    · have hlater : ∀ x ∈ acceptedOf rest (handle command c).2, x.disarms = false := by
        simpa using hrest
      -- nothing later disarms, so this command is accepted and does
      obtain ⟨x, hx, hdisarms⟩ := h
      rw [acceptedOf_cons] at hx
      by_cases hok : (handle command c).1.isOk = true
      · rw [if_pos hok] at hx
        rcases List.mem_cons.mp hx with rfl | hx
        · have hnow := handle_disarmed hok hdisarms
          have hsame := drain_samePhase hlater
          exact ⟨hsame.phase.trans hnow.phase, hsame.idleSince.trans hnow.idleSince⟩
        · exact absurd (hlater x hx) (by simp [hdisarms])
      · rw [if_neg hok] at hx
        exact absurd (hlater x hx) (by simp [hdisarms])

/-- Commands never begin to cool down. -/
theorem drain_ne_coolingDown (commands : List (Command α)) {c : Controller τ α ρ κ}
    (h : c.session.phase ≠ .coolingDown) : (drain commands c).2.session.phase ≠ .coolingDown := by
  by_cases hdisarms : ∃ x ∈ acceptedOf commands c, x.disarms = true
  · simp [(drain_disarmed hdisarms).phase]
  · have hnone : ∀ x ∈ acceptedOf commands c, x.disarms = false := by simpa using hdisarms
    rw [(drain_samePhase hnone).phase]
    exact h

/-! ## Steps -/

variable [Timeline τ α] [Chronology τ] [Radio.Device κ α]

/-- What the phase of a step is told from: the look, the search, and the state before it. -/
structure Stepped (now : τ) (o : Observation α) (minutes : Option α) (c d : Controller τ α ρ κ) :
    Prop where
  look : c.satellite.observe now = .ok o
  search : (search now c).result = .ok minutes
  observation : d.observation = some (now, o)
  minutesToVisibility : d.minutesToVisibility = minutes
  samePhase : SamePhase (predicted now o minutes c) d
  engaged : d.session.engaged = c.session.engaged
  settings : d.settings = c.settings

omit [Timeline τ α] [Chronology τ] in
/-- The devices are commanded without a change to anything else. -/
theorem commanded_without (target : Option (Rotator.Position α)) (rangeRateKmS : α)
    (c : Controller τ α ρ κ) :
    (commandRadio rangeRateKmS (commandRotator target c)).withoutRadio.withoutRotator =
      c.withoutRadio.withoutRotator := by
  rw [commandRadio_withoutRadio]
  exact congrArg withoutRadio (commandRotator_withoutRotator target c)

/-- **A step leaves the phase alone or goes through**, and then the phase follows from the look and the
search. -/
theorem step_phase [Visibility.LawfulGrid α] (now : τ) (c : Controller τ α ρ κ) :
    ((step now c).1 ≠ .ok () ∧ SamePhase c (step now c).2) ∨
      ((step now c).1 = .ok () ∧ ∃ o minutes, Stepped now o minutes c (step now c).2) := by
  have hframe := step_frame now c
  rcases step_cases now c with ⟨cause, n, -, hstep⟩ | ⟨o, minutes, target, n, ho, hs, -, hstep⟩
  · rw [hstep]
    exact Or.inl ⟨by simp, rfl, rfl⟩
  · have hwithout := commanded_without target o.rangeRateKmS (seen now o minutes (c.looked n))
    rw [hstep] at hframe ⊢
    exact Or.inr ⟨rfl, o, minutes,
      { look := ho
        search := hs
        observation := congrArg (fun e => e.observation) hwithout
        minutesToVisibility := congrArg (fun e => e.minutesToVisibility) hwithout
        samePhase := ⟨congrArg (fun e => e.session.phase) hwithout,
          congrArg (fun e => e.session.idleSince) hwithout⟩
        engaged := hframe.engaged
        settings := hframe.settings }⟩

/-- The same of a tick, from the state that its commands lead to. -/
theorem tick_phase [Visibility.LawfulGrid α] (commands : List (Command α)) (now : τ)
    (c : Controller τ α ρ κ) :
    ((tick commands now c).1.result ≠ .ok () ∧
        SamePhase (drain commands c).2 (tick commands now c).2) ∨
      ((tick commands now c).1.result = .ok () ∧
        ∃ o minutes, Stepped now o minutes (drain commands c).2 (tick commands now c).2) := by
  rw [tick_eq]
  dsimp only
  rcases step_phase now (drain commands c).2 with ⟨hfailed, hsame⟩ | ⟨hok, o, minutes, h⟩
  · refine Or.inl ⟨hfailed, ?_⟩
    split
    · exact hsame
    · exact ⟨hsame.phase, hsame.idleSince⟩
  · refine Or.inr ⟨hok, o, minutes, ?_⟩
    split
    · exact h
    · exact { h with samePhase := ⟨h.samePhase.phase, h.samePhase.idleSince⟩ }

/-! ## Cooling down -/

/-- The commands that an event accepts. -/
def obeyed (e : Event τ α) (c : Controller τ α ρ κ) : List (Command α) :=
  match e with
  | .command command => acceptedOf [command] c
  | .tick commands _ => acceptedOf commands c

/-- Holds if by the last look a pass is in progress or near. -/
def passNear (c : Controller τ α ρ κ) : Bool :=
  (c.observation.any fun look => decide (0 < look.2.elevationDeg)) ||
    c.minutesToVisibility.any fun m => decide (m < c.settings.prepMinutes)

/-- An event that does not end a cooling down which began at `since`: it accepts no command that
disarms, and if it is a tick that goes through, then it sees no pass and the time is not over. -/
structure Undisturbed (since : τ) (e : Event τ α) (c : Controller τ α ρ κ) : Prop where
  obeyed : ∀ x ∈ obeyed e c, x.disarms = false
  tick : ∀ {commands now}, e = .tick commands now → (tick commands now c).1.result = .ok () →
    passNear (tick commands now c).2 = false ∧
      Chronology.nanosBetween since now < c.settings.idleTimeoutNanos

/-- Events that do not end a cooling down which began at `since`. -/
def Cools (since : τ) : List (Event τ α) → Controller τ α ρ κ → Prop
  | [], _ => True
  | e :: rest, c => Undisturbed since e c ∧ Cools since rest (next e c)

/-- The run cools down since the given instant. -/
structure CoolingSince (since : τ) (c : Controller τ α ρ κ) : Prop where
  phase : c.session.phase = .coolingDown
  idleSince : c.session.idleSince = some since

omit [Scalar α] [Rotator.Device ρ α] [Timeline τ α] [Chronology τ] [Radio.Device κ α] in
theorem CoolingSince.of_samePhase {since : τ} {c d : Controller τ α ρ κ} (h : CoolingSince since c)
    (hsame : SamePhase c d) : CoolingSince since d :=
  ⟨hsame.phase.trans h.phase, hsame.idleSince.trans h.idleSince⟩

omit [Scalar α] [Rotator.Device ρ α] [Timeline τ α] [Chronology τ] [Radio.Device κ α] in
theorem Coherent.engaged {c : Controller τ α ρ κ} (h : Coherent c) (hphase : c.session.phase ≠ .idle) :
    c.session.engaged = true := by
  cases he : c.session.engaged with
  | true => rfl
  | false => exact absurd (h.disengaged he).1 hphase

/-- **A tick without a pass** ends a cooling down just if its time is over. -/
theorem tick_coolingDown [Visibility.LawfulGrid α] {since now : τ} {commands : List (Command α)}
    {c : Controller τ α ρ κ} (hc : Coherent c) (h : CoolingSince since c)
    (hobeyed : ∀ x ∈ acceptedOf commands c, x.disarms = false)
    (hok : (tick commands now c).1.result = .ok ())
    (hfar : passNear (tick commands now c).2 = false) :
    ((c.settings.idleTimeoutNanos : Int) ≤ Chronology.nanosBetween since now →
        (tick commands now c).2.session.phase = .idle) ∧
      (Chronology.nanosBetween since now < c.settings.idleTimeoutNanos →
        CoolingSince since (tick commands now c).2) := by
  have hd : CoolingSince since (drain commands c).2 := h.of_samePhase (drain_samePhase hobeyed)
  have hengaged : (drain commands c).2.session.engaged = true :=
    (coherent_invariant.drain hc commands).engaged (by simp [hd.phase])
  have hsettings := ((fixed_invariant c.satellite c.settings).drain ⟨rfl, rfl⟩ commands).2
  rcases tick_phase commands now c with ⟨hfailed, -⟩ | ⟨-, o, minutes, hs⟩
  · exact absurd hok hfailed
  · unfold passNear at hfar
    rw [hs.observation, hs.minutesToVisibility, hs.settings] at hfar
    simp only [Option.any_some, Bool.or_eq_false_iff, decide_eq_false_iff_not] at hfar
    have hnext : (drain commands c).2.session.nextPhase (drain commands c).2.settings now
        o.elevationDeg minutes = _ :=
      Session.nextPhase_of_coolingDown hengaged hd.phase hfar.1 hfar.2
    have hover : (drain commands c).2.session.hasCooledDown (drain commands c).2.settings now =
        decide ((c.settings.idleTimeoutNanos : Int) ≤ Chronology.nanosBetween since now) := by
      unfold Session.hasCooledDown
      rw [hd.idleSince, hsettings]
    rw [hover] at hnext
    constructor
    · intro hlong
      rw [decide_eq_true hlong, if_pos rfl] at hnext
      exact hs.samePhase.phase.trans hnext
    · intro hshort
      rw [decide_eq_false (by omega), if_neg (by simp)] at hnext
      refine ⟨hs.samePhase.phase.trans hnext, hs.samePhase.idleSince.trans ?_⟩
      dsimp only [predicted, Session.transition]
      rw [if_pos hnext, if_pos hd.phase, hd.idleSince]

/-- **A cooling down lasts** as long as nothing ends it. -/
theorem after_coolingSince [Visibility.LawfulGrid α] {since : τ} {c : Controller τ α ρ κ}
    (hc : Coherent c) (h : CoolingSince since c) (later : List (Event τ α))
    (hcools : Cools since later c) : CoolingSince since (after later c) := by
  induction later generalizing c with
  | nil => exact h
  | cons e rest ih =>
    obtain ⟨hnow, hrest⟩ := hcools
    cases e with
    | command command =>
      exact ih (coherent_invariant.handle hc command) (h.of_samePhase (drain_samePhase hnow.obeyed))
        hrest
    | tick commands now =>
      refine ih (coherent_invariant.tick hc commands now) ?_ hrest
      -- a tick that fails leaves the phase as its commands do, and none of them disarms
      by_cases hok : (tick commands now c).1.result = .ok ()
      · obtain ⟨hfar, hshort⟩ := hnow.tick rfl hok
        exact (tick_coolingDown hc h hnow.obeyed hok hfar).2 hshort
      · rcases tick_phase commands now c with ⟨-, hsame⟩ | ⟨hok', -⟩
        · exact h.of_samePhase ((drain_samePhase hnow.obeyed).trans hsame)
        · exact absurd hok' hok

/-! ## The law of the phases -/

/-- What a tick does to the phase of a run, which has handled the commands of the tick when the look is
made, and what becomes of a cooling down that begins with it. -/
structure PhaseLaw (commands : List (Command α)) (now : τ) (c : Controller τ α ρ κ) : Prop where
  /-- Commands leave the phase alone as long as none is accepted that disarms. -/
  drained : (∀ x ∈ acceptedOf commands c, x.disarms = false) → SamePhase c (drain commands c).2
  /-- An accepted command that disarms ends every phase, and no command after it begins another. -/
  disarmed : (∃ x ∈ acceptedOf commands c, x.disarms = true) → Disarmed (drain commands c).2
  /-- A tick that fails leaves the phase alone. -/
  failed : (tick commands now c).1.result ≠ .ok () →
    SamePhase (drain commands c).2 (tick commands now c).2
  /-- A tick that goes through ends in a pass just if it sees one. -/
  seen : (tick commands now c).1.result = .ok () → ∃ o minutes,
    c.satellite.observe now = .ok o ∧ (search now c).result = .ok minutes ∧
      (tick commands now c).2.observation = some (now, o) ∧
      (tick commands now c).2.minutesToVisibility = minutes ∧
      ((tick commands now c).2.session.phase = .tracking ↔
        (tick commands now c).2.session.engaged = true ∧ 0 < o.elevationDeg) ∧
      ((tick commands now c).2.session.phase = .armed ↔
        (tick commands now c).2.session.engaged = true ∧ ¬ 0 < o.elevationDeg ∧
          ∃ m, minutes = some m ∧ m < c.settings.prepMinutes)
  idle : (drain commands c).2.session.phase = .idle →
    (tick commands now c).2.session.phase ≠ .coolingDown
  pass : (drain commands c).2.session.engaged = true →
    (drain commands c).2.session.phase = .armed ∨ (drain commands c).2.session.phase = .tracking →
      (tick commands now c).2.session.phase ≠ .idle
  /-- A cooling down that begins lasts, undisturbed, to the first tick at which its time is over. -/
  coolingDown : c.session.phase ≠ .coolingDown →
    (tick commands now c).2.session.phase = .coolingDown →
      ∀ later, Cools now later (tick commands now c).2 →
        let d := after later (tick commands now c).2
        CoolingSince now d ∧ ∀ commands' now', (∀ x ∈ acceptedOf commands' d, x.disarms = false) →
          (tick commands' now' d).1.result = .ok () → passNear (tick commands' now' d).2 = false →
            (d.settings.idleTimeoutNanos : Int) ≤ Chronology.nanosBetween now now' →
              (tick commands' now' d).2.session.phase = .idle

theorem phaseLaw_of_coherent [Visibility.LawfulGrid α] {c : Controller τ α ρ κ} (hc : Coherent c)
    (commands : List (Command α)) (now : τ) : PhaseLaw commands now c where
  drained h := drain_samePhase h
  disarmed h := drain_disarmed h
  failed hfailed := by
    rcases tick_phase commands now c with ⟨-, hsame⟩ | ⟨hok, -⟩
    · exact hsame
    · exact absurd hok hfailed
  seen hok := by
    obtain ⟨hsatellite, hsettings⟩ :=
      (fixed_invariant c.satellite c.settings).drain ⟨rfl, rfl⟩ commands
    rcases tick_phase commands now c with ⟨hfailed, -⟩ | ⟨-, o, minutes, h⟩
    · exact absurd hok hfailed
    · -- commands change neither the satellite nor the settings, hence not what the tick sees
      have hsearch : search now (drain commands c).2 = search now c := by
        unfold search
        rw [hsatellite, hsettings]
      refine ⟨o, minutes, hsatellite ▸ h.look, hsearch ▸ h.search, h.observation,
        h.minutesToVisibility, ?_, ?_⟩
      · rw [h.samePhase.phase, h.engaged]
        exact Session.nextPhase_eq_tracking_iff
      · rw [h.samePhase.phase, h.engaged, ← hsettings]
        exact Session.nextPhase_eq_armed_iff
  idle hidle := by
    rcases tick_phase commands now c with ⟨-, hsame⟩ | ⟨-, o, minutes, h⟩
    · rw [hsame.phase, hidle]
      simp
    · rw [h.samePhase.phase]
      exact Session.nextPhase_ne_coolingDown hidle
  pass hengaged hpass := by
    rcases tick_phase commands now c with ⟨-, hsame⟩ | ⟨-, o, minutes, h⟩
    · rw [hsame.phase]
      rcases hpass with hpass | hpass <;> simp [hpass]
    · rw [h.samePhase.phase]
      exact Session.nextPhase_ne_idle hengaged hpass
  coolingDown hbefore hbegins later hcools := by
    have hdrained := drain_ne_coolingDown commands hbefore
    have hstart : CoolingSince now (tick commands now c).2 := by
      rcases tick_phase commands now c with ⟨-, hsame⟩ | ⟨-, o, minutes, h⟩
      · exact absurd (hsame.phase.symm.trans hbegins) hdrained
      · refine ⟨hbegins, h.samePhase.idleSince.trans ?_⟩
        have hnext := h.samePhase.phase.symm.trans hbegins
        exact (if_pos hnext).trans (if_neg hdrained)
    have hcoherent := coherent_invariant.tick hc commands now
    have hlasts := after_coolingSince hcoherent hstart later hcools
    refine ⟨hlasts, fun commands' now' hobeyed hok hfar hlong => ?_⟩
    exact (tick_coolingDown (coherent_invariant.after hcoherent later) hlasts hobeyed hok hfar).1 hlong

end Controller

namespace Controller

variable {τ ρ κ : Type} [Timeline τ Float] [Chronology τ] [Rotator.Device ρ Float]
  [Radio.Device κ Float]

/-- **The law of the phases** holds of every tick of every run, whatever came before it. -/
theorem phase_law (satellite : Ephemeris τ Float) (settings : Settings Float) (rotator : Equipment ρ)
    (radio : Equipment κ) (events : List (Event τ Float)) (commands : List (Command Float))
    (now : τ) :
    let c := after events (fresh satellite settings rotator radio)
    (c.satellite = satellite ∧ c.settings = settings) ∧ PhaseLaw commands now c :=
  ⟨(fixed_invariant satellite settings).after ⟨rfl, rfl⟩ events,
    phaseLaw_of_coherent
      (coherent_invariant.after (Coherent.fresh satellite settings rotator radio) events) commands now⟩

/-- A satellite that is up at the first instant and three minutes later. -/
def flashes : Ephemeris Instant Float where
  name := "FLASHES"
  observe t := .ok ⟨135, if t = ⟨0⟩ ∨ t = ⟨180000000⟩ then 10 else -30, 550, 6⟩

/-- Settings without a search for the next pass. -/
def blind : Settings Float := { Settings.standard with horizonMinutes := 0 }

/-- A run without devices that has seen the first pass and cools down since the first minute. -/
def cooling : Controller Instant Float (Rotator.Bench Float) (Radio.Bench Float) :=
  (tick [] ⟨60000000⟩ (after [.tick [] ⟨0⟩] (fresh flashes blind .absent .absent))).2

/-- Undisturbed by a tick in the second minute, the cooling down ends with the eleventh. -/
theorem phase_law_cooling :
    CoolingSince ⟨60000000⟩ (after [.tick [] ⟨120000000⟩] cooling) ∧
      (tick [] ⟨660000000⟩ (after [.tick [] ⟨120000000⟩] cooling)).2.session.phase = .idle := by
  have hcools : Cools ⟨60000000⟩ [.tick [] ⟨120000000⟩] cooling := by
    refine ⟨⟨by simp [obeyed], ?_⟩, trivial⟩
    rintro commands now he -
    cases he
    exact ⟨by decide +kernel, by decide +kernel⟩
  obtain ⟨-, hlaw⟩ := phase_law (ρ := Rotator.Bench Float) (κ := Radio.Bench Float) flashes blind
    .absent .absent [.tick [] ⟨0⟩] [] ⟨60000000⟩
  obtain ⟨hlasts, hends⟩ := hlaw.coolingDown (by decide +kernel) (by decide +kernel) _ hcools
  refine ⟨hlasts, ?_⟩
  unfold cooling
  refine hends [] ⟨660000000⟩ ?_ ?_ ?_ ?_
  · simp
  · exact eq_ok_of_isOk (by decide +kernel)
  · decide +kernel
  · decide +kernel

/-- A satellite whose elevation is no number. -/
def veiled : Ephemeris Instant Float where
  name := "VEILED"
  observe _ := .ok ⟨135, 0 / 0, 550, 6⟩

/-- Long before its ten minutes are over, a cooling down does not last to a tick that is engaged, goes
through and sees no pass, if its commands stop the following and start it again, and it begins anew
after another pass.  An elevation that is no number arms a run although it is not below the horizon. -/
theorem phases_astray :
    CoolingSince ⟨60000000⟩ cooling ∧
      (let t := tick [.unlock, .stop, .unlock, .start] ⟨120000000⟩ cooling
       t.1.result.isOk = true ∧ t.2.session.engaged = true ∧ passNear t.2 = false ∧
         Chronology.nanosBetween (⟨60000000⟩ : Instant) ⟨120000000⟩ < t.2.settings.idleTimeoutNanos ∧
         t.2.session.phase = .idle) ∧
      (let t := tick [] ⟨240000000⟩ (tick [] ⟨180000000⟩ cooling).2
       t.1.result.isOk = true ∧ t.2.session.engaged = true ∧ passNear t.2 = false ∧
         Chronology.nanosBetween (⟨60000000⟩ : Instant) ⟨240000000⟩ < t.2.settings.idleTimeoutNanos ∧
         t.2.session.idleSince = some ⟨240000000⟩) ∧
      (let t : Report Float × Controller Instant Float (Rotator.Bench Float) (Radio.Bench Float) :=
        tick [] ⟨0⟩ (fresh veiled blind .absent .absent)
       t.1.result.isOk = true ∧
         (t.2.observation.any fun look => decide (look.2.elevationDeg ≤ 0)) = false ∧
         t.2.session.phase = .armed) := by
  refine ⟨⟨by decide +kernel, by decide +kernel⟩, ?_, ?_, ?_⟩
  · intro t
    refine ⟨?_, ?_, ?_, ?_, ?_⟩ <;> decide +kernel
  · intro t
    refine ⟨?_, ?_, ?_, ?_, ?_⟩ <;> decide +kernel
  · intro t
    refine ⟨?_, ?_, ?_⟩ <;> decide +kernel

end Controller

end EarthStation.Tracking
