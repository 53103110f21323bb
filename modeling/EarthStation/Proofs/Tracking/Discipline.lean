import EarthStation.Proofs.Tracking.Deeds
import EarthStation.Proofs.Tracking.Reference
import EarthStation.Proofs.Tracking.Tape

/-!
# Discipline — when the rotator is polled, and when it is sent somewhere

* `lastOrder`, `lastReport`: what a tape tells of the last order and of the last report.
* `Noted`, `noted_invariant`: the session has noted what the tape tells.
* `SameAntenna`, `step_antenna`: a step leaves the rotator alone, polls it or sends it to the target.
* `StepLaw`, `stepLaw_of_ok`: which of these it does.
* `Deed.Sends`, `Deed.Lands`: a step that sends the rotator somewhere, and one after which a move counts
  as over.
* `DisciplineLaw`, `discipline_law`: the steps of a run obey the law, and between two orders the antenna
  has come to rest, or a poll has failed, or the operator has stopped it.
-/

namespace EarthStation

namespace Rotator.Record

variable {α : Type}

/-- The last order that has succeeded, when it was `last` before the call. -/
def order (last : Option (Position α)) : Record α → Option (Position α)
  | set target (some _) => some target
  | _ => last

/-- The last report, when it was `last` before the call.  An order that is answered without a report
makes older ones void. -/
def report (last : Option (Position α)) : Record α → Option (Position α)
  | stop (some position) => some position
  | status (some position) => some position
  | set _ (some reported) => reported
  | _ => last

end Rotator.Record

namespace Tracking

open Rotator (Position Record)

/-- The position of the last order on a tape that has succeeded. -/
def lastOrder {α : Type} (calls : List (Record α)) : Option (Position α) :=
  calls.foldl Record.order none

/-- The last report on a tape, from the last order on. -/
def lastReport {α : Type} (calls : List (Record α)) : Option (Position α) :=
  calls.foldl Record.report none

@[simp] theorem lastOrder_concat {α : Type} (calls : List (Record α)) (record : Record α) :
    lastOrder (calls ++ [record]) = record.order (lastOrder calls) := by
  simp [lastOrder, List.foldl_append]

section Positions

variable {α : Type} [Scalar α]

/-- A target is far off the last order: there was none, or an axis is off by more than its threshold. -/
def Settings.FarOff (s : Settings α) (target : Position α) (last : Option (Position α)) : Prop :=
  ∀ p, last = some p →
    s.azimuthThresholdDeg < Scalar.abs (target.azimuthDeg - p.azimuthDeg) ∨
      s.elevationThresholdDeg < Scalar.abs (target.elevationDeg - p.elevationDeg)

theorem needsRepoint_iff {s : Settings α} {target : Position α} {last : Option (Position α)} :
    needsRepoint target last s.azimuthThresholdDeg s.elevationThresholdDeg = true ↔
      s.FarOff target last := by
  cases last <;> simp [needsRepoint, Settings.FarOff]

/-- Two reports are the same but for less than a twentieth of a degree on both axes. -/
structure Settled (p q : Position α) : Prop where
  azimuth : Scalar.abs (p.azimuthDeg - q.azimuthDeg) < settledWithin
  elevation : Scalar.abs (p.elevationDeg - q.elevationDeg) < settledWithin

theorem isSettled_iff {previous : Option (Position α)} {q : Position α} :
    isSettled previous q = true ↔ ∃ p, previous = some p ∧ Settled p q := by
  cases previous with
  | none => simp [isSettled]
  | some p =>
    simp only [isSettled, Bool.and_eq_true, decide_eq_true_eq, Option.some.injEq, exists_eq_left']
    exact ⟨fun h => ⟨h.1, h.2⟩, fun h => ⟨h.azimuth, h.elevation⟩⟩

end Positions

namespace Controller

variable {τ α ρ κ : Type}

/-! ## What the session has noted -/

/-- The session has noted the last order and the last report. -/
structure Noted (c : Controller τ α (Taped ρ (Record α)) κ) : Prop where
  lastCommanded : c.session.lastCommanded = lastOrder c.rotator.calls
  lastReported : c.session.lastReported = lastReport c.rotator.calls

namespace Noted

theorem fresh (satellite : Ephemeris τ α) (settings : Settings α) (rotator : Equipment ρ)
    (radio : Equipment κ) : Noted (fresh satellite settings rotator.taped radio) where
  lastCommanded := (congrArg lastOrder (Equipment.calls_taped rotator)).symm
  lastReported := (congrArg lastReport (Equipment.calls_taped rotator)).symm

/-- The radio has no part in it. -/
theorem withoutRadio {c : Controller τ α (Taped ρ (Record α)) κ} :
    Noted c.withoutRadio ↔ Noted c :=
  ⟨fun h => ⟨h.1, h.2⟩, fun h => ⟨h.1, h.2⟩⟩

variable {c : Controller τ α (Taped ρ (Record α)) κ}

/-- A use of the rotator changes what its tape tells by the new call, if one that fails changes
nothing. -/
theorem of_use (h : Noted c) {β : Type} (entry : Option β → Record α)
    {step : Exchange ρ (Rotator.Fault α) β} {answer : Option β}
    {rotator : Equipment (Taped ρ (Record α))}
    (horder : ∀ last, (entry none).order last = last)
    (hreport : ∀ last, (entry none).report last = last)
    (hu : c.rotator.use Rotator.Fault.isDisconnect (Taped.answered entry step) = (answer, rotator)) :
    (entry answer).order c.session.lastCommanded = lastOrder rotator.calls ∧
      (entry answer).report c.session.lastReported = lastReport rotator.calls := by
  rw [h.lastCommanded, h.lastReported]
  exact ⟨(Equipment.foldl_calls_of_use entry horder hu none).symm,
    (Equipment.foldl_calls_of_use entry hreport hu none).symm⟩

variable [Rotator.Device ρ α]

theorem polled [Scalar α] (h : Noted c) : Noted c.polled := by
  unfold Controller.polled
  rcases hu : c.rotator.use Rotator.Fault.isDisconnect Rotator.Device.status with ⟨answer, rotator⟩
  obtain ⟨horder, hreport⟩ := h.of_use .status (fun _ => rfl) (fun _ => rfl) hu
  cases answer with
  | none => exact ⟨horder, hreport⟩
  | some position => exact ⟨horder, hreport⟩

theorem sent (h : Noted c) (position : Position α) : Noted (c.sent position) := by
  unfold Controller.sent
  rcases hu : c.rotator.use Rotator.Fault.isDisconnect (Rotator.Device.set position) with
    ⟨answer, rotator⟩
  obtain ⟨horder, hreport⟩ := h.of_use (.set position) (fun _ => rfl) (fun _ => rfl) hu
  cases answer with
  | none => exact ⟨horder, hreport⟩
  | some reported => exact ⟨horder, hreport⟩

theorem obey [Scalar α] (h : Noted c) (command : Command α) : Noted (obey command c) := by
  cases command with
  | stop =>
    unfold Controller.obey
    rcases hu : c.rotator.use Rotator.Fault.isDisconnect Rotator.Device.stop with ⟨answer, rotator⟩
    obtain ⟨horder, hreport⟩ := h.of_use .stop (fun _ => rfl) (fun _ => rfl) hu
    cases answer with
    | none => exact ⟨horder, hreport⟩
    | some position => exact ⟨horder, hreport⟩
  | home =>
    unfold Controller.obey
    rcases hu : c.rotator.use Rotator.Fault.isDisconnect (Rotator.Device.set Position.home) with
      ⟨answer, rotator⟩
    obtain ⟨horder, hreport⟩ := h.of_use (.set Position.home) (fun _ => rfl) (fun _ => rfl) hu
    cases answer with
    | none => exact ⟨horder, hreport⟩
    | some reported => exact ⟨horder, hreport⟩
  | auxiliary =>
    unfold Controller.obey
    dsimp only
    split <;> exact ⟨h.lastCommanded, h.lastReported⟩
  | _ => exact ⟨h.lastCommanded, h.lastReported⟩

end Noted

variable [Scalar α] [Rotator.Device ρ α]

/-- **The session keeps note of the tape** through every part of a command and of a tick. -/
theorem noted_invariant [Chronology τ] [Radio.Device κ α] :
    Invariant (Noted : Controller τ α (Taped ρ (Record α)) κ → Prop) where
  withCredit h _ := ⟨h.lastCommanded, h.lastReported⟩
  obey command h := h.obey command
  looked _ h := ⟨h.lastCommanded, h.lastReported⟩
  predicted _ _ _ h := ⟨h.lastCommanded, h.lastReported⟩
  observed _ h := ⟨h.lastCommanded, h.lastReported⟩
  commandRotator {c target} h _ := by
    have hnoted : Noted (c.noted target) := ⟨h.lastCommanded, h.lastReported⟩
    rw [commandRotator_eq]
    cases c.move target with
    | rest => exact hnoted
    | poll => exact hnoted.polled
    | order position => exact hnoted.sent position
  commandRadio {c} rangeRateKmS h := by
    rw [← Noted.withoutRadio, commandRadio_withoutRadio]
    exact Noted.withoutRadio.mpr h

/-! ## Steps -/

omit [Scalar α] [Rotator.Device ρ α] in
/-- The antenna and what is known of it are the same in two states. -/
structure SameAntenna (c d : Controller τ α ρ κ) : Prop where
  rotator : d.rotator = c.rotator
  lastCommanded : d.session.lastCommanded = c.session.lastCommanded
  lastReported : d.session.lastReported = c.session.lastReported
  repointInFlight : d.session.repointInFlight = c.session.repointInFlight

/-- What becomes of the antenna by a move. -/
def moved (m : Move α) (c : Controller τ α ρ κ) : Controller τ α ρ κ :=
  match m with
  | .rest => c
  | .poll => c.polled
  | .order position => c.sent position

omit [Scalar α] [Rotator.Device ρ α] in
theorem SameAntenna.trans {c d e : Controller τ α ρ κ} (h : SameAntenna c d)
    (h' : SameAntenna d e) : SameAntenna c e :=
  ⟨h'.rotator.trans h.rotator, h'.lastCommanded.trans h.lastCommanded,
    h'.lastReported.trans h.lastReported, h'.repointInFlight.trans h.repointInFlight⟩

/-- The same move makes the same of the same antenna. -/
theorem SameAntenna.moved {c d : Controller τ α ρ κ} (h : SameAntenna c d) (m : Move α) :
    SameAntenna (c.moved m) (d.moved m) := by
  cases m with
  | rest => exact h
  | poll =>
    change SameAntenna c.polled d.polled
    unfold polled
    rw [h.rotator, h.lastReported]
    rcases c.rotator.use Rotator.Fault.isDisconnect Rotator.Device.status with ⟨_ | position, rotator⟩
    · exact ⟨rfl, h.lastCommanded, h.lastReported, rfl⟩
    · exact ⟨rfl, h.lastCommanded, rfl, rfl⟩
  | order position =>
    change SameAntenna (c.sent position) (d.sent position)
    unfold sent
    rw [h.rotator]
    rcases c.rotator.use Rotator.Fault.isDisconnect (Rotator.Device.set position) with
      ⟨_ | reported, rotator⟩
    · exact ⟨rfl, h.lastCommanded, h.lastReported, h.repointInFlight⟩
    · exact ⟨rfl, rfl, rfl, rfl⟩

/-- Commanding the antenna is the move for the target. -/
theorem commandRotator_antenna (target : Option (Position α)) (c : Controller τ α ρ κ) :
    SameAntenna (c.moved (c.move target)) (commandRotator target c) := by
  have hnoted : SameAntenna c (c.noted target) := ⟨rfl, rfl, rfl, rfl⟩
  have hmoved := hnoted.moved (c.move target)
  rw [commandRotator_eq]
  cases hm : c.move target with
  | rest => exact hnoted
  | poll => exact hm ▸ hmoved
  | order position => exact hm ▸ hmoved

variable [Timeline τ α] [Chronology τ] [Radio.Device κ α] [Visibility.LawfulGrid α]

/-- **What a step does to the antenna**: nothing if it fails, and otherwise the move for its target. -/
theorem step_antenna (now : τ) (c : Controller τ α ρ κ) :
    ((step now c).1 ≠ .ok () ∧ SameAntenna c (step now c).2) ∨
      ((step now c).1 = .ok () ∧
        SameAntenna (c.moved (c.move (step now c).2.session.target)) (step now c).2) := by
  rcases step_cases now c with ⟨cause, n, -, hstep⟩ | ⟨o, minutes, target, n, -, -, -, hstep⟩
  · rw [hstep]
    exact .inl ⟨by simp, rfl, rfl, rfl, rfl⟩
  · let before := seen now o minutes (c.looked n)
    have hradio : (step now c).2.withoutRadio = (commandRotator target before).withoutRadio := by
      rw [hstep]
      exact commandRadio_withoutRadio o.rangeRateKmS _
    have hsame : SameAntenna (commandRotator target before) (step now c).2 :=
      ⟨congrArg (fun e => e.rotator) hradio, congrArg (fun e => e.session.lastCommanded) hradio,
        congrArg (fun e => e.session.lastReported) hradio,
        congrArg (fun e => e.session.repointInFlight) hradio⟩
    have htarget : (step now c).2.session.target = target :=
      (congrArg (fun e => e.session.target) hradio).trans (commandRotator_target target before)
    -- neither the look nor the search has a part in the move
    have hbefore : SameAntenna c before := ⟨rfl, rfl, rfl, rfl⟩
    have hmove : before.move target = c.move target := rfl
    have hcommanded := commandRotator_antenna target before
    rw [hmove] at hcommanded
    rw [htarget]
    exact .inr ⟨congrArg Prod.fst hstep, (hbefore.moved _).trans (hcommanded.trans hsame)⟩

/-! ## The law of a step -/

omit [Rotator.Device ρ α] [Timeline τ α] [Chronology τ] [Radio.Device κ α]
  [Visibility.LawfulGrid α] in
/-- The rotator is sent only to a target that is far off. -/
theorem farOff_of_order {target : Option (Position α)} {c : Controller τ α ρ κ} {p : Position α}
    (h : c.move target = .order p) : c.settings.FarOff p c.session.lastCommanded := by
  obtain ⟨hrest, rfl⟩ := of_order h
  refine needsRepoint_iff.mp ?_
  by_contra hnear
  simp [move, hrest, hnear] at h

omit [Rotator.Device ρ α] [Timeline τ α] [Chronology τ] [Radio.Device κ α]
  [Visibility.LawfulGrid α] in
/-- A rotator that moves is polled, wherever the target is. -/
theorem move_of_flight {c : Controller τ α ρ κ} (h : c.session.repointInFlight = true)
    (target : Option (Position α)) : c.move target = .poll := by
  unfold move
  rw [h]
  rfl

section Tape

omit [Timeline τ α] [Chronology τ] [Radio.Device κ α] [Visibility.LawfulGrid α]

/-- A rotator that is there is polled once, and the move goes on if the answer is a new report. -/
theorem polled_calls (c : Controller τ α (Taped ρ (Record α)) κ) :
    ∃ answer, c.polled.rotator.calls =
        c.rotator.calls ++ (if c.rotator.isAvailable then [.status answer] else []) ∧
      c.polled.session.repointInFlight =
        answer.any fun position => !isSettled c.session.lastReported position := by
  unfold polled
  rcases hu : c.rotator.use Rotator.Fault.isDisconnect Rotator.Device.status with ⟨answer, rotator⟩
  have hcalls := Equipment.calls_of_use Record.status hu
  cases answer with
  | none => exact ⟨none, hcalls, rfl⟩
  | some position => exact ⟨some position, hcalls, rfl⟩

omit [Scalar α] in
/-- A rotator that is there is sent somewhere once, and moves if that succeeds. -/
theorem sent_calls (position : Position α) (c : Controller τ α (Taped ρ (Record α)) κ) :
    ∃ answer, (c.sent position).rotator.calls =
        c.rotator.calls ++ (if c.rotator.isAvailable then [.set position answer] else []) ∧
      (answer.isSome = true → (c.sent position).session.repointInFlight = true) := by
  unfold sent
  rcases hu : c.rotator.use Rotator.Fault.isDisconnect (Rotator.Device.set position) with
    ⟨answer, rotator⟩
  have hcalls := Equipment.calls_of_use (Record.set position) hu
  cases answer with
  | none => exact ⟨none, hcalls, nofun⟩
  | some reported => exact ⟨some reported, hcalls, fun _ => rfl⟩

/-- A move makes one call at most. -/
theorem moved_calls (m : Move α) (c : Controller τ α (Taped ρ (Record α)) κ) :
    (c.moved m).rotator.calls = c.rotator.calls ∨
      ∃ record, (c.moved m).rotator.calls = c.rotator.calls ++ [record] := by
  cases m with
  | rest => exact .inl rfl
  | poll =>
    obtain ⟨answer, hcalls, -⟩ := polled_calls c
    split at hcalls
    · exact .inr ⟨_, hcalls⟩
    · exact .inl (hcalls.trans (List.append_nil _))
  | order position =>
    obtain ⟨answer, hcalls, -⟩ := sent_calls position c
    split at hcalls
    · exact .inr ⟨_, hcalls⟩
    · exact .inl (hcalls.trans (List.append_nil _))

end Tape

/-- What a step from one state to another tells the rotator: to report while it moves, and otherwise to
go to a target that is far off. -/
structure StepLaw (settings : Settings α) (c c' : Controller τ α (Taped ρ (Record α)) κ) : Prop where
  poll : c.session.repointInFlight = true →
    ∃ answer, c'.rotator.calls = c.rotator.calls ++ [.status answer]
  order : ∀ p, c.session.repointInFlight = false → c'.session.target = some p →
    settings.FarOff p c.session.lastCommanded →
      ∃ answer, c'.rotator.calls = c.rotator.calls ++ [.set p answer]
  rest : c.session.repointInFlight = false →
    (∀ p, c'.session.target = some p → ¬ settings.FarOff p c.session.lastCommanded) →
      c'.rotator.calls = c.rotator.calls

/-- **The law of a step** that goes through, while the rotator is there. -/
theorem stepLaw_of_ok {now : τ} {c : Controller τ α (Taped ρ (Record α)) κ}
    (hok : (step now c).1 = .ok ()) (h : c.rotator.isAvailable = true) :
    StepLaw c.settings c (step now c).2 := by
  obtain ⟨hfailed, -⟩ | ⟨-, hsame⟩ := step_antenna now c
  · exact absurd hok hfailed
  · have hcalls := congrArg Equipment.calls hsame.rotator
    refine ⟨fun hflight => ?_, fun p hrest htarget hfar => ?_, fun hrest hnear => ?_⟩
    · obtain ⟨answer, hpolled, -⟩ := polled_calls c
      rw [h, if_pos rfl] at hpolled
      rw [move_of_flight hflight] at hcalls
      exact ⟨answer, hcalls.trans hpolled⟩
    · have hmove : c.move (step now c).2.session.target = .order p := by
        unfold move
        rw [hrest, htarget]
        exact if_pos (needsRepoint_iff.mpr hfar)
      obtain ⟨answer, hsent, -⟩ := sent_calls p c
      rw [h, if_pos rfl] at hsent
      rw [hmove] at hcalls
      exact ⟨answer, hcalls.trans hsent⟩
    · have hmove : c.move (step now c).2.session.target = .rest := by
        unfold move
        rw [hrest]
        cases htarget : (step now c).2.session.target with
        | none => rfl
        | some p => exact if_neg fun hfar => hnear p htarget (needsRepoint_iff.mp hfar)
      rw [hmove] at hcalls
      exact hcalls

/-! ## Deeds -/

namespace Deed

variable {d : Deed τ α (Taped ρ (Record α)) κ}

/-- A step that sends the rotator to a position, and is answered. -/
def Sends (p : Position α) (d : Deed τ α (Taped ρ (Record α)) κ) : Prop :=
  (∃ now, d.act = .step now) ∧
    ∃ reported, d.after.rotator.calls = d.before.rotator.calls ++ [.set p (some reported)]

/-- A step whose poll fails, or is answered with the report before. -/
def Lands (d : Deed τ α (Taped ρ (Record α)) κ) : Prop :=
  (∃ now, d.act = .step now) ∧
    ∃ answer, d.after.rotator.calls = d.before.rotator.calls ++ [.status answer] ∧
      (answer = none ∨
        ∃ p q, answer = some q ∧ lastReport d.before.rotator.calls = some p ∧ Settled p q)

end Deed

section Deeds

variable {d : Deed τ α (Taped ρ (Record α)) κ}

/-- What a deed that is a step does to the antenna. -/
theorem deed_antenna {d : Deed τ α ρ κ} {now : τ} (h : d.act = .step now) :
    (d.result ≠ .ok () ∧ SameAntenna d.before d.after) ∨
      (d.result = .ok () ∧
        SameAntenna (d.before.moved (d.before.move d.after.session.target)) d.after) := by
  obtain ⟨hresult, hafter⟩ := Deed.of_step h
  rw [hresult, hafter]
  exact step_antenna now d.before

omit [Timeline τ α] [Chronology τ] [Radio.Device κ α] [Visibility.LawfulGrid α] in
/-- A command makes one call at most, and only a way home sends the rotator somewhere. -/
theorem obey_records (command : Command α) (c : Controller τ α (Taped ρ (Record α)) κ) :
    (obey command c).rotator.calls = c.rotator.calls ∨
      (∃ answer, (obey command c).rotator.calls = c.rotator.calls ++ [.stop answer]) ∨
      (command = .home ∧
        ∃ answer, (obey command c).rotator.calls = c.rotator.calls ++ [.set Position.home answer]) := by
  cases command with
  | stop =>
    unfold obey
    rcases hu : c.rotator.use Rotator.Fault.isDisconnect Rotator.Device.stop with ⟨answer, rotator⟩
    have hcalls := Equipment.calls_of_use Record.stop hu
    split at hcalls
    · exact .inr (.inl ⟨answer, hcalls⟩)
    · exact .inl (hcalls.trans (List.append_nil _))
  | home =>
    unfold obey
    rcases hu : c.rotator.use Rotator.Fault.isDisconnect (Rotator.Device.set Position.home) with
      ⟨answer, rotator⟩
    have hcalls := Equipment.calls_of_use (Record.set Position.home) hu
    split at hcalls
    · exact .inr (.inr ⟨rfl, answer, hcalls⟩)
    · exact .inl (hcalls.trans (List.append_nil _))
  | auxiliary =>
    unfold obey
    dsimp only
    split <;> exact .inl rfl
  | _ => exact .inl rfl

/-- **A deed makes one call to the rotator at most**, and if it is an order that succeeds, the deed is a
step or a way home. -/
theorem deed_calls_rotator (d : Deed τ α (Taped ρ (Record α)) κ) :
    d.after.rotator.calls = d.before.rotator.calls ∨
      ∃ record, d.after.rotator.calls = d.before.rotator.calls ++ [record] ∧
        ∀ p reported, record = .set p (some reported) → d.Sends p ∨ d.Accepts .home := by
  cases hact : d.act with
  | step now =>
    obtain ⟨-, hsame⟩ | ⟨-, hsame⟩ := deed_antenna hact
    · exact .inl (congrArg Equipment.calls hsame.rotator)
    · have hcalls := congrArg Equipment.calls hsame.rotator
      rcases moved_calls (d.before.move d.after.session.target) d.before with hm | ⟨record, hm⟩
      · exact .inl (hcalls.trans hm)
      · refine .inr ⟨record, hcalls.trans hm, fun p reported hset => .inl ⟨⟨now, hact⟩, reported, ?_⟩⟩
        rw [← hset]
        exact hcalls.trans hm
  | command command =>
    rcases Deed.of_command hact with ⟨-, hafter⟩ | ⟨haccepts, n, -, hafter⟩
    · exact .inl (congrArg (fun c => c.rotator.calls) hafter)
    · rw [hafter]
      rcases obey_records command (d.before.withCredit n) with hm | ⟨answer, hm⟩ | ⟨rfl, answer, hm⟩
      · exact .inl hm
      · exact .inr ⟨_, hm, nofun⟩
      · exact .inr ⟨_, hm, fun _ _ _ => .inr haccepts⟩

theorem sends_of_set {p : Position α} {reported : Option (Position α)}
    (h : d.after.rotator.calls = d.before.rotator.calls ++ [.set p (some reported)]) :
    d.Sends p ∨ d.Accepts .home := by
  rcases deed_calls_rotator d with hcalls | ⟨record, hcalls, hset⟩
  · simp [hcalls] at h
  · have hrecord : record = .set p (some reported) := by simpa [hcalls] using h
    exact hset p reported hrecord

/-- The last order is another one only after an order that has succeeded, and then it is that one. -/
theorem commanded_of_noted (hbefore : Noted d.before) (hafter : Noted d.after) :
    d.after.session.lastCommanded = d.before.session.lastCommanded ∨
      ∃ p reported, d.after.rotator.calls = d.before.rotator.calls ++ [.set p (some reported)] ∧
        d.after.session.lastCommanded = some p := by
  rw [hafter.lastCommanded, hbefore.lastCommanded]
  rcases deed_calls_rotator d with hcalls | ⟨record, hcalls, -⟩
  · exact .inl (congrArg lastOrder hcalls)
  · rw [hcalls, lastOrder_concat]
    rcases record with answer | answer | ⟨p, _ | reported⟩
    · exact .inl rfl
    · exact .inl rfl
    · exact .inl rfl
    · exact .inr ⟨p, reported, rfl, rfl⟩

/-- A step that sends the rotator somewhere does so for its target, and sets a move in flight. -/
theorem Deed.Sends.move {p : Position α} (h : d.Sends p) :
    d.before.move d.after.session.target = .order p ∧
      d.after.session.repointInFlight = true := by
  obtain ⟨⟨now, hact⟩, reported, hcalls⟩ := h
  obtain ⟨-, hsame⟩ | ⟨-, hsame⟩ := deed_antenna hact
  · rw [hsame.rotator] at hcalls
    simp at hcalls
  · rw [hsame.rotator] at hcalls
    rw [hsame.repointInFlight]
    cases hmove : d.before.move d.after.session.target with
    | rest =>
      rw [hmove] at hcalls
      simp [moved] at hcalls
    | poll =>
      obtain ⟨answer, hpolled, -⟩ := polled_calls d.before
      rw [hmove] at hcalls
      have htape := hpolled.symm.trans hcalls
      split at htape <;> simp at htape
    | order position =>
      obtain ⟨answer, hsent, hflight⟩ := sent_calls position d.before
      rw [hmove] at hcalls
      have htape := hsent.symm.trans hcalls
      split at htape
      · simp only [List.append_cancel_left_eq, List.cons.injEq, Record.set.injEq, and_true] at htape
        obtain ⟨rfl, rfl⟩ := htape
        exact ⟨rfl, hflight rfl⟩
      · simp at htape

omit [Timeline τ α] [Chronology τ] [Radio.Device κ α] [Visibility.LawfulGrid α] in
/-- Only a stop and a way home end a move before it is over. -/
theorem obey_flight {command : Command α} (hstop : command ≠ .stop) (hhome : command ≠ .home)
    (c : Controller τ α ρ κ) :
    (obey command c).session.repointInFlight = c.session.repointInFlight := by
  cases command with
  | stop => exact absurd rfl hstop
  | home => exact absurd rfl hhome
  | auxiliary =>
    unfold obey
    dsimp only
    split <;> rfl
  | _ => rfl

/-- **A move stays in flight** through every deed but a step that finds it over, a stop and a way
home. -/
theorem flight_kept (hcoherent : Coherent d.before) (hnoted : Noted d.before)
    (hflight : d.before.session.repointInFlight = true) (hlands : ¬ d.Lands)
    (hstop : ¬ d.Accepts .stop) (hhome : ¬ d.Accepts .home) :
    d.after.session.repointInFlight = true := by
  cases hact : d.act with
  | step now =>
    obtain ⟨-, hsame⟩ | ⟨-, hsame⟩ := deed_antenna hact
    · exact hsame.repointInFlight.trans hflight
    · rw [move_of_flight hflight] at hsame
      obtain ⟨answer, hcalls, hnext⟩ := polled_calls d.before
      rw [(hcoherent.inFlight hflight).2.2, if_pos rfl] at hcalls
      have htape : d.after.rotator.calls = d.before.rotator.calls ++ [.status answer] :=
        (congrArg Equipment.calls hsame.rotator).trans hcalls
      rw [hsame.repointInFlight]
      refine hnext.trans ?_
      -- a poll that fails or finds the antenna at rest would end the move
      cases answer with
      | none => exact absurd ⟨⟨now, hact⟩, none, htape, .inl rfl⟩ hlands
      | some q =>
        cases hsettled : isSettled d.before.session.lastReported q with
        | false => simp [hsettled]
        | true =>
          obtain ⟨p, hp, hpq⟩ := isSettled_iff.mp hsettled
          exact absurd ⟨⟨now, hact⟩, some q, htape,
            .inr ⟨p, q, rfl, hnoted.lastReported.symm.trans hp, hpq⟩⟩ hlands
  | command command =>
    rcases Deed.of_command hact with ⟨-, hafter⟩ | ⟨haccepts, n, -, hafter⟩
    · rw [hafter]
      exact hflight
    · rw [hafter, obey_flight (fun h => hstop (h ▸ haccepts)) fun h => hhome (h ▸ haccepts)]
      exact hflight

end Deeds

/-! ## The law of a run -/

/-- How the steps of a run command the rotator. -/
structure DisciplineLaw (settings : Settings α) (ds : List (Deed τ α (Taped ρ (Record α)) κ)) :
    Prop where
  /-- Every step that goes through, while the rotator is there, obeys the law of a step. -/
  step : ∀ d ∈ ds, ∀ now, d.act = .step now → d.result = .ok () →
    d.before.rotator.isAvailable = true → StepLaw settings d.before d.after
  /-- The last order changes only by an order that succeeds, and to that one. -/
  commanded : ∀ d ∈ ds, d.after.session.lastCommanded = d.before.session.lastCommanded ∨
    ∃ p reported, d.after.rotator.calls = d.before.rotator.calls ++ [.set p (some reported)] ∧
      d.after.session.lastCommanded = some p
  /-- Of two orders of steps, without another one or a way home in between, the second is far off the
  first, and the move to the first has counted as over before it, or was stopped. -/
  orders : ∀ past d between e later p q, ds = past ++ d :: (between ++ e :: later) →
    d.Sends p → e.Sends q → (∀ x ∈ between, ¬ x.Accepts .home ∧ ∀ r, ¬ x.Sends r) →
      settings.FarOff q (some p) ∧ ∃ x ∈ between, x.Lands ∨ x.Accepts .stop

/-- The orders of steps on a path. -/
theorem orders_of_path {settings : Settings α} {c c' : Controller τ α (Taped ρ (Record α)) κ}
    {d e : Deed τ α (Taped ρ (Record α)) κ} {between later : List (Deed τ α (Taped ρ (Record α)) κ)}
    {p q : Position α} (hpath : Path c (d :: (between ++ e :: later)) c')
    (hkept : ∀ x ∈ d :: (between ++ e :: later),
      Coherent x.before ∧ Noted x.before ∧ x.before.settings = settings)
    (hd : d.Sends p) (he : e.Sends q)
    (hbetween : ∀ x ∈ between, ¬ x.Accepts .home ∧ ∀ r, ¬ x.Sends r) :
    settings.FarOff q (some p) ∧ ∃ x ∈ between, x.Lands ∨ x.Accepts .stop := by
  have hafter (x : Deed τ α (Taped ρ (Record α)) κ) (hx : Noted x.before) : Noted x.after :=
    noted_invariant.deed x hx
  obtain ⟨hdk, hlater⟩ := List.forall_mem_cons.mp hkept
  obtain ⟨hbk, herest⟩ := List.forall_mem_append.mp hlater
  obtain ⟨hek, -⟩ := List.forall_mem_cons.mp herest
  obtain ⟨hmove, -⟩ := he.move
  obtain ⟨hresting, -⟩ := of_order hmove
  constructor
  · -- in between the last order stays the first one
    have hfirst : d.after.session.lastCommanded = some p := by
      obtain ⟨-, reported, hcalls⟩ := hd
      rw [(hafter d hdk.2.1).lastCommanded, hcalls, lastOrder_concat]
      rfl
    have hkeep : ∀ x ∈ between, x.before.session.lastCommanded = some p →
        x.after.session.lastCommanded = some p := by
      intro x hx h
      have hnoted := (hbk x hx).2.1
      rcases commanded_of_noted hnoted (hafter x hnoted) with hsame | ⟨r, reported, hcalls, -⟩
      · exact hsame.trans h
      · rcases sends_of_set hcalls with hsends | hhome
        · exact absurd hsends ((hbetween x hx).2 r)
        · exact absurd hhome (hbetween x hx).1
    have hlast : e.before.session.lastCommanded = some p := hpath.tail.carries
      (P := fun c => c.session.lastCommanded = some p) (fun _ h => h) hfirst hkeep
    have hfar := farOff_of_order hmove
    rwa [hlast, hek.2.2] at hfar
  · -- if nothing ended the move, it would still be in flight at the second order
    by_contra hnone
    have hends : ∀ x ∈ between, ¬ x.Lands ∧ ¬ x.Accepts .stop := by
      simpa only [not_exists, not_and, not_or] using hnone
    have hkeep : ∀ x ∈ between, x.before.session.repointInFlight = true →
        x.after.session.repointInFlight = true := by
      intro x hx h
      obtain ⟨hcoherent, hnoted, -⟩ := hbk x hx
      exact flight_kept hcoherent hnoted h (hends x hx).1 (hends x hx).2 (hbetween x hx).1
    have hflight : e.before.session.repointInFlight = true := hpath.tail.carries
      (P := fun c => c.session.repointInFlight = true) (fun _ h => h) hd.move.2 hkeep
    exact absurd (hresting.symm.trans hflight) (by simp)

end Controller

namespace Controller

variable {τ ρ κ : Type} [Timeline τ Float] [Chronology τ] [Rotator.Device ρ Float]
  [Radio.Device κ Float]

/-- **The discipline of the rotator.**  In every run a step that goes through polls a rotator that is
there while a move is in flight, and otherwise sends it to its target if that is far off the last order,
and makes no other call.  So a step sends it somewhere else only by more than a threshold, and only after
a poll that has failed or has found it at rest, or after a stop. -/
theorem discipline_law (satellite : Ephemeris τ Float) (settings : Settings Float)
    (rotator : Equipment ρ) (radio : Equipment κ) (events : List (Event τ Float)) :
    DisciplineLaw settings (deeds events (fresh satellite settings rotator.taped radio)) := by
  let c₀ : Controller τ Float (Taped ρ (Record Float)) κ :=
    fresh satellite settings rotator.taped radio
  have hkept : ∀ x ∈ deeds events c₀,
      Coherent x.before ∧ Noted x.before ∧ x.before.settings = settings := fun x hx =>
    ⟨coherent_invariant.deeds (Coherent.fresh satellite settings _ radio) events x hx,
      noted_invariant.deeds (Noted.fresh satellite settings rotator radio) events x hx,
      ((fixed_invariant satellite settings).deeds ⟨rfl, rfl⟩ events x hx).2⟩
  refine ⟨fun d hd now hact hok ha => ?_, fun d hd => ?_, ?_⟩
  · obtain ⟨-, -, rfl⟩ := hkept d hd
    obtain ⟨hresult, hafter⟩ := Deed.of_step hact
    rw [hafter]
    exact stepLaw_of_ok (hresult.symm.trans hok) ha
  · have hnoted := (hkept d hd).2.1
    exact commanded_of_noted hnoted (noted_invariant.deed d hnoted)
  · intro past d between e later p q hdeeds hd he hbetween
    have hpath := path_deeds events c₀
    rw [hdeeds] at hpath hkept
    obtain ⟨c, -, hrest⟩ := hpath.split
    exact orders_of_path hrest (List.forall_mem_append.mp hkept).2 hd he hbetween

/-- A satellite that moves on by ten degrees after the first instant. -/
def drifting : Ephemeris Instant Float where
  name := "DRIFTING"
  observe t := .ok ⟨if t = ⟨0⟩ then 100 else 110, 45, 550, 6⟩

/-- A rotator that follows at once is polled twice before the next order, since the first report has
nothing to be compared with. -/
example :
    (after [.tick [] ⟨0⟩, .tick [] ⟨1000000⟩, .tick [] ⟨2000000⟩, .tick [] ⟨3000000⟩]
      (fresh drifting blind (.taped (.connected (⟨⟨0, 0⟩, true, [], []⟩ : Rotator.Bench Float)))
        (.absent : Equipment (Radio.Bench Float)))).rotator.calls =
      ([.set ⟨100, 45⟩ (some none), .status (some ⟨100, 45⟩), .status (some ⟨100, 45⟩),
        .set ⟨110, 45⟩ (some none)] : List (Record Float)) := by
  decide +kernel

end Controller

end Tracking

end EarthStation
