import EarthStation.Proofs.Tracking.Mirror
import EarthStation.Proofs.Tracking.Phases
import Mathlib.Data.List.Induction

/-!
# Reference — where the antenna was sent, and what it did last

* `Followed`: a rotator with the motions that have succeeded.
* `lastSet`: the last position among motions, whatever stops came after it.
* `reference_invariant`: the position that targets are compared with is the last one set.
* `reference_law`: it is the last motion just if the antenna was not stopped since, and a tick that
  withholds an order counts on it either way.
* `stopped_off_target`: after a stop and a start, an antenna far off its target is left there.
-/

namespace EarthStation.Tracking

open Rotator (Position)

/-! ## Motions -/

inductive Motion (α : Type) where
  | stop
  | set (target : Position α)
deriving DecidableEq

/-- The position that was set last, when `last` was before the motion. -/
def Motion.reference {α : Type} (last : Option (Position α)) : Motion α → Option (Position α)
  | stop => last
  | set target => some target

/-- The position that was set last, stopped or not. -/
def lastSet {α : Type} (motions : List (Motion α)) : Option (Position α) :=
  motions.foldl Motion.reference none

section

variable {α : Type}

@[simp] theorem lastSet_concat (motions : List (Motion α)) (motion : Motion α) :
    lastSet (motions ++ [motion]) = motion.reference (lastSet motions) := by
  simp [lastSet, List.foldl_append]

/-- The last motion went to the last position set, unless it was a stop. -/
theorem getLast?_eq_set_iff {motions : List (Motion α)} {p : Position α}
    (h : lastSet motions = some p) :
    motions.getLast? = some (.set p) ↔ motions.getLast? ≠ some .stop := by
  induction motions using List.reverseRecOn with
  | nil => simp [lastSet] at h
  | append_singleton motions motion =>
    rw [lastSet_concat] at h
    cases motion with
    | stop => simp
    | set target =>
      simp only [Motion.reference, Option.some.injEq] at h
      simp [h]

end

/-! ## Rotators that are followed -/

/-- A rotator with the motions that have succeeded, oldest first. -/
structure Followed (ρ α : Type) where
  device : ρ
  motions : List (Motion α)

/-- A step on the rotator, and the motion that it is if it succeeds. -/
def Followed.perform {ρ α ε β : Type} (motion : Option (Motion α)) (step : Exchange ρ ε β) :
    Exchange (Followed ρ α) ε β := fun f =>
  match step f.device with
  | (.ok answer, device) => (.ok answer, ⟨device, f.motions ++ motion.toList⟩)
  | (.error fault, device) => (.error fault, ⟨device, f.motions⟩)

instance {ρ α : Type} [Rotator.Device ρ α] : Rotator.Device (Followed ρ α) α where
  stop := Followed.perform (some .stop) Rotator.Device.stop
  status := Followed.perform none Rotator.Device.status
  set target := Followed.perform (some (.set target)) (Rotator.Device.set target)

namespace Equipment

variable {ρ α : Type}

/-- A rotator that is followed from now on. -/
def followed : Equipment ρ → Equipment (Followed ρ α)
  | absent => absent
  | connected r => connected ⟨r, []⟩
  | lost r => lost ⟨r, []⟩

/-- The motions that have succeeded, also of a rotator that is lost by now. -/
def motions (e : Equipment (Followed ρ α)) : List (Motion α) := e.device?.elim [] Followed.motions

@[simp] theorem motions_followed (e : Equipment ρ) : (e.followed (α := α)).motions = [] := by
  cases e <;> rfl

/-- The position that was set last is what the motions show of a rotator. -/
theorem view_followed (e : Equipment (Followed ρ α)) :
    e.view (fun f => lastSet f.motions) = lastSet e.motions := by
  cases e <;> rfl

end Equipment

/-- A motion is noted just if it succeeds. -/
theorem Followed.motions_perform {ρ α ε β : Type} (motion : Option (Motion α)) (step : Exchange ρ ε β)
    (f : Followed ρ α) : (perform motion step f).2.motions =
      f.motions ++ if (perform motion step f).1.isOk then motion.toList else [] := by
  unfold perform
  rcases step f.device with ⟨_ | _, _⟩
  · exact (List.append_nil _).symm
  · rfl

/-- The motions of a rotator show the position that was set last. -/
theorem Followed.mirrors {ρ α : Type} [Rotator.Device ρ α] :
    Mirrors fun f : Followed ρ α => lastSet f.motions where
  stop f := by
    refine (congrArg lastSet (motions_perform (some .stop) Rotator.Device.stop f)).trans ?_
    split <;> simp [Motion.reference]
  status f := by
    refine (congrArg lastSet (motions_perform none Rotator.Device.status f)).trans ?_
    split <;> simp
  set target f := by
    refine (congrArg lastSet (motions_perform (some (.set target)) (Rotator.Device.set target) f)).trans ?_
    change _ = if (perform (some (.set target)) (Rotator.Device.set target) f).1.isOk then _ else _
    split <;> simp [Motion.reference]

namespace Controller

variable {τ α ρ κ : Type}

/-! ## The reference -/

/-- The position that targets are compared with is the one that was set last. -/
def Referenced (c : Controller τ α (Followed ρ α) κ) : Prop :=
  c.session.lastCommanded = lastSet c.rotator.motions

theorem referenced_iff_mirrored {c : Controller τ α (Followed ρ α) κ} :
    Referenced c ↔ Mirrored (fun f => lastSet f.motions) c := by
  rw [Referenced, Mirrored, Equipment.view_followed]

theorem Referenced.fresh (satellite : Ephemeris τ α) (settings : Settings α) (rotator : Equipment ρ)
    (radio : Equipment κ) : Referenced (fresh satellite settings rotator.followed radio) :=
  (congrArg lastSet (Equipment.motions_followed rotator)).symm

theorem Referenced.shutdown [Rotator.Device ρ α] [Radio.Device κ α]
    {c : Controller τ α (Followed ρ α) κ} (h : Referenced c) : Referenced (shutdown c) :=
  referenced_iff_mirrored.mpr ((referenced_iff_mirrored.mp h).shutdown Followed.mirrors)

variable [Scalar α] [Chronology τ] [Rotator.Device ρ α] [Radio.Device κ α]

/-- **The reference is the last position set**, through every part of a command and of a tick. -/
theorem reference_invariant :
    Invariant (Referenced : Controller τ α (Followed ρ α) κ → Prop) := by
  have hsame : (Referenced : Controller τ α (Followed ρ α) κ → Prop) =
      Mirrored fun f => lastSet f.motions :=
    funext fun c => propext referenced_iff_mirrored
  rw [hsame]
  exact mirrored_invariant Followed.mirrors

/-! ## Orders withheld -/

variable [Timeline τ α]

/-- A tick that goes through, whose commands leave the antenna at rest, and that gives no order for its
target since the target is within the thresholds of the reference. -/
structure Withholds (commands : List (Command α)) (now : τ) (target : Position α)
    (c : Controller τ α ρ κ) : Prop where
  result : (tick commands now c).1.result = .ok ()
  aimed : (tick commands now c).2.session.target = some target
  rests : (drain commands c).2.session.repointInFlight = false
  near : needsRepoint target (drain commands c).2.session.lastCommanded
    (drain commands c).2.settings.azimuthThresholdDeg
    (drain commands c).2.settings.elevationThresholdDeg = false

omit [Chronology τ] [Rotator.Device ρ α] [Radio.Device κ α] [Timeline τ α] in
theorem move_of_near {target : Position α} {c : Controller τ α ρ κ}
    (hrests : c.session.repointInFlight = false)
    (hnear : needsRepoint target c.session.lastCommanded c.settings.azimuthThresholdDeg
      c.settings.elevationThresholdDeg = false) : c.move (some target) = .rest := by
  unfold move
  dsimp only
  rw [hrests, hnear]
  rfl

/-- Nothing is near where there is no reference. -/
theorem exists_of_near {target : Position α} {last : Option (Position α)} {azimuth elevation : α}
    (h : needsRepoint target last azimuth elevation = false) : ∃ p, last = some p := by
  cases last with
  | some p => exact ⟨p, rfl⟩
  | none => simp [needsRepoint] at h

omit [Chronology τ] [Radio.Device κ α] [Timeline τ α] in
theorem commandRotator_target (target : Option (Position α)) (c : Controller τ α ρ κ) :
    (commandRotator target c).session.target = target := by
  rw [commandRotator_eq]
  cases c.move target with
  | rest => rfl
  | poll =>
    dsimp only [polled]
    rcases (c.noted target).rotator.use Rotator.Fault.isDisconnect Rotator.Device.status with
      ⟨_ | _, _⟩ <;> rfl
  | order position =>
    dsimp only [sent]
    rcases (c.noted target).rotator.use Rotator.Fault.isDisconnect (Rotator.Device.set position) with
      ⟨_ | _, _⟩ <;> rfl

/-- A tick that withholds an order leaves the rotator and the reference as its commands do. -/
theorem tick_withheld {commands : List (Command α)} {now : τ} {target : Position α}
    {c : Controller τ α ρ κ} (h : Withholds commands now target c) :
    (tick commands now c).2.rotator = (drain commands c).2.rotator ∧
      (tick commands now c).2.session.lastCommanded = (drain commands c).2.session.lastCommanded := by
  obtain ⟨o, minutes, chosen, n, hstep⟩ := step_of_ok (c := (drain commands c).2) h.result
  obtain ⟨hrotator, htarget, hcommanded⟩ :
      (tick commands now c).2.rotator = (step now (drain commands c).2).2.rotator ∧
      (tick commands now c).2.session.target = (step now (drain commands c).2).2.session.target ∧
      (tick commands now c).2.session.lastCommanded =
        (step now (drain commands c).2).2.session.lastCommanded := by
    rw [tick_eq]
    dsimp only
    split <;> exact ⟨rfl, rfl, rfl⟩
  let before := seen now o minutes ((drain commands c).2.looked n)
  have hstepped : (step now (drain commands c).2).2.withoutRadio =
      (commandRotator chosen before).withoutRadio := by
    rw [hstep]
    exact commandRadio_withoutRadio o.rangeRateKmS _
  -- the target that the step notes is the one it has chosen
  have hchosen : chosen = some target := by
    rw [← commandRotator_target chosen before, ← h.aimed, htarget]
    exact (congrArg (fun e => e.session.target) hstepped).symm
  have hrests : commandRotator chosen before = before.noted (some target) := by
    have hmove : before.move (some target) = .rest := move_of_near h.rests h.near
    rw [hchosen, commandRotator_eq, hmove]
  rw [hrests] at hstepped
  exact ⟨hrotator.trans (congrArg (fun e => e.rotator) hstepped),
    hcommanded.trans (congrArg (fun e => e.session.lastCommanded) hstepped)⟩

/-! ## The law of the reference -/

/-- What the reference of a run tells about the motions of its rotator. -/
structure ReferenceLaw (c : Controller τ α (Followed ρ α) κ) : Prop where
  referenced : Referenced c
  /-- The reference is the last motion just if the antenna was not stopped since. -/
  current : (∀ p, c.session.lastCommanded = some p → c.rotator.motions.getLast? = some (.set p)) ↔
    (c.rotator.motions.getLast? = some .stop → c.session.lastCommanded = none)

omit [Scalar α] [Chronology τ] [Rotator.Device ρ α] [Radio.Device κ α] [Timeline τ α] in
theorem Referenced.law {c : Controller τ α (Followed ρ α) κ} (h : Referenced c) :
    ReferenceLaw c where
  referenced := h
  current := by
    cases hc : c.session.lastCommanded with
    | none => simp
    | some p =>
      have hset := getLast?_eq_set_iff (h.symm.trans hc)
      simp [hset]

/-- **The law of the reference.**  At any time in a run, and after its end, the position that targets
are compared with is the last one that the antenna was sent to.  It is also the last motion of the
antenna just if no stop has succeeded since, and in a tick that withholds an order as well: after a
stop the antenna may be left anywhere. -/
theorem reference_law (satellite : Ephemeris τ α) (settings : Settings α) (rotator : Equipment ρ)
    (radio : Equipment κ) (events : List (Event τ α)) :
    let c := after events (fresh satellite settings rotator.followed radio)
    ReferenceLaw c ∧ ReferenceLaw (shutdown c) ∧
      ∀ commands now target, Withholds commands now target c →
        let d := (tick commands now c).2
        d.rotator = (drain commands c).2.rotator ∧
          ∃ p, d.session.lastCommanded = some p ∧
            (d.rotator.motions.getLast? = some (.set p) ↔
              d.rotator.motions.getLast? ≠ some .stop) := by
  intro c
  have hc : Referenced c :=
    reference_invariant.after (Referenced.fresh satellite settings rotator radio) events
  refine ⟨hc.law, hc.shutdown.law, fun commands now target h => ?_⟩
  obtain ⟨hrotator, hcommanded⟩ := tick_withheld h
  obtain ⟨p, hp⟩ := exists_of_near h.near
  have hlast := hcommanded.trans hp
  have hd : Referenced (tick commands now c).2 := reference_invariant.tick hc commands now
  exact ⟨hrotator, p, hlast, getLast?_eq_set_iff (hd.symm.trans hlast)⟩

/-- A rotator that takes its time. -/
def slow : Rotator.Bench Float := ⟨⟨0, 0⟩, false, [], []⟩

/-- A run that is stopped in the middle of a slew and started again. -/
def restarted : Controller Instant Float (Followed (Rotator.Bench Float) Float) (Radio.Bench Float) :=
  after [.tick [] ⟨0⟩, .command .unlock, .command .stop, .command .unlock, .command .start]
    (fresh flashes blind (.followed (.connected slow)) .absent)

/-- Stopped at its place and started again, the antenna is left there: a tick withholds the order for
a target because it was sent there before the stop. -/
theorem stopped_off_target :
    restarted.session.lastCommanded = some ⟨135, 10⟩ ∧
      restarted.rotator.motions = [.set ⟨135, 10⟩, .stop] ∧
      restarted.rotator.device?.map (·.device.position) = some ⟨0, 0⟩ ∧
      Withholds [] ⟨180000000⟩ ⟨135, 10⟩ restarted ∧
      (tick [] ⟨180000000⟩ restarted).2.rotator.motions = [.set ⟨135, 10⟩, .stop] := by
  refine ⟨by decide +kernel, by decide +kernel, by decide +kernel, ⟨?_, ?_, ?_, ?_⟩, by decide +kernel⟩
  · exact eq_ok_of_isOk (by decide +kernel)
  · decide +kernel
  · decide +kernel
  · decide +kernel

end Controller

end EarthStation.Tracking
