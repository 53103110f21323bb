import EarthStation.Proofs.Tracking.Deeds
import EarthStation.Proofs.Tracking.Phases
import EarthStation.Proofs.Tracking.Tape

/-!
# Silence — the devices are left alone while nothing is followed

* `Quiet`: a run that is not engaged and has no move in flight.
* `Quiet.step`: a step of a quiet run leaves both devices alone.
* `quiet_after`, `Quiet.deed`: a stop or a way home makes a run quiet, and only a start ends that.
* `deed_calls`, `Path.calls`: the calls of a deed, and those of a path.
* `quiet_while_disengaged`: in between, the rotator is told to stop or to go home, once for each such
  command, and that is all.
-/

namespace EarthStation.Tracking

open Rotator (Position)

/-- What a command tells the rotator, if it is accepted. -/
def Command.orders {α : Type} [Scalar α] : Command α → List (Rotator.Call α)
  | stop => [.stop]
  | home => [.set Position.home]
  | _ => []

namespace Controller

variable {τ α ρ κ : Type}

/-- Nothing is followed, and no move is in flight. -/
structure Quiet (c : Controller τ α ρ κ) : Prop where
  engaged : c.session.engaged = false
  repointInFlight : c.session.repointInFlight = false

variable [Scalar α] [Rotator.Device ρ α]

/-! ## Steps -/

omit [Rotator.Device ρ α] in
/-- Without a target a rotator at rest is left alone. -/
theorem Quiet.commandRotator [Rotator.Device ρ α] {c : Controller τ α ρ κ} (h : Quiet c) :
    commandRotator none c = c.noted none := by
  have hmove : c.move none = .rest := by
    unfold move
    rw [h.repointInFlight]
    rfl
  rw [commandRotator_eq, hmove]

omit [Rotator.Device ρ α] in
theorem Quiet.commandRadio [Radio.Device κ α] {c : Controller τ α ρ κ} (h : Quiet c)
    (rangeRateKmS : α) : commandRadio rangeRateKmS c = c := by
  have herrand : c.errand = .nothing := by
    unfold errand
    rw [h.engaged]
    simp
  rw [commandRadio_eq, herrand]

variable [Timeline τ α] [Chronology τ] [Radio.Device κ α]

/-- **A step of a quiet run** leaves both devices alone, and the run is as quiet as before. -/
theorem Quiet.step {c : Controller τ α ρ κ} (h : Quiet c) (now : τ) :
    Quiet (step now c).2 ∧ (step now c).2.rotator = c.rotator ∧ (step now c).2.radio = c.radio := by
  rw [step_eq]
  cases c.satellite.observe now with
  | error cause => exact ⟨⟨h.engaged, h.repointInFlight⟩, rfl, rfl⟩
  | ok o =>
    cases (search now c).result with
    | error cause => exact ⟨⟨h.engaged, h.repointInFlight⟩, rfl, rfl⟩
    | ok minutes =>
      have htarget : (predicted now o minutes c).target now o minutes = .ok none :=
        target_of_disengaged h.engaged
      have hseen (n : Nat) : Quiet (seen now o minutes (c.looked n)) :=
        ⟨h.engaged, h.repointInFlight⟩
      dsimp only
      rw [htarget, looked_looked, looked_looked]
      dsimp only
      rw [(hseen _).commandRotator]
      have hnoted (n : Nat) : Quiet ((seen now o minutes (c.looked n)).noted none) :=
        ⟨h.engaged, h.repointInFlight⟩
      rw [(hnoted _).commandRadio]
      exact ⟨hnoted _, rfl, rfl⟩

/-! ## Commands -/

omit [Timeline τ α] [Chronology τ] [Radio.Device κ α] in
/-- A stop or a way home makes a run quiet. -/
theorem obey_quiet {command : Command α} (h : command = .stop ∨ command = .home)
    (c : Controller τ α ρ κ) : Quiet (obey command c) := by
  rcases h with rfl | rfl
  · exact ⟨rfl, rfl⟩
  · exact ⟨rfl, rfl⟩

omit [Timeline τ α] [Chronology τ] [Radio.Device κ α] in
/-- Only a start ends the quiet. -/
theorem Quiet.obey {c : Controller τ α ρ κ} (h : Quiet c) {command : Command α}
    (hstart : command ≠ .start) : Quiet (obey command c) := by
  cases command with
  | start => exact absurd rfl hstart
  | stop => exact obey_quiet (.inl rfl) c
  | home => exact obey_quiet (.inr rfl) c
  | auxiliary =>
    unfold Controller.obey
    dsimp only
    split
    · exact ⟨h.engaged, h.repointInFlight⟩
    · exact h
  | unlock => exact ⟨h.engaged, h.repointInFlight⟩
  | pin position => exact ⟨h.engaged, h.repointInFlight⟩
  | unpin => exact ⟨h.engaged, h.repointInFlight⟩

/-! ## Deeds -/

/-- The calls to the rotator that are due for a deed: those of a command that is accepted, if the rotator
is there. -/
def Deed.orders (d : Deed τ α ρ κ) : List (Rotator.Call α) :=
  match d.act with
  | .command command =>
    if d.result.isOk && d.before.rotator.isAvailable then command.orders else []
  | .step _ => []

/-- After a stop or a way home a run is quiet. -/
theorem quiet_after {d : Deed τ α ρ κ} (h : d.Accepts .stop ∨ d.Accepts .home) : Quiet d.after := by
  obtain ⟨command, hdisarms, hact, hresult⟩ :
      ∃ command, (command = .stop ∨ command = .home) ∧ d.Accepts command := by
    rcases h with h | h
    · exact ⟨_, .inl rfl, h⟩
    · exact ⟨_, .inr rfl, h⟩
  rcases Deed.of_command hact with ⟨hrefused, -⟩ | ⟨-, n, -, hafter⟩
  · cases hresult.symm.trans hrefused
  · rw [hafter]
    exact obey_quiet hdisarms _

/-- The quiet lasts through every deed but an accepted start. -/
theorem Quiet.deed {d : Deed τ α ρ κ} (h : Quiet d.before) (hstart : ¬ d.Accepts .start) :
    Quiet d.after := by
  cases hact : d.act with
  | step now =>
    rw [(Deed.of_step hact).2]
    exact (h.step now).1
  | command command =>
    rcases Deed.of_command hact with ⟨-, hafter⟩ | ⟨haccepts, n, -, hafter⟩
    · rw [hafter]
      exact h
    · have hcommand : command ≠ .start := fun he => hstart (he ▸ haccepts)
      rw [hafter]
      exact Quiet.obey (c := d.before.withCredit n) ⟨h.engaged, h.repointInFlight⟩ hcommand

/-! ## Calls -/

omit [Timeline τ α] [Chronology τ] [Radio.Device κ α] in
theorem obey_calls (command : Command α) (c : Controller τ α (Taped ρ (Rotator.Call α)) κ) :
    (obey command c).rotator.calls =
      c.rotator.calls ++ if c.rotator.isAvailable then command.orders else [] := by
  cases command with
  | stop =>
    unfold obey
    rcases hu : c.rotator.use Rotator.Fault.isDisconnect Rotator.Device.stop with ⟨answer, rotator⟩
    exact Equipment.calls_of_use (fun _ => Rotator.Call.stop) hu
  | home =>
    unfold obey
    rcases hu : c.rotator.use Rotator.Fault.isDisconnect (Rotator.Device.set Position.home) with
      ⟨answer, rotator⟩
    exact Equipment.calls_of_use (fun _ => Rotator.Call.set Position.home) hu
  | auxiliary =>
    unfold obey
    dsimp only
    split <;> simp [Command.orders]
  | _ => simp [obey, Command.orders]

/-- **A command, or a step of a quiet run**, makes the calls that are due for it, and none to the
radio. -/
theorem deed_calls {d : Deed τ α (Taped ρ (Rotator.Call α)) (Taped κ (Radio.Call α))}
    (h : ∀ now, d.act = .step now → Quiet d.before) :
    d.after.radio.calls = d.before.radio.calls ∧
      d.after.rotator.calls = d.before.rotator.calls ++ d.orders := by
  cases hact : d.act with
  | step now =>
    obtain ⟨-, hrotator, hradio⟩ := (h now hact).step now
    have hnone : d.orders = [] := by
      unfold Deed.orders
      rw [hact]
    rw [(Deed.of_step hact).2, hrotator, hradio, hnone, List.append_nil]
    exact ⟨rfl, rfl⟩
  | command command =>
    have horders : d.orders =
        if d.result.isOk && d.before.rotator.isAvailable then command.orders else [] := by
      unfold Deed.orders
      rw [hact]
    rcases Deed.of_command hact with ⟨hrefused, hafter⟩ | ⟨haccepts, n, -, hafter⟩
    · rw [hrefused] at horders
      rw [hafter, horders]
      exact ⟨rfl, (List.append_nil _).symm⟩
    · rw [haccepts.2] at horders
      rw [hafter, horders]
      exact ⟨congrArg Equipment.calls (obey_radio command _),
        obey_calls command (d.before.withCredit n)⟩

/-- The calls of a path are those of its deeds. -/
theorem Path.calls {c c' : Controller τ α (Taped ρ (Rotator.Call α)) (Taped κ (Radio.Call α))}
    {ds : List (Deed τ α (Taped ρ (Rotator.Call α)) (Taped κ (Radio.Call α)))} (h : Path c ds c')
    (hds : ∀ d ∈ ds, d.after.radio.calls = d.before.radio.calls ∧
      d.after.rotator.calls = d.before.rotator.calls ++ d.orders) :
    c'.radio.calls = c.radio.calls ∧
      c'.rotator.calls = c.rotator.calls ++ ds.flatMap Deed.orders := by
  induction h with
  | nil c => exact ⟨rfl, (List.append_nil _).symm⟩
  | deed d h ih =>
    obtain ⟨⟨hradio, hrotator⟩, hlater⟩ := List.forall_mem_cons.mp hds
    obtain ⟨hradio', hrotator'⟩ := ih hlater
    refine ⟨hradio'.trans hradio, ?_⟩
    rw [hrotator', hrotator, List.flatMap_cons, List.append_assoc]
  | countdown _ _ ih => exact ih hds

/-- **Disengaged means quiet.**  From a stop or a way home that is accepted to the next start that is, no
step makes a call to a device, whatever the satellite, the pinned position and the auxiliary frequency
are, and whatever other commands are accepted.  All calls of that time are the stop or the order to go
home of each such command; they are the calls that the tapes gain from its beginning to its end. -/
theorem quiet_while_disengaged (satellite : Ephemeris τ α) (settings : Settings α)
    (rotator : Equipment (Taped ρ (Rotator.Call α))) (radio : Equipment (Taped κ (Radio.Call α)))
    (events : List (Event τ α))
    {past between later : List (Deed τ α (Taped ρ (Rotator.Call α)) (Taped κ (Radio.Call α)))}
    {d : Deed τ α (Taped ρ (Rotator.Call α)) (Taped κ (Radio.Call α))}
    (hdeeds : deeds events (fresh satellite settings rotator radio) =
      past ++ (d :: between ++ later))
    (hdisarmed : d.Accepts .stop ∨ d.Accepts .home)
    (hbetween : ∀ e ∈ between, ¬ e.Accepts .start) :
    (∀ e ∈ d :: between, e.after.radio.calls = e.before.radio.calls ∧
      e.after.rotator.calls = e.before.rotator.calls ++ e.orders) ∧
    ∃ c, Path d.before (d :: between) c ∧
      Path c later (after events (fresh satellite settings rotator radio)) ∧
      c.radio.calls = d.before.radio.calls ∧
      c.rotator.calls = d.before.rotator.calls ++ (d :: between).flatMap Deed.orders := by
  have hpath := path_deeds events (fresh satellite settings rotator radio)
  rw [hdeeds] at hpath
  obtain ⟨c₀, -, hrest⟩ := hpath.split
  obtain ⟨c, hstretch, hlater⟩ := hrest.split
  have hquiet := (hstretch.tail.holds (P := Quiet) (fun _ h => ⟨h.engaged, h.repointInFlight⟩)
    (quiet_after hdisarmed) fun e he h => h.deed (hbetween e he)).1
  -- the deed that disarms is a command, and all later ones find the run quiet
  have hcalls : ∀ e ∈ d :: between, e.after.radio.calls = e.before.radio.calls ∧
      e.after.rotator.calls = e.before.rotator.calls ++ e.orders := by
    refine List.forall_mem_cons.mpr ⟨deed_calls fun now hact => ?_,
      fun e he => deed_calls fun _ _ => hquiet e he⟩
    rcases hdisarmed with h | h
    · cases h.1.symm.trans hact
    · cases h.1.symm.trans hact
  have hwhole : Path d.before (d :: between) c := .deed d hstretch.tail
  exact ⟨hcalls, c, hwhole, hlater, hwhole.calls hcalls⟩

/-- A run on tape whose satellite passes twice. -/
def attended : Controller Instant Float (Taped (Rotator.Bench Float) (Rotator.Call Float))
    (Taped (Radio.Bench Float) (Radio.Call Float)) :=
  fresh flashes { blind with uplinkHz := some 145900000, auxiliary := some ⟨145800000, ⟨90, 45⟩⟩ }
    (.connected ⟨⟨⟨0, 0⟩, false, [], []⟩, []⟩) (.connected ⟨⟨[], []⟩, []⟩)

/-- A stop in the middle of a slew, and a second pass before which the antenna is pinned. -/
def pausing : List (Event Instant Float) :=
  [.tick [] ⟨0⟩, .tick [.unlock, .stop, .unlock, .pin ⟨90, 45⟩, .unlock, .auxiliary] ⟨180000000⟩,
    .tick [.unlock, .home] ⟨180000000⟩, .tick [.unlock, .start] ⟨180000000⟩]

/-- From the stop to the start the antenna is stopped and sent home, and both steps are silent. -/
theorem quiet_while_disengaged_pinned :
    ∃ past d between later, deeds pausing attended = past ++ (d :: between ++ later) ∧
      d.Accepts .stop ∧ between.length = 9 ∧
      (d :: between).flatMap Deed.orders = [.stop, .set Rotator.Position.home] ∧
      ∀ e ∈ d :: between, e.after.radio.calls = e.before.radio.calls := by
  let slewing : Controller Instant Float _ _ := (handle .unlock (tick [] ⟨0⟩ attended).2).2
  let all := deeds pausing attended
  have hdeeds : deeds pausing attended =
      all.take 2 ++ (⟨.command .stop, slewing⟩ :: (all.drop 3).take 9 ++ all.drop 12) := rfl
  have hstop : Deed.Accepts (τ := Instant) .stop ⟨.command .stop, slewing⟩ :=
    ⟨rfl, eq_ok_of_isOk (by decide +kernel)⟩
  have hacts : ((all.drop 3).take 9).map Deed.act =
      [.command .unlock, .command (.pin ⟨90, 45⟩), .command .unlock, .command .auxiliary,
        .step ⟨180000000⟩, .command .unlock, .command .home, .step ⟨180000000⟩, .command .unlock] := rfl
  have hstart : ∀ e ∈ (all.drop 3).take 9, ¬ e.Accepts .start := by
    intro e he h
    have hact := List.mem_map_of_mem (f := Deed.act) he
    rw [hacts, h.1] at hact
    simp at hact
  have hquiet := quiet_while_disengaged _ _ _ _ _ hdeeds (.inl hstop) hstart
  exact ⟨_, _, _, _, hdeeds, hstop, rfl, by decide +kernel, fun e he => (hquiet.1 e he).1⟩

end Controller

end EarthStation.Tracking
