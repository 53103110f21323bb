import EarthStation.Proofs.Config.Validation
import EarthStation.Proofs.Exchange
import EarthStation.Proofs.Operator
import EarthStation.Proofs.Tracking.Orders
import EarthStation.Radio.Bench
import EarthStation.Rotator.Bench

/-!
# Limits — the rotator is never ordered out of reach

* `Rotator.Link.Carries`: a property of all frames that a link hands to its line.
* `Rotator.link_keeps`: a link keeps it as long as the frames of its orders have it.
* `Settings.Checked`, `inReach_of_typed`, `FiniteDirections`: where targets come from is checked, or
  brought within reach.
* `orders_in_reach`: in every run all positions ordered are within reach, and so are the angles of all
  frames on the line.
-/

namespace EarthStation.Tracking

open Operator (Request)
open Rotator (FrameInReach IsOrder Position setFrame)
open Wire (Bytes Line Peer)

/-! ## Lines on tape -/

instance {δ : Type} [Peer δ] : Peer (Taped δ Bytes) where
  receive bytes := Taped.call bytes (Peer.receive bytes)

/-- Holds if all frames that were handed to the line have a property, whether they were written or
refused. -/
structure Carries {δ : Type} (Q : Bytes → Prop) (l : Line (Taped δ Bytes)) : Prop where
  handed : ∀ bytes ∈ l.peer.calls, Q bytes
  written : ∀ bytes ∈ l.written, Q bytes

section Line

variable {δ : Type} [Peer δ] {Q : Bytes → Prop}

theorem Carries.write {bytes : Bytes} (hQ : Q bytes) {l : Line (Taped δ Bytes)} (h : Carries Q l) :
    Carries Q (Line.write bytes l).2 := by
  have hhanded : ∀ sent ∈ l.peer.calls ++ [bytes], Q sent := by
    simpa [or_imp, forall_and] using ⟨h.handed, hQ⟩
  have hwritten : ∀ sent ∈ l.written ++ [bytes], Q sent := by
    simpa [or_imp, forall_and] using ⟨h.written, hQ⟩
  have hpeer : (Peer.receive bytes l.peer).2.calls = l.peer.calls ++ [bytes] := rfl
  unfold Line.write
  rcases hr : Peer.receive bytes l.peer with ⟨_ | _, peer⟩
  · rw [hr] at hpeer
    exact ⟨hpeer ▸ hhanded, h.written⟩
  · rw [hr] at hpeer
    exact ⟨hpeer ▸ hhanded, hwritten⟩

end Line

/-! ## Links -/

section Link

open Exchange (Leads)
open Rotator (Fault Link statusFrame stopFrame)

variable {δ α : Type} [Peer δ] [Scalar α] {Q : Bytes → Prop}

/-- The frames of a link. -/
def LinkCarries (Q : Bytes → Prop) (l : Link (Taped δ Bytes) α) : Prop := Carries Q l.line

omit [Scalar α] in
theorem write_carries {bytes : Bytes} (hQ : Q bytes) :
    Leads (LinkCarries Q : Link (Taped δ Bytes) α → Prop) (Link.onLine (Line.write bytes))
      (fun _ => LinkCarries Q) (LinkCarries Q) := by
  intro l h
  have hwrite : Carries Q (Line.write bytes l.line).2 := Carries.write hQ h
  unfold Link.onLine
  rcases hr : Line.write bytes l.line with ⟨_ | _, line⟩
  · rw [hr] at hwrite
    exact hwrite
  · rw [hr] at hwrite
    exact hwrite

/-- A frame is sent, and nothing else. -/
theorem report_carries {bytes : Bytes} (hQ : Q bytes) :
    Leads (LinkCarries Q : Link (Taped δ Bytes) α → Prop) (Link.report bytes)
      (fun _ => LinkCarries Q) (LinkCarries Q) := by
  refine (write_carries hQ).bind fun _ => Leads.bind (Q := fun _ => LinkCarries Q) ?_ fun reply => ?_
  · intro l h
    unfold Link.onLine
    dsimp only [Line.read]
    cases (Wire.readAvailable Rotator.responseLength l.line.pending).failure with
    | none => exact ⟨h.handed, h.written⟩
    | some cause => exact ⟨h.handed, h.written⟩
  · refine Leads.bind Leads.ofExcept_same fun position => ?_
    refine Leads.bind (Q := fun _ => LinkCarries Q) (Leads.modify fun l h => h) fun _ => ?_
    exact Leads.pure fun _ h => h

omit [Peer δ] [Scalar α] in
/-- The position is noted only after its frame was sent. -/
theorem note_carries (p : Position α) (reported : Option (Position α)) :
    Leads (LinkCarries Q : Link (Taped δ Bytes) α → Prop)
      ((Exchange.modify fun l => { l with lastCommanded := some p } :
          Exchange (Link (Taped δ Bytes) α) (Fault α) Unit) >>= fun _ => pure reported)
      (fun _ => LinkCarries Q) (LinkCarries Q) :=
  Leads.bind (Q := fun _ => LinkCarries Q) (Leads.modify fun _ h => h) fun _ =>
    Leads.pure fun _ h => h

/-- The frame of an order is sent, if the position is not refused, and nothing else. -/
theorem set_carries {p : Position α} (hset : ∀ bytes, setFrame p = .ok bytes → Q bytes) :
    Leads (LinkCarries Q : Link (Taped δ Bytes) α → Prop) (Link.set p)
      (fun _ => LinkCarries Q) (LinkCarries Q) := by
  refine Leads.bind (Q := fun bytes l => Q bytes ∧ LinkCarries Q l)
    (Leads.ofExcept (fun bytes hframe l h => ⟨hset bytes hframe, h⟩) fun _ h => h) fun bytes => ?_
  refine Leads.bind (Q := fun _ l => Q bytes ∧ LinkCarries Q l) (Leads.get fun _ h => h)
    fun link => Leads.assume fun hbytes => ?_
  dsimp only
  -- the firmware answers an order or is silent
  split
  · refine (report_carries hbytes).bind fun position => ?_
    exact Leads.bind (Q := fun _ => LinkCarries Q) (Leads.pure fun _ h => h) (note_carries p)
  · refine (write_carries hbytes).bind fun _ => ?_
    exact Leads.bind (Q := fun _ => LinkCarries Q) (Leads.pure fun _ h => h) (note_carries p)

/-- **A link keeps a property of its frames** as long as the frames of its orders have it. -/
theorem link_keeps {R : Position α → Prop} (hstop : Q stopFrame) (hstatus : Q statusFrame)
    (hset : ∀ p bytes, R p → setFrame p = .ok bytes → Q bytes) :
    RotatorKeeps R (LinkCarries Q : Link (Taped δ Bytes) α → Prop) where
  stop _ h := (report_carries hstop).after h
  status _ h := (report_carries hstatus).after h
  set p _ hR h := (set_carries fun bytes => hset p bytes hR).after h

end Link

/-! ## Where targets come from -/

/-- Holds of settings whose auxiliary position, if there is one, has passed its check. -/
def Settings.Checked (s : Settings Float) : Prop :=
  ∀ a, s.auxiliary = some a → a.position.checked = .ok a.position

/-- The settings of every configuration that has any are checked. -/
theorem checked_of_settings {c : Config} {s : Settings Float} (h : c.settings = .ok s) :
    s.Checked := by
  intro a ha
  obtain ⟨-, -, haux⟩ := Config.exists_settings_iff.mp ⟨s, h, rfl, rfl, rfl⟩
  rw [ha] at haux
  exact Rotator.checked_eq_ok_iff.mpr ⟨(Config.sound_of_auxiliaryTarget haux).2, rfl⟩

/-- Holds of satellites that are seen in finite directions only, of whatever size their angles are. -/
def FiniteDirections {τ : Type} (e : Ephemeris τ Float) : Prop :=
  ∀ t o, e.observe t = .ok o → o.azimuthDeg.isFinite = true ∧ o.elevationDeg.isFinite = true

/-- A position that was typed in is within reach. -/
theorem inReach_of_typed {line : List Char} {p : Position Float}
    (h : Request.ofLine? line = some (.command (.pin p))) : p.InReach := by
  obtain ⟨-, -, -, -, -, hwithin⟩ := Operator.ofLine?_pin.mp h
  exact Rotator.withinLimits_iff.mp hwithin

/-! ## Runs -/

/-- Every position that the rotator was sent to is within reach, and its frame is not refused. -/
def OrdersInReach {ρ : Type} (e : Equipment (Taped ρ (Rotator.Call Float))) : Prop :=
  ∀ p, .set p ∈ e.calls →
    p.InReach ∧ ∃ bytes, setFrame p = .ok bytes ∧ IsOrder bytes ∧ FrameInReach bytes

/-- Every order among the frames that were handed to the line, written or refused, is one within
reach. -/
def FramesInReach {δ : Type} (e : Equipment (Rotator.Link (Taped δ Bytes) Float)) : Prop :=
  ∀ link, e.device? = some link →
    ∀ bytes, bytes ∈ link.line.peer.calls ∨ bytes ∈ link.line.written → FrameInReach bytes

namespace Controller

variable {τ ρ δ κ : Type} [Timeline τ Float] [Chronology τ] [Rotator.Device ρ Float] [Peer δ]
  [Radio.Device κ Float]

/-- In every run whose targets come from such sources, the rotator has any property that it keeps while
it is sent to positions within reach only. -/
theorem holds_throughout {satellite : Ephemeris τ Float} {settings : Settings Float}
    {events : List (Event τ Float)} (hfinite : FiniteDirections satellite)
    (hchecked : settings.Checked)
    (htyped : ∀ e ∈ events, ∀ p, .pin p ∈ e.commands →
      ∃ line, Request.ofLine? line = some (.command (.pin p)))
    {Q : ρ → Prop} (hQ : RotatorKeeps Position.InReach Q) {rotator : Equipment ρ}
    (hrotator : rotator.Holds Q) (radio : Equipment κ) :
    let c := after events (fresh satellite settings rotator radio)
    c.rotator.Holds Q ∧ (shutdown c).rotator.Holds Q := by
  have hfresh : Ordered Position.InReach Q (fresh satellite settings rotator radio) := by
    refine Ordered.fresh (fun t o ho last => ?_) (fun t o ho last => ?_) (fun a ha => ?_) hrotator
    · obtain ⟨hazimuth, helevation⟩ := hfinite t o ho
      exact follow_inReach hazimuth helevation last
    · exact follow_inReach (hfinite t o ho).1 (Binary64.finite_natural (by norm_num)) last
    · exact (Rotator.checked_eq_ok_iff.mp (hchecked a ha)).1
  have hpinned : ∀ e ∈ events, ∀ command ∈ e.commands, ∀ p, command = .pin p → p.InReach := by
    rintro e he _ hcommand p rfl
    obtain ⟨line, hline⟩ := htyped e he p hcommand
    exact inReach_of_typed hline
  have hafter := (ordered_invariant Rotator.home_inReach hQ).after hfresh hpinned
  exact ⟨hafter.rotator, (hafter.shutdown hQ).rotator⟩

omit [Timeline τ Float] [Chronology τ] [Rotator.Device ρ Float] [Radio.Device κ Float] in
theorem ordersInReach_of_holds {e : Equipment (Taped ρ (Rotator.Call Float))}
    (h : e.Holds (Taped.Ordered Position.InReach)) : OrdersInReach e := by
  intro p hp
  cases hd : e.device? with
  | none => simp [Equipment.calls, hd] at hp
  | some t =>
    have hreach : p.InReach := h t hd p (by simpa [Equipment.calls, hd] using hp)
    exact ⟨hreach, Rotator.setFrame_of_inReach hreach⟩

omit [Timeline τ Float] [Chronology τ] [Rotator.Device ρ Float] [Peer δ] [Radio.Device κ Float] in
theorem framesInReach_of_holds {e : Equipment (Rotator.Link (Taped δ Bytes) Float)}
    (h : e.Holds (LinkCarries FrameInReach)) : FramesInReach e := by
  rintro link hlink bytes (hhanded | hwritten)
  · exact (h link hlink).handed bytes hhanded
  · exact (h link hlink).written bytes hwritten

/-- **The rotator is never ordered out of reach.**  Whatever finite angles the satellite is seen at, if
the auxiliary position has passed its check and pinned positions were typed in, every position that any
rotator is sent to in a run, the shutdown included, is within reach and its frame is not refused; and
every frame with an order that a link hands to its line orders angles within reach, after they were
rounded to tenths. -/
theorem orders_in_reach (satellite : Ephemeris τ Float) (settings : Settings Float)
    (events : List (Event τ Float)) (radio : Equipment κ) (hfinite : FiniteDirections satellite)
    (hchecked : settings.Checked)
    (htyped : ∀ e ∈ events, ∀ p, .pin p ∈ e.commands →
      ∃ line, Request.ofLine? line = some (.command (.pin p))) :
    (∀ rotator : Equipment ρ,
      let c := after events (fresh satellite settings rotator.taped radio)
      OrdersInReach c.rotator ∧ OrdersInReach (shutdown c).rotator) ∧
    ∀ (peer : δ) (setResponds : Bool),
      let link := Rotator.Link.ofLine (Line.ofPeer ⟨peer, []⟩) setResponds
      let c := after events (fresh satellite settings (.connected link) radio)
      FramesInReach c.rotator ∧ FramesInReach (shutdown c).rotator := by
  constructor
  · intro rotator
    have hempty : (rotator.taped (γ := Rotator.Call Float)).Holds
        (Taped.Ordered Position.InReach) := by
      intro t ht p hp
      cases rotator <;> cases ht <;> cases hp
    obtain ⟨hafter, hend⟩ := holds_throughout hfinite hchecked htyped (tape_keeps _) hempty radio
    exact ⟨ordersInReach_of_holds hafter, ordersInReach_of_holds hend⟩
  · intro peer setResponds
    have hkeeps : RotatorKeeps Position.InReach
        (LinkCarries FrameInReach : Rotator.Link (Taped δ Bytes) Float → Prop) := by
      refine link_keeps (fun h => ?_) (fun h => ?_) fun p bytes hreach hframe => ?_
      · exact absurd h (by decide)
      · exact absurd h (by decide)
      · obtain ⟨sent, hsent, -, hangles⟩ := Rotator.setFrame_of_inReach hreach
        cases hframe.symm.trans hsent
        exact hangles
    have hempty : (Equipment.connected (Rotator.Link.ofLine (α := Float)
        (Line.ofPeer (⟨peer, []⟩ : Taped δ Bytes)) setResponds)).Holds (LinkCarries FrameInReach) := by
      intro link hlink
      cases hlink
      exact ⟨nofun, nofun⟩
    obtain ⟨hafter, hend⟩ := holds_throughout hfinite hchecked htyped hkeeps hempty radio
    exact ⟨framesInReach_of_holds hafter, framesInReach_of_holds hend⟩

/-- A satellite that is seen at angles of any number of turns. -/
def spinning : Ephemeris Instant Float where
  name := "SPINNING"
  observe _ := .ok ⟨-1e15, 1e300, 550, 0⟩

/-- Settings with an auxiliary position in a corner of the range, and without a search. -/
def cornered : Settings Float :=
  { Settings.standard with
    horizonMinutes := 0
    auxiliary := some ⟨437800000, ⟨-179, 90⟩⟩ }

/-- A run that follows, goes to a pinned position in the other corner, to the auxiliary one and home. -/
def corners : List (Event Instant Float) :=
  [.tick [] ⟨0⟩, .tick [.unlock, .pin ⟨539, 90⟩] ⟨1⟩, .tick [] ⟨2⟩, .tick [] ⟨3⟩,
    .tick [.unlock, .auxiliary] ⟨4⟩, .tick [] ⟨5⟩, .tick [] ⟨6⟩, .command .unlock, .command .home]

/-- A rotator that goes where it is sent at once. -/
def nimble : Rotator.Bench Float := ⟨⟨0, 0⟩, true, [], []⟩

/-- All targets of a run are ordered that leads from corner to corner, and all are within reach. -/
theorem orders_in_reach_corners :
    (FiniteDirections spinning ∧ cornered.Checked ∧
      (∀ e ∈ corners, ∀ p, .pin p ∈ e.commands →
        ∃ line, Request.ofLine? line = some (.command (.pin p)))) ∧
    (let rotator : Equipment (Rotator.Bench Float) := .connected nimble
      let radio : Equipment (Radio.Bench Float) := .absent
      let c := after corners (fresh spinning cornered rotator.taped radio)
      c.rotator.calls.filter (fun call => call ≠ .status) =
        [.set ⟨80, 90⟩, .set ⟨539, 90⟩, .set ⟨-179, 90⟩, .set ⟨0, 0⟩] ∧
      OrdersInReach c.rotator ∧ OrdersInReach (shutdown c).rotator) ∧
    (let link : Rotator.Link (Taped Wire.Script Bytes) Float :=
        .ofLine (.ofPeer ⟨⟨[]⟩, []⟩) false
      let radio : Equipment (Radio.Bench Float) := .absent
      let c := after corners (fresh spinning cornered (.connected link) radio)
      FramesInReach c.rotator ∧ FramesInReach (shutdown c).rotator) := by
  have hfinite : FiniteDirections spinning := by
    rintro _ _ ⟨⟩
    exact ⟨by decide +kernel, by decide +kernel⟩
  have hchecked : cornered.Checked := by
    rintro _ ⟨⟩
    decide +kernel
  have htyped : ∀ e ∈ corners, ∀ p, .pin p ∈ e.commands →
      ∃ line, Request.ofLine? line = some (.command (.pin p)) := by
    intro e he p hp
    have hcommands : Command.pin p ∈ corners.flatMap Event.commands := List.mem_flatMap_of_mem he hp
    have hcorner : p = ⟨539, 90⟩ := by simpa [corners, Event.commands] using hcommands
    have hwords : Text.words ['p', ' ', '5', '3', '9', ' ', '9', '0'] =
        [['p'], ['5', '3', '9'], ['9', '0']] := by decide
    have hposition : Operator.position? ['5', '3', '9'] ['9', '0'] = some p :=
      hcorner ▸ by decide +kernel
    refine ⟨['p', ' ', '5', '3', '9', ' ', '9', '0'], ?_⟩
    unfold Request.ofLine?
    rw [hwords]
    exact congrArg (Option.map fun p => Request.command (.pin p)) hposition
  obtain ⟨horders, hframes⟩ := orders_in_reach (ρ := Rotator.Bench Float) (δ := Wire.Script)
    spinning cornered corners (.absent : Equipment (Radio.Bench Float)) hfinite hchecked htyped
  exact ⟨⟨hfinite, hchecked, htyped⟩, ⟨by decide +kernel, horders (.connected nimble)⟩,
    hframes ⟨[]⟩ false⟩

end Controller

end EarthStation.Tracking
