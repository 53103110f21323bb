import EarthStation.Proofs.Exchange
import EarthStation.Proofs.Radio.Rig

/-!
# Operations — what the operations of a link keep

* `Operation`, `Link.performed`: the operations of a link one after another, answered or not.
* `Link.Kept`: properties that commands keep which are not about the selection.
* `Link.Informed`, `Link.Informed.performed`: properties that operations keep which note what they
  select.
-/

namespace EarthStation.Radio

open Wire (Bytes Line)

/-- An operation of a link. -/
inductive Operation (α : Type) where
  | setVfo (v : Vfo)
  | readVfo
  | setBandSelection (band : UInt8)
  | bandSelection
  | prepare (mode : Option Mode) (filter : UInt8) (waterfall : Bool)
  | setFrequency (hz : α)
  | frequency
  | setSatelliteMode (on : Bool)
  | satelliteMode
  | setMode (mode : Mode) (filter : UInt8)
  | setWaterfall (on : Bool)
  | tune (v : Vfo) (hz : α)

/-- Holds of the operation that selects a band and notes nothing. -/
def Operation.selectsBand {α : Type} : Operation α → Bool
  | setBandSelection _ => true
  | _ => false

namespace Link

variable {α : Type}

/-- The link after an operation, whether it answers or fails. -/
def perform [Scalar α] (l : Link Rig α) : Operation α → Link Rig α
  | .setVfo v => (setVfo v l).2
  | .readVfo => (readVfo l).2
  | .setBandSelection band => (setBandSelection band l).2
  | .bandSelection => (bandSelection l).2
  | .prepare mode filter waterfall => (prepare mode filter waterfall l).2
  | .setFrequency hz => (setFrequency hz l).2
  | .frequency => (frequency l).2
  | .setSatelliteMode on => (setSatelliteMode on l).2
  | .satelliteMode => (satelliteMode l).2
  | .setMode mode filter => (setMode mode filter l).2
  | .setWaterfall on => (setWaterfall on l).2
  | .tune v hz => (tune v hz l).2

/-- The link after some operations. -/
def performed [Scalar α] (l : Link Rig α) (ops : List (Operation α)) : Link Rig α :=
  ops.foldl perform l

/-! ## Commands that are not about the selection -/

/-- A property that commands keep which do not select. -/
structure Kept (I : Link Rig α → Prop) : Prop where
  quiet : ∀ {l : Link Rig α}, I l → l.line.pending = []
  told : ∀ {l : Link Rig α} {frame : Bytes}, selection? frame = none → I l → I (l.told frame)
  commanded : ∀ {l : Link Rig α} (hz : Option α), I l → I { l with lastCommandedHz := hz }
  confirmed : ∀ {l : Link Rig α} (hz : Option α), I l → I { l with lastConfirmedHz := hz }

open Exchange (Leads)

/-- A command leads to where it is heard. -/
theorem leads_command {sent : CommandFrame} {P Q : Link Rig α → Prop}
    (hquiet : ∀ l, P l → l.line.pending = []) (htold : ∀ l, P l → Q (l.told sent.bytes)) :
    Leads P (command sent) (fun _ => Q) Q := by
  intro l hl
  rw [command_eq sent (hquiet l hl)]
  split
  · rename_i h
    obtain ⟨-, rfl⟩ := Prod.mk.inj h
    exact htold l hl
  · rename_i h
    obtain ⟨-, rfl⟩ := Prod.mk.inj h
    exact htold l hl

theorem leads_acknowledged {sent : CommandFrame} {P Q : Link Rig α → Prop}
    (hquiet : ∀ l, P l → l.line.pending = []) (htold : ∀ l, P l → Q (l.told sent.bytes)) :
    Leads P (acknowledged sent) (fun _ => Q) Q := by
  refine (leads_command hquiet htold).bind fun reply => ?_
  cases reply with
  | ok => exact Leads.pure fun _ h => h
  | data bytes => exact Leads.fail fun _ h => h

namespace Kept

variable {I : Link Rig α → Prop} (hI : Kept I)
include hI

theorem acknowledged (sent : CommandFrame) (h : sent.command ≠ 0x07) :
    Leads I (acknowledged sent) (fun _ => I) I :=
  leads_acknowledged (fun _ hl => hI.quiet hl) fun _ hl => hI.told (selection?_of_command h) hl

theorem data (sent : CommandFrame) (h : sent.command ≠ 0x07) :
    Leads I (data sent) (fun _ => I) I := by
  refine (leads_command (fun _ hl => hI.quiet hl)
    fun _ hl => hI.told (selection?_of_command h) hl).bind fun reply => ?_
  rcases reply with _ | _ | _
  · exact Leads.fail fun _ h => h
  · exact Leads.fail fun _ h => h
  · exact Leads.pure fun _ h => h

theorem setSatelliteMode (on : Bool) : Leads I (setSatelliteMode on) (fun _ => I) I :=
  hI.acknowledged _ (by decide : (0x16 : UInt8) ≠ 0x07)

theorem satelliteMode : Leads I satelliteMode (fun _ => I) I := by
  refine ((hI.data _ (by decide)).bind fun bytes => ?_).bind fun n => Leads.pure fun _ h => h
  exact Leads.ofExcept_same

theorem setWaterfall (on : Bool) : Leads I (setWaterfall on) (fun _ => I) I :=
  hI.acknowledged _ (by decide : (0x27 : UInt8) ≠ 0x07)

variable [Scalar α]

theorem setFrequency (hz : α) : Leads I (setFrequency hz) (fun _ => I) I := by
  refine Leads.bind Leads.ofExcept_same fun payload => ?_
  refine (hI.acknowledged _ (by decide : (0x05 : UInt8) ≠ 0x07)).bind fun _ => ?_
  exact Leads.modify fun _ h => hI.commanded _ h

theorem frequency : Leads I (frequency : Exchange (Link Rig α) (Fault α) α) (fun _ => I) I := by
  refine (hI.data _ (by decide)).bind fun bytes => ?_
  refine Leads.bind Leads.ofExcept_same fun hz => ?_
  refine Leads.bind (Q := fun _ => I) (Leads.modify fun _ h => hI.confirmed (some hz) h) fun _ => ?_
  exact Leads.pure fun _ h => h

theorem setMode (mode : Mode) (filter : UInt8) :
    Leads I (setMode mode filter) (fun _ => I) I := by
  unfold Link.setMode
  split
  · exact hI.acknowledged _ (by decide : (0x06 : UInt8) ≠ 0x07)
  · exact Leads.fail fun _ h => h

end Kept

/-- The selected band is told truthfully, if it is told. -/
theorem Kept.bandSelection {I : Link Rig α → Prop} (hI : Kept I) :
    Leads I bandSelection
      (fun band l => I l ∧ l.line.peer.selected = if band = 0 then .main else .sub) I := by
  have htold (l : Link Rig α) (hl : I l) :
      I (l.told (CommandFrame.withSub 0x07 0xD2 []).bytes) := hI.told (by decide) hl
  have hquery : Leads I (command (.withSub 0x07 0xD2 []))
      (fun reply l => I l ∧ (reply = .data [0] ∧ l.line.peer.selected = .main ∨
        reply = .data [1] ∧ l.line.peer.selected = .sub)) I := by
    intro l hl
    rw [command_eq _ (hI.quiet hl)]
    cases hr : l.line.peer.reply? (CommandFrame.withSub 0x07 0xD2 []).bytes with
    | none => exact htold l hl
    | some body =>
      obtain rfl := Rig.reply?_of_query hr
      dsimp only
      rw [parseReply_bandBody]
      cases hselected : l.line.peer.selected with
      | main => exact ⟨htold l hl, Or.inl ⟨rfl, hselected⟩⟩
      | sub => exact ⟨htold l hl, Or.inr ⟨rfl, hselected⟩⟩
      | a => exact htold l hl
      | b => exact htold l hl
  have hdata : Leads I (Link.data (.withSub 0x07 0xD2 []))
      (fun bytes l => I l ∧ (bytes = [0] ∧ l.line.peer.selected = .main ∨
        bytes = [1] ∧ l.line.peer.selected = .sub)) I := by
    refine hquery.bind fun reply => ?_
    rcases reply with _ | _ | ⟨b, rest⟩
    · exact Leads.fail fun _ h => h.1
    · exact Leads.fail fun _ h => h.1
    · exact Leads.pure fun l h => by simpa using h
  refine hdata.bind fun bytes => Leads.ofExcept (fun band hband l h => ?_) fun _ h => h.1
  obtain ⟨hl, ⟨rfl, hselected⟩ | ⟨rfl, hselected⟩⟩ := h
  · obtain rfl : 0 = band := Except.ok.inj hband
    exact ⟨hl, hselected⟩
  · obtain rfl : 1 = band := Except.ok.inj hband
    exact ⟨hl, hselected⟩

/-! ## Operations that note what they select -/

/-- A property that operations keep which note what they select. -/
structure Informed (I : Link Rig α → Prop) : Prop extends Kept I where
  /-- A frame that selects is noted once it is answered. -/
  select : ∀ {sent : CommandFrame} {v : Vfo}, selection? sent.bytes = some v →
    Leads I (do
      Link.acknowledged sent
      Exchange.modify fun l : Link Rig α => { l with vfo := some v }) (fun _ => I) I
  /-- What is read is noted. -/
  note : ∀ {l : Link Rig α}, I l → I { l with vfo := some l.line.peer.selected }

namespace Informed

variable {I : Link Rig α → Prop} (hI : Informed I)
include hI

theorem readVfo : Leads I readVfo (fun _ => I) I := by
  refine hI.bandSelection.bind fun band => ?_
  refine Leads.bind (Q := fun _ => I) (Leads.modify fun l h => ?_) fun _ => Leads.pure fun _ h => h
  have hnote := hI.note h.1
  rw [h.2] at hnote
  exact hnote

/-- The way to the main band, unless it is selected, before anything else. -/
theorem goMain (v : Vfo) {rest : Exchange (Link Rig α) (Fault α) Unit}
    (hrest : Leads I rest (fun _ => I) I) :
    Leads I (if v ≠ .main then do
      setBandSelection 0
      Exchange.modify fun l : Link Rig α => { l with vfo := some .main }
      rest
      else rest) (fun _ => I) I := by
  split
  · have hmain := (hI.select (selection?_band 0)).bind fun _ => hrest
    rw [Exchange.bind_assoc] at hmain
    exact hmain
  · exact hrest

variable [Scalar α]

theorem prepare (mode : Option Mode) (filter : UInt8) (waterfall : Bool) :
    Leads I (prepare mode filter waterfall) (fun _ => I) I := by
  unfold Link.prepare
  refine hI.readVfo.bind fun v => hI.satelliteMode.bind fun _ => hI.goMain v ?_
  cases mode with
  | none => exact hI.setWaterfall waterfall
  | some mode => exact (hI.setMode mode filter).bind fun _ => hI.setWaterfall waterfall

theorem tune (v : Vfo) (hz : α) : Leads I (tune v hz) (fun _ => I) I := by
  have hset : Leads I (do setFrequency hz; frequency) (fun _ => I) I :=
    (hI.setFrequency hz).bind fun _ => hI.frequency
  unfold Link.tune
  refine Leads.bind (Q := fun _ => I) (Leads.get fun _ h => h) fun link => ?_
  dsimp only
  split
  · exact Leads.bind (hI.select (selection?_vfo v)) fun _ => hset
  · exact hset

/-- An operation keeps the property, unless it selects a band and does not note it. -/
theorem perform {op : Operation α} (hop : op.selectsBand = false) {l : Link Rig α} (h : I l) :
    I (l.perform op) := by
  cases op with
  | setVfo v => exact (hI.select (selection?_vfo v)).after h
  | readVfo => exact hI.readVfo.after h
  | setBandSelection band => simp [Operation.selectsBand] at hop
  | bandSelection => exact (hI.bandSelection.mono (fun _ h => h) (fun _ _ h => h.1) fun _ h => h).after h
  | prepare mode filter waterfall => exact (hI.prepare mode filter waterfall).after h
  | setFrequency hz => exact (hI.setFrequency hz).after h
  | frequency => exact hI.frequency.after h
  | setSatelliteMode on => exact (hI.setSatelliteMode on).after h
  | satelliteMode => exact hI.satelliteMode.after h
  | setMode mode filter => exact (hI.setMode mode filter).after h
  | setWaterfall on => exact (hI.setWaterfall on).after h
  | tune v hz => exact (hI.tune v hz).after h

/-- **Operations that note what they select** keep the property, in any order. -/
theorem performed {ops : List (Operation α)} (hops : ∀ op ∈ ops, op.selectsBand = false)
    {l : Link Rig α} (h : I l) : I (l.performed ops) := by
  induction ops generalizing l with
  | nil => exact h
  | cons op rest ih =>
    exact ih (fun op' hmem => hops op' (List.mem_cons_of_mem _ hmem))
      (hI.perform (hops op List.mem_cons_self) h)

end Informed

/-! ## Nothing is left over -/

/-- Every reply is read to its end. -/
theorem quiet_informed : Informed fun l : Link Rig α => l.line.pending = [] where
  quiet h := h
  told _ _ := rfl
  commanded _ h := h
  confirmed _ h := h
  select _ := (leads_acknowledged (fun _ h => h) fun _ _ => rfl).bind fun _ =>
    Leads.modify fun _ h => h
  note h := h

/-- A command that is answered by an acknowledgement is heard, and nothing more. -/
theorem leads_told (sent : CommandFrame) {l : Link Rig α} (h : l.line.pending = []) :
    Leads (fun s => s = l) (acknowledged sent) (fun _ s => s = l.told sent.bytes)
      (fun s => s = l.told sent.bytes) :=
  leads_acknowledged (fun _ hs => hs ▸ h) fun _ hs => congrArg (told sent.bytes) hs

theorem quiet_performed [Scalar α] {l : Link Rig α} (h : l.line.pending = [])
    (ops : List (Operation α)) : (l.performed ops).line.pending = [] := by
  induction ops generalizing l with
  | nil => exact h
  | cons op rest ih =>
    refine ih ?_
    cases hop : op.selectsBand with
    | false => exact quiet_informed.perform hop h
    | true =>
      cases op with
      | setBandSelection band =>
        exact congrArg (fun l => l.line.pending) ((leads_told _ h).after rfl)
      | _ => simp [Operation.selectsBand] at hop

end Link

end EarthStation.Radio
