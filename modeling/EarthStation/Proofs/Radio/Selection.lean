import EarthStation.Proofs.Radio.Operations

/-!
# Selection — what is known to be selected, and what is

* `Link.Trusted`: what is known to be selected is selected.
* `Link.tune_lands`: where a tuning sets its frequency.
* `Link.justified_informed`: knowledge stays right while frames that select are answered and noted.
* `selection_law`: a frequency is set where it should be just if no stale knowledge stands in the way,
  and what makes knowledge stale.
* `tuned_elsewhere`: a band that is selected, or a reply that is lost, leads to the wrong oscillator.
-/

namespace EarthStation.Radio

open Wire (Bytes Line)

/-- Holds of a frame that sets a frequency. -/
def setsFrequency (frame : Bytes) : Bool := frame.take 5 = commandPreamble ++ [0x05]

theorem setsFrequency_vfo (v : Vfo) :
    setsFrequency (CommandFrame.withSub 0x07 v.code []).bytes = false := by
  cases v <;> decide

/-- Every frame that selects was answered. -/
def Confirmed (news : List Hearing) : Prop :=
  ∀ h ∈ news, (selection? h.frame).isSome = true → h.answered = true

theorem Confirmed.of_append {news : List Hearing} {h : Hearing} (hall : Confirmed (news ++ [h])) :
    Confirmed news ∧ ((selection? h.frame).isSome = true → h.answered = true) :=
  ⟨fun h' hmem => hall h' (List.mem_append_left _ hmem), hall h (by simp)⟩

namespace Link

variable {α : Type}

open Exchange (Leads)

/-- What is known to be selected is selected. -/
def Trusted (l : Link Rig α) : Prop := ∀ v, l.vfo = some v → l.line.peer.selected = v

/-! ## What was heard since -/

/-- Nothing is left to be read, and there is a relation between the frames that were heard after the
given ones, what is known to be selected, and the radio. -/
structure Since (earlier : List Hearing) (Φ : List Hearing → Option Vfo → Rig → Prop)
    (l : Link Rig α) : Prop where
  quiet : l.line.pending = []
  heard : ∃ news, l.line.peer.heard = earlier ++ news ∧ Φ news l.vfo l.line.peer

theorem kept_since (earlier : List Hearing) {Φ : List Hearing → Option Vfo → Rig → Prop}
    (hΦ : ∀ {news vfo r frame}, selection? frame = none → Φ news vfo r →
      Φ (news ++ [r.hearing frame]) vfo (r.told frame)) : Kept (Since (α := α) earlier Φ) where
  quiet h := h.quiet
  told {l frame} hframe h := by
    obtain ⟨news, hheard, hnews⟩ := h.heard
    refine ⟨rfl, news ++ [l.line.peer.hearing frame], ?_, hΦ hframe hnews⟩
    rw [← List.append_assoc, ← hheard]
    rfl
  commanded _ h := ⟨h.quiet, h.heard⟩
  confirmed _ h := ⟨h.quiet, h.heard⟩

/-! ## Where a frequency is set -/

/-- All frequencies were set for one oscillator, and it is selected. -/
structure Landed (w : Vfo) (news : List Hearing) (_ : Option Vfo) (r : Rig) : Prop where
  selected : r.selected = w
  set : ∀ h ∈ news, setsFrequency h.frame = true → h.selected = w

theorem kept_landed (earlier : List Hearing) (w : Vfo) :
    Kept (Since (α := α) earlier (Landed w)) :=
  kept_since earlier fun {news vfo r frame} hframe h =>
    { selected := by
        dsimp only [Rig.told]
        rw [hframe]
        exact h.selected
      set := by
        intro heard hmem hsets
        rcases List.mem_append.mp hmem with hmem | hmem
        · exact h.set heard hmem hsets
        · obtain rfl := List.mem_singleton.mp hmem
          exact h.selected }

/-- A frame that selects is heard, and nothing more. -/
theorem landed_vfo (v : Vfo) (l : Link Rig α) :
    Since l.line.peer.heard (Landed v) (l.told (CommandFrame.withSub 0x07 v.code []).bytes) where
  quiet := rfl
  heard := by
    refine ⟨[_], rfl, ?_, fun h hmem hsets => ?_⟩
    · dsimp only [told, Rig.told]
      rw [selection?_vfo]
      rfl
    · obtain rfl := List.mem_singleton.mp hmem
      exact absurd ((setsFrequency_vfo v).symm.trans hsets) (by simp)

variable [Scalar α]

/-- **A tuning sets its frequency** on the oscillator that is selected, if that is known to be the
right one, and otherwise on the right one. -/
theorem tune_lands (v : Vfo) (hz : α) {l : Link Rig α} (hl : l.line.pending = []) :
    Since l.line.peer.heard (Landed (if l.vfo = some v then l.line.peer.selected else v))
      (tune v hz l).2 := by
  have hset (w : Vfo) : Leads (Since l.line.peer.heard (Landed w)) (do setFrequency hz; frequency)
      (fun _ => Since l.line.peer.heard (Landed w)) (Since l.line.peer.heard (Landed w)) :=
    ((kept_landed _ w).setFrequency hz).bind fun _ => (kept_landed _ w).frequency
  unfold tune
  rw [Exchange.run_bind_of_ok (Exchange.run_get l)]
  by_cases hvfo : l.vfo = some v
  · simp only [hvfo, ne_eq, not_true_eq_false, if_false, if_true]
    exact (hset _).after ⟨hl, [], (List.append_nil _).symm, rfl, by simp⟩
  · simp only [hvfo, ne_eq, not_false_eq_true, if_false, if_true]
    have hselect : Leads (fun s => s = l) (setVfo v)
        (fun _ => Since l.line.peer.heard (Landed v)) (Since l.line.peer.heard (Landed v)) := by
      refine Leads.bind (leads_acknowledged (fun s hs => hs ▸ hl) fun s hs => hs ▸ landed_vfo v l)
        fun _ => Leads.modify fun s h => ?_
      obtain ⟨news, hheard, hnews⟩ := h.heard
      exact ⟨h.quiet, news, hheard, hnews.selected, hnews.set⟩
    exact (hselect.bind fun _ => hset v).after rfl

omit [Scalar α]

/-! ## Knowledge -/

/-- What is known is right if every frame that selects was answered. -/
def Justified (news : List Hearing) (vfo : Option Vfo) (r : Rig) : Prop :=
  Confirmed news → ∀ v, vfo = some v → r.selected = v

/-- A frame that selects and is not answered leaves nothing to be justified. -/
theorem leads_select (earlier : List Hearing) {sent : CommandFrame} {v : Vfo}
    (hv : selection? sent.bytes = some v) :
    Leads (Since (α := α) earlier Justified) (acknowledged sent)
      (fun _ => Since earlier fun _ _ r => r.selected = v) (Since earlier Justified) := by
  intro l hl
  have hsome : (selection? sent.bytes).isSome = true := by simp [hv]
  obtain ⟨news, hheard, -⟩ := hl.heard
  have htold : (l.told sent.bytes).line.peer.heard =
      earlier ++ (news ++ [l.line.peer.hearing sent.bytes]) := by
    rw [← List.append_assoc, ← hheard]
    rfl
  have hcommand := command_eq sent hl.quiet
  cases hr : l.line.peer.reply? sent.bytes with
  | none =>
    rw [hr] at hcommand
    rw [acknowledged, Exchange.run_bind_of_error hcommand]
    -- the radio has gone elsewhere unnoticed, but then not every selection was answered
    refine ⟨rfl, _, htold, fun hall => ?_⟩
    have hanswered := hall.of_append.2 hsome
    simp [Rig.hearing, hr] at hanswered
  | some body =>
    obtain rfl := Rig.reply?_of_selection hsome hr
    rw [hr] at hcommand
    dsimp only at hcommand
    rw [parseReply_accepted] at hcommand
    rw [acknowledged, Exchange.run_bind_of_ok hcommand]
    refine ⟨rfl, _, htold, ?_⟩
    dsimp only [told, Rig.told]
    rw [hv]
    rfl

/-- **Knowledge stays right** while frames that select are answered and noted. -/
theorem justified_informed (earlier : List Hearing) :
    Informed (Since (α := α) earlier Justified) where
  toKept := kept_since earlier fun {news vfo r frame} hframe h hall v hv => by
    dsimp only [Rig.told]
    rw [hframe]
    exact h hall.of_append.1 v hv
  select {sent v} hv := by
    refine (leads_select earlier hv).bind fun _ => Leads.modify fun l h => ?_
    obtain ⟨news, hheard, hselected⟩ := h.heard
    exact ⟨h.quiet, news, hheard, fun _ w hw => hselected.trans (Option.some.inj hw)⟩
  note {l} h := by
    obtain ⟨news, hheard, -⟩ := h.heard
    exact ⟨h.quiet, news, hheard, fun _ w hw => Option.some.inj hw⟩

/-! ## The law of the selection -/

variable [Scalar α]

/-- Where a link sets frequencies, and how long what it knows of the selection is right. -/
structure SelectionLaw (l : Link Rig α) : Prop where
  /-- A tuning sets its frequency where it should just if it is not misled by what is known. -/
  lands : ∀ v hz, ∃ news, (tune v hz l).2.line.peer.heard = l.line.peer.heard ++ news ∧
    ∀ h ∈ news, setsFrequency h.frame = true →
      (h.selected = v ↔ (l.vfo = some v → l.line.peer.selected = v))
  /-- Knowledge that is right stays so while frames that select are answered and noted. -/
  trusted : l.Trusted → ∀ later, (∀ op ∈ later, op.selectsBand = false) →
    ∃ news, (l.performed later).line.peer.heard = l.line.peer.heard ++ news ∧
      (Confirmed news → (l.performed later).Trusted)
  /-- A band that is selected is not noted. -/
  band : ∀ band, (setBandSelection band l).2.vfo = l.vfo ∧
    (setBandSelection band l).2.line.peer.selected = (bandVfo? band).getD l.line.peer.selected
  /-- Nor is an oscillator whose selection is not answered. -/
  lost : ∀ v e l', setVfo v l = (.error e, l') → l'.vfo = l.vfo ∧ l'.line.peer.selected = v

theorem selectionLaw_of_quiet {l : Link Rig α} (hl : l.line.pending = []) : SelectionLaw l where
  lands v hz := by
    obtain ⟨news, hheard, hlanded⟩ := (tune_lands v hz hl).heard
    refine ⟨news, hheard, fun h hmem hsets => ?_⟩
    rw [hlanded.set h hmem hsets]
    by_cases hvfo : l.vfo = some v <;> simp [hvfo]
  trusted htrusted later hlater := by
    have hsince := (justified_informed l.line.peer.heard).performed hlater
      ⟨hl, [], (List.append_nil _).symm, fun _ => htrusted⟩
    exact hsince.heard
  band band := by
    have htold : (setBandSelection band l).2 = _ := (leads_told _ hl).after rfl
    rw [htold]
    refine ⟨rfl, ?_⟩
    dsimp only [told, Rig.told]
    rw [selection?_band]
  lost v e l' h := by
    have htold : Leads (fun s => s = l) (setVfo v) (fun _ _ => True)
        (fun s => s = l.told (CommandFrame.withSub 0x07 v.code []).bytes) :=
      (leads_told _ hl).bind fun _ => Leads.modify fun _ _ => trivial
    rw [htold.of_error rfl h]
    refine ⟨rfl, ?_⟩
    dsimp only [told, Rig.told]
    rw [selection?_vfo]
    rfl

/-- **The law of the selection.**  At a link with a radio that obeys, whatever it has been told before
and whichever of its replies have been lost, a tuning sets its frequency on its own oscillator, unless
that one is known to be selected and is not: then the frequency is set for another one.  Knowledge
that is right goes wrong only by a band that is selected or by a reply that is lost. -/
theorem selection_law (rig : Rig) (ops : List (Operation α)) :
    SelectionLaw (performed (ofLine (Line.ofPeer rig)) ops) :=
  selectionLaw_of_quiet (quiet_performed rfl ops)

end Link

/-- A radio all of whose replies arrive but the ones with the given numbers. -/
def Rig.losing (lost : List Nat) : Rig where
  selected := .a
  fates n := if n ∈ lost then .lost else .arrives ⟨[accepted], by decide, by decide⟩
  heard := []

/-- A link that has gone to the main band and to band 1. -/
def Link.banded : Link Rig Float :=
  .performed (.ofLine (.ofPeer (.losing []))) [.setVfo .main, .setBandSelection 1]

/-- A link that has gone to the main band and to the other, with no reply to that. -/
def Link.unanswered : Link Rig Float :=
  .performed (.ofLine (.ofPeer (.losing [1]))) [.setVfo .main, .setVfo .sub]

/-- Both tune the main band on the other one. -/
theorem tuned_elsewhere :
    ((Link.banded.perform (.tune .main 145900000)).line.peer.heard.map fun h =>
        (setsFrequency h.frame, h.selected)) =
      [(false, .a), (false, .main), (true, .sub), (false, .sub)] ∧
    ((Link.unanswered.perform (.tune .main 145900000)).line.peer.heard.map fun h =>
        (setsFrequency h.frame, h.selected)) =
      [(false, .a), (false, .main), (true, .sub), (false, .sub)] := by
  constructor <;> decide +kernel

end EarthStation.Radio
