import EarthStation.Proofs.Radio.Lateness

/-!
# Attribution — whose acknowledgement it is

* `Radio.Link.Backed`: a frequency that was set, and an acceptance that may be of an earlier frame.
* `Radio.Link.accounted_upheld`: every frequency that is taken to be set has one.
* `Radio.Link.attribution_law`: an acknowledgement is of the frame that lies as many frames back as
  replies were given up.
* `Radio.recorded_astray`: a frequency that the radio refused is taken to be set.
-/

namespace EarthStation.Radio

open Wire (Bytes Line ReadEvent)
open Exchange (Leads)

/-- Holds of the operations that are answered by a bare acknowledgement. -/
def Operation.sets {α : Type} : Operation α → Bool
  | setVfo _ | setBandSelection _ | setFrequency _ | setSatelliteMode _ | setMode _ _ |
    setWaterfall _ => true
  | _ => false

namespace Link

variable {α : Type}

/-! ## Acknowledgements -/

theorem parseReply_ne_timeout (sent : CommandFrame) (frame : Bytes) {received : Nat} :
    (parseReply sent frame : Except (Fault α) Reply) ≠ .error (.timeout received) := by
  rcases parseReply_cases (α := α) sent frame with
    ⟨-, hreply⟩ | ⟨-, hreply⟩ | ⟨data, -, hreply⟩ | ⟨detail, hreply⟩
  all_goals
    rw [hreply]
    exact nofun

/-- **An acknowledgement is told by the overdue reply**, and the frame it is taken for is the next. -/
theorem acknowledged_overdue {sent : CommandFrame} {l : Link Tardy α} (hl : Tardy.Orderly l.line)
    (hok : (acknowledged sent l).1 = .ok ()) :
    l.overdue.Accepts ∧ ∃ events, (acknowledged sent l).2 = l.passed sent.bytes events ∧
      Tardy.behind (l.passed sent.bytes events).line = Tardy.behind l.line := by
  obtain ⟨hreply, hafter⟩ := acknowledged_eq sent l
  have hcommand := hreply.mp hok
  obtain ⟨events, -, ⟨hread, hlate⟩ | ⟨hmissed, -⟩⟩ := command_cases sent hl
  · rw [hread] at hcommand
    exact ⟨(l.overdue.parseReply_eq_ok_iff sent).mp hcommand, events, by rw [hafter, hread], hlate⟩
  · rw [hmissed] at hcommand
    cases hcommand

theorem overdue_own {l : Link Tardy α} (h : Tardy.behind l.line = 0) :
    l.overdue = l.line.peer.replies l.line.peer.heard.length := by
  rw [overdue, h, Nat.sub_zero]

/-! ## Another reply -/

/-- The link with another reply to the next frame. -/
def replying (body : Body) (l : Link Tardy α) : Link Tardy α :=
  { l with line.peer.replies := fun i =>
      if i = l.line.peer.heard.length then body else l.line.peer.replies i }

theorem orderly_replying {l : Link Tardy α} (h : Tardy.Orderly l.line) (body : Body) :
    Tardy.Orderly (l.replying body).line where
  sent_le := h.sent_le
  pending_eq := by
    refine h.pending_eq.trans (List.map_congr_left fun i hi => ?_)
    have hlt : i ≠ l.line.peer.heard.length := by
      have hsent := h.sent_le
      have hread := Tardy.read_le l.line
      have hrange := (List.mem_range'_1.mp hi).2
      omega
    simp [replying, hlt]

/-- Where replies are late, the reply to the next frame plays no part in what comes of it. -/
theorem command_replying {l : Link Tardy α} (h : Tardy.Orderly l.line)
    (hlate : Tardy.behind l.line ≠ 0) (body : Body) (sent : CommandFrame) :
    (command sent (l.replying body)).1 = (command sent l).1 := by
  have hread : Tardy.read l.line ≠ l.line.peer.heard.length := by
    unfold Tardy.behind at hlate
    omega
  have hreply : (l.replying body).line.peer.replies (Tardy.read l.line) =
      l.line.peer.replies (Tardy.read l.line) := if_neg hread
  have hsame : Tardy.read (l.replying body).line = Tardy.read l.line := rfl
  have hout : (l.replying body).line.peer.out = l.line.peer.out := rfl
  rw [command_tardy sent h, command_tardy sent (orderly_replying h body), hsame, hout, hreply]
  split <;> rfl

theorem acknowledged_replying {l : Link Tardy α} (h : Tardy.Orderly l.line)
    (hlate : Tardy.behind l.line ≠ 0) (body : Body) (sent : CommandFrame) :
    (acknowledged sent (l.replying body)).1 = .ok () ↔ (acknowledged sent l).1 = .ok () := by
  rw [(acknowledged_eq sent _).1, (acknowledged_eq sent _).1, command_replying h hlate]

/-! ## What is taken to be set -/

variable [Scalar α]

/-- The frame that sets a frequency was heard, and a reply accepts it that is its own or one of an
earlier frame, no further back than there are replies to be read. -/
def Backed (h : α) (l : Link Tardy α) : Prop :=
  ∃ hz payload i j, Scalar.round hz = h ∧ encodeFrequency hz = .ok payload ∧
    l.line.peer.heard[i]? = some (CommandFrame.plain 0x05 payload).bytes ∧
    (l.line.peer.replies j).Accepts ∧ j ≤ i ∧ i ≤ j + Tardy.behind l.line

/-- The replies are in order, and whatever frequency is taken to be set is backed by one. -/
structure Accounted (late : Nat) (l : Link Tardy α) : Prop where
  orderly : Tardy.Orderly l.line
  late_le : late ≤ Tardy.behind l.line
  backed : ∀ h, l.lastCommandedHz = some h → l.Backed h

theorem Backed.passed {h : α} {l : Link Tardy α} (hb : l.Backed h) (frame : Bytes)
    (events : List ReadEvent)
    (hlate : Tardy.behind l.line ≤ Tardy.behind (l.passed frame events).line) :
    (l.passed frame events).Backed h := by
  obtain ⟨hz, payload, i, j, hround, hpayload, hheard, haccepts, hji, hij⟩ := hb
  refine ⟨hz, payload, i, j, hround, hpayload, ?_, haccepts, hji, by omega⟩
  have hi : i < l.line.peer.heard.length := (List.getElem?_eq_some_iff.mp hheard).1
  rw [← hheard]
  exact List.getElem?_append_left hi

theorem leads_accounted (late : Nat) (sent : CommandFrame) :
    Leads (Accounted (α := α) late) (command sent) (fun _ => Accounted late) (Accounted late) := by
  refine Leads.of_after fun l hl => ?_
  obtain ⟨events, horderly, hcases⟩ := command_cases sent hl.orderly
  have hafter : (command sent l).2 = l.passed sent.bytes events ∧
      Tardy.behind l.line ≤ Tardy.behind (l.passed sent.bytes events).line := by
    rcases hcases with ⟨hcommand, hlate⟩ | ⟨hcommand, hlate⟩
    · exact ⟨by rw [hcommand], by omega⟩
    · exact ⟨by rw [hcommand], by omega⟩
  rw [hafter.1]
  exact ⟨horderly, Nat.le_trans hl.late_le hafter.2,
    fun h hh => (hl.backed h hh).passed sent.bytes events hafter.2⟩

theorem leads_frequency (late : Nat) (hz : α) :
    Leads (Accounted late) (setFrequency hz) (fun _ => Accounted late) (Accounted late) := by
  intro l hl
  unfold setFrequency
  cases hpayload : encodeFrequency hz with
  | error e => exact hl
  | ok payload =>
    rw [Exchange.run_bind_of_ok (Exchange.run_ofExcept _ l)]
    have hkept := leads_acknowledged_of (leads_accounted (α := α) late (.plain 0x05 payload))
    rcases hack : acknowledged (CommandFrame.plain 0x05 payload) l with ⟨e | _, l'⟩
    · rw [Exchange.run_bind_of_error hack]
      exact hkept.of_error hl hack
    · rw [Exchange.run_bind_of_ok hack]
      have hl' := hkept.of_ok hl hack
      obtain ⟨haccepts, events, hafter, hlate⟩ := acknowledged_overdue hl.orderly (by rw [hack])
      rw [hack] at hafter
      dsimp only at hafter
      have hnew : l'.Backed (Scalar.round hz) := by
        subst hafter
        refine ⟨hz, payload, l.line.peer.heard.length, l.line.peer.heard.length -
          Tardy.behind l.line, rfl, hpayload, ?_, haccepts, Nat.sub_le _ _, by omega⟩
        exact List.getElem?_concat_length
      exact ⟨hl'.orderly, hl'.late_le, fun h hh => Option.some.inj hh ▸ hnew⟩

/-- **Every frequency that is taken to be set is backed**, whatever is done. -/
theorem accounted_upheld (late : Nat) : Upheld (Accounted (α := α) late) where
  command := leads_accounted late
  noted _ h := ⟨h.orderly, h.late_le, h.backed⟩
  confirmed _ h := ⟨h.orderly, h.late_le, h.backed⟩
  frequency := leads_frequency late

/-! ## Whose acknowledgement it is -/

/-- An operation that is answered by an acknowledgement fails before it sends anything, or sends one
frame and answers as that is acknowledged. -/
theorem exchange_of_sets {op : Operation α} (h : op.sets = true) :
    (∃ e, ∀ l : Link Tardy α, exchange op l = (.error e, l)) ∨
      ∃ sent, ∀ l : Link Tardy α, (exchange op l).1 = (acknowledged sent l).1 ∧
        (exchange op l).2.line = (acknowledged sent l).2.line := by
  have hnote (sent : CommandFrame) (f : Link Tardy α → Link Tardy α) (hf : ∀ l, (f l).line = l.line)
      (l : Link Tardy α) :
      let x : Exchange (Link Tardy α) (Fault α) Unit := do acknowledged sent; Exchange.modify f
      (x l).1 = (acknowledged sent l).1 ∧ (x l).2.line = (acknowledged sent l).2.line := by
    dsimp only
    rw [Exchange.run_bind]
    rcases acknowledged sent l with ⟨_ | _, _⟩ <;> simp [hf]
  cases op with
  | setVfo v => exact .inr ⟨_, hnote _ _ fun _ => rfl⟩
  | setBandSelection band => exact .inr ⟨_, fun _ => ⟨rfl, rfl⟩⟩
  | setSatelliteMode on => exact .inr ⟨_, fun _ => ⟨rfl, rfl⟩⟩
  | setWaterfall on => exact .inr ⟨_, fun _ => ⟨rfl, rfl⟩⟩
  | setFrequency hz =>
    cases hpayload : encodeFrequency hz with
    | error e => exact .inl ⟨e, fun l => by simp [exchange, setFrequency, hpayload, Exchange.run_bind]⟩
    | ok payload =>
      refine .inr ⟨.plain 0x05 payload, fun l => ?_⟩
      have hsend : exchange (.setFrequency hz) l = _ :=
        Exchange.run_bind_of_ok (by rw [Exchange.run_ofExcept, hpayload])
      rw [hsend]
      exact hnote _ (fun l => { l with lastCommandedHz := some (Scalar.round hz) }) (fun _ => rfl) l
  | setMode mode filter =>
    by_cases hfilter : 1 ≤ filter ∧ filter ≤ 3
    · exact .inr ⟨.plain 0x06 [mode.code, filter], fun l => by simp [exchange, setMode, hfilter]⟩
    · exact .inl ⟨.value (Scalar.natural filter.toNat), fun l => by simp [exchange, setMode, hfilter]⟩
  | _ => cases h

/-- An operation that is acknowledged has sent one frame. -/
theorem exists_frame {op : Operation α} (h : op.sets = true) {l : Link Tardy α}
    (hok : (exchange op l).1 = .ok ()) :
    ∃ sent, ∀ l : Link Tardy α, (exchange op l).1 = (acknowledged sent l).1 ∧
      (exchange op l).2.line = (acknowledged sent l).2.line := by
  rcases exchange_of_sets h with ⟨e, herror⟩ | hsent
  · rw [herror] at hok
    cases hok
  · exact hsent

/-- Whose acknowledgements a link takes, and what it takes to be set. -/
structure AttributionLaw (l : Link Tardy α) : Prop where
  /-- An operation that is acknowledged has sent one frame, and the reply that accepts it is the one to
  a frame as far back as there are replies to be read. -/
  answered {op : Operation α} : op.sets = true → (exchange op l).1 = .ok () →
    ∃ frame, (exchange op l).2.line.peer.heard = l.line.peer.heard ++ [frame] ∧
      (l.line.peer.replies (l.line.peer.heard.length - Tardy.behind l.line)).Accepts
  /-- It is its own reply, whatever that may be, just if there are none. -/
  own_iff {op : Operation α} : op.sets = true → (exchange op l).1 = .ok () →
    ((∀ body, (exchange op (l.replying body)).1 = .ok () → body.Accepts) ↔
      Tardy.behind l.line = 0)
  /-- A frequency that is taken to be set was accepted by such a reply. -/
  backed {h : α} : l.lastCommandedHz = some h → l.Backed h
  /-- There is one more of them after each command that times out, and never one less. -/
  missed {sent : CommandFrame} : (command sent l).1 = .error (.timeout 0) →
    Tardy.behind (command sent l).2.line = Tardy.behind l.line + 1
  met {sent : CommandFrame} : (command sent l).1 ≠ .error (.timeout 0) →
    Tardy.behind (command sent l).2.line = Tardy.behind l.line
  later (calls : List (Call α)) : Tardy.behind l.line ≤ Tardy.behind (l.after calls).line

theorem attributionLaw_of_accounted {l : Link Tardy α} (hl : Accounted 0 l) : AttributionLaw l where
  answered {op} hop hok := by
    obtain ⟨sent, hsent⟩ := exists_frame hop hok
    obtain ⟨hanswer, hline⟩ := hsent l
    obtain ⟨haccepts, events, hafter, -⟩ := acknowledged_overdue hl.orderly (hanswer ▸ hok)
    exact ⟨sent.bytes, by rw [hline, hafter]; rfl, haccepts⟩
  own_iff {op} hop hok := by
    obtain ⟨sent, hsent⟩ := exists_frame hop hok
    constructor
    · intro hall
      by_cases hlate : Tardy.behind l.line = 0
      · exact hlate
      -- a refusal would be taken for an acceptance
      let refusal : Body := .bare refused (by decide)
      have hrefusal : (exchange op (l.replying refusal)).1 = .ok () := by
        rw [(hsent _).1, acknowledged_replying hl.orderly hlate, ← (hsent l).1]
        exact hok
      exact absurd (hall refusal hrefusal) (by decide : ¬ refusal.Accepts)
    · intro hlate body hbody
      rw [(hsent _).1] at hbody
      have haccepts := (acknowledged_overdue (orderly_replying hl.orderly body) hbody).1
      have hown : (l.replying body).overdue = body := by
        rw [overdue_own (l := l.replying body) hlate]
        exact if_pos rfl
      rwa [hown] at haccepts
  backed hh := hl.backed _ hh
  missed {sent} htimeout := by
    obtain ⟨events, -, ⟨hread, -⟩ | ⟨hmissed, hlate⟩⟩ := command_cases sent hl.orderly
    · rw [hread] at htimeout
      exact absurd htimeout (parseReply_ne_timeout _ _)
    · rw [hmissed]
      exact hlate
  met {sent} hreply := by
    obtain ⟨events, -, ⟨hread, hlate⟩ | ⟨hmissed, -⟩⟩ := command_cases sent hl.orderly
    · rw [hread]
      exact hlate
    · rw [hmissed] at hreply
      exact absurd rfl hreply
  later calls := ((accounted_upheld _).after ⟨hl.orderly, Nat.le_refl _, hl.backed⟩ calls).late_le

/-- **The law of attribution.**  Replies carry no sign of the frame that they belong to, and what was
given up is read for a later command.  So, at a radio that answers every frame in order, an
acknowledgement is that of the frame which lies as many frames back as commands have timed out, and
its own only as long as none has. -/
theorem attribution_law (replies : Nat → Body) (ready : Nat → Nat) (calls : List (Call α)) :
    AttributionLaw (after (ofLine (Line.ofPeer ⟨replies, ready, [], 0⟩)) calls) := by
  have hfresh : Accounted 0 (ofLine (Line.ofPeer ⟨replies, ready, [], 0⟩) : Link Tardy α) :=
    ⟨⟨Nat.le_refl 0, rfl⟩, Nat.le_refl 0, fun h hh => by cases hh⟩
  exact attributionLaw_of_accounted ((accounted_upheld 0).after hfresh calls)

end Link

/-! ## A refusal that comes too late -/

/-- A radio whose first reply is late; it accepts the first frame and refuses the others. -/
def Tardy.refusing : Tardy where
  replies n := if n = 0 then .bare accepted (by decide) else .bare refused (by decide)
  ready n := if n = 0 then 0 else n + 1
  heard := []
  sent := 0

/-- A link that has given up the reply to its first command. -/
def Link.givenUp : Link Tardy Float :=
  .after (.ofLine (.ofPeer .refusing)) [.operation (.setSatelliteMode true)]

/-- The frequency is taken to be set, and the reply to its frame refuses it. -/
theorem recorded_astray :
    (Link.exchange (.setFrequency 145900000) Link.givenUp).1.isOk = true ∧
      (Link.exchange (.setFrequency 145900000) Link.givenUp).2.lastCommandedHz = some 145900000 ∧
      ¬ (Link.givenUp.line.peer.replies Link.givenUp.line.peer.heard.length).Accepts := by
  decide +kernel

end EarthStation.Radio
