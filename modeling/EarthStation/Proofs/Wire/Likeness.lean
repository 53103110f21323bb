import EarthStation.Proofs.Radio.Lateness
import EarthStation.Proofs.Rotator.Bookkeeping
import EarthStation.Proofs.Wire.Chunks

/-!
# Likeness — exchanges do not depend on how a line brings its bytes

* `Wire.Matched`, `Wire.Line.Alike`: devices that answer the same bytes, and lines that bring them.
* `Rotator.Link.Alike`, `Rotator.Link.exchange_agrees`: a rotator link at either of two such lines.
* `Radio.Link.Alike`, `Radio.Link.ask`, `Radio.Link.ask_agrees`: the same for a radio link.
* `Wire.reading_law`: what a read takes and leaves, and that no exchange tells how bytes are cut.
-/

namespace EarthStation

open Exchange (Agrees)

/-! ## Lines -/

namespace Wire

variable {δ δ' : Type} {R : δ → δ' → Prop}

/-- Lines that bring the same bytes between the same halts, with devices that are related. -/
structure Line.Alike (R : δ → δ' → Prop) (l : Line δ) (l' : Line δ') : Prop where
  peer : R l.peer l'.peer
  pending : signals l.pending = signals l'.pending
  written : l.written = l'.written

theorem Line.read_agrees (size : Nat) :
    Agrees (Line.Alike R) (Line.read size) (Line.read size) := by
  intro l l' h
  obtain ⟨hbytes, hfailure, hrest⟩ := readAvailable_alike size h.pending
  unfold Line.read
  dsimp only
  rw [hbytes, hfailure]
  exact ⟨rfl, h.peer, hrest, h.written⟩

variable [Peer δ] [Peer δ']

/-- Related devices answer everything that is written to them alike, except for the cuts in their bytes
and for interruptions, and they stay related. -/
def Matched (R : δ → δ' → Prop) : Prop :=
  ∀ bytes peer peer', R peer peer' →
    (Peer.receive bytes peer).1.map signals = (Peer.receive bytes peer').1.map signals ∧
      R (Peer.receive bytes peer).2 (Peer.receive bytes peer').2

theorem Line.write_agrees (hR : Matched R) (bytes : Bytes) :
    Agrees (Line.Alike R) (Line.write bytes) (Line.write bytes) := by
  intro l l' h
  obtain ⟨hanswer, hpeer⟩ := hR bytes l.peer l'.peer h.peer
  unfold Line.write
  rcases hr : Peer.receive bytes l.peer with ⟨cause | events, peer⟩ <;>
    rcases hr' : Peer.receive bytes l'.peer with ⟨cause' | events', peer'⟩ <;>
    rw [hr, hr'] at hanswer hpeer
  · cases hanswer
    exact ⟨rfl, hpeer, h.pending, h.written⟩
  · cases hanswer
  · cases hanswer
  · have hevents : signals events = signals events' := Except.ok.inj hanswer
    refine ⟨rfl, hpeer, ?_, congrArg (· ++ [bytes]) h.written⟩
    dsimp only
    rw [signals_append, signals_append, h.pending, hevents]

/-- What a reaction can be told by. -/
def Reaction.answer : Reaction → Except IoError (List (UInt8 ⊕ ReadEvent))
  | send events => .ok (signals events)
  | refuse cause => .error cause

/-- Scripts that send the same bytes between the same halts. -/
def Script.Alike (s s' : Script) : Prop :=
  s.reactions.map Reaction.answer = s'.reactions.map Reaction.answer

theorem Script.matched : Matched Script.Alike := by
  rintro bytes ⟨reactions⟩ ⟨reactions'⟩ h
  have hnext : (Script.next reactions).1.map signals = (Script.next reactions').1.map signals ∧
      (Script.next reactions).2.map Reaction.answer = (Script.next reactions').2.map Reaction.answer := by
    unfold Script.Alike at h
    dsimp only at h
    induction reactions generalizing reactions' with
    | nil =>
      obtain rfl : reactions' = [] := by simpa using h.symm
      exact ⟨rfl, rfl⟩
    | cons r rest ih =>
      obtain ⟨r', rest', rfl, hreaction, hrest⟩ := List.map_eq_cons_iff.mp h.symm
      rcases r with events | cause <;> rcases r' with events' | cause'
      · exact ⟨hreaction.symm, hrest.symm⟩
      · cases hreaction
      · cases hreaction
      · obtain rfl : cause' = cause := Except.error.inj hreaction
        unfold Script.next
        split
        · exact ih rest' hrest.symm
        · exact ⟨rfl, hrest.symm⟩
  exact hnext

end Wire

/-! ## Rotators -/

namespace Rotator.Link

open Wire (Bytes Line Matched Peer)

variable {δ δ' α : Type} {R : δ → δ' → Prop}

/-- Links that know the same of their rotators, at lines that bring the same. -/
structure Alike (R : δ → δ' → Prop) (l : Link δ α) (l' : Link δ' α) : Prop where
  line : l.line.Alike R l'.line
  setResponds : l.setResponds = l'.setResponds
  lastCommanded : l.lastCommanded = l'.lastCommanded
  lastReported : l.lastReported = l'.lastReported

theorem onLine_agrees {β : Type} {step : Exchange (Line δ) IoError β}
    {step' : Exchange (Line δ') IoError β} (h : Agrees (Line.Alike R) step step') :
    Agrees (Alike R : Link δ α → Link δ' α → Prop) (onLine step) (onLine step') := by
  intro l l' hl
  obtain ⟨hanswer, hline⟩ := h l.line l'.line hl.line
  exact ⟨congrArg (Except.mapError Fault.io) hanswer, hline, hl.setResponds, hl.lastCommanded,
    hl.lastReported⟩

variable [Peer δ] [Peer δ'] [Scalar α] (hR : Matched R)
include hR

theorem report_agrees (command : Bytes) :
    Agrees (Alike R : Link δ α → Link δ' α → Prop) (report command) (report command) := by
  refine (onLine_agrees (Line.write_agrees hR command)).bind fun _ => ?_
  refine (onLine_agrees (Line.read_agrees responseLength)).bind fun reply => ?_
  refine (Agrees.ofExcept (decodeResponse reply)).bind fun position => ?_
  refine (Agrees.modify fun l l' h => ?_).bind fun _ => Agrees.pure position
  exact ⟨h.line, h.setResponds, h.lastCommanded, rfl⟩

theorem set_agrees (target : Position α) :
    Agrees (Alike R : Link δ α → Link δ' α → Prop) (set target) (set target) := by
  have hnote (reported : Option (Position α)) : Agrees (Alike R : Link δ α → Link δ' α → Prop)
      ((do Exchange.modify (fun l => { l with lastCommanded := some target }); pure reported) :
        Exchange (Link δ α) (Fault α) (Option (Position α)))
      (do Exchange.modify (fun l => { l with lastCommanded := some target }); pure reported) :=
    (Agrees.modify fun l l' h => ⟨h.line, h.setResponds, rfl, h.lastReported⟩).bind fun _ =>
      Agrees.pure reported
  refine (Agrees.ofExcept (setFrame target)).bind fun command => Agrees.get fun l l' h => ?_
  rw [h.setResponds]
  -- the firmware answers an order or is silent
  cases l'.setResponds with
  | true => exact (report_agrees hR command).bind fun position => (Agrees.pure _).bind hnote
  | false =>
    exact (onLine_agrees (Line.write_agrees hR command)).bind fun _ => (Agrees.pure _).bind hnote

/-- **An operation of a rotator link** answers the same at lines that bring the same. -/
theorem exchange_agrees (op : Operation α) :
    Agrees (Alike R : Link δ α → Link δ' α → Prop) (exchange op) (exchange op) := by
  cases op with
  | stop => exact (report_agrees hR stopFrame).bind fun position => Agrees.pure _
  | status => exact (report_agrees hR statusFrame).bind fun position => Agrees.pure _
  | set target => exact set_agrees hR target

end Rotator.Link

/-! ## Radios -/

namespace Radio

open Wire (Bytes Line Matched Peer)

/-- What calls of a link answer. -/
inductive Answer (α : Type) where
  | done
  | vfo (v : Vfo)
  | band (n : Nat)
  | satelliteMode (on : Bool)
  | hertz (hz : α)
  | reply (r : Reply)
deriving DecidableEq, Repr

namespace Link

variable {δ δ' α : Type} {R : δ → δ' → Prop}

/-- A call as a step, with what it answers. -/
def ask [Peer δ] [Scalar α] : Call α → Exchange (Link δ α) (Fault α) (Answer α)
  | .operation (.setVfo v) => do setVfo v; pure .done
  | .operation .readVfo => do pure (.vfo (← readVfo))
  | .operation (.setBandSelection band) => do setBandSelection band; pure .done
  | .operation .bandSelection => do pure (.band (← bandSelection))
  | .operation (.prepare mode filter waterfall) => do prepare mode filter waterfall; pure .done
  | .operation (.setFrequency hz) => do setFrequency hz; pure .done
  | .operation .frequency => do pure (.hertz (← frequency))
  | .operation (.setSatelliteMode on) => do setSatelliteMode on; pure .done
  | .operation .satelliteMode => do pure (.satelliteMode (← satelliteMode))
  | .operation (.setMode mode filter) => do setMode mode filter; pure .done
  | .operation (.setWaterfall on) => do setWaterfall on; pure .done
  | .operation (.tune v hz) => do pure (.hertz (← tune v hz))
  | .command sent => do pure (.reply (← command sent))

/-- Links that know the same of their radios, at lines that bring the same. -/
structure Alike (R : δ → δ' → Prop) (l : Link δ α) (l' : Link δ' α) : Prop where
  line : l.line.Alike R l'.line
  vfo : l.vfo = l'.vfo
  lastCommandedHz : l.lastCommandedHz = l'.lastCommandedHz
  lastConfirmedHz : l.lastConfirmedHz = l'.lastConfirmedHz

theorem onLine_agrees {β : Type} {step : Exchange (Line δ) IoError β}
    {step' : Exchange (Line δ') IoError β} (h : Agrees (Line.Alike R) step step') :
    Agrees (Alike R : Link δ α → Link δ' α → Prop) (onLine step) (onLine step') := by
  intro l l' hl
  obtain ⟨hanswer, hline⟩ := h l.line l'.line hl.line
  exact ⟨congrArg (Except.mapError Fault.io) hanswer, hline, hl.vfo, hl.lastCommandedHz,
    hl.lastConfirmedHz⟩

theorem readOn_agrees (room : Nat) (begun : Bytes) :
    Agrees (Alike R : Link δ α → Link δ' α → Prop) (readOn room begun) (readOn room begun) := by
  induction room generalizing begun with
  | zero => exact Agrees.fail _
  | succ room ih =>
    refine (onLine_agrees (Line.read_agrees 1)).bind fun bytes => ?_
    cases bytes with
    | nil => exact Agrees.fail _
    | cons b rest =>
      dsimp only
      split
      · exact Agrees.pure _
      · exact ih _

theorem select_agrees (v : Option Vfo) :
    Agrees (Alike R : Link δ α → Link δ' α → Prop)
      (Exchange.modify fun l => { l with vfo := v } : Exchange (Link δ α) (Fault α) Unit)
      (Exchange.modify fun l => { l with vfo := v }) :=
  Agrees.modify fun _ _ h => ⟨h.line, rfl, h.lastCommandedHz, h.lastConfirmedHz⟩

variable [Peer δ] [Peer δ'] (hR : Matched R)
include hR

theorem command_agrees (sent : CommandFrame) :
    Agrees (Alike R : Link δ α → Link δ' α → Prop) (command sent) (command sent) := by
  refine (onLine_agrees (Line.write_agrees hR sent.bytes)).bind fun _ => ?_
  refine (readOn_agrees longestReply []).bind fun first => ?_
  split
  · split
    · exact (readOn_agrees longestReply []).bind fun second => Agrees.ofExcept _
    · exact Agrees.fail _
  · exact Agrees.ofExcept _

theorem acknowledged_agrees (sent : CommandFrame) :
    Agrees (Alike R : Link δ α → Link δ' α → Prop) (acknowledged sent) (acknowledged sent) := by
  refine (command_agrees hR sent).bind fun reply => ?_
  cases reply with
  | ok => exact Agrees.pure _
  | data bytes => exact Agrees.fail _

theorem data_agrees (sent : CommandFrame) :
    Agrees (Alike R : Link δ α → Link δ' α → Prop) (data sent) (data sent) := by
  refine (command_agrees hR sent).bind fun reply => ?_
  rcases reply with _ | _ | ⟨b, rest⟩
  · exact Agrees.fail _
  · exact Agrees.fail _
  · exact Agrees.pure _

theorem number_agrees (sent : CommandFrame) :
    Agrees (Alike R : Link δ α → Link δ' α → Prop) (number sent) (number sent) :=
  (data_agrees hR sent).bind fun _ => Agrees.ofExcept _

theorem setVfo_agrees (v : Vfo) :
    Agrees (Alike R : Link δ α → Link δ' α → Prop) (setVfo v) (setVfo v) :=
  (acknowledged_agrees hR _).bind fun _ => select_agrees _

theorem readVfo_agrees : Agrees (Alike R : Link δ α → Link δ' α → Prop) readVfo readVfo :=
  (number_agrees hR _).bind fun _ => (select_agrees _).bind fun _ => Agrees.pure _

theorem satelliteMode_agrees :
    Agrees (Alike R : Link δ α → Link δ' α → Prop) satelliteMode satelliteMode :=
  (number_agrees hR _).bind fun _ => Agrees.pure _

variable [Scalar α]

theorem setFrequency_agrees (hz : α) :
    Agrees (Alike R : Link δ α → Link δ' α → Prop) (setFrequency hz) (setFrequency hz) := by
  refine (Agrees.ofExcept (encodeFrequency hz)).bind fun payload => ?_
  refine (acknowledged_agrees hR _).bind fun _ => Agrees.modify fun l l' h => ?_
  exact ⟨h.line, h.vfo, rfl, h.lastConfirmedHz⟩

theorem frequency_agrees :
    Agrees (Alike R : Link δ α → Link δ' α → Prop) frequency frequency := by
  refine (data_agrees hR _).bind fun bytes => (Agrees.ofExcept (decodeFrequency bytes)).bind fun hz => ?_
  refine (Agrees.modify fun l l' h => ?_).bind fun _ => Agrees.pure hz
  exact ⟨h.line, h.vfo, h.lastCommandedHz, rfl⟩

theorem setMode_agrees (mode : Mode) (filter : UInt8) :
    Agrees (Alike R : Link δ α → Link δ' α → Prop) (setMode mode filter) (setMode mode filter) := by
  unfold setMode
  split
  · exact acknowledged_agrees hR _
  · exact Agrees.fail _

theorem prepare_agrees (mode : Option Mode) (filter : UInt8) (waterfall : Bool) :
    Agrees (Alike R : Link δ α → Link δ' α → Prop) (prepare mode filter waterfall)
      (prepare mode filter waterfall) := by
  refine (readVfo_agrees hR).bind fun v => (satelliteMode_agrees hR).bind fun _ => ?_
  have hwaterfall : Agrees (Alike R : Link δ α → Link δ' α → Prop) (setWaterfall waterfall)
      (setWaterfall waterfall) := acknowledged_agrees hR _
  cases mode with
  | none =>
    dsimp only
    split
    · exact (acknowledged_agrees hR _).bind fun _ => (select_agrees _).bind fun _ => hwaterfall
    · exact hwaterfall
  | some mode =>
    have hend := (setMode_agrees hR mode filter).bind fun _ => hwaterfall
    dsimp only
    split
    · exact (acknowledged_agrees hR _).bind fun _ => (select_agrees _).bind fun _ => hend
    · exact hend

theorem tune_agrees (v : Vfo) (hz : α) :
    Agrees (Alike R : Link δ α → Link δ' α → Prop) (tune v hz) (tune v hz) := by
  refine Agrees.get fun l l' h => ?_
  have hend : Agrees (Alike R : Link δ α → Link δ' α → Prop) (do setFrequency hz; frequency)
      (do setFrequency hz; frequency) :=
    (setFrequency_agrees hR hz).bind fun _ => frequency_agrees hR
  rw [h.vfo]
  split
  · exact (setVfo_agrees hR v).bind fun _ => hend
  · exact hend

/-- **A call of a radio link** answers the same at lines that bring the same. -/
theorem ask_agrees (call : Call α) :
    Agrees (Alike R : Link δ α → Link δ' α → Prop) (ask call) (ask call) := by
  cases call with
  | command sent => exact (command_agrees hR sent).bind fun _ => Agrees.pure _
  | operation op =>
    cases op with
    | setVfo v => exact (setVfo_agrees hR v).bind fun _ => Agrees.pure _
    | readVfo => exact (readVfo_agrees hR).bind fun _ => Agrees.pure _
    | setBandSelection band => exact (acknowledged_agrees hR _).bind fun _ => Agrees.pure _
    | bandSelection => exact (number_agrees hR _).bind fun _ => Agrees.pure _
    | prepare mode filter waterfall =>
      exact (prepare_agrees hR mode filter waterfall).bind fun _ => Agrees.pure _
    | setFrequency hz => exact (setFrequency_agrees hR hz).bind fun _ => Agrees.pure _
    | frequency => exact (frequency_agrees hR).bind fun _ => Agrees.pure _
    | setSatelliteMode on => exact (acknowledged_agrees hR _).bind fun _ => Agrees.pure _
    | satelliteMode => exact (satelliteMode_agrees hR).bind fun _ => Agrees.pure _
    | setMode mode filter => exact (setMode_agrees hR mode filter).bind fun _ => Agrees.pure _
    | setWaterfall on => exact (acknowledged_agrees hR _).bind fun _ => Agrees.pure _
    | tune v hz => exact (tune_agrees hR v hz).bind fun _ => Agrees.pure _

end Link

end Radio

/-! ## The law -/

namespace Wire

variable {δ δ' α : Type} [Peer δ] [Peer δ'] [Scalar α] {R : δ → δ' → Prop}

/-- **The law of reading.**  Let `S` be the bytes that come before a read is ended.  If there are enough
of them, a read takes the first ones in order and leaves all that is behind the cut: the rest of `S`,
and what ends it with all that comes later.  Otherwise it takes `S`, fails with what ended it if that is
a failure other than silence, and leaves all that comes later.

So neither the operations of a rotator link nor the calls of a radio link can tell how bytes are cut into
chunks or how often reads are interrupted: at lines and devices that bring the same but for that, they
answer the same one after the other, and write the same. -/
theorem reading_law (hR : Matched R) :
    (∀ size events,
      (size ≤ (brought events).length →
        ∃ taken rest, readAvailable size events = ⟨contents taken, none, rest⟩ ∧
          Cut events taken rest ∧ contents taken = (brought events).take size ∧
          brought rest = (brought events).drop size ∧ haltedPart rest = haltedPart events) ∧
      ((brought events).length < size →
        readAvailable size events = ⟨brought events,
          (haltedPart events).head?.bind ReadEvent.failure?, (haltedPart events).tail⟩)) ∧
    (∀ front behind, (∀ a b, a ≠ [] → b ≠ [] → signals (front ++ .chunk (a ++ b) :: behind) =
        signals (front ++ .chunk a :: .chunk b :: behind)) ∧
      ∀ cause : IoError, cause.isInterrupted = true →
        signals (front ++ .failure cause :: behind) = signals (front ++ behind)) ∧
    (∀ (l : Rotator.Link δ α) (l' : Rotator.Link δ' α), l.Alike R l' →
      ∀ ops : List (Rotator.Operation α),
        (Exchange.inTurn (ops.map Rotator.Link.exchange) l).1 =
          (Exchange.inTurn (ops.map Rotator.Link.exchange) l').1 ∧
        (Exchange.inTurn (ops.map Rotator.Link.exchange) l).2.line.written =
          (Exchange.inTurn (ops.map Rotator.Link.exchange) l').2.line.written) ∧
    ∀ (l : Radio.Link δ α) (l' : Radio.Link δ' α), l.Alike R l' →
      ∀ calls : List (Radio.Link.Call α),
        (Exchange.inTurn (calls.map Radio.Link.ask) l).1 =
          (Exchange.inTurn (calls.map Radio.Link.ask) l').1 ∧
        (Exchange.inTurn (calls.map Radio.Link.ask) l).2.line.written =
          (Exchange.inTurn (calls.map Radio.Link.ask) l').2.line.written := by
  refine ⟨fun size events => ⟨fun h => ?_, readAvailable_halted⟩, fun front behind =>
    ⟨fun _ _ ha hb => signals_cut front behind ha hb, fun _ h => signals_interrupted front behind h⟩,
    fun l l' h ops => ?_, fun l l' h calls => ?_⟩
  · obtain ⟨taken, rest, hcut, hsteady, htaken, hread⟩ := readAvailable_filled h
    obtain ⟨hbrought, hhalted⟩ := hcut.behind hsteady
    refine ⟨taken, rest, hread, hcut, htaken, ?_, hhalted⟩
    have hparts := List.take_append_drop size (brought events)
    rw [← htaken] at hparts
    exact (List.append_cancel_left (hparts.trans hbrought)).symm
  · obtain ⟨hanswers, halike⟩ := Agrees.inTurn (Rotator.Link.exchange_agrees hR) ops h
    exact ⟨hanswers, halike.line.written⟩
  · obtain ⟨hanswers, halike⟩ := Agrees.inTurn (Radio.Link.ask_agrees hR) calls h
    exact ⟨hanswers, halike.line.written⟩

/-- A radio that answers a question in one piece. -/
def inOne : Script := ⟨[.send [.chunk [0xFE, 0xFE, 0xE0, 0xA2, 0x16, 0x5A, 0x01, 0xFD]]]⟩

/-- A radio that answers the same in three pieces, with interruptions. -/
def inPieces : Script :=
  ⟨[.send [.chunk [0xFE], .failure (.ofKind .interrupted), .chunk [0xFE, 0xE0, 0xA2, 0x16, 0x5A],
    .failure (.system 4), .failure (.system 4), .chunk [0x01, 0xFD]]]⟩

/-- A read that is filled inside a chunk; and a question that gets its answer from pieces, because it
gets it from the whole. -/
theorem reading_law_pieces :
    (Matched Script.Alike ∧ inOne.Alike inPieces) ∧
      (let events := [.chunk [1, 2], .failure (.system 4), .chunk [3, 4], .eof, .chunk [5]]
        ∃ taken rest, readAvailable 3 events = ⟨contents taken, none, rest⟩ ∧ Cut events taken rest ∧
          contents taken = [1, 2, 3] ∧ brought rest = [4] ∧ haltedPart rest = [.eof, .chunk [5]]) ∧
      (Exchange.inTurn ([.operation .satelliteMode].map Radio.Link.ask)
        (.ofLine (.ofPeer inPieces) : Radio.Link Script Float)).1 = [.ok (.satelliteMode true)] := by
  have halike : inOne.Alike inPieces := by
    unfold Script.Alike
    decide
  obtain ⟨hread, -, -, hradio⟩ := reading_law (α := Float) Script.matched
  refine ⟨⟨Script.matched, halike⟩, (hread 3 _).1 (by decide), ?_⟩
  have hanswers := (hradio (.ofLine (.ofPeer inOne)) (.ofLine (.ofPeer inPieces))
    ⟨⟨halike, rfl, rfl⟩, rfl, rfl, rfl⟩ [.operation .satelliteMode]).1
  rw [← hanswers]
  decide +kernel

end Wire

end EarthStation
