import EarthStation.Proofs.Radio.Grammar
import EarthStation.Proofs.Radio.Operations

/-!
# Lateness — replies that come after they were given up

* `Radio.Tardy`: a radio that answers every frame, in order, but not always in time.
* `Radio.Tardy.Orderly`, `Radio.Tardy.behind`: the replies that are still to be read.
* `Radio.Link.command_cases`: a command reads the oldest of them, or it times out and one more is late.
* `Radio.Link.Untuned`, `Radio.Link.Upheld`: properties that commands keep, and with them operations.
-/

namespace EarthStation.Radio

open Wire (Bytes Line Peer ReadEvent)
open Exchange (Leads)

/-! ## The radio -/

namespace Body

/-- The reply with this body. -/
def frame (body : Body) : Bytes := replyPreamble ++ body.bytes ++ [terminator]

/-- The body of a bare acknowledgement. -/
def bare (code : UInt8) (h : code ≠ terminator) : Body where
  bytes := [code]
  closed := by simpa using Ne.symm h
  short := by simp [replyPreamble, longestReply]

/-- Holds of the bodies that accept a command. -/
def Accepts (body : Body) : Prop := body.bytes.head? = some accepted

instance (body : Body) : Decidable body.Accepts := inferInstanceAs (Decidable (_ = _))

theorem parseReply_eq_ok_iff {α : Type} (body : Body) (sent : CommandFrame) :
    (parseReply sent body.frame : Except (Fault α) Reply) = .ok .ok ↔ body.Accepts := by
  rw [parseReply_ok_iff]
  unfold frame Accepts
  cases body.bytes with
  | nil =>
    refine iff_of_false (fun h => ?_) nofun
    exact absurd h.long (by decide)
  | cons code rest =>
    have henclosed : replyPreamble ++ code :: rest ++ [terminator] = enclosed code rest := rfl
    rw [henclosed, marked_enclosed, List.head?_cons, Option.some.injEq]

end Body

/-- A radio that answers every frame by one reply, in order, but not always in time. -/
structure Tardy where
  replies : Nat → Body
  /-- How many of the replies may be out once a frame is heard, by the number of the frame. -/
  ready : Nat → Nat
  /-- The frames so far, oldest first. -/
  heard : List Bytes
  /-- How many replies are out. -/
  sent : Nat

namespace Tardy

/-- How many replies are out once the next frame is heard. -/
def out (r : Tardy) : Nat := max r.sent (min (r.heard.length + 1) (r.ready r.heard.length))

/-- The replies with the numbers from `i` on and below `j`. -/
def events (r : Tardy) (i j : Nat) : List ReadEvent :=
  (List.range' i (j - i)).map fun k => .chunk (r.replies k).frame

/-- The radio after a frame. -/
def told (frame : Bytes) (r : Tardy) : Tardy :=
  { r with heard := r.heard ++ [frame], sent := r.out }

instance : Peer Tardy where
  receive frame r := (.ok (r.events r.sent r.out), r.told frame)

@[simp] theorem length_events (r : Tardy) (i j : Nat) : (r.events i j).length = j - i := by
  simp [events]

theorem events_append (r : Tardy) {i j k : Nat} (hij : i ≤ j) (hjk : j ≤ k) :
    r.events i j ++ r.events j k = r.events i k := by
  have hlength : k - i = (j - i) + (k - j) := by omega
  have hmiddle : j = i + 1 * (j - i) := by omega
  unfold events
  rw [← List.map_append, hlength, ← List.range'_append, ← hmiddle]

theorem events_cons (r : Tardy) {i j : Nat} (h : i < j) :
    r.events i j = .chunk (r.replies i).frame :: r.events (i + 1) j := by
  have hlength : j - i = (j - (i + 1)) + 1 := by omega
  unfold events
  rw [hlength, List.range'_succ]
  rfl

theorem events_of_le (r : Tardy) {i j : Nat} (h : j ≤ i) : r.events i j = [] := by
  simp [events, h]

theorem sent_le_out (r : Tardy) : r.sent ≤ r.out := Nat.le_max_left _ _

/-- How many replies have been read. -/
def read (line : Line Tardy) : Nat := line.peer.sent - line.pending.length

/-- How many frames have been heard whose replies have not been read. -/
def behind (line : Line Tardy) : Nat := line.peer.heard.length - read line

/-- No reply is out before its frame is heard, and those that are out and have not been read are
the last ones. -/
structure Orderly (line : Line Tardy) : Prop where
  sent_le : line.peer.sent ≤ line.peer.heard.length
  pending_eq : line.pending = line.peer.events (read line) line.peer.sent

theorem out_le {line : Line Tardy} (h : Orderly line) :
    line.peer.out ≤ line.peer.heard.length + 1 :=
  Nat.max_le.mpr ⟨Nat.le_succ_of_le h.sent_le, Nat.min_le_left _ _⟩

theorem read_le (line : Line Tardy) : read line ≤ line.peer.sent := Nat.sub_le _ _

end Tardy

/-! ## Commands -/

namespace Link

variable {α : Type}

/-- The link after a frame, with some events left to be read. -/
def passed (frame : Bytes) (events : List ReadEvent) (l : Link Tardy α) : Link Tardy α :=
  { l with line := ⟨l.line.peer.told frame, events, l.line.written ++ [frame]⟩ }

/-- A reply that is waiting is read to its end. -/
theorem readFrame_body {δ : Type} (body : Body) (events : List ReadEvent) (l : Link δ α) :
    readFrame (l.withPending (.chunk body.frame :: events)) =
      (.ok body.frame, l.withPending events) := by
  have hclosed : terminator ∉ replyPreamble ++ body.bytes := by
    simpa [replyPreamble, terminator] using body.closed
  have hshort : (replyPreamble ++ body.bytes).length < longestReply := by
    simpa using body.short
  exact readOn_chunk hclosed hshort [] events l

/-- **A command reads the oldest reply** that is out and has not been read, if there is one. -/
theorem command_tardy (sent : CommandFrame) {l : Link Tardy α} (h : Tardy.Orderly l.line) :
    command sent l =
      if Tardy.read l.line < l.line.peer.out then
        (parseReply sent (l.line.peer.replies (Tardy.read l.line)).frame,
          l.passed sent.bytes (l.line.peer.events (Tardy.read l.line + 1) l.line.peer.out))
      else (.error (.timeout 0), l.passed sent.bytes []) := by
  have hwrite : onLine (Line.write sent.bytes) l = (.ok (), l.passed sent.bytes
      (l.line.peer.events (Tardy.read l.line) l.line.peer.out)) := by
    rw [← Tardy.events_append _ (Tardy.read_le l.line) l.line.peer.sent_le_out, ← h.pending_eq]
    rfl
  unfold command
  rw [Exchange.run_bind_of_ok hwrite]
  split
  · rename_i hread
    rw [Tardy.events_cons _ hread]
    exact Exchange.run_bind_of_ok (readFrame_body _ _ (l.passed sent.bytes []))
  · rename_i hread
    rw [Tardy.events_of_le _ (Nat.le_of_not_lt hread)]
    exact Exchange.run_bind_of_error (readFrame_nil (l.passed sent.bytes []))

theorem read_passed (frame : Bytes) (l : Link Tardy α) {i : Nat} (h : i ≤ l.line.peer.out) :
    Tardy.read (l.passed frame (l.line.peer.events i l.line.peer.out)).line = i := by
  have hread : Tardy.read (l.passed frame (l.line.peer.events i l.line.peer.out)).line =
      l.line.peer.out - (l.line.peer.events i l.line.peer.out).length := rfl
  rw [hread, Tardy.length_events]
  omega

theorem orderly_passed (frame : Bytes) {l : Link Tardy α} (hl : Tardy.Orderly l.line) {i : Nat}
    (h : i ≤ l.line.peer.out) :
    Tardy.Orderly (l.passed frame (l.line.peer.events i l.line.peer.out)).line where
  sent_le := by
    have hout : l.line.peer.out ≤ (l.line.peer.heard ++ [frame]).length := by
      simpa using Tardy.out_le hl
    exact hout
  pending_eq := by
    rw [read_passed frame l h]
    rfl

theorem behind_passed (frame : Bytes) (l : Link Tardy α) {i : Nat} (h : i ≤ l.line.peer.out) :
    Tardy.behind (l.passed frame (l.line.peer.events i l.line.peer.out)).line =
      l.line.peer.heard.length + 1 - i := by
  rw [Tardy.behind, read_passed frame l h]
  simp [passed, Tardy.told]

/-- The reply that lies as many frames back as there are replies to be read. -/
def overdue (l : Link Tardy α) : Body :=
  l.line.peer.replies (l.line.peer.heard.length - Tardy.behind l.line)

theorem overdue_eq {l : Link Tardy α} (h : Tardy.Orderly l.line) :
    l.overdue = l.line.peer.replies (Tardy.read l.line) := by
  have hread := Tardy.read_le l.line
  have hsent := h.sent_le
  have hcount : l.line.peer.heard.length - Tardy.behind l.line = Tardy.read l.line := by
    unfold Tardy.behind
    omega
  rw [overdue, hcount]

/-- **What a command leads to**: it is told the overdue reply, or one more reply is late. -/
theorem command_cases (sent : CommandFrame) {l : Link Tardy α} (h : Tardy.Orderly l.line) :
    ∃ events, Tardy.Orderly (l.passed sent.bytes events).line ∧
      (command sent l = (parseReply sent l.overdue.frame, l.passed sent.bytes events) ∧
          Tardy.behind (l.passed sent.bytes events).line = Tardy.behind l.line ∨
        command sent l = (.error (.timeout 0), l.passed sent.bytes events) ∧
          Tardy.behind (l.passed sent.bytes events).line = Tardy.behind l.line + 1) := by
  have hread := Tardy.read_le l.line
  have hsent := h.sent_le
  have hbehind : Tardy.behind l.line = l.line.peer.heard.length - Tardy.read l.line := rfl
  have hcommand := command_tardy sent h
  by_cases hout : Tardy.read l.line < l.line.peer.out
  · rw [if_pos hout] at hcommand
    refine ⟨_, orderly_passed sent.bytes h hout, .inl ⟨?_, ?_⟩⟩
    · rw [hcommand, overdue_eq h]
    · rw [behind_passed sent.bytes l hout]
      omega
  · have hle : l.line.peer.out ≤ Tardy.read l.line := Nat.le_of_not_lt hout
    have heq : Tardy.read l.line = l.line.peer.out :=
      Nat.le_antisymm (Nat.le_trans hread (Tardy.sent_le_out _)) hle
    rw [if_neg hout, ← Tardy.events_of_le l.line.peer hle] at hcommand
    refine ⟨_, orderly_passed sent.bytes h (Nat.le_of_eq heq), .inr ⟨hcommand, ?_⟩⟩
    rw [behind_passed sent.bytes l (Nat.le_of_eq heq)]
    omega

/-! ## Operations -/

/-- An operation as a step, without what it answers. -/
def exchange {δ : Type} [Peer δ] [Scalar α] : Operation α → Exchange (Link δ α) (Fault α) Unit
  | .setVfo v => setVfo v
  | .readVfo => do let _ ← readVfo
  | .setBandSelection band => setBandSelection band
  | .bandSelection => do let _ ← bandSelection
  | .prepare mode filter waterfall => prepare mode filter waterfall
  | .setFrequency hz => setFrequency hz
  | .frequency => do let _ ← frequency
  | .setSatelliteMode on => setSatelliteMode on
  | .satelliteMode => do let _ ← satelliteMode
  | .setMode mode filter => setMode mode filter
  | .setWaterfall on => setWaterfall on
  | .tune v hz => do let _ ← tune v hz

/-- A step leaves the same state without what it answers. -/
theorem dropped_after {σ ε β : Type} (x : Exchange σ ε β) (s : σ) :
    ((do let _ ← x : Exchange σ ε Unit) s).2 = (x s).2 := by
  rw [Exchange.run_bind]
  rcases x s with ⟨_ | _, _⟩ <;> rfl

/-- The link after an operation is the same for what it answers. -/
theorem exchange_eq_perform [Scalar α] (op : Operation α) (l : Link Rig α) :
    (exchange op l).2 = l.perform op := by
  cases op <;> first | rfl | exact dropped_after _ l

/-- What is asked of a link: an operation, or a bare command. -/
inductive Call (α : Type) where
  | operation (op : Operation α)
  | command (sent : CommandFrame)

/-- A call as a step, without what it answers. -/
def call {δ : Type} [Peer δ] [Scalar α] : Call α → Exchange (Link δ α) (Fault α) Unit
  | .operation op => exchange op
  | .command sent => do let _ ← command sent

/-- The link after some calls, whether they answer or fail. -/
def after {δ : Type} [Peer δ] [Scalar α] (l : Link δ α) (calls : List (Call α)) : Link δ α :=
  calls.foldl (fun l c => (call c l).2) l

/-- An acknowledgement is a command whose reply is one. -/
theorem acknowledged_eq {δ : Type} [Peer δ] (sent : CommandFrame) (l : Link δ α) :
    ((acknowledged sent l).1 = .ok () ↔ (command sent l).1 = .ok .ok) ∧
      (acknowledged sent l).2 = (command sent l).2 := by
  rw [acknowledged, Exchange.run_bind]
  rcases command sent l with ⟨e | _ | bytes, l'⟩ <;> simp [refuse]

section

variable {δ : Type} [Peer δ] {P R : Link δ α → Prop} {sent : CommandFrame}

theorem leads_acknowledged_of (h : Leads P (command sent) (fun _ => R) R) :
    Leads P (acknowledged sent) (fun _ => R) R := by
  refine h.bind fun reply => ?_
  cases reply with
  | ok => exact Leads.pure fun _ h => h
  | data bytes => exact Leads.fail fun _ h => h

theorem leads_data_of (h : Leads P (command sent) (fun _ => R) R) :
    Leads P (data sent) (fun _ => R) R := by
  refine h.bind fun reply => ?_
  rcases reply with _ | _ | _
  · exact Leads.fail fun _ h => h
  · exact Leads.fail fun _ h => h
  · exact Leads.pure fun _ h => h

theorem leads_number_of (h : Leads P (command sent) (fun _ => R) R) :
    Leads P (number sent) (fun _ => R) R :=
  (leads_data_of h).bind fun _ => Leads.ofExcept_same

omit [Peer δ] in
/-- What is known of an operation is known of it without what it answers. -/
theorem leads_dropped {β : Type} {Q : Link δ α → Prop} {x : Exchange (Link δ α) (Fault α) β}
    (h : Leads P x (fun _ => Q) R) : Leads P (do let _ ← x) (fun _ => Q) R :=
  h.bind fun _ => Leads.pure fun _ h => h

end

end Link

/-! ## Operations that are not about frequencies -/

/-- Holds of the operations that set a frequency or read one. -/
def Operation.tunes {α : Type} : Operation α → Bool
  | setFrequency _ | frequency | tune _ _ => true
  | _ => false

namespace Link

variable {α : Type}

/-- A property that all commands keep but those that set a frequency, and what is noted of the
selection. -/
structure Untuned {δ : Type} [Peer δ] (I : Link δ α → Prop) : Prop where
  command : ∀ sent, sent.command ≠ 0x05 → Leads I (command sent) (fun _ => I) I
  noted : ∀ {l : Link δ α} (v : Option Vfo), I l → I { l with vfo := v }

namespace Untuned

variable {δ : Type} [Peer δ] {I : Link δ α → Prop} (hI : Untuned I)
include hI

theorem acknowledged {sent : CommandFrame} (h : sent.command ≠ 0x05) :
    Leads I (acknowledged sent) (fun _ => I) I :=
  leads_acknowledged_of (hI.command sent h)

theorem number {sent : CommandFrame} (h : sent.command ≠ 0x05) :
    Leads I (number sent) (fun _ => I) I :=
  leads_number_of (hI.command sent h)

theorem setVfo (v : Vfo) : Leads I (setVfo v) (fun _ => I) I :=
  (hI.acknowledged (by decide : (0x07 : UInt8) ≠ 0x05)).bind fun _ =>
    Leads.modify fun _ h => hI.noted _ h

theorem setBandSelection (band : UInt8) : Leads I (setBandSelection band) (fun _ => I) I :=
  hI.acknowledged (by decide : (0x07 : UInt8) ≠ 0x05)

theorem readVfo : Leads I readVfo (fun _ => I) I :=
  (hI.number (by decide)).bind fun _ =>
    Leads.bind (Q := fun _ => I) (Leads.modify fun _ h => hI.noted _ h)
      fun _ => Leads.pure fun _ h => h

theorem setSatelliteMode (on : Bool) : Leads I (setSatelliteMode on) (fun _ => I) I :=
  hI.acknowledged (by decide : (0x16 : UInt8) ≠ 0x05)

theorem satelliteMode : Leads I satelliteMode (fun _ => I) I :=
  (hI.number (by decide)).bind fun _ => Leads.pure fun _ h => h

theorem setWaterfall (on : Bool) : Leads I (setWaterfall on) (fun _ => I) I :=
  hI.acknowledged (by decide : (0x27 : UInt8) ≠ 0x05)

variable [Scalar α]

theorem setMode (mode : Mode) (filter : UInt8) : Leads I (setMode mode filter) (fun _ => I) I := by
  unfold Link.setMode
  split
  · exact hI.acknowledged (by decide : (0x06 : UInt8) ≠ 0x05)
  · exact Leads.fail fun _ h => h

theorem prepare (mode : Option Mode) (filter : UInt8) (waterfall : Bool) :
    Leads I (prepare mode filter waterfall) (fun _ => I) I := by
  have hmain (v : Vfo) {rest : Exchange (Link δ α) (Fault α) Unit}
      (hrest : Leads I rest (fun _ => I) I) :
      Leads I (if v ≠ .main then do
        Link.setBandSelection 0
        Exchange.modify fun l : Link δ α => { l with vfo := some .main }
        rest
        else rest) (fun _ => I) I := by
    split
    · exact (hI.setBandSelection 0).bind fun _ => Leads.bind (Q := fun _ => I)
        (Leads.modify fun _ h => hI.noted _ h) fun _ => hrest
    · exact hrest
  unfold Link.prepare
  refine hI.readVfo.bind fun v => hI.satelliteMode.bind fun _ => hmain v ?_
  cases mode with
  | none => exact hI.setWaterfall waterfall
  | some mode => exact (hI.setMode mode filter).bind fun _ => hI.setWaterfall waterfall

/-- **An operation that is not about frequencies** keeps what such commands keep. -/
theorem exchange {op : Operation α} (h : op.tunes = false) :
    Leads I (exchange op) (fun _ => I) I := by
  cases op with
  | setVfo v => exact hI.setVfo v
  | readVfo => exact leads_dropped hI.readVfo
  | setBandSelection band => exact hI.setBandSelection band
  | bandSelection => exact leads_dropped (hI.number (by decide))
  | prepare mode filter waterfall => exact hI.prepare mode filter waterfall
  | setSatelliteMode on => exact hI.setSatelliteMode on
  | satelliteMode => exact leads_dropped hI.satelliteMode
  | setMode mode filter => exact hI.setMode mode filter
  | setWaterfall on => exact hI.setWaterfall on
  | _ => cases h

end Untuned

/-! ## All operations -/

/-- A property that commands keep, and what operations note of them. -/
structure Upheld {δ : Type} [Peer δ] [Scalar α] (I : Link δ α → Prop) : Prop where
  command : ∀ sent, Leads I (command sent) (fun _ => I) I
  noted : ∀ {l : Link δ α} (v : Option Vfo), I l → I { l with vfo := v }
  confirmed : ∀ {l : Link δ α} (hz : Option α), I l → I { l with lastConfirmedHz := hz }
  frequency : ∀ hz, Leads I (setFrequency hz) (fun _ => I) I

namespace Upheld

variable {δ : Type} [Peer δ] [Scalar α] {I : Link δ α → Prop} (hI : Upheld I)
include hI

theorem untuned : Untuned I where
  command sent _ := hI.command sent
  noted := hI.noted

theorem readFrequency : Leads I (Link.frequency : Exchange (Link δ α) (Fault α) α) (fun _ => I) I :=
  (leads_data_of (hI.command _)).bind fun _ => Leads.bind Leads.ofExcept_same fun _ =>
    Leads.bind (Q := fun _ => I) (Leads.modify fun _ h => hI.confirmed _ h)
      fun _ => Leads.pure fun _ h => h

theorem tune (v : Vfo) (hz : α) : Leads I (tune v hz) (fun _ => I) I := by
  have hset : Leads I (do setFrequency hz; Link.frequency) (fun _ => I) I :=
    (hI.frequency hz).bind fun _ => hI.readFrequency
  unfold Link.tune
  refine Leads.bind (Q := fun _ => I) (Leads.get fun _ h => h) fun link => ?_
  dsimp only
  split
  · exact (hI.untuned.setVfo v).bind fun _ => hset
  · exact hset

/-- **Every operation** keeps what its commands keep. -/
theorem exchange (op : Operation α) : Leads I (exchange op) (fun _ => I) I := by
  cases htunes : op.tunes with
  | false => exact hI.untuned.exchange htunes
  | true =>
    cases op with
    | setFrequency hz => exact hI.frequency hz
    | frequency => exact leads_dropped hI.readFrequency
    | tune v hz => exact leads_dropped (hI.tune v hz)
    | _ => cases htunes

theorem call (c : Call α) : Leads I (call c) (fun _ => I) I := by
  cases c with
  | operation op => exact hI.exchange op
  | command sent => exact leads_dropped (hI.command sent)

theorem after {l : Link δ α} (h : I l) (calls : List (Call α)) : I (l.after calls) := by
  induction calls generalizing l with
  | nil => exact h
  | cons c calls ih => exact ih ((hI.call c).after h)

end Upheld

end Link

end EarthStation.Radio
