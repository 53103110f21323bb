import EarthStation.Proofs.Radio.Books
import EarthStation.Proofs.Radio.Codec
import EarthStation.Proofs.Radio.Transport

/-!
# Memory — what is set on a radio and read back from it

* `Radio.Message`: what a frame says to the radio.
* `Radio.Keeper`: a radio that keeps what it accepts and answers what it keeps.
* `Radio.Link.command_keeper`: a command is told the reply to its frame, and nothing is left to be read.
* `Radio.Link.command_order`, `Radio.Link.data_query`: what is accepted is kept and answered.
* `Radio.Link.memory_law`: what is set is read back, but for bands beyond 9.
* `Radio.band_misread`: such a band is read as another one, or not at all.
-/

namespace EarthStation.Radio

open Wire (Bytes Line Peer ReadEvent contents)
open Exchange (Leads)

/-! ## What a radio is told -/

/-- What a radio keeps of the commands that it accepts. -/
inductive Slot where
  | frequency
  | satelliteMode
  | band
deriving DecidableEq

namespace Slot

/-- The command that sets a slot. -/
def order (payload : Bytes) : Slot → CommandFrame
  | frequency => .plain 0x05 payload
  | satelliteMode => .withSub 0x16 0x5A payload
  | band => .withSub 0x07 0xD2 payload

/-- The command that asks for a slot. -/
def query : Slot → CommandFrame
  | frequency => .plain 0x03 []
  | satelliteMode => .withSub 0x16 0x5A []
  | band => .withSub 0x07 0xD2 []

end Slot

/-- How many bytes a radio cannot keep in a slot any more; fewer have room in a reply. -/
def payloadRoom : Nat := 1000

/-- Data that a radio can keep. -/
structure Payload where
  bytes : Bytes
  closed : terminator ∉ bytes
  short : bytes.length < payloadRoom

/-- What a frame says to a radio. -/
inductive Message where
  | query (slot : Slot)
  | order (slot : Slot) (payload : Payload)
  | other

namespace Message

/-- The order to keep some data, if a radio can keep them. -/
def orderOf (slot : Slot) (bytes : Bytes) : Message :=
  if h : terminator ∉ bytes ∧ bytes.length < payloadRoom then .order slot ⟨bytes, h.1, h.2⟩ else .other

/-- Reads what stands between the preamble and the terminator. -/
def ofBody : Bytes → Message
  | [0x03] => .query .frequency
  | [0x16, 0x5A] => .query .satelliteMode
  | [0x07, 0xD2] => .query .band
  | 0x05 :: bytes => orderOf .frequency bytes
  | 0x16 :: 0x5A :: bytes => orderOf .satelliteMode bytes
  | 0x07 :: 0xD2 :: bytes => orderOf .band bytes
  | _ => .other

/-- Reads a frame; it ends with its first terminator. -/
def ofFrame (frame : Bytes) : Message :=
  ofBody ((frame.drop commandPreamble.length).takeWhile fun b => b != terminator)

theorem ofFrame_clean {sent : CommandFrame} (h : sent.Clean) :
    ofFrame sent.bytes = ofBody (sent.command :: sent.subs ++ sent.payload) := by
  have hdrop : sent.bytes.drop commandPreamble.length =
      sent.command :: sent.subs ++ sent.payload ++ [terminator] := rfl
  have hopen : ∀ b ∈ sent.command :: sent.subs ++ sent.payload, (b != terminator) = true :=
    fun b hb => bne_iff_ne.mpr fun he => h (he ▸ hb)
  rw [ofFrame, hdrop, List.takeWhile_append_of_pos hopen, List.takeWhile_cons_of_neg (by simp),
    List.append_nil]

theorem ofFrame_query (slot : Slot) : ofFrame slot.query.bytes = .query slot := by
  cases slot <;> rfl

/-- A command that sets a slot is understood, unless its data would end the frame. -/
theorem ofFrame_order (slot : Slot) (payload : Payload) (h : payload.bytes ≠ []) :
    ofFrame (slot.order payload.bytes).bytes = .order slot payload := by
  have hhead : terminator ∉ (slot.order payload.bytes).command :: (slot.order payload.bytes).subs := by
    cases slot <;>
      simp [Slot.order, CommandFrame.plain, CommandFrame.withSub, CommandFrame.subs, terminator]
  have hpayload : (slot.order payload.bytes).payload = payload.bytes := by cases slot <;> rfl
  have hclean : (slot.order payload.bytes).Clean := by
    rw [CommandFrame.Clean, hpayload, List.mem_append]
    exact not_or.mpr ⟨hhead, payload.closed⟩
  have hroom : orderOf slot payload.bytes = .order slot payload :=
    dif_pos ⟨payload.closed, payload.short⟩
  obtain ⟨b, rest, hcons⟩ := List.exists_cons_of_ne_nil h
  rw [ofFrame_clean hclean, ← hroom, hcons]
  cases slot <;> rfl

end Message

/-! ## The radio -/

/-- How a line brings bytes: in any pieces, with any interruptions. -/
structure Delivery where
  cut : Bytes → List ReadEvent
  steady : ∀ bytes, ∀ e ∈ cut bytes, e.Steady
  whole : ∀ bytes, contents (cut bytes) = bytes

/-- One byte after the other. -/
def Delivery.bytewise : Delivery where
  cut bytes := bytes.map fun b => .chunk [b]
  steady bytes e he := by
    obtain ⟨b, -, rfl⟩ := List.mem_map.mp he
    exact List.cons_ne_nil b []
  whole bytes := by
    induction bytes with
    | nil => rfl
    | cons b bytes ih => exact congrArg (b :: ·) ih

/-- The answer to the question for a slot. -/
def Slot.answer (payload : Payload) (slot : Slot) : Body where
  bytes := slot.query.command :: slot.query.subs ++ payload.bytes
  closed := by
    have hhead : terminator ∉ slot.query.command :: slot.query.subs := by cases slot <;> decide
    rw [List.mem_append]
    exact not_or.mpr ⟨hhead, payload.closed⟩
  short := by
    have hhead : (slot.query.command :: slot.query.subs).length ≤ 2 := by cases slot <;> decide
    have hshort : payload.bytes.length < 1000 := payload.short
    rw [List.length_append]
    have hroom : replyPreamble.length + 2 + 1000 ≤ longestReply := by decide
    omega

/-- The answer to a command that sets something, or that says nothing to a radio. -/
def Body.verdict (accepts : Bool) : Body where
  bytes := if accepts then [accepted] else [refused]
  closed := by cases accepts <;> decide
  short := by cases accepts <;> decide

theorem Body.accepts_verdict_iff {accepts : Bool} : (Body.verdict accepts).Accepts ↔ accepts = true := by
  cases accepts <;> decide

/-- A radio that keeps what it accepts and answers what it keeps. -/
structure Keeper where
  /-- What it keeps before it has accepted anything. -/
  initial : Slot → Payload
  /-- Whether it accepts the last of some frames. -/
  willing : List Bytes → Bool
  delivery : Delivery
  /-- The frames so far, oldest first. -/
  heard : List Bytes
  /-- What it has accepted so far, newest first. -/
  stores : List (Slot × Payload)

namespace Keeper

/-- What is kept in a slot. -/
def held (r : Keeper) (slot : Slot) : Payload :=
  ((r.stores.find? fun s => s.1 = slot).map (·.2)).getD (r.initial slot)

/-- Whether it accepts a frame that comes next. -/
def accepts (frame : Bytes) (r : Keeper) : Bool := r.willing (r.heard ++ [frame])

/-- The reply to a frame. -/
def reply (frame : Bytes) (r : Keeper) : Body :=
  match Message.ofFrame frame with
  | .query slot => slot.answer (r.held slot)
  | _ => .verdict (r.accepts frame)

/-- What it keeps of a frame. -/
def stored (frame : Bytes) (r : Keeper) : List (Slot × Payload) :=
  match Message.ofFrame frame with
  | .order slot payload => if r.accepts frame then [(slot, payload)] else []
  | _ => []

/-- The radio after a frame. -/
def told (frame : Bytes) (r : Keeper) : Keeper :=
  { r with heard := r.heard ++ [frame], stores := r.stored frame ++ r.stores }

instance : Peer Keeper where
  receive frame r := (.ok (r.delivery.cut (r.reply frame).frame), r.told frame)

/-- Nothing that sets a slot has been accepted since. -/
def Unset (slot : Slot) (before after : Keeper) : Prop :=
  ∃ news, after.stores = news ++ before.stores ∧ ∀ s ∈ news, s.1 ≠ slot

theorem held_of_unset {slot : Slot} {before after : Keeper} {payload : Payload}
    {earlier : List (Slot × Payload)} (hstored : before.stores = (slot, payload) :: earlier)
    (h : Unset slot before after) : after.held slot = payload := by
  obtain ⟨news, hstores, hnews⟩ := h
  have hpassed : news.find? (fun s => s.1 = slot) = none :=
    List.find?_eq_none.mpr fun s hs => by simpa using hnews s hs
  rw [held, hstores, hstored, List.find?_append, hpassed]
  simp

end Keeper

theorem parseReply_answer {α : Type} (slot : Slot) (payload : Payload) :
    (parseReply slot.query (slot.answer payload).frame : Except (Fault α) Reply) =
      .ok (.data payload.bytes) := by
  have hcode : slot.query.command ≠ refused ∧ slot.query.command ≠ accepted := by
    cases slot <;> decide
  refine (parseReply_data_iff hcode.1 hcode.2).mpr ?_
  rw [slot.query.dataReply_eq]
  rfl

/-! ## Commands -/

namespace Link

variable {α : Type}

/-- Nothing is left to be read. -/
structure Drained {δ : Type} (l : Link δ α) : Prop where
  steady : ∀ e ∈ l.line.pending, e.Steady
  empty : contents l.line.pending = []

/-- **A command is told the reply to its own frame**, and nothing is left to be read. -/
theorem command_keeper (sent : CommandFrame) {l : Link Keeper α} (h : l.Drained) :
    (command sent l).1 = parseReply sent (l.line.peer.reply sent.bytes).frame ∧
      (command sent l).2.line.peer = l.line.peer.told sent.bytes ∧ (command sent l).2.Drained := by
  have hwrite : onLine (Line.write sent.bytes) l =
      (.ok (), l.wrote sent.bytes (l.line.peer.told sent.bytes)
        (l.line.pending ++ l.line.peer.delivery.cut (l.line.peer.reply sent.bytes).frame)) := rfl
  generalize l.line.peer.reply sent.bytes = body at hwrite ⊢
  have hframe : IsFrame body.frame :=
    ⟨replyPreamble ++ body.bytes, by simpa [replyPreamble, terminator] using body.closed, rfl⟩
  have hlength : body.frame.length ≤ longestReply := by
    have hshort := body.short
    simp only [Body.frame, List.length_append, List.length_singleton]
    omega
  have hforeign : commandPreamble.isPrefixOf body.frame = false := rfl
  have hsteady : ∀ e ∈ l.line.pending ++ l.line.peer.delivery.cut body.frame, e.Steady :=
    fun e he => (List.mem_append.mp he).elim (h.steady e) (l.line.peer.delivery.steady _ e)
  have hcontents : contents (l.line.pending ++ l.line.peer.delivery.cut body.frame) =
      body.frame ++ [] := by
    rw [Wire.contents_append, h.empty, l.line.peer.delivery.whole, List.append_nil, List.nil_append]
  obtain ⟨left, hleft, hrest, hread⟩ := readFrame_steady hframe hlength hsteady hcontents []
    (l.wrote sent.bytes (l.line.peer.told sent.bytes)
      (l.line.pending ++ l.line.peer.delivery.cut body.frame))
  rw [List.append_nil, List.append_nil] at hread
  have hcommand : command sent l = (parseReply sent body.frame,
      l.wrote sent.bytes (l.line.peer.told sent.bytes) left) := by
    unfold command
    rw [Exchange.run_bind_of_ok hwrite]
    refine (Exchange.run_bind_of_ok hread).trans ?_
    rw [hforeign]
    rfl
  rw [hcommand]
  exact ⟨rfl, rfl, hleft, hrest⟩

/-- **A command that sets a slot** is acknowledged just if the radio accepts it, and then it is kept. -/
theorem command_order (slot : Slot) (payload : Payload) (hne : payload.bytes ≠ [])
    {l : Link Keeper α} (h : l.Drained) :
    (l.Acknowledged (slot.order payload.bytes) ↔
        l.line.peer.accepts (slot.order payload.bytes).bytes = true) ∧
      (l.Acknowledged (slot.order payload.bytes) →
        (command (slot.order payload.bytes) l).2.line.peer.stores =
          (slot, payload) :: l.line.peer.stores) := by
  obtain ⟨hanswer, hpeer, -⟩ := command_keeper (slot.order payload.bytes) h
  have hmessage := Message.ofFrame_order slot payload hne
  have hiff : l.Acknowledged (slot.order payload.bytes) ↔
      l.line.peer.accepts (slot.order payload.bytes).bytes = true := by
    rw [Acknowledged, hanswer, Body.parseReply_eq_ok_iff, Keeper.reply, hmessage]
    exact Body.accepts_verdict_iff
  refine ⟨hiff, fun hack => ?_⟩
  rw [hpeer, Keeper.told, Keeper.stored, hmessage]
  dsimp only
  rw [if_pos (hiff.mp hack)]
  rfl

/-- **A command that asks for a slot** is answered by what is kept in it. -/
theorem data_query (slot : Slot) {l : Link Keeper α} (h : l.Drained)
    (hne : (l.line.peer.held slot).bytes ≠ []) :
    ∃ l', data slot.query l = (.ok (l.line.peer.held slot).bytes, l') := by
  obtain ⟨hanswer, -, -⟩ := command_keeper slot.query h
  rw [Keeper.reply, Message.ofFrame_query] at hanswer
  dsimp only at hanswer
  rw [parseReply_answer] at hanswer
  obtain ⟨b, rest, hcons⟩ := List.exists_cons_of_ne_nil hne
  rw [hcons] at hanswer ⊢
  exact ⟨(command slot.query l).2, Exchange.run_bind_of_ok (Prod.ext hanswer rfl)⟩

theorem number_query (slot : Slot) {l : Link Keeper α} (h : l.Drained)
    (hne : (l.line.peer.held slot).bytes ≠ []) :
    (number slot.query l).1 = Bcd.decode .forward ((l.line.peer.held slot).bytes.take 1) := by
  obtain ⟨l', hdata⟩ := data_query slot h hne
  rw [number, Exchange.run_bind_of_ok hdata]
  rfl

theorem satelliteMode_query {l : Link Keeper α} (h : l.Drained)
    (hne : (l.line.peer.held .satelliteMode).bytes ≠ []) :
    (satelliteMode l).1 =
      (Bcd.decode .forward ((l.line.peer.held .satelliteMode).bytes.take 1)).map (· != 0) := by
  have hnumber := number_query .satelliteMode h hne
  have hmode : satelliteMode l = (do let n ← number Slot.satelliteMode.query; pure (n != 0)) l := rfl
  rw [hmode, Exchange.run_bind, ← hnumber]
  rcases number Slot.satelliteMode.query l with ⟨_ | _, _⟩ <;> rfl

theorem frequency_query [Scalar α] {l : Link Keeper α} (h : l.Drained)
    (hne : (l.line.peer.held .frequency).bytes ≠ []) {hz : α}
    (hread : decodeFrequency (l.line.peer.held .frequency).bytes = .ok hz) :
    (frequency l).1 = .ok hz := by
  obtain ⟨l', hdata⟩ := data_query .frequency h hne
  have hrest : frequency l = _ := Exchange.run_bind_of_ok hdata
  rw [hrest, hread]
  rfl

theorem drained_upheld [Scalar α] : Upheld (Drained (δ := Keeper) (α := α)) := by
  have hcommand (sent : CommandFrame) : Leads Drained (command sent)
      (fun _ => Drained (δ := Keeper) (α := α)) Drained :=
    Leads.of_after fun l h => (command_keeper sent h).2.2
  exact
    { command := hcommand
      noted := fun _ h => ⟨h.steady, h.empty⟩
      confirmed := fun _ h => ⟨h.steady, h.empty⟩
      frequency := fun _ => Leads.bind Leads.ofExcept_same fun _ =>
        (leads_acknowledged_of (hcommand _)).bind fun _ =>
          Leads.modify fun _ h => ⟨h.steady, h.empty⟩ }

/-! ## The slots -/

/-- The digits of a frequency as data. -/
theorem exists_payload {hz : Float} {bytes : Bytes} (h : encodeFrequency hz = .ok bytes) :
    ∃ payload : Payload, payload.bytes = bytes ∧ bytes ≠ [] := by
  obtain ⟨-, rfl⟩ := encodeFrequency_eq_ok_iff.mp h
  have hclosed : terminator ∉ Bcd.pairs frequencyBytes ⌊Binary64.value hz + 1 / 2⌋₊ :=
    fun hmem => absurd (Bcd.isPair_of_mem_pairs hmem) (by decide)
  have hlength := Bcd.length_pairs frequencyBytes ⌊Binary64.value hz + 1 / 2⌋₊
  refine ⟨⟨_, hclosed, by rw [hlength]; decide⟩, rfl, fun hnil => ?_⟩
  rw [hnil] at hlength
  cases hlength

/-- A switch as data. -/
def flagPayload (on : Bool) : Payload where
  bytes := flagBytes on
  closed := by cases on <;> decide
  short := by cases on <;> decide

theorem singleton_closed {band : UInt8} (h : band ≠ terminator) : terminator ∉ [band] :=
  fun hmem => h (List.mem_singleton.mp hmem).symm

theorem singleton_short (band : UInt8) : [band].length < payloadRoom := by
  rw [List.length_singleton, payloadRoom]
  decide

/-- A band as data. -/
def bandPayload (band : UInt8) (h : band ≠ terminator) : Payload where
  bytes := [band]
  closed := singleton_closed h
  short := singleton_short band

/-- A byte is read as the number of its two digits. -/
theorem decode_single (b : UInt8) : (Bcd.decode .forward [b] : Except (Fault α) Nat) =
    if Bcd.isPair b then .ok (Bcd.ofPair b) else .error (.framing (.digits b)) := by
  have hread : (Bcd.decode .forward [b] : Except (Fault α) Nat) =
      Except.map UInt64.toNat
        (if Bcd.isPair b then .ok (Bcd.extend 0 b) else .error (.framing (.digits b))) := rfl
  rw [hread]
  cases hpair : Bcd.isPair b with
  | false => rfl
  | true =>
    have hless := Bcd.ofPair_lt hpair
    have hvalue : (Bcd.extend 0 b).toNat = Bcd.ofPair b := by
      rw [Bcd.toNat_extend, UInt64.toNat_zero, Nat.zero_mul, Nat.zero_add,
        Nat.mod_eq_of_lt (hless.trans (by decide))]
    exact congrArg Except.ok hvalue

/-- It is read as itself just if it has one digit. -/
theorem decode_single_eq_iff (b : UInt8) :
    (Bcd.decode .forward [b] : Except (Fault α) Nat) = .ok b.toNat ↔ b.toNat ≤ 9 := by
  rw [decode_single]
  cases hpair : Bcd.isPair b with
  | false =>
    refine iff_of_false (by simp) fun hle => ?_
    have hdigits : Bcd.isPair b = true := Bcd.isPair_iff.mpr (by omega)
    cases hpair.symm.trans hdigits
  | true =>
    have hdigits := Bcd.isPair_iff.mp hpair
    simp only [if_true, Except.ok.injEq, Bcd.ofPair]
    omega

/-- What is acknowledged stays in its slot until something else is accepted for that. -/
theorem held_later (slot : Slot) {payload : Payload} (hne : payload.bytes ≠ []) [Scalar α]
    {l l' : Link Keeper α} (h : l.Drained) (hack : l.Acknowledged (slot.order payload.bytes))
    (hline : l'.line = (command (slot.order payload.bytes) l).2.line) {calls : List (Call α)}
    (hunset : Keeper.Unset slot l'.line.peer (l'.after calls).line.peer) :
    (l'.after calls).Drained ∧ (l'.after calls).line.peer.held slot = payload := by
  obtain ⟨-, -, hdrained⟩ := command_keeper (slot.order payload.bytes) h
  have hdrained' : l'.Drained := ⟨hline ▸ hdrained.steady, hline ▸ hdrained.empty⟩
  have hstored := (command_order slot payload hne h).2 hack
  rw [← hline] at hstored
  exact ⟨drained_upheld.after hdrained' calls, Keeper.held_of_unset hstored hunset⟩

/-! ## The law of the memory -/

/-- What is set at a radio that keeps what it accepts, and what is read back whatever is done in
between, unless something else is set. -/
structure MemoryLaw (l : Link Keeper Float) : Prop where
  frequency_set {hz : Float} : (setFrequency hz l).1 = .ok () ↔ ∃ bytes, encodeFrequency hz = .ok bytes ∧
    l.line.peer.accepts (CommandFrame.plain 0x05 bytes).bytes = true
  frequency_read {hz : Float} {l' : Link Keeper Float} : setFrequency hz l = (.ok (), l') →
    ∀ calls, Keeper.Unset .frequency l'.line.peer (l'.after calls).line.peer →
      ∃ f, (frequency (l'.after calls)).1 = .ok f ∧ (f == Scalar.round hz) = true
  mode_set {on : Bool} : (setSatelliteMode on l).1 = .ok () ↔
    l.line.peer.accepts (CommandFrame.withSub 0x16 0x5A (flagBytes on)).bytes = true
  mode_read {on : Bool} {l' : Link Keeper Float} : setSatelliteMode on l = (.ok (), l') →
    ∀ calls, Keeper.Unset .satelliteMode l'.line.peer (l'.after calls).line.peer →
      (satelliteMode (l'.after calls)).1 = .ok on
  band_set {band : UInt8} : (setBandSelection band l).1 = .ok () ↔ band ≠ terminator ∧
    l.line.peer.accepts (CommandFrame.withSub 0x07 0xD2 [band]).bytes = true
  /-- A band is read as the number of its two digits, and so as another one if it has two. -/
  band_read {band : UInt8} {l' : Link Keeper Float} : setBandSelection band l = (.ok (), l') →
    ∀ calls, Keeper.Unset .band l'.line.peer (l'.after calls).line.peer →
      (bandSelection (l'.after calls)).1 =
          (if Bcd.isPair band then .ok (Bcd.ofPair band) else .error (.framing (.digits band))) ∧
        ((bandSelection (l'.after calls)).1 = .ok band.toNat ↔ band.toNat ≤ 9)

theorem band_acknowledged_iff (band : UInt8) {l : Link Keeper α} (h : l.Drained) :
    l.Acknowledged (.withSub 0x07 0xD2 [band]) ↔ band ≠ terminator ∧
      l.line.peer.accepts (CommandFrame.withSub 0x07 0xD2 [band]).bytes = true := by
  by_cases hband : band = terminator
  · -- the radio takes the band for the end of a frame that asks for it
    subst hband
    obtain ⟨hanswer, -, -⟩ := command_keeper (.withSub 0x07 0xD2 [terminator]) h
    have hquery : l.line.peer.reply (CommandFrame.withSub 0x07 0xD2 [terminator]).bytes =
        Slot.band.answer (l.line.peer.held .band) := rfl
    rw [Acknowledged, hanswer, hquery, Body.parseReply_eq_ok_iff]
    refine iff_of_false (fun haccepts => ?_) fun hne => hne.1 rfl
    cases haccepts
  · rw [and_iff_right hband]
    exact (command_order .band (bandPayload band hband) (List.cons_ne_nil band []) h).1

/-- A command that is acknowledged leaves the link as the command does. -/
theorem of_acknowledged {sent : CommandFrame} {l l' : Link Keeper α}
    (h : acknowledged sent l = (.ok (), l')) :
    l.Acknowledged sent ∧ l'.line = (command sent l).2.line := by
  obtain ⟨hreply, hafter⟩ := acknowledged_eq sent l
  rw [h] at hreply hafter
  exact ⟨hreply.mp rfl, congrArg Link.line hafter⟩

theorem memoryLaw_of_drained {l : Link Keeper Float} (h : l.Drained) : MemoryLaw l where
  frequency_set {hz} := by
    cases hencode : (encodeFrequency hz : Except (Fault Float) Bytes) with
    | error e =>
      rw [setFrequency_of_error hencode]
      exact iff_of_false nofun fun ⟨_, hok, _⟩ => nomatch hok
    | ok bytes =>
      obtain ⟨payload, rfl, hne⟩ := exists_payload hencode
      have haccepts := (command_order .frequency payload hne h).1
      simp only [Except.ok.injEq, exists_eq_left']
      rcases setFrequency_cases hencode l with ⟨hack, hset⟩ | ⟨hnot, e, hset⟩
      · rw [hset]
        exact iff_of_true rfl (haccepts.mp hack)
      · rw [hset]
        exact iff_of_false nofun (mt haccepts.mpr hnot)
  frequency_read {hz l'} hset calls hunset := by
    cases hencode : (encodeFrequency hz : Except (Fault Float) Bytes) with
    | error e => cases (setFrequency_of_error hencode l).symm.trans hset
    | ok bytes =>
      obtain ⟨payload, rfl, hne⟩ := exists_payload hencode
      rcases setFrequency_cases hencode l with ⟨hack, hdone⟩ | ⟨-, e, hdone⟩
      · have hline := congrArg Link.line (Prod.mk.inj (hset.symm.trans hdone)).2
        obtain ⟨hdrained, hheld⟩ := held_later .frequency hne h hack hline hunset
        obtain ⟨f, hread, hsame, -⟩ := frequencyExact.readBack hz _ hencode
        exact ⟨f, frequency_query hdrained (hheld ▸ hne) (hheld ▸ hread), hsame⟩
      · cases hdone.symm.trans hset
  mode_set {on} :=
    (acknowledged_eq _ l).1.trans (command_order .satelliteMode (flagPayload on) (by cases on <;> nofun) h).1
  mode_read {on l'} hset calls hunset := by
    obtain ⟨hack, hline⟩ := of_acknowledged hset
    have hne : (flagPayload on).bytes ≠ [] := by cases on <;> nofun
    obtain ⟨hdrained, hheld⟩ := held_later .satelliteMode hne h hack hline hunset
    have hread := satelliteMode_query hdrained (hheld ▸ hne)
    rw [hheld] at hread
    rw [hread]
    cases on <;> rfl
  band_set {band} := (acknowledged_eq _ l).1.trans (band_acknowledged_iff band h)
  band_read {band l'} hset calls hunset := by
    obtain ⟨hack, hline⟩ := of_acknowledged hset
    have hband := ((band_acknowledged_iff band h).mp hack).1
    have hne : (bandPayload band hband).bytes ≠ [] := List.cons_ne_nil band []
    obtain ⟨hdrained, hheld⟩ := held_later .band hne h hack hline hunset
    have hnumber := number_query .band hdrained (hheld ▸ hne)
    rw [hheld] at hnumber
    have hread : (bandSelection (l'.after calls)).1 = Bcd.decode .forward [band] := hnumber
    rw [hread]
    exact ⟨decode_single band, decode_single_eq_iff band⟩

/-- **The law of the memory.**  Frequencies and switches that a radio keeps are read back as they were
set, to whole hertz, in whatever pieces its replies come.  Bands are not: they are sent as a byte and
read as two digits. -/
theorem memory_law (initial : Slot → Payload) (willing : List Bytes → Bool) (delivery : Delivery)
    (calls : List (Call Float)) :
    MemoryLaw (after (ofLine (Line.ofPeer ⟨initial, willing, delivery, [], []⟩)) calls) := by
  have hfresh : Drained (ofLine (Line.ofPeer ⟨initial, willing, delivery, [], []⟩) :
      Link Keeper Float) := ⟨nofun, rfl⟩
  exact memoryLaw_of_drained (drained_upheld.after hfresh calls)

end Link

/-- A radio that accepts everything. -/
def Keeper.docile : Keeper where
  initial _ := ⟨[0], by decide, by decide⟩
  willing _ := true
  delivery := .bytewise
  heard := []
  stores := []

/-- A link with such a radio. -/
def Link.docile : Link Keeper Float := .ofLine (.ofPeer .docile)

/-- Band 16 is selected and read as band 10, and band 10 is selected and not read. -/
theorem band_misread :
    (Link.setBandSelection 16 Link.docile).1 = .ok () ∧
      (Link.bandSelection (Link.setBandSelection 16 Link.docile).2).1 = .ok 10 ∧
      (Link.setBandSelection 10 Link.docile).1 = .ok () ∧
      (Link.bandSelection (Link.setBandSelection 10 Link.docile).2).1 =
        .error (.framing (.digits 10)) := by
  decide +kernel

end EarthStation.Radio
