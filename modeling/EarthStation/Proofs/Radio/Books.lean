import EarthStation.Proofs.Radio.Lateness
import EarthStation.Proofs.Radio.Selection

/-!
# Books — what a link notes, and the exchanges that it is noted of

* `Radio.Books`, `Link.books`: what a link notes of its radio.
* `Link.command_given`: a command notes nothing, and writes its own frame at most.
* `Link.setFrequency_cases`, `Link.tune_eq`: what the operations do that note frequencies.
* `Radio.Turn`, `Link.turnsOf`: the exchanges of a run that are about frequencies.
* `Link.noted_exchange`, `Link.noted_after`: what is noted of frequencies is what the last turns came to.
* `Link.leads_single`, `Link.tune_books`: what an operation notes that fails.
* `Link.books_law`: what a link has noted, whatever was asked of it.
-/

namespace EarthStation.Radio

open Wire (Bytes Line Peer)
open Exchange (Leads)

/-- What a link notes of its radio. -/
structure Books (α : Type) where
  vfo : Option Vfo
  commandedHz : Option α
  confirmedHz : Option α

/-- A frame sets a frequency just if its command is the one for that. -/
theorem setsFrequency_bytes (sent : CommandFrame) :
    setsFrequency sent.bytes = decide (sent.command = 0x05) := by
  simp [setsFrequency, CommandFrame.bytes, commandPreamble]

namespace Link

variable {δ α : Type}

def books (l : Link δ α) : Books α := ⟨l.vfo, l.lastCommandedHz, l.lastConfirmedHz⟩

/-! ## Commands -/

/-- A link has noted and written so much. -/
structure Stands (b : Books α) (written : List Bytes) (l : Link δ α) : Prop where
  books : l.books = b
  written : l.line.written = written

/-- A link after a command: nothing is noted, and the frame is written unless the line refuses it. -/
def Given (frame : Bytes) (before after : Link δ α) : Prop :=
  Stands before.books before.line.written after ∨
    Stands before.books (before.line.written ++ [frame]) after

/-- Reading a frame notes nothing and writes nothing. -/
theorem leads_readFrame (b : Books α) (written : List Bytes) :
    Leads (Stands (δ := δ) b written) readFrame (fun _ => Stands b written) (Stands b written) := by
  have hbyte : Leads (Stands (δ := δ) b written) (onLine (Line.read 1))
      (fun _ => Stands b written) (Stands b written) :=
    Leads.of_after fun _ h => ⟨h.books, h.written⟩
  have hread (room : Nat) (begun : Bytes) : Leads (Stands (δ := δ) b written) (readOn room begun)
      (fun _ => Stands b written) (Stands b written) := by
    induction room generalizing begun with
    | zero => exact Leads.fail fun _ h => h
    | succ room ih =>
      refine hbyte.bind fun bytes => ?_
      cases bytes with
      | nil => exact Leads.fail fun _ h => h
      | cons byte rest =>
        dsimp only
        split
        · exact Leads.pure fun _ h => h
        · exact ih _
  exact hread longestReply []

variable [Peer δ]

/-- **A command notes nothing**, and writes its own frame or nothing. -/
theorem command_given (sent : CommandFrame) (l : Link δ α) :
    Given sent.bytes l (command sent l).2 := by
  have hwrite : Leads (fun s => s = l) (onLine (Line.write sent.bytes))
      (fun _ => Stands l.books (l.line.written ++ [sent.bytes])) (Given sent.bytes l) := by
    rintro s rfl
    unfold onLine Line.write
    dsimp only
    rcases Peer.receive sent.bytes s.line.peer with ⟨_ | _, _⟩
    · exact .inl ⟨rfl, rfl⟩
    · exact ⟨rfl, rfl⟩
  have hread : Leads (Stands (δ := δ) l.books (l.line.written ++ [sent.bytes])) readFrame
      (fun _ => Stands l.books (l.line.written ++ [sent.bytes])) (Given sent.bytes l) :=
    (leads_readFrame _ _).mono (fun _ h => h) (fun _ _ h => h) fun _ h => .inr h
  have hparse (r : Except (Fault α) Reply) :
      Leads (Stands (δ := δ) l.books (l.line.written ++ [sent.bytes])) (Exchange.ofExcept r)
        (fun _ => Given sent.bytes l) (Given sent.bytes l) :=
    Leads.ofExcept (fun _ _ _ h => .inr h) fun _ h => .inr h
  refine Leads.after (hwrite.bind fun _ => hread.bind fun first => ?_) rfl
  split
  · split
    · exact hread.bind fun second => hparse _
    · exact Leads.fail fun _ h => .inr h
  · exact hparse _

theorem command_books (sent : CommandFrame) (l : Link δ α) : (command sent l).2.books = l.books :=
  (command_given sent l).elim (fun h => h.books) fun h => h.books

/-- Holds if the radio acknowledges a command. -/
def Acknowledged (sent : CommandFrame) (l : Link δ α) : Prop := (command sent l).1 = .ok .ok

/-- What is noted of a command is noted just if it is acknowledged. -/
theorem noting_cases (sent : CommandFrame) (note : Link δ α → Link δ α) (l : Link δ α) :
    let x : Exchange (Link δ α) (Fault α) Unit := do acknowledged sent; Exchange.modify note
    (l.Acknowledged sent ∧ x l = (.ok (), note (command sent l).2)) ∨
      (¬ l.Acknowledged sent ∧ ∃ e, x l = (.error e, (command sent l).2)) := by
  obtain ⟨hreply, hafter⟩ := acknowledged_eq sent l
  dsimp only
  rw [Exchange.run_bind]
  rcases ha : acknowledged sent l with ⟨e | ⟨⟩, l'⟩
  · rw [ha] at hreply hafter
    dsimp only at hafter
    refine .inr ⟨fun h => ?_, e, by rw [hafter]⟩
    cases hreply.mpr h
  · rw [ha] at hreply hafter
    dsimp only at hafter
    exact .inl ⟨hreply.mp rfl, by rw [hafter]; rfl⟩

/-! ## Operations that note something -/

/-- The command that selects an oscillator. -/
def selectCommand (v : Vfo) : CommandFrame := .withSub 0x07 v.code []

theorem setVfo_cases (v : Vfo) (l : Link δ α) :
    (l.Acknowledged (selectCommand v) ∧
        setVfo v l = (.ok (), { (command (selectCommand v) l).2 with vfo := some v })) ∨
      (¬ l.Acknowledged (selectCommand v) ∧
        ∃ e, setVfo v l = (.error e, (command (selectCommand v) l).2)) :=
  noting_cases (selectCommand v) (fun l => { l with vfo := some v }) l

/-- Selects an oscillator, unless it is known to be selected. -/
def goTo (v : Vfo) : Exchange (Link δ α) (Fault α) Unit := fun l =>
  if l.vfo = some v then (.ok (), l) else setVfo v l

variable [Scalar α]

/-- A frequency that cannot be encoded changes nothing. -/
theorem setFrequency_of_error {hz : α} {e : Fault α} (h : encodeFrequency hz = .error e)
    (l : Link δ α) : setFrequency hz l = (.error e, l) := by
  unfold setFrequency
  rw [h]
  rfl

theorem setFrequency_cases {hz : α} {payload : Bytes} (h : encodeFrequency hz = .ok payload)
    (l : Link δ α) :
    (l.Acknowledged (.plain 0x05 payload) ∧ setFrequency hz l =
        (.ok (), { (command (.plain 0x05 payload) l).2 with
          lastCommandedHz := some (Scalar.round hz) })) ∨
      (¬ l.Acknowledged (.plain 0x05 payload) ∧
        ∃ e, setFrequency hz l = (.error e, (command (.plain 0x05 payload) l).2)) := by
  unfold setFrequency
  rw [h]
  exact noting_cases (.plain 0x05 payload)
    (fun l => { l with lastCommandedHz := some (Scalar.round hz) }) l

theorem frequency_cases (l : Link δ α) :
    (∃ hz, frequency l =
        (.ok hz, { (command (.plain 0x03 []) l).2 with lastConfirmedHz := some hz })) ∨
      ∃ e, frequency l = (.error e, (command (.plain 0x03 []) l).2) := by
  unfold frequency data
  rw [Exchange.bind_assoc, Exchange.run_bind]
  rcases command (.plain 0x03 []) l with ⟨e | _ | _ | ⟨b, rest⟩, l'⟩
  · exact .inr ⟨e, rfl⟩
  · exact .inr ⟨_, rfl⟩
  · exact .inr ⟨_, rfl⟩
  · cases hread : (decodeFrequency (b :: rest) : Except (Fault α) α) with
    | error e => exact .inr ⟨e, by simp [Exchange.run_bind, hread]⟩
    | ok hz => exact .inl ⟨hz, by simp [Exchange.run_bind, hread]⟩

/-- **A tuning** selects its oscillator, sets its frequency and reads it back. -/
theorem tune_eq (v : Vfo) (hz : α) :
    (tune v hz : Exchange (Link δ α) (Fault α) α) = (do goTo v; setFrequency hz; frequency) := by
  funext l
  unfold tune
  rw [Exchange.run_bind_of_ok (Exchange.run_get l), Exchange.run_bind]
  unfold goTo
  by_cases h : l.vfo = some v
  · simp [h]
  · simp [h, Exchange.run_bind]

end Link

/-! ## Turns -/

/-- An exchange that is about a frequency, or may be. -/
inductive Turn (α : Type) where
  /-- A frequency is set, and the radio acknowledges that or does not. -/
  | set (hz : α) (acknowledged : Bool)
  /-- The frequency is read, with the answer if there is one. -/
  | read (answer : Option α)
  /-- A bare command, of which nothing is noted. -/
  | given (sent : CommandFrame)

namespace Turn

variable {α : Type}

/-- The frequency that is set, if that is acknowledged. -/
def acknowledged? : Turn α → Option α
  | set hz true => some hz
  | _ => none

/-- The frequency that is answered. -/
def answered? : Turn α → Option α
  | read answer => answer
  | _ => none

def lastSet (ts : List (Turn α)) : Option α := (ts.filterMap acknowledged?).getLast?

def lastRead (ts : List (Turn α)) : Option α := (ts.filterMap answered?).getLast?

theorem lastSet_append (ts us : List (Turn α)) : lastSet (ts ++ us) = (lastSet us).or (lastSet ts) := by
  simp [lastSet]

theorem lastRead_append (ts us : List (Turn α)) :
    lastRead (ts ++ us) = (lastRead us).or (lastRead ts) := by
  simp [lastRead]

/-- The frames with which a turn may set a frequency. -/
def Sends [Scalar α] (frame : Bytes) : Turn α → Prop
  | set hz _ => ∃ payload, encodeFrequency hz = .ok payload ∧
      frame = (CommandFrame.plain 0x05 payload).bytes
  | read _ => False
  | given sent => frame = sent.bytes

end Turn

namespace Link

variable {δ α : Type} [Peer δ] [Scalar α]

/-- Holds if a frequency can be encoded and the radio acknowledges its frame. -/
def sets (hz : α) (l : Link δ α) : Bool :=
  match (encodeFrequency hz : Except (Fault α) Bytes) with
  | .ok payload =>
    match (command (.plain 0x05 payload) l).1 with
    | .ok .ok => true
    | _ => false
  | .error _ => false

theorem sets_of_ok {hz : α} {payload : Bytes} (h : encodeFrequency hz = .ok payload)
    (l : Link δ α) : l.sets hz = true ↔ l.Acknowledged (.plain 0x05 payload) := by
  unfold sets Acknowledged
  rw [h]
  dsimp only
  rcases (command (.plain 0x05 payload) l).1 with _ | _ | _ <;> simp

theorem sets_of_error {hz : α} {e : Fault α} (h : encodeFrequency hz = .error e) (l : Link δ α) :
    l.sets hz = false := by
  unfold sets
  rw [h]

def reading (l : Link δ α) : Turn α := .read (frequency l).1.toOption

/-- The turns of a tuning once its oscillator is selected. -/
def tuning (hz : α) (l : Link δ α) : List (Turn α) :=
  .set hz (l.sets hz) :: match setFrequency hz l with
    | (.ok _, l) => [l.reading]
    | (.error _, _) => []

/-- The turns of an operation. -/
def turns (l : Link δ α) : Operation α → List (Turn α)
  | .setFrequency hz => [.set hz (l.sets hz)]
  | .frequency => [l.reading]
  | .tune v hz =>
    match goTo v l with
    | (.ok _, l) => l.tuning hz
    | (.error _, _) => []
  | _ => []

/-- The turns of some calls, oldest first. -/
def turnsOf (l : Link δ α) : List (Call α) → List (Turn α)
  | [] => []
  | .operation op :: calls => l.turns op ++ turnsOf (exchange op l).2 calls
  | .command sent :: calls => .given sent :: turnsOf (command sent l).2 calls

/-! ## What is noted of turns -/

/-- What a link notes of frequencies is what the last turns came to, and a frequency is set on the
radio by the frames of turns only. -/
structure Noted (ts : List (Turn α)) (before after : Link δ α) : Prop where
  commanded : after.lastCommandedHz =
    ((Turn.lastSet ts).map Scalar.round).or before.lastCommandedHz
  confirmed : after.lastConfirmedHz = (Turn.lastRead ts).or before.lastConfirmedHz
  frames : ∃ news, after.line.written = before.line.written ++ news ∧
    ∀ frame ∈ news, setsFrequency frame = true → ∃ t ∈ ts, t.Sends frame

namespace Noted

variable {ts us : List (Turn α)} {l l' l'' : Link δ α}

omit [Peer δ] in
theorem refl (l : Link δ α) : Noted [] l l := ⟨rfl, rfl, [], (List.append_nil _).symm, nofun⟩

omit [Peer δ] in
theorem append (h : Noted ts l l') (h' : Noted us l' l'') : Noted (ts ++ us) l l'' where
  commanded := by
    rw [h'.commanded, h.commanded, Turn.lastSet_append, Option.map_or, Option.or_assoc]
  confirmed := by rw [h'.confirmed, h.confirmed, Turn.lastRead_append, Option.or_assoc]
  frames := by
    obtain ⟨news, hwritten, hnews⟩ := h.frames
    obtain ⟨news', hwritten', hnews'⟩ := h'.frames
    refine ⟨news ++ news', by rw [hwritten', hwritten, List.append_assoc], fun frame hmem hsets => ?_⟩
    rcases List.mem_append.mp hmem with hmem | hmem
    · obtain ⟨t, ht, hsends⟩ := hnews frame hmem hsets
      exact ⟨t, List.mem_append_left _ ht, hsends⟩
    · obtain ⟨t, ht, hsends⟩ := hnews' frame hmem hsets
      exact ⟨t, List.mem_append_right _ ht, hsends⟩

/-- A command notes nothing, whatever turn it is part of. -/
theorem of_command {sent : CommandFrame}
    (hsends : setsFrequency sent.bytes = true → ∃ t ∈ ts, t.Sends sent.bytes)
    (hset : Turn.lastSet ts = none) (hread : Turn.lastRead ts = none) (l : Link δ α) :
    Noted ts l (Link.command sent l).2 := by
  have hbooks := command_books sent l
  refine ⟨?_, ?_, ?_⟩
  · rw [hset]
    exact congrArg Books.commandedHz hbooks
  · rw [hread]
    exact congrArg Books.confirmedHz hbooks
  · rcases command_given sent l with h | h
    · exact ⟨[], by rw [h.written, List.append_nil], nofun⟩
    · refine ⟨[sent.bytes], h.written, fun frame hmem => ?_⟩
      obtain rfl := List.mem_singleton.mp hmem
      exact hsends

end Noted

/-- Commands that set no frequency leave nothing to be noted. -/
theorem noted_untuned (l : Link δ α) : Untuned (Noted [] l) where
  command sent hsent := Leads.of_after fun s h =>
    h.append (Noted.of_command (by simp [setsFrequency_bytes, hsent]) rfl rfl s)
  noted _ h := ⟨h.commanded, h.confirmed, h.frames⟩

theorem noted_setFrequency (hz : α) (l : Link δ α) :
    Noted [.set hz (l.sets hz)] l (setFrequency hz l).2 := by
  cases hencode : (encodeFrequency hz : Except (Fault α) Bytes) with
  | error e =>
    rw [setFrequency_of_error hencode, sets_of_error hencode]
    exact ⟨rfl, rfl, [], (List.append_nil _).symm, nofun⟩
  | ok payload =>
    have hsent : Noted [.set hz false] l (command (.plain 0x05 payload) l).2 :=
      Noted.of_command (fun _ => ⟨.set hz false, List.mem_singleton_self _, payload, hencode, rfl⟩)
        rfl rfl l
    rcases setFrequency_cases hencode l with ⟨hack, h⟩ | ⟨hnot, e, h⟩
    · rw [h, (sets_of_ok hencode l).mpr hack]
      obtain ⟨news, hwritten, hnews⟩ := hsent.frames
      refine ⟨rfl, hsent.confirmed, news, hwritten, fun frame hmem hsets => ?_⟩
      obtain ⟨t, ht, hsends⟩ := hnews frame hmem hsets
      obtain rfl := List.mem_singleton.mp ht
      exact ⟨_, List.mem_singleton_self _, hsends⟩
    · rw [h, Bool.eq_false_iff.mpr (mt (sets_of_ok hencode l).mp hnot)]
      exact hsent

theorem noted_frequency (l : Link δ α) : Noted [l.reading] l (frequency l).2 := by
  have hsent : Noted [.read none] l (command (.plain 0x03 []) l).2 :=
    Noted.of_command (by simp [setsFrequency_bytes, CommandFrame.plain]) rfl rfl l
  unfold reading
  rcases frequency_cases l with ⟨hz, h⟩ | ⟨e, h⟩
  · rw [h]
    exact ⟨hsent.commanded, rfl, by simpa [Turn.Sends] using hsent.frames⟩
  · rw [h]
    exact hsent

theorem noted_goTo (v : Vfo) (l : Link δ α) : Noted [] l (goTo v l).2 := by
  unfold goTo
  split
  · exact Noted.refl l
  · exact ((noted_untuned l).setVfo v).after (Noted.refl l)

theorem noted_tuning (hz : α) (l : Link δ α) :
    Noted (l.tuning hz) l ((do setFrequency hz; frequency : Exchange (Link δ α) (Fault α) α) l).2 := by
  have hset := noted_setFrequency hz l
  unfold tuning
  rw [Exchange.run_bind]
  rcases h : setFrequency hz l with ⟨e | ⟨⟩, l'⟩
  · rw [h] at hset
    exact hset
  · rw [h] at hset
    exact hset.append (noted_frequency l')

/-- **An operation notes its turns.** -/
theorem noted_exchange (op : Operation α) (l : Link δ α) : Noted (l.turns op) l (exchange op l).2 := by
  cases htunes : op.tunes with
  | false =>
    have hnone : l.turns op = [] := by cases op <;> first | rfl | cases htunes
    rw [hnone]
    exact ((noted_untuned l).exchange htunes).after (Noted.refl l)
  | true =>
    cases op with
    | setFrequency hz => exact noted_setFrequency hz l
    | frequency =>
      rw [exchange, dropped_after]
      exact noted_frequency l
    | tune v hz =>
      rw [exchange, dropped_after, tune_eq, Exchange.run_bind]
      have hselected := noted_goTo v l
      dsimp only [turns]
      rcases h : goTo v l with ⟨e | ⟨⟩, l'⟩
      · rw [h] at hselected
        exact hselected
      · rw [h] at hselected
        exact hselected.append (noted_tuning hz l')
    | _ => cases htunes

/-- A run notes its turns. -/
theorem noted_after (calls : List (Call α)) (l : Link δ α) :
    Noted (l.turnsOf calls) l (l.after calls) := by
  induction calls generalizing l with
  | nil => exact Noted.refl l
  | cons c calls ih =>
    cases c with
    | operation op => exact (noted_exchange op l).append (ih _)
    | command sent =>
      have hsent : Noted [.given sent] l (call (.command sent) l).2 := by
        rw [call, dropped_after]
        exact Noted.of_command (fun _ => ⟨.given sent, List.mem_singleton_self _, rfl⟩) rfl rfl l
      rw [turnsOf, ← dropped_after]
      exact hsent.append (ih _)

/-! ## Failures -/

end Link

/-- Holds of the operations that are a single exchange. -/
def Operation.single {α : Type} : Operation α → Bool
  | prepare _ _ _ | tune _ _ => false
  | _ => true

namespace Link

variable {δ α : Type} [Peer δ] [Scalar α]

omit [Peer δ] [Scalar α] in
/-- Of a step that always answers nothing has to be known. -/
theorem leads_sure {β : Type} {P R : Link δ α → Prop} {x : Exchange (Link δ α) (Fault α) β}
    (h : ∀ l, ∃ b l', x l = (.ok b, l')) : Leads P x (fun _ _ => True) R := by
  intro l _
  obtain ⟨b, l', hx⟩ := h l
  rw [hx]
  trivial

/-- **A single exchange that fails notes nothing.** -/
theorem leads_single {op : Operation α} (h : op.single = true) (b : Books α) :
    Leads (fun l : Link δ α => l.books = b) (exchange op) (fun _ _ => True) (fun l => l.books = b) := by
  have hcommand (sent : CommandFrame) : Leads (fun l : Link δ α => l.books = b) (command sent)
      (fun _ l => l.books = b) (fun l => l.books = b) :=
    Leads.of_after fun l hl => (command_books sent l).trans hl
  have hacknowledged (sent : CommandFrame) : Leads (fun l : Link δ α => l.books = b)
      (acknowledged sent) (fun _ _ => True) (fun l => l.books = b) :=
    (leads_acknowledged_of (hcommand sent)).mono (fun _ hl => hl) (fun _ _ _ => trivial)
      fun _ hl => hl
  -- what comes behind the exchange cannot fail
  have hnumber {β : Type} (sent : CommandFrame) {f : Nat → Exchange (Link δ α) (Fault α) β}
      (hf : ∀ n l, ∃ b l', f n l = (.ok b, l')) : Leads (fun l : Link δ α => l.books = b)
      (do let n ← number sent; f n) (fun _ _ => True) (fun l => l.books = b) :=
    (leads_number_of (hcommand sent)).bind fun n => leads_sure (hf n)
  cases op with
  | setVfo v =>
    exact (leads_acknowledged_of (hcommand _)).bind fun _ => leads_sure fun _ => ⟨_, _, rfl⟩
  | readVfo => exact leads_dropped (hnumber _ fun _ _ => ⟨_, _, rfl⟩)
  | setBandSelection band => exact hacknowledged _
  | bandSelection => exact hnumber _ fun _ _ => ⟨_, _, rfl⟩
  | setFrequency hz =>
    exact Leads.bind Leads.ofExcept_same fun _ => (leads_acknowledged_of (hcommand _)).bind fun _ =>
      leads_sure fun _ => ⟨_, _, rfl⟩
  | frequency =>
    exact leads_dropped ((leads_data_of (hcommand _)).bind fun _ => Leads.bind Leads.ofExcept_same
      fun _ => leads_sure fun _ => ⟨_, _, rfl⟩)
  | setSatelliteMode on => exact hacknowledged _
  | satelliteMode => exact leads_dropped (hnumber _ fun _ _ => ⟨_, _, rfl⟩)
  | setMode mode filter =>
    dsimp only [exchange, setMode]
    split
    · exact hacknowledged _
    · exact Leads.fail fun _ hl => hl
  | setWaterfall on => exact hacknowledged _
  | _ => cases h

omit [Scalar α] in
theorem goTo_books (v : Vfo) (l : Link δ α) :
    (∃ e l', goTo v l = (.error e, l') ∧ l'.books = l.books) ∨
      (l.vfo = some v ∨ l.Acknowledged (selectCommand v)) ∧
        ∃ l', goTo v l = (.ok (), l') ∧ l'.books = { l.books with vfo := some v } := by
  unfold goTo
  split
  · rename_i hvfo
    exact .inr ⟨.inl hvfo, l, rfl, by rw [← hvfo]; rfl⟩
  · have hbooks := command_books (selectCommand v) l
    rcases setVfo_cases v l with ⟨hack, h⟩ | ⟨-, e, h⟩
    · exact .inr ⟨.inr hack, _, h, by rw [← hbooks]; rfl⟩
    · exact .inl ⟨e, _, h, hbooks⟩

theorem setFrequency_books (hz : α) (l : Link δ α) :
    (∃ e l', setFrequency hz l = (.error e, l') ∧ l'.books = l.books) ∨
      l.sets hz = true ∧ ∃ l', setFrequency hz l = (.ok (), l') ∧
        l'.books = { l.books with commandedHz := some (Scalar.round hz) } := by
  cases hencode : (encodeFrequency hz : Except (Fault α) Bytes) with
  | error e => exact .inl ⟨e, l, setFrequency_of_error hencode l, rfl⟩
  | ok payload =>
    have hbooks := command_books (.plain 0x05 payload) l
    rcases setFrequency_cases hencode l with ⟨hack, h⟩ | ⟨-, e, h⟩
    · exact .inr ⟨(sets_of_ok hencode l).mpr hack, _, h, by rw [← hbooks]; rfl⟩
    · exact .inl ⟨e, _, h, hbooks⟩

theorem frequency_books (l : Link δ α) :
    (∃ e l', frequency l = (.error e, l') ∧ l'.books = l.books) ∨
      ∃ c l', frequency l = (.ok c, l') ∧ l'.books = { l.books with confirmedHz := some c } := by
  have hbooks := command_books (.plain 0x03 []) l
  rcases frequency_cases l with ⟨c, h⟩ | ⟨e, h⟩
  · exact .inr ⟨c, _, h, by rw [← hbooks]; rfl⟩
  · exact .inl ⟨e, _, h, hbooks⟩

/-- How far a tuning comes, and what it has noted then. -/
theorem tune_books (v : Vfo) (hz : α) (l : Link δ α) :
    (∃ e l', tune v hz l = (.error e, l') ∧ l'.books = l.books) ∨
    (l.vfo = some v ∨ l.Acknowledged (selectCommand v)) ∧
      ((∃ e l', tune v hz l = (.error e, l') ∧ l'.books = { l.books with vfo := some v }) ∨
      .set hz true ∈ l.turns (.tune v hz) ∧
        ((∃ e l', tune v hz l = (.error e, l') ∧
            l'.books = { l.books with vfo := some v, commandedHz := some (Scalar.round hz) }) ∨
        ∃ c l', tune v hz l = (.ok c, l') ∧
          l'.books = ⟨some v, some (Scalar.round hz), some c⟩)) := by
  rw [tune_eq]
  rcases goTo_books v l with ⟨e, l', h, hbooks⟩ | ⟨hselected, l₁, hgo, hbooks₁⟩
  · exact .inl ⟨e, l', Exchange.run_bind_of_error h, hbooks⟩
  refine .inr ⟨hselected, ?_⟩
  rw [Exchange.run_bind_of_ok hgo]
  rcases setFrequency_books hz l₁ with ⟨e, l', h, hbooks⟩ | ⟨hsets, l₂, hset, hbooks₂⟩
  · exact .inl ⟨e, l', Exchange.run_bind_of_error h, hbooks.trans hbooks₁⟩
  have hturn : .set hz true ∈ l.turns (.tune v hz) := by
    simp [turns, hgo, tuning, hsets]
  refine .inr ⟨hturn, ?_⟩
  rw [Exchange.run_bind_of_ok hset]
  rcases frequency_books l₂ with ⟨e, l', h, hbooks⟩ | ⟨c, l', h, hbooks⟩
  · exact .inl ⟨e, l', h, by rw [hbooks, hbooks₂, hbooks₁]⟩
  · exact .inr ⟨c, l', h, by rw [hbooks, hbooks₂, hbooks₁]⟩

/-- A tuning sends its frequency or none. -/
theorem encodes_of_sends {v : Vfo} {hz : α} {l : Link δ α} {t : Turn α}
    (ht : t ∈ l.turns (.tune v hz)) {frame : Bytes} (h : t.Sends frame) :
    ∃ payload, encodeFrequency hz = .ok payload := by
  dsimp only [turns] at ht
  split at ht
  · rename_i l' hgo
    rcases List.mem_cons.mp ht with rfl | ht
    · obtain ⟨payload, hencode, -⟩ := h
      exact ⟨payload, hencode⟩
    · split at ht
      · obtain rfl := List.mem_singleton.mp ht
        cases h
      · cases ht
  · cases ht

/-- A frequency that cannot be encoded is not sent. -/
theorem tune_of_error {hz : α} {e : Fault α} (h : encodeFrequency hz = .error e) (v : Vfo)
    (l : Link δ α) : ∃ news, (tune v hz l).2.line.written = l.line.written ++ news ∧
      ∀ frame ∈ news, setsFrequency frame = false := by
  have hnoted := noted_exchange (.tune v hz) l
  rw [exchange, dropped_after] at hnoted
  obtain ⟨news, hwritten, hnews⟩ := hnoted.frames
  refine ⟨news, hwritten, fun frame hmem => ?_⟩
  cases hsets : setsFrequency frame with
  | false => rfl
  | true =>
    obtain ⟨t, ht, hsends⟩ := hnews frame hmem hsets
    obtain ⟨payload, hencode⟩ := encodes_of_sends ht hsends
    cases h.symm.trans hencode

/-! ## The law of the books -/

/-- What a link notes of the given turns, and what its operations note. -/
structure BooksLaw (line : Line δ) (ts : List (Turn α)) (l : Link δ α) : Prop where
  commanded : l.lastCommandedHz = (Turn.lastSet ts).map Scalar.round
  confirmed : l.lastConfirmedHz = Turn.lastRead ts
  /-- There are no other frames that set a frequency. -/
  frames : ∃ news, l.line.written = line.written ++ news ∧
    ∀ frame ∈ news, setsFrequency frame = true → ∃ t ∈ ts, t.Sends frame
  /-- A single exchange that fails notes nothing. -/
  failed {op : Operation α} {e : Fault α} {l' : Link δ α} : op.single = true →
    exchange op l = (.error e, l') → l'.books = l.books
  /-- A tuning that fails notes its selection and its frequency as far as they were acknowledged. -/
  stopped {v : Vfo} {hz : α} {e : Fault α} {l' : Link δ α} : tune v hz l = (.error e, l') →
    (l'.vfo = l.vfo ∨ l'.vfo = some v ∧ l.Acknowledged (selectCommand v)) ∧
    (l'.lastCommandedHz = l.lastCommandedHz ∨
      l'.lastCommandedHz = some (Scalar.round hz) ∧ .set hz true ∈ l.turns (.tune v hz)) ∧
    l'.lastConfirmedHz = l.lastConfirmedHz
  tuned {v : Vfo} {hz c : α} {l' : Link δ α} : tune v hz l = (.ok c, l') →
    l'.books = ⟨some v, some (Scalar.round hz), some c⟩
  /-- A frequency that cannot be encoded is not sent. -/
  refused {hz : α} {e : Fault α} : encodeFrequency hz = .error e →
    setFrequency hz l = (.error e, l) ∧ ∀ v, ∃ news,
      (tune v hz l).2.line.written = l.line.written ++ news ∧
        ∀ frame ∈ news, setsFrequency frame = false

theorem booksLaw_of_noted {line : Line δ} {ts : List (Turn α)} {l : Link δ α}
    (h : Noted ts (ofLine line) l) : BooksLaw line ts l where
  commanded := h.commanded.trans Option.or_none
  confirmed := h.confirmed.trans Option.or_none
  frames := h.frames
  failed {op e l'} hop hfail := (leads_single hop l.books).of_error rfl hfail
  stopped {v hz e l'} hfail := by
    have hvfo {b : Books α} (hselected : l.vfo = some v ∨ l.Acknowledged (selectCommand v))
        (hb : l'.books = b) (hv : b.vfo = some v) :
        l'.vfo = l.vfo ∨ l'.vfo = some v ∧ l.Acknowledged (selectCommand v) := by
      have hnew : l'.vfo = some v := (congrArg Books.vfo hb).trans hv
      exact hselected.imp (fun h => hnew.trans h.symm) fun h => ⟨hnew, h⟩
    rcases tune_books v hz l with ⟨e', l'', htune, hbooks⟩ | ⟨hselected,
      ⟨e', l'', htune, hbooks⟩ | ⟨hset, ⟨e', l'', htune, hbooks⟩ | ⟨c, l'', htune, -⟩⟩⟩
    · obtain rfl := (Prod.mk.inj (htune.symm.trans hfail)).2
      exact ⟨.inl (congrArg Books.vfo hbooks), .inl (congrArg Books.commandedHz hbooks),
        congrArg Books.confirmedHz hbooks⟩
    · obtain rfl := (Prod.mk.inj (htune.symm.trans hfail)).2
      exact ⟨hvfo hselected hbooks rfl, .inl (congrArg Books.commandedHz hbooks),
        congrArg Books.confirmedHz hbooks⟩
    · obtain rfl := (Prod.mk.inj (htune.symm.trans hfail)).2
      exact ⟨hvfo hselected hbooks rfl, .inr ⟨congrArg Books.commandedHz hbooks, hset⟩,
        congrArg Books.confirmedHz hbooks⟩
    · cases (Prod.mk.inj (htune.symm.trans hfail)).1
  tuned {v hz c l'} hok := by
    rcases tune_books v hz l with ⟨e, l'', htune, -⟩ | ⟨-,
      ⟨e, l'', htune, -⟩ | ⟨-, ⟨e, l'', htune, -⟩ | ⟨c', l'', htune, hbooks⟩⟩⟩
    · cases (Prod.mk.inj (htune.symm.trans hok)).1
    · cases (Prod.mk.inj (htune.symm.trans hok)).1
    · cases (Prod.mk.inj (htune.symm.trans hok)).1
    · cases htune.symm.trans hok
      exact hbooks
  refused {hz e} hencode := ⟨setFrequency_of_error hencode l, fun v => tune_of_error hencode v l⟩

/-- **The law of the books.**  Whatever is asked of a link and whatever becomes of it, the link has
noted the last frequency that was acknowledged and the last one that was read.  What fails notes
nothing but the steps before it. -/
theorem books_law (line : Line δ) (calls : List (Call α)) :
    BooksLaw line (turnsOf (ofLine line) calls) (after (ofLine line) calls) :=
  booksLaw_of_noted (noted_after calls (ofLine line))

end Link

end EarthStation.Radio
