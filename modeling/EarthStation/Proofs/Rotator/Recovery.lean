import EarthStation.Rotator.Link
import EarthStation.Proofs.Exchange
import EarthStation.Proofs.Rotator.Reply
import EarthStation.Proofs.Wire.Chunks

/-!
# Recovery — what bytes that were left over do to the replies behind them

* `Rotator.Prompt`: a rotator that answers every command by one reply.
* `Rotator.Link.Awaits`: the bytes that a link has not read yet.
* `Rotator.Link.Awaits.report`: an exchange reads the next twelve bytes, whosever they are.
* `Rotator.Link.Recovers`: every status is what its own reply reports, after one failure at most.
* `Rotator.Link.recovery_law`: behind bytes that were left over the positions come late or not at all.
-/

namespace EarthStation.Rotator

open Wire (Bytes Line Peer ReadEvent contents)

/-! ## The rotator -/

/-- A reply, and the events that bring it. -/
structure Sending where
  reply : Reply
  events : List ReadEvent
  steady : ∀ e ∈ events, e.Steady
  whole : contents events = reply.bytes

/-- A reply that comes in one piece. -/
def Sending.ofReply (r : Reply) : Sending where
  reply := r
  events := [.chunk r.bytes]
  steady := by simp [ReadEvent.Steady, Reply.bytes]
  whole := by simp [ReadEvent.bytes]

/-- A rotator that answers every command by one reply, or every command but those to go somewhere. -/
structure Prompt where
  sendings : Nat → Sending
  answersSet : Bool
  /-- How many commands it has answered. -/
  answered : Nat

namespace Prompt

/-- Holds of the commands that are answered. -/
def answers (frame : Bytes) (d : Prompt) : Bool :=
  d.answersSet || frame[11]? != some Command.set.code

instance : Peer Prompt where
  receive frame d :=
    if d.answers frame then (.ok (d.sendings d.answered).events, { d with answered := d.answered + 1 })
    else (.ok [], d)

end Prompt

/-- The bytes of the first replies. -/
def stream (sendings : Nat → Sending) (count : Nat) : Bytes :=
  (List.range count).flatMap fun i => (sendings i).reply.bytes

theorem stream_add (sendings : Nat → Sending) (i j : Nat) :
    stream sendings (i + j) = stream sendings i ++ stream (fun k => sendings (i + k)) j := by
  simp [stream, List.range_add, List.flatMap_map]

theorem stream_one (sendings : Nat → Sending) :
    stream sendings 1 = (sendings 0).reply.bytes := by
  simp [stream]

theorem stream_succ (sendings : Nat → Sending) (count : Nat) :
    stream sendings (count + 1) = stream sendings count ++ (sendings count).reply.bytes := by
  rw [stream_add, stream_one, Nat.add_zero]

@[simp] theorem length_stream (sendings : Nat → Sending) (count : Nat) :
    (stream sendings count).length = responseLength * count := by
  induction count with
  | zero => rfl
  | succ count ih => rw [stream_succ, List.length_append, ih, Reply.length_bytes, Nat.mul_succ]

/-- Behind the first replies come the others. -/
theorem drop_stream (sendings : Nat → Sending) (i j : Nat) :
    (stream sendings (i + j)).drop (responseLength * i) = stream (fun k => sendings (i + k)) j := by
  rw [stream_add, List.drop_left' (length_stream sendings i)]

/-! ## The bytes of an exchange -/

/-- The twelve bytes that an exchange reads, behind stale bytes and some replies. -/
def window (sendings : Nat → Sending) (stale : Bytes) (answered : Nat) : Bytes :=
  ((stale ++ stream sendings (answered + 1)).drop (responseLength * answered)).take responseLength

section

variable {sendings : Nat → Sending} {stale : Bytes} {answered : Nat}

theorem length_window : (window sendings stale answered).length = responseLength := by
  simp [window, Nat.mul_add_one]
  omega

/-- Once the stale bytes are read, only replies are. -/
theorem window_eq (h : stale.length ≤ responseLength * answered) :
    window sendings stale answered =
      ((stream sendings (answered + 1)).drop (responseLength * answered - stale.length)).take
        responseLength := by
  rw [window, List.drop_append, List.drop_of_length_le h, List.nil_append]

/-- **Behind whole replies** the next one is read that has not been read yet. -/
theorem window_late {q : Nat} (hstale : stale.length = responseLength * q) (hq : q ≤ answered) :
    window sendings stale answered = (sendings (answered - q)).reply.bytes := by
  have hle : stale.length ≤ responseLength * answered := hstale ▸ Nat.mul_le_mul_left _ hq
  have hcount : answered + 1 = answered - q + (1 + q) := by omega
  rw [window_eq hle, hstale, ← Nat.mul_sub, hcount, drop_stream, stream_add, stream_one,
    List.take_left' (Reply.length_bytes _), Nat.add_zero]

/-- **Behind anything else** no reply is read ever again. -/
theorem window_lost (hstale : stale.length % responseLength ≠ 0)
    (ha : stale.length / responseLength < answered) (r : Reply) :
    ¬ r.bytes <+: window sendings stale answered := by
  obtain ⟨i, hi⟩ := Nat.exists_eq_add_of_lt ha
  have hparts := Nat.div_add_mod stale.length responseLength
  have hlt : stale.length % responseLength < responseLength := Nat.mod_lt _ (by decide)
  generalize stale.length / responseLength = q at *
  generalize stale.length % responseLength = m at *
  have hle : stale.length ≤ responseLength * answered := by
    rw [← hparts, hi, Nat.add_assoc, Nat.mul_add, Nat.mul_add_one]
    omega
  have hskip : responseLength * answered - stale.length =
      responseLength * i + (responseLength - m) := by
    rw [← hparts, hi, Nat.add_assoc, Nat.mul_add, Nat.mul_add_one]
    omega
  have hcount : answered + 1 = i + (1 + (1 + q)) := by omega
  rw [window_eq hle, hskip, hcount, ← List.drop_drop, drop_stream, stream_add, stream_one,
    stream_add, stream_one, List.drop_append_of_le_length (by simp)]
  exact fun h => Reply.not_isPrefix_drop r _ _ _ (by omega) (by omega)
    (h.trans (List.take_prefix _ _))

end

/-! ## The link -/

namespace Link

variable {α : Type}

/-- The bytes that no exchange has read: behind the stale ones come the replies so far, and each of
them has had twelve bytes read for it. -/
structure Awaits (sendings : Nat → Sending) (stale : Bytes) (l : Link Prompt α) : Prop where
  sendings_eq : l.line.peer.sendings = sendings
  matched : l.setResponds = l.line.peer.answersSet
  steady : ∀ e ∈ l.line.pending, e.Steady
  pending : contents l.line.pending =
    (stale ++ stream sendings l.line.peer.answered).drop (responseLength * l.line.peer.answered)

variable {sendings : Nat → Sending} {stale : Bytes} {l : Link Prompt α}

/-- Nothing has been asked of the rotator yet, and it answers what the link expects it to.  There may
be bytes on the line. -/
structure Begun (l : Link Prompt α) : Prop where
  answered : l.line.peer.answered = 0
  matched : l.setResponds = l.line.peer.answersSet
  steady : ∀ e ∈ l.line.pending, e.Steady

/-- The bytes that were left over. -/
def leftOver (l : Link Prompt α) : Bytes := contents l.line.pending

theorem Begun.awaits (h : l.Begun) : l.Awaits l.line.peer.sendings l.leftOver where
  sendings_eq := rfl
  matched := h.matched
  steady := h.steady
  pending := by simp [h.answered, stream, leftOver]

/-- The reply to the next command that is answered. -/
def next (l : Link Prompt α) : Reply := (l.line.peer.sendings l.line.peer.answered).reply

/-- The link at a rotator that sends other replies. -/
def answeredBy (sendings : Nat → Sending) (l : Link Prompt α) : Link Prompt α :=
  { l with line := { l.line with peer := { l.line.peer with sendings } } }

theorem Begun.answeredBy (h : l.Begun) (sendings : Nat → Sending) :
    (l.answeredBy sendings).Begun :=
  ⟨h.answered, h.matched, h.steady⟩

/-! ## An exchange -/

/-- The link after a command that was answered, with some events left to be read. -/
def told (command : Bytes) (rest : List ReadEvent) (l : Link Prompt α) : Link Prompt α :=
  { l with
    line :=
      ⟨{ l.line.peer with answered := l.line.peer.answered + 1 }, rest, l.line.written ++ [command]⟩ }

theorem onLine_write {command : Bytes} (hcommand : l.line.peer.answers command = true) :
    onLine (Line.write command) l =
      (.ok (), l.told command
        (l.line.pending ++ (l.line.peer.sendings l.line.peer.answered).events)) := by
  unfold onLine Line.write
  dsimp only [Peer.receive]
  rw [if_pos hcommand]
  rfl

theorem onLine_write_silent {command : Bytes} (hcommand : l.line.peer.answers command = false) :
    onLine (Line.write command) l =
      (.ok (), { l with line := { l.line with written := l.line.written ++ [command] } }) := by
  unfold onLine Line.write
  dsimp only [Peer.receive]
  rw [if_neg (by simp [hcommand])]
  exact congrArg (fun pending => (Except.ok (), { l with
    line := ⟨l.line.peer, pending, l.line.written ++ [command]⟩ })) (List.append_nil _)

/-- What is pending once a command is answered. -/
theorem Awaits.contents_answered (h : l.Awaits sendings stale) :
    contents (l.line.pending ++ (l.line.peer.sendings l.line.peer.answered).events) =
      (stale ++ stream sendings (l.line.peer.answered + 1)).drop
        (responseLength * l.line.peer.answered) := by
  have hread : responseLength * l.line.peer.answered ≤
      (stale ++ stream sendings l.line.peer.answered).length := by
    simp
  rw [Wire.contents_append, h.pending, h.sendings_eq, Sending.whole, stream_succ,
    ← List.append_assoc stale, List.drop_append_of_le_length hread]

variable [Scalar α]

/-- **An exchange reads the next twelve bytes**, whosever they are. -/
theorem Awaits.report (h : l.Awaits sendings stale) {command : Bytes}
    (hcommand : l.line.peer.answers command = true) :
    (report command l).1 = decodeResponse (window sendings stale l.line.peer.answered) ∧
      (report command l).2.Awaits sendings stale ∧
      (report command l).2.line.peer.answered = l.line.peer.answered + 1 := by
  have hsteady : ∀ e ∈ l.line.pending ++ (l.line.peer.sendings l.line.peer.answered).events,
      e.Steady :=
    List.forall_mem_append.mpr ⟨h.steady, Sending.steady _⟩
  obtain ⟨rest, hread, hrest, hcontents⟩ := Wire.readAvailable_steady responseLength hsteady
  rw [h.contents_answered] at hread hcontents
  rw [List.drop_drop] at hcontents
  have honLine : onLine (Line.read responseLength) (l.told command
      (l.line.pending ++ (l.line.peer.sendings l.line.peer.answered).events)) =
        (.ok (window sendings stale l.line.peer.answered), l.told command rest) := by
    unfold onLine Line.read
    dsimp only [told]
    rw [hread]
    rfl
  have hawaits : (l.told command rest).Awaits sendings stale :=
    ⟨h.sendings_eq, h.matched, hrest, hcontents⟩
  unfold Link.report
  rw [Exchange.run_bind_of_ok (onLine_write hcommand), Exchange.run_bind_of_ok honLine]
  cases hdecode : decodeResponse (α := α) (window sendings stale l.line.peer.answered) with
  | error e => exact ⟨rfl, hawaits, rfl⟩
  | ok p => exact ⟨rfl, ⟨h.sendings_eq, h.matched, hrest, hcontents⟩, rfl⟩

end Link

/-! ## Operations -/

/-- An operation of a link. -/
inductive Operation (α : Type) where
  | stop
  | status
  | set (target : Position α)

namespace Link

variable {α : Type} [Scalar α] {sendings : Nat → Sending} {stale : Bytes} {l : Link Prompt α}

/-- What an operation does at a link. -/
def perform : Operation α → Exchange (Link Prompt α) (Fault α) (Option (Position α))
  | .stop => do pure (some (← stop))
  | .status => do pure (some (← status))
  | .set target => set target

/-- The link after some of the operations. -/
def run (ops : Nat → Operation α) (l : Link Prompt α) : Nat → Link Prompt α
  | 0 => l
  | n + 1 => (perform (ops n) (l.run ops n)).2

theorem answers_statusFrame (d : Prompt) : d.answers statusFrame = true := by
  simp [Prompt.answers, statusFrame, frame, noDigits, Command.code]

theorem answers_stopFrame (d : Prompt) : d.answers stopFrame = true := by
  simp [Prompt.answers, stopFrame, frame, noDigits, Command.code]

theorem setFrame_code {target : Position α} {command : Bytes} (h : setFrame target = .ok command) :
    command[11]? = some Command.set.code := by
  unfold setFrame at h
  split at h
  · cases h
  · obtain rfl := Except.ok.inj h
    rfl

open Exchange (Leads)

theorem leads_report (command : Bytes) :
    Leads (fun l : Link Prompt α => l.Awaits sendings stale ∧ l.line.peer.answers command = true)
      (Link.report command) (fun _ => Awaits sendings stale) (Awaits sendings stale) :=
  Leads.of_after fun _ hl => (hl.1.report hl.2).2.1

theorem leads_set (target : Position α) :
    Leads (Awaits sendings stale) (Link.set target) (fun _ => Awaits sendings stale)
      (Awaits sendings stale) := by
  let note (reported : Option (Position α)) :
      Exchange (Link Prompt α) (Fault α) (Option (Position α)) := do
    Exchange.modify fun l => { l with lastCommanded := some target }
    pure reported
  have hnote (reported : Option (Position α)) : Leads (Awaits sendings stale) (note reported)
      (fun _ => Awaits sendings stale) (Awaits sendings stale) :=
    Leads.bind (Q := fun _ => Awaits sendings stale)
      (Leads.modify fun _ hl => ⟨hl.sendings_eq, hl.matched, hl.steady, hl.pending⟩)
      fun _ => Leads.pure fun _ hl => hl
  intro l hl
  unfold Link.set
  cases hframe : setFrame target with
  | error e => exact hl
  | ok command =>
    rw [Exchange.run_bind_of_ok (Exchange.run_ofExcept _ l),
      Exchange.run_bind_of_ok (Exchange.run_get l)]
    cases hresponds : l.setResponds with
    | true =>
      have hcommand : l.line.peer.answers command = true := by
        rw [Prompt.answers, ← hl.matched, hresponds, Bool.true_or]
      exact ((leads_report command).bind fun position => hnote (some position)) l ⟨hl, hcommand⟩
    | false =>
      have hcommand : l.line.peer.answers command = false := by
        simp [Prompt.answers, ← hl.matched, hresponds, setFrame_code hframe]
      rw [if_neg (by simp), Exchange.run_bind_of_ok (onLine_write_silent hcommand)]
      exact hnote none _ ⟨hl.sendings_eq, hl.matched, hl.steady, hl.pending⟩

theorem leads_perform (op : Operation α) :
    Leads (Awaits sendings stale) (perform op) (fun _ => Awaits sendings stale)
      (Awaits sendings stale) := by
  have hreport {command : Bytes} (hcommand : ∀ d : Prompt, d.answers command = true) :
      Leads (Awaits sendings stale) (do pure (some (← Link.report (α := α) command)))
        (fun _ => Awaits sendings stale) (Awaits sendings stale) :=
    ((leads_report command).mono (fun _ hl => ⟨hl, hcommand _⟩) (fun _ _ hl => hl)
      fun _ hl => hl).bind fun _ => Leads.pure fun _ hl => hl
  cases op with
  | stop => exact hreport answers_stopFrame
  | status => exact hreport answers_statusFrame
  | set target => exact leads_set target

theorem Awaits.run (h : l.Awaits sendings stale) (ops : Nat → Operation α) (n : Nat) :
    (l.run ops n).Awaits sendings stale := by
  induction n with
  | zero => exact h
  | succ n ih => exact (leads_perform (ops n)).after ih

/-! ## Recovery -/

/-- How many of the first operations fail. -/
def failures (ops : Nat → Operation α) (l : Link Prompt α) (n : Nat) : Nat :=
  (List.range n).countP fun i => !(perform (ops i) (l.run ops i)).1.isOk

/-- In every run at most one operation fails until every status is what its own reply reports. -/
def Recovers (l : Link Prompt α) : Prop :=
  ∀ ops : Nat → Operation α, ∃ n, l.failures ops n ≤ 1 ∧
    ∀ i, n ≤ i → ops i = .status → (status (l.run ops i)).1 = .ok (l.run ops i).next.position

theorem Awaits.status_eq (h : l.Awaits sendings stale) :
    (status l).1 = decodeResponse (window sendings stale l.line.peer.answered) :=
  (h.report (answers_statusFrame _)).1

/-- **Behind whole replies** a status is what an earlier reply reports, by as many replies. -/
theorem Awaits.status_late (h : l.Awaits sendings stale) {q : Nat}
    (hstale : stale.length = responseLength * q) (hq : q ≤ l.line.peer.answered) :
    (status l).1 = .ok (sendings (l.line.peer.answered - q)).reply.position := by
  rw [h.status_eq, window_late hstale hq]
  simpa using decodeResponse_reply (α := α) (sendings (l.line.peer.answered - q)).reply []

/-- **Behind anything else** no status is told ever again. -/
theorem Awaits.status_lost (h : l.Awaits sendings stale)
    (hstale : stale.length % responseLength ≠ 0)
    (ha : stale.length / responseLength < l.line.peer.answered) :
    ∃ detail, (status l).1 = .error (.malformed detail) := by
  rw [h.status_eq]
  exact decodeResponse_malformed (Nat.le_of_eq length_window.symm) fun r => window_lost hstale ha r

/-! ### Asking for the position again and again -/

/-- Nothing but questions for the position. -/
def asking : Nat → Operation α := fun _ => .status

theorem perform_status (l : Link Prompt α) : (perform .status l).2 = (status l).2 := by
  rcases h : status l with ⟨_ | _, _⟩ <;> simp [perform, Exchange.run_bind, h]

theorem Awaits.answered_asking (h : l.Awaits sendings stale) (n : Nat) :
    (l.run asking n).line.peer.answered = l.line.peer.answered + n := by
  induction n with
  | zero => rfl
  | succ n ih =>
    have hreport := ((h.run asking n).report (answers_statusFrame _)).2.2
    rw [Link.run, asking, perform_status, status, hreport, ih, Nat.add_assoc]

theorem Begun.not_recovers (h : l.Begun) (hleft : l.leftOver.length % responseLength ≠ 0) :
    ¬ l.Recovers := by
  intro hrecovers
  obtain ⟨n, -, hown⟩ := hrecovers asking
  obtain ⟨i, hn, hi⟩ : ∃ i, n ≤ i ∧ l.leftOver.length / responseLength < i :=
    ⟨n + (l.leftOver.length / responseLength + 1), Nat.le_add_right _ _, Nat.le_add_left _ _⟩
  have hanswered : (l.run asking i).line.peer.answered = i := by
    rw [h.awaits.answered_asking, h.answered, Nat.zero_add]
  obtain ⟨detail, hlost⟩ := (h.awaits.run asking i).status_lost hleft (by rwa [hanswered])
  rw [hown i hn rfl] at hlost
  cases hlost

/-! ## The law -/

/-- Two replies, each of them sent a number of times before the other. -/
def taking (r r' : Reply) (turn : Nat) (i : Nat) : Sending :=
  .ofReply (if i / turn % 2 = 0 then r else r')

theorem taking_ne (r r' : Reply) {q i : Nat} (hpos : 0 < q) (hi : q ≤ i) :
    (taking r r' q (i - q)).reply = r ∧ (taking r r' q i).reply = r' ∨
      (taking r r' q (i - q)).reply = r' ∧ (taking r r' q i).reply = r := by
  obtain ⟨k, rfl⟩ := Nat.exists_eq_add_of_le' hi
  have hturn : (k + q) / q = k / q + 1 := Nat.add_div_right k hpos
  rw [Nat.add_sub_cancel]
  unfold taking Sending.ofReply
  rcases Nat.mod_two_eq_zero_or_one (k / q) with heven | hodd
  · left
    have hnext : ¬ (k / q + 1) % 2 = 0 := by omega
    simp [hturn, heven, hnext]
  · right
    have hnext : (k / q + 1) % 2 = 0 := by omega
    simp [hturn, hodd, hnext]

theorem Begun.exists_not_recovers (h : l.Begun) {r r' : Reply}
    (hr : (r.position : Position α) ≠ r'.position) {q : Nat} (hpos : 0 < q)
    (hleft : l.leftOver.length = responseLength * q) :
    ¬ (l.answeredBy (taking r r' q)).Recovers := by
  intro hrecovers
  obtain ⟨n, -, hown⟩ := hrecovers asking
  have hbegun := h.answeredBy (taking r r' q)
  obtain ⟨i, hn, hi⟩ : ∃ i, n ≤ i ∧ q ≤ i := ⟨n + q, by omega, by omega⟩
  have hanswered : ((l.answeredBy (taking r r' q)).run asking i).line.peer.answered = i := by
    rw [hbegun.awaits.answered_asking, hbegun.answered, Nat.zero_add]
  have hrun := hbegun.awaits.run asking i
  have hlate := hrun.status_late hleft (by rwa [hanswered])
  rw [hown i hn rfl, hanswered, next, hanswered, hrun.sendings_eq] at hlate
  have hsame : ((taking r r' q i).reply.position : Position α) =
      (taking r r' q (i - q)).reply.position := Except.ok.inj hlate
  rcases taking_ne r r' hpos hi with ⟨hearlier, hnow⟩ | ⟨hearlier, hnow⟩
  · rw [hearlier, hnow] at hsame
    exact hr hsame.symm
  · rw [hearlier, hnow] at hsame
    exact hr hsame

theorem Begun.recovers_of_nil (h : l.Begun) (hleft : l.leftOver = []) : l.Recovers := by
  refine fun ops => ⟨0, Nat.zero_le 1, fun i _ _ => ?_⟩
  have hrun := h.awaits.run ops i
  have hown := hrun.status_late (q := 0) (by rw [hleft]; rfl) (Nat.zero_le _)
  rw [hown, next, hrun.sendings_eq, Nat.sub_zero]

/-- What becomes of the positions behind bytes that were left over. -/
structure RecoveryLaw (l : Link Prompt α) : Prop where
  /-- Behind whole replies the positions are told late, by as many commands. -/
  late {q : Nat} : l.leftOver.length = responseLength * q → ∀ ops n,
    q ≤ (l.run ops n).line.peer.answered → (status (l.run ops n)).1 =
      .ok (l.line.peer.sendings ((l.run ops n).line.peer.answered - q)).reply.position
  /-- Behind anything else they are not told any more, as soon as the bytes are read. -/
  lost : l.leftOver.length % responseLength ≠ 0 → ∀ ops n,
    l.leftOver.length / responseLength < (l.run ops n).line.peer.answered →
      ∃ detail, (status (l.run ops n)).1 = .error (.malformed detail)
  /-- So there is a recovery from any replies only where there is nothing to recover from. -/
  recovers_iff {r r' : Reply} : (r.position : Position α) ≠ r'.position →
    ((∀ sendings, (l.answeredBy sendings).Recovers) ↔ l.leftOver = [])

/-- **The law of recovery.**  At a rotator that answers every command, a link reads twelve bytes for
each of them and never any others.  So what is left over from before stays between the replies and
their commands: the positions come late or not at all. -/
theorem recovery_law (hl : l.Begun) : RecoveryLaw l where
  late hleft ops n := (hl.awaits.run ops n).status_late hleft
  lost hleft ops n := (hl.awaits.run ops n).status_lost hleft
  recovers_iff hr := by
    constructor
    · intro hall
      by_cases hnil : l.leftOver = []
      · exact hnil
      have hpos : 0 < l.leftOver.length := List.length_pos_iff.mpr hnil
      by_cases hwhole : l.leftOver.length % responseLength = 0
      · obtain ⟨q, hq⟩ := Nat.dvd_of_mod_eq_zero hwhole
        have hq0 : 0 < q := Nat.pos_of_mul_pos_left (hq ▸ hpos)
        exact absurd (hall _) (hl.exists_not_recovers hr hq0 hq)
      · exact absurd (hall l.line.peer.sendings) (hl.not_recovers hwhole)
    · exact fun hnil sendings => (hl.answeredBy sendings).recovers_of_nil hnil

end Link

/-! ## A reply that was cut off -/

/-- The reply for azimuth 14 and elevation 15. -/
def sampleReply : Reply := ⟨⟨3, 7, 4, 0⟩, ⟨3, 7, 5, 0⟩, 0x0A, 0x0A, endByte⟩

/-- A link that has been given up on a reply after its first three bytes; the others have come since. -/
def Link.cutOff : Link Prompt Float where
  line := ⟨⟨fun _ => .ofReply sampleReply, true, 0⟩, [.chunk (sampleReply.bytes.drop 3)], []⟩
  setResponds := true
  lastCommanded := none
  lastReported := none

theorem Link.cutOff_begun : Link.cutOff.Begun where
  answered := rfl
  matched := rfl
  steady := by
    intro e he
    obtain rfl := List.mem_singleton.mp he
    exact (by decide : sampleReply.bytes.drop 3 ≠ [])

/-- After one exchange there is no position any more, so not every rotator is recovered from. -/
theorem Link.recovery_law_cutOff :
    Link.cutOff.Begun ∧
      (∃ detail, (status (Link.cutOff.run asking 1)).1 = .error (.malformed detail)) ∧
      ¬ ∀ sendings, (Link.cutOff.answeredBy sendings).Recovers := by
  have hother : (sampleReply.position : Position Float) ≠
      { sampleReply with elevation := ⟨3, 6, 0, 0⟩ }.position := by
    decide +kernel
  refine ⟨cutOff_begun, (recovery_law cutOff_begun).lost (by decide) asking 1 (by decide), fun h => ?_⟩
  exact absurd (((recovery_law cutOff_begun).recovers_iff hother).mp h) (by decide)

/-- Nor is there one at any time. -/
theorem Link.cutOff_unrecovered :
    Link.cutOff.Begun ∧
      (∀ n, ∃ detail, (status (Link.cutOff.run asking n)).1 = .error (.malformed detail)) ∧
      ¬ Link.cutOff.Recovers := by
  have hleft : Link.cutOff.leftOver.length % responseLength ≠ 0 := by decide
  refine ⟨cutOff_begun, fun n => ?_, cutOff_begun.not_recovers hleft⟩
  cases n with
  | zero => exact ⟨.startByte 4, rfl⟩
  | succ n =>
    refine (cutOff_begun.awaits.run asking (n + 1)).status_lost hleft ?_
    rw [cutOff_begun.awaits.answered_asking]
    exact Nat.lt_add_left _ (Nat.succ_pos n)

end EarthStation.Rotator
