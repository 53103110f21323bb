import EarthStation.Proofs.Radio.Rig
import EarthStation.Proofs.Wire.Chunks

/-!
# Transport — a reply is the same however it comes over the line

* `Radio.IsFrame`: bytes that end with their first terminator.
* `Radio.Link.readOn_steady`, `Radio.Link.readFrame_steady`: a frame is read to its end, in whatever
  chunks and after however many interruptions it comes, and nothing behind it is touched.
* `Radio.Link.transport_law`: a command answers what its reply says, with or without an echo.
-/

namespace EarthStation.Radio

open Wire (Bytes Line Peer ReadEvent contents)

/-! ## Frames -/

/-- Holds of bytes that end with their first terminator. -/
def IsFrame (frame : Bytes) : Prop := ∃ body, terminator ∉ body ∧ frame = body ++ [terminator]

/-- Holds of commands without a terminator in front of the end of their frame. -/
def CommandFrame.Clean (sent : CommandFrame) : Prop :=
  terminator ∉ sent.command :: sent.subs ++ sent.payload

theorem CommandFrame.Clean.isFrame {sent : CommandFrame} (h : sent.Clean) : IsFrame sent.bytes := by
  refine ⟨commandPreamble ++ sent.command :: sent.subs ++ sent.payload, ?_, rfl⟩
  have hpreamble : terminator ∉ commandPreamble := by decide
  rw [List.append_assoc, List.mem_append]
  exact not_or.mpr ⟨hpreamble, h⟩

theorem CommandFrame.preamble_isPrefix (sent : CommandFrame) :
    commandPreamble.isPrefixOf sent.bytes = true := by
  rw [List.isPrefixOf_iff_prefix]
  unfold CommandFrame.bytes
  rw [List.append_assoc, List.append_assoc]
  exact List.prefix_append _ _

namespace Link

variable {δ α : Type}

/-! ## Frames read from a steady line -/

/-- A read of one byte takes the first that the line brings. -/
theorem onLine_read_steady {b : UInt8} {bytes : Bytes} {events : List ReadEvent}
    (hsteady : ∀ e ∈ events, e.Steady) (hcontents : contents events = b :: bytes)
    (later : List ReadEvent) (l : Link δ α) :
    ∃ left, (∀ e ∈ left, e.Steady) ∧ contents left = bytes ∧
      onLine (Line.read 1) (l.withPending (events ++ later)) =
        (.ok [b], l.withPending (left ++ later)) := by
  obtain ⟨left, hread, hleft, hrest⟩ := Wire.readAvailable_steady 1 hsteady
  rw [hcontents] at hread hrest
  have happend := Wire.readAvailable_append (by rw [hread]; rfl) later
  rw [hread] at happend
  refine ⟨left, hleft, hrest, ?_⟩
  unfold onLine Line.read withPending
  dsimp only
  rw [happend]
  rfl

/-- A frame is read to its end, and nothing behind it. -/
theorem readOn_steady {body rest : Bytes} (hclosed : terminator ∉ body) {room : Nat}
    (hroom : body.length < room) (begun : Bytes) {events : List ReadEvent}
    (hsteady : ∀ e ∈ events, e.Steady) (hcontents : contents events = body ++ terminator :: rest)
    (later : List ReadEvent) (l : Link δ α) :
    ∃ left, (∀ e ∈ left, e.Steady) ∧ contents left = rest ∧
      readOn room begun (l.withPending (events ++ later)) =
        (.ok (begun ++ body ++ [terminator]), l.withPending (left ++ later)) := by
  induction body generalizing room begun events with
  | nil =>
    obtain ⟨room, rfl⟩ := Nat.exists_eq_succ_of_ne_zero (Nat.ne_of_gt hroom)
    obtain ⟨left, hleft, hrest, hread⟩ := onLine_read_steady hsteady hcontents later l
    refine ⟨left, hleft, hrest, (Exchange.run_bind_of_ok hread).trans ?_⟩
    simp
  | cons b body ih =>
    obtain ⟨room, rfl⟩ := Nat.exists_eq_succ_of_ne_zero (Nat.ne_zero_of_lt hroom)
    obtain ⟨hb, hbody⟩ := List.ne_and_not_mem_of_not_mem_cons hclosed
    obtain ⟨behind, hbehind, hnext, hread⟩ := onLine_read_steady hsteady hcontents later l
    obtain ⟨left, hleft, hrest, hreadOn⟩ :=
      ih hbody (Nat.lt_of_succ_lt_succ hroom) (begun ++ [b]) hbehind hnext
    refine ⟨left, hleft, hrest, (Exchange.run_bind_of_ok hread).trans ?_⟩
    dsimp only
    rw [if_neg (Ne.symm hb), hreadOn, List.append_assoc begun]
    rfl

/-- **A frame that is not too long is read to its end**, however the line brings it. -/
theorem readFrame_steady {frame rest : Bytes} (hframe : IsFrame frame)
    (hlength : frame.length ≤ longestReply) {events : List ReadEvent}
    (hsteady : ∀ e ∈ events, e.Steady) (hcontents : contents events = frame ++ rest)
    (later : List ReadEvent) (l : Link δ α) :
    ∃ left, (∀ e ∈ left, e.Steady) ∧ contents left = rest ∧
      readFrame (l.withPending (events ++ later)) = (.ok frame, l.withPending (left ++ later)) := by
  obtain ⟨body, hclosed, rfl⟩ := hframe
  have hroom : body.length < longestReply := by
    rw [List.length_append, List.length_singleton] at hlength
    exact hlength
  rw [List.append_assoc, List.singleton_append] at hcontents
  exact readOn_steady hclosed hroom [] hsteady hcontents later l

/-! ## Commands -/

variable [Peer δ]

/-- The link after a frame that its device has taken, with some events left to be read. -/
def wrote (frame : Bytes) (peer : δ) (events : List ReadEvent) (l : Link δ α) : Link δ α :=
  { l with line := ⟨peer, events, l.line.written ++ [frame]⟩ }

theorem onLine_write_of_ok {bytes : Bytes} {l : Link δ α} {events : List ReadEvent} {peer : δ}
    (hpending : l.line.pending = [])
    (hwrite : Peer.receive bytes l.line.peer = (.ok events, peer)) :
    onLine (Line.write bytes) l = (.ok (), l.wrote bytes peer events) := by
  unfold onLine Line.write
  dsimp only
  rw [hwrite, hpending]
  rfl

/-- **The law of transport.**  A command that its device takes, on a line with nothing else to be read,
answers what the reply says, if reply and command are frames that are not too long and the reply is no
frame of a command.  A copy of the command in front of the reply makes no difference, nor does it
matter into what chunks the bytes are cut, how often reads are interrupted and what comes later; and
all that stands behind the reply is left to be read. -/
theorem transport_law {sent : CommandFrame} (hsent : sent.Clean)
    (hshort : sent.bytes.length ≤ longestReply) {reply rest : Bytes} (hreply : IsFrame reply)
    (hlength : reply.length ≤ longestReply) (hforeign : commandPreamble.isPrefixOf reply = false)
    (echo : Bool) {l : Link δ α} (hpending : l.line.pending = []) {events later : List ReadEvent}
    {peer : δ} (hwrite : Peer.receive sent.bytes l.line.peer = (.ok (events ++ later), peer))
    (hsteady : ∀ e ∈ events, e.Steady)
    (hcontents : contents events = (if echo then sent.bytes else []) ++ (reply ++ rest)) :
    ∃ left, (∀ e ∈ left, e.Steady) ∧ contents left = rest ∧
      command sent l = (parseReply sent reply, l.wrote sent.bytes peer (left ++ later)) := by
  have hwritten := onLine_write_of_ok hpending hwrite
  unfold command
  rw [Exchange.run_bind_of_ok hwritten]
  cases echo with
  | false =>
    obtain ⟨left, hleft, hrest, hread⟩ := readFrame_steady hreply hlength hsteady hcontents later
      (l.wrote sent.bytes peer (events ++ later))
    refine ⟨left, hleft, hrest, (Exchange.run_bind_of_ok hread).trans ?_⟩
    rw [hforeign]
    rfl
  | true =>
    obtain ⟨behind, hbehind, hnext, hfirst⟩ := readFrame_steady hsent.isFrame hshort hsteady
      hcontents later (l.wrote sent.bytes peer (events ++ later))
    obtain ⟨left, hleft, hrest, hsecond⟩ := readFrame_steady hreply hlength hbehind hnext later
      (l.wrote sent.bytes peer (events ++ later))
    refine ⟨left, hleft, hrest, (Exchange.run_bind_of_ok hfirst).trans ?_⟩
    rw [sent.preamble_isPrefix, if_pos rfl, if_pos rfl]
    exact Exchange.run_bind_of_ok hsecond

/-- A line that brings an echo and a reply in pieces, with interruptions, and then falls silent in the
middle of another frame. -/
def pieces : List ReadEvent :=
  [.chunk [0xFE, 0xFE, 0xA2], .failure (.ofKind .interrupted), .chunk [0xE0, 0x16, 0x5A, 0x01],
    .chunk [0xFD, 0xFE], .failure (.system 4), .failure (.system 4), .chunk [0xFE, 0xE0, 0xA2],
    .chunk [0xFB, 0xFD, 0xFE, 0xFE]]

/-- Behind an echo in pieces the acknowledgement is read, and the beginning of the next frame is left on
the line. -/
theorem transport_law_pieces :
    ∃ left, (∀ e ∈ left, e.Steady) ∧ contents left = [0xFE, 0xFE] ∧
      (command (.withSub 0x16 0x5A [1])
        (ofLine (Line.ofPeer ⟨[.send (pieces ++ [.failure (.ofKind .timedOut)])]⟩) :
          Link Wire.Script Float)) =
        (.ok .ok, ofLine ⟨⟨[]⟩, left ++ [.failure (.ofKind .timedOut)],
          [[0xFE, 0xFE, 0xA2, 0xE0, 0x16, 0x5A, 0x01, 0xFD]]⟩) := by
  have hclean : (CommandFrame.withSub 0x16 0x5A [1]).Clean := by
    unfold CommandFrame.Clean
    decide
  have hreply : IsFrame [0xFE, 0xFE, 0xE0, 0xA2, 0xFB, 0xFD] :=
    ⟨[0xFE, 0xFE, 0xE0, 0xA2, 0xFB], by decide, rfl⟩
  have hsteady : ∀ e ∈ pieces, e.Steady := by
    simp [pieces, ReadEvent.Steady, IoError.isInterrupted, IoError.kind?]
  exact transport_law hclean (by decide) hreply (by decide) (by decide) true rfl rfl hsteady rfl

end Link

end EarthStation.Radio
