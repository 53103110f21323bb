import EarthStation.Radio.Link

/-!
# Rig — a radio that obeys, at the end of a line that may lose its replies

* `Radio.selection?`: the oscillator that a frame selects.
* `Radio.Rig`: a radio that goes where it is told, with the frames that it has heard.
* `Radio.Link.command_eq`: a command is heard, and its reply comes or is lost.
-/

namespace EarthStation.Radio

open Wire (Bytes Line Peer ReadEvent)

/-! ## Frames that select -/

/-- What selects an oscillator, behind the command byte; the bands 0 and 1 are main and sub. -/
def selections : List (Bytes × Vfo) :=
  [([0x00], .a), ([0x01], .b), ([0xD0], .main), ([0xD1], .sub), ([0xD2, 0x00], .main),
    ([0xD2, 0x01], .sub)]

/-- A frame that selects, or asks for the selection. -/
def selectionFrame (subs : Bytes) : Bytes := commandPreamble ++ 0x07 :: subs ++ [terminator]

/-- The oscillator that a frame selects, if it selects one. -/
def selection? (frame : Bytes) : Option Vfo :=
  (selections.find? fun s => frame = selectionFrame s.1).map (·.2)

/-- Holds of the frame that asks for the selected band. -/
def asksBand (frame : Bytes) : Bool := frame = selectionFrame [0xD2]

/-- The oscillator that a band stands for, if it stands for one. -/
def bandVfo? (band : UInt8) : Option Vfo :=
  if band = 0 then some .main else if band = 1 then some .sub else none

/-- Only frames of the command 7 select or ask. -/
theorem selectionFrame_ne {sent : CommandFrame} (h : sent.command ≠ 0x07) (subs : Bytes) :
    sent.bytes ≠ selectionFrame subs := by
  intro he
  simp [CommandFrame.bytes, selectionFrame, commandPreamble, h] at he

theorem selection?_of_command {sent : CommandFrame} (h : sent.command ≠ 0x07) :
    selection? sent.bytes = none := by
  simp [selection?, selections, selectionFrame_ne h]

theorem selection?_vfo (v : Vfo) :
    selection? (CommandFrame.withSub 0x07 v.code []).bytes = some v := by
  cases v <;> decide

theorem selection?_band (band : UInt8) :
    selection? (CommandFrame.withSub 0x07 0xD2 [band]).bytes = bandVfo? band := by
  by_cases h0 : band = 0
  · subst h0
    decide
  · by_cases h1 : band = 1
    · subst h1
      decide
    · simp [selection?, selections, selectionFrame, CommandFrame.bytes, CommandFrame.withSub,
        CommandFrame.subs, commandPreamble, bandVfo?, h0, h1]

/-! ## The radio -/

/-- What stands between the preamble and the end of a reply. -/
structure Body where
  bytes : Bytes
  closed : terminator ∉ bytes
  short : replyPreamble.length + bytes.length < longestReply

/-- What becomes of the reply to a frame. -/
inductive Fate where
  | lost
  /-- It arrives; the body is that of the reply to a frame that is not about the selection. -/
  | arrives (body : Body)

/-- A frame as it was heard. -/
structure Hearing where
  frame : Bytes
  /-- What was selected when it came. -/
  selected : Vfo
  answered : Bool

/-- A radio that goes where it is told and nowhere else. -/
structure Rig where
  selected : Vfo
  /-- What becomes of the replies, frame by frame. -/
  fates : Nat → Fate
  /-- The frames so far, oldest first. -/
  heard : List Hearing

namespace Rig

/-- The body of the reply to a frame that asks for the selected band. -/
def bandBody : Vfo → Bytes
  | .main => [0x07, 0xD2, 0x00]
  | .sub => [0x07, 0xD2, 0x01]
  | .a | .b => [refused]

/-- The body of the reply to a frame, unless it is lost. -/
def reply? (frame : Bytes) (r : Rig) : Option Bytes :=
  match r.fates r.heard.length with
  | .lost => none
  | .arrives body =>
    if (selection? frame).isSome then some [accepted]
    else if asksBand frame then some (bandBody r.selected)
    else some body.bytes

/-- The frame as it is heard next. -/
def hearing (frame : Bytes) (r : Rig) : Hearing where
  frame
  selected := r.selected
  answered := (r.reply? frame).isSome

/-- The radio after a frame. -/
def told (frame : Bytes) (r : Rig) : Rig :=
  { r with
    selected := (selection? frame).getD r.selected
    heard := r.heard ++ [r.hearing frame] }

instance : Peer Rig where
  receive frame r :=
    (.ok ((r.reply? frame).toList.map fun body => .chunk (replyPreamble ++ body ++ [terminator])),
      r.told frame)

/-- A frame that selects is accepted. -/
theorem reply?_of_selection {frame body : Bytes} {r : Rig} (h : (selection? frame).isSome = true)
    (hr : r.reply? frame = some body) : body = [accepted] := by
  unfold reply? at hr
  split at hr
  · simp at hr
  · rw [if_pos h] at hr
    exact (Option.some.inj hr).symm

/-- The selected band is answered truthfully. -/
theorem reply?_of_query {body : Bytes} {r : Rig}
    (hr : r.reply? (CommandFrame.withSub 0x07 0xD2 []).bytes = some body) :
    body = bandBody r.selected := by
  unfold reply? at hr
  split at hr
  · simp at hr
  · rw [if_neg (by decide), if_pos (by decide)] at hr
    exact (Option.some.inj hr).symm

theorem reply?_closed {frame body : Bytes} {r : Rig} (h : r.reply? frame = some body) :
    terminator ∉ body ∧ replyPreamble.length + body.length < longestReply := by
  unfold reply? at h
  split at h
  · simp at h
  · rename_i free hfate
    split at h
    · obtain rfl := Option.some.inj h
      decide
    · split at h
      · obtain rfl := Option.some.inj h
        cases r.selected <;> decide
      · obtain rfl := Option.some.inj h
        exact ⟨free.closed, free.short⟩

end Rig

theorem parseReply_accepted {α : Type} (sent : CommandFrame) :
    (parseReply sent (replyPreamble ++ [accepted] ++ [terminator]) : Except (Fault α) Reply) =
      .ok .ok := rfl

theorem parseReply_bandBody {α : Type} (v : Vfo) :
    (parseReply (.withSub 0x07 0xD2 []) (replyPreamble ++ Rig.bandBody v ++ [terminator]) :
      Except (Fault α) Reply) = match v with
        | .main => .ok (.data [0])
        | .sub => .ok (.data [1])
        | .a | .b => .error (.rejected 0x07) := by
  cases v <;> rfl

/-! ## Frames read -/

namespace Link

variable {δ α : Type}

/-- The line with other events pending. -/
def withPending (events : List ReadEvent) (l : Link δ α) : Link δ α :=
  { l with line := { l.line with pending := events } }

/-- A read of one byte takes the first of a chunk. -/
theorem onLine_read_chunk (b : UInt8) (bytes : Bytes) (h : bytes ≠ []) (events : List ReadEvent)
    (l : Link δ α) :
    onLine (Line.read 1) (l.withPending (.chunk (b :: bytes) :: events)) =
      (.ok [b], l.withPending (.chunk bytes :: events)) := by
  cases bytes with
  | nil => exact absurd rfl h
  | cons b' bytes => rfl

theorem onLine_read_last (b : UInt8) (events : List ReadEvent) (l : Link δ α) :
    onLine (Line.read 1) (l.withPending (.chunk [b] :: events)) = (.ok [b], l.withPending events) := by
  cases events <;> rfl

/-- Nothing is read from a silent line. -/
theorem readFrame_nil (l : Link δ α) :
    readFrame (l.withPending []) = (.error (.timeout 0), l.withPending []) := rfl

/-- A frame that is waiting is read to its end. -/
theorem readOn_chunk {bytes : Bytes} (hclosed : terminator ∉ bytes) {room : Nat}
    (hroom : bytes.length < room) (begun : Bytes) (events : List ReadEvent) (l : Link δ α) :
    readOn room begun (l.withPending (.chunk (bytes ++ [terminator]) :: events)) =
      (.ok (begun ++ bytes ++ [terminator]), l.withPending events) := by
  induction bytes generalizing room begun with
  | nil =>
    obtain ⟨room, rfl⟩ := Nat.exists_eq_succ_of_ne_zero (Nat.ne_of_gt hroom)
    refine (Exchange.run_bind_of_ok (onLine_read_last terminator events l)).trans ?_
    simp
  | cons b bytes ih =>
    obtain ⟨room, rfl⟩ := Nat.exists_eq_succ_of_ne_zero (Nat.ne_zero_of_lt hroom)
    obtain ⟨hb, hbytes⟩ := List.ne_and_not_mem_of_not_mem_cons hclosed
    refine (Exchange.run_bind_of_ok
      (onLine_read_chunk b (bytes ++ [terminator]) (by simp) events l)).trans ?_
    dsimp only
    rw [if_neg (Ne.symm hb), ih hbytes (by simpa using hroom)]
    simp

end Link

/-! ## Commands heard -/

namespace Link

variable {α : Type}

/-- The link after a frame, with nothing left to be read. -/
def told (frame : Bytes) (l : Link Rig α) : Link Rig α :=
  { l with
    line := ⟨l.line.peer.told frame, [], l.line.written ++ [frame]⟩ }

/-- **A command is heard, and its reply comes or is lost.** -/
theorem command_eq (sent : CommandFrame) {l : Link Rig α} (h : l.line.pending = []) :
    command sent l =
      (match l.line.peer.reply? sent.bytes with
        | none => .error (.timeout 0)
        | some body => parseReply sent (replyPreamble ++ body ++ [terminator]),
      l.told sent.bytes) := by
  have hwrite : onLine (Line.write sent.bytes) l =
      (.ok (), (l.told sent.bytes).withPending
        ((l.line.peer.reply? sent.bytes).toList.map fun body =>
          .chunk (replyPreamble ++ body ++ [terminator]))) := by
    unfold onLine Line.write
    dsimp only [Peer.receive]
    rw [h]
    rfl
  unfold command
  rw [Exchange.run_bind_of_ok hwrite]
  cases hr : l.line.peer.reply? sent.bytes with
  | none => exact Exchange.run_bind_of_error (readFrame_nil _)
  | some body =>
    obtain ⟨hclosed, hshort⟩ := Rig.reply?_closed hr
    have hframe : terminator ∉ replyPreamble ++ body := by
      simpa [replyPreamble, terminator] using hclosed
    have hroom : (replyPreamble ++ body).length < longestReply := by
      rwa [List.length_append]
    -- the reply is all that is pending, so reading it to its end leaves nothing
    have hread : readFrame ((l.told sent.bytes).withPending
        [.chunk (replyPreamble ++ body ++ [terminator])]) =
          (.ok (replyPreamble ++ body ++ [terminator]), l.told sent.bytes) :=
      readOn_chunk hframe hroom [] [] (l.told sent.bytes)
    exact Exchange.run_bind_of_ok hread

end Link

end EarthStation.Radio
