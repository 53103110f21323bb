import EarthStation.Radio.Frame

/-!
# Grammar — which bytes are a reply to a command

* `Radio.enclosed`, `Radio.enclosed_or_framing`: a frame is read only if it is enclosed by the preamble
  of a reply and the terminator.
* `Radio.parseReply_enclosed`: then the byte behind the preamble decides how.
* `Radio.dataAfter_eq_ok_iff`: the data are what follows the repeated sub-commands.
* `Radio.readReply?`, `Radio.readReply?_eq`: a reply read by index, which never leaves the frame.
* `Radio.parseReply_cases`: what a frame is, by what it says.
* `Radio.reply_grammar`: the grammar of replies.
-/

namespace EarthStation.Radio

open Wire (Bytes)

variable {α : Type}

/-! ## Enclosed frames -/

/-- The frame of a reply with this byte and this body behind the preamble. -/
def enclosed (code : UInt8) (body : Bytes) : Bytes := replyPreamble ++ code :: body ++ [terminator]

@[simp] theorem length_enclosed (code : UInt8) (body : Bytes) :
    (enclosed code body).length = body.length + 6 := by
  simp [enclosed, replyPreamble]

theorem parseReply_enclosed (sent : CommandFrame) (code : UInt8) (body : Bytes) :
    (parseReply sent (enclosed code body) : Except (Fault α) Reply) =
      if code = refused then .error (.rejected sent.command)
      else if code = accepted then .ok .ok
      else if code ≠ sent.command then .error (.framing (.otherCommand code sent.command))
      else ((dataAfter sent.subs body).map Reply.data).mapError Fault.framing := by
  have hlong : ¬ (enclosed code body).length < shortestReply := by
    rw [length_enclosed]
    exact Nat.not_lt_of_le (Nat.le_add_left 6 _)
  have hhead : (enclosed code body).take 4 = replyPreamble := rfl
  have hlast : (enclosed code body).getLast? = some terminator := List.getLast?_concat
  have hdrop : ((enclosed code body).drop 4).dropLast = code :: body :=
    (List.dropLast_concat : (code :: body ++ [terminator]).dropLast = code :: body)
  unfold parseReply
  rw [if_neg hlong, if_neg (not_not_intro hhead), if_neg (not_not_intro hlast), hdrop]

/-- What the three checks of length, preamble and terminator say of a frame that passes them. -/
theorem exists_enclosed {frame : Bytes} (hlong : ¬ frame.length < shortestReply)
    (hpreamble : frame.take 4 = replyPreamble) (hlast : frame.getLast? = some terminator) :
    ∃ code body, frame = enclosed code body := by
  obtain ⟨front, rfl⟩ := List.getLast?_eq_some_iff.mp hlast
  rw [List.length_append, List.length_singleton] at hlong
  have hfour : 4 ≤ front.length := by
    unfold shortestReply at hlong
    omega
  rw [List.take_append_of_le_length hfour] at hpreamble
  have hsplit := List.take_append_drop 4 front
  rw [hpreamble] at hsplit
  cases hrest : front.drop 4 with
  | nil =>
    rw [hrest] at hsplit
    rw [← hsplit] at hlong
    exact absurd (by decide) hlong
  | cons code body =>
    rw [hrest] at hsplit
    exact ⟨code, body, by rw [enclosed, hsplit]⟩

/-- A frame that is not enclosed is malformed, whatever the command was. -/
theorem enclosed_or_framing (sent : CommandFrame) (frame : Bytes) :
    (∃ code body, frame = enclosed code body) ∨
      ∃ detail, (parseReply sent frame : Except (Fault α) Reply) = .error (.framing detail) := by
  by_cases hshort : frame.length < shortestReply
  · exact Or.inr ⟨_, if_pos hshort⟩
  by_cases hpreamble : frame.take 4 = replyPreamble
  · by_cases hlast : frame.getLast? = some terminator
    · exact Or.inl (exists_enclosed hshort hpreamble hlast)
    · refine Or.inr ⟨.terminator, ?_⟩
      unfold parseReply
      rw [if_neg hshort, if_neg (not_not_intro hpreamble), if_pos hlast]
  · refine Or.inr ⟨.preamble (frame.take 4), ?_⟩
    unfold parseReply
    rw [if_neg hshort, if_pos hpreamble]

/-! ## Data -/

theorem dataAfter_append (subs data : Bytes) : dataAfter subs (subs ++ data) = .ok data := by
  induction subs with
  | nil => rfl
  | cons sub subs ih => rw [List.cons_append, dataAfter, if_pos rfl, ih]

/-- **The data are what follows the repeated sub-commands.** -/
theorem dataAfter_eq_ok_iff {subs body data : Bytes} :
    dataAfter subs body = .ok data ↔ body = subs ++ data := by
  constructor
  · intro h
    induction subs generalizing body with
    | nil => exact Except.ok.inj h
    | cons sub subs ih =>
      cases body with
      | nil => cases h
      | cons b body =>
        rw [dataAfter] at h
        by_cases hb : b = sub
        · rw [if_pos hb] at h
          rw [hb, ih h, List.cons_append]
        · rw [if_neg hb] at h
          cases h
  · rintro rfl
    exact dataAfter_append subs data

/-! ## Reading by index -/

/-- The bytes from place `i` on and in front of place `j`, where the frame has these places. -/
def slice? (frame : Bytes) (i j : Nat) : Option Bytes :=
  if i ≤ j ∧ j ≤ frame.length then some ((frame.take j).drop i) else none

/-- The data in front of the last place of a frame, behind the sub-commands that have to be repeated
from a place on. -/
def readData? (frame : Bytes) (last : Nat) :
    (subs : Bytes) → (place : Nat) → Option (Except Malformation Bytes)
  | [], place => (slice? frame place last).map .ok
  | sub :: subs, place =>
    if place < last ∧ frame[place]? = some sub then readData? frame last subs (place + 1)
    else some (.error (.notEchoed sub))

/-- What a frame says in answer to a command, read place by place; `none` as soon as a place is asked
for that the frame does not have. -/
def readReply? (sent : CommandFrame) (frame : Bytes) : Option (Except (Fault α) Reply) :=
  if frame.length < shortestReply then some (.error (.framing (.tooShort frame.length)))
  else (slice? frame 0 4).bind fun preamble =>
    if preamble ≠ replyPreamble then some (.error (.framing (.preamble preamble)))
    else frame[frame.length - 1]?.bind fun closing =>
      if closing ≠ terminator then some (.error (.framing .terminator))
      else frame[4]?.bind fun code =>
        if code = refused then some (.error (.rejected sent.command))
        else if code = accepted then some (.ok .ok)
        else if code ≠ sent.command then
          some (.error (.framing (.otherCommand code sent.command)))
        else (readData? frame (frame.length - 1) sent.subs 5).map fun data =>
          (data.map Reply.data).mapError Fault.framing

theorem slice?_middle (front middle behind : Bytes) :
    slice? (front ++ middle ++ behind) front.length (front ++ middle).length = some middle := by
  have hplaces : front.length ≤ (front ++ middle).length ∧
      (front ++ middle).length ≤ (front ++ middle ++ behind).length := by
    simp only [List.length_append]
    omega
  rw [slice?, if_pos hplaces, List.take_left, List.drop_left]

/-- Behind some bytes, the data are looked for as in what follows these. -/
theorem readData?_eq (subs front rest behind : Bytes) :
    readData? (front ++ rest ++ behind) (front ++ rest).length subs front.length =
      some (dataAfter subs rest) := by
  induction subs generalizing front rest with
  | nil => rw [readData?, slice?_middle, dataAfter, Option.map_some]
  | cons sub subs ih =>
    cases rest with
    | nil =>
      have hend : ¬ front.length < (front ++ []).length := by simp
      rw [readData?, if_neg fun h => hend h.1, dataAfter]
    | cons b rest =>
      have hlast : front.length < (front ++ b :: rest).length := by simp
      have hhere : (front ++ b :: rest ++ behind)[front.length]? = some b := by simp
      rw [readData?, dataAfter]
      by_cases hb : b = sub
      · have hnext := ih (front ++ [b]) rest
        have hplace : (front ++ [b]).length = front.length + 1 := List.length_append
        rw [hplace, List.append_assoc front [b] rest] at hnext
        rw [if_pos ⟨hlast, by rw [hhere, hb]⟩, if_pos hb]
        exact hnext
      · have hother : ¬ some b = some sub := fun h => hb (Option.some.inj h)
        rw [if_neg fun h => hother (hhere.symm.trans h.2), if_neg hb]

/-- **Reading by index never leaves the frame**, and reads what the frame says. -/
theorem readReply?_eq (sent : CommandFrame) (frame : Bytes) :
    (readReply? sent frame : Option (Except (Fault α) Reply)) = some (parseReply sent frame) := by
  by_cases hshort : frame.length < shortestReply
  · rw [readReply?, parseReply, if_pos hshort, if_pos hshort]
  have hlength : 6 ≤ frame.length := Nat.le_of_not_lt hshort
  have hslice : slice? frame 0 4 = some (frame.take 4) := by
    rw [slice?, if_pos ⟨Nat.zero_le 4, by omega⟩, List.drop_zero]
  have hclosing : frame[frame.length - 1]? = frame.getLast? := List.getLast?_eq_getElem?.symm
  have hsome : frame ≠ [] := List.ne_nil_of_length_pos (by omega)
  have hlast : frame.getLast? = some (frame.getLast hsome) := List.getLast?_eq_some_getLast hsome
  generalize frame.getLast hsome = closing at hlast
  rw [readReply?, if_neg hshort, hslice, Option.bind_some, hclosing, hlast, Option.bind_some]
  by_cases hpreamble : frame.take 4 = replyPreamble
  · rw [if_neg (not_not_intro hpreamble)]
    by_cases hterminator : closing = terminator
    · rw [hterminator] at hlast ⊢
      obtain ⟨code, body, rfl⟩ := exists_enclosed hshort hpreamble hlast
      have hcode : (enclosed code body)[4]? = some code := rfl
      have hdata : readData? (enclosed code body) ((enclosed code body).length - 1) sent.subs 5 =
          some (dataAfter sent.subs body) := by
        have hread := readData?_eq sent.subs (replyPreamble ++ [code]) body [terminator]
        have hplace : (replyPreamble ++ [code] ++ body).length = (enclosed code body).length - 1 := by
          simp [enclosed, replyPreamble]
        rw [hplace, List.append_assoc replyPreamble [code] body] at hread
        exact hread
      rw [if_neg (not_not_intro rfl), hcode, Option.bind_some, hdata, parseReply_enclosed]
      split
      · rfl
      · split
        · rfl
        · split
          · rfl
          · rfl
    · have hother : frame.getLast? ≠ some terminator := by
        rw [hlast]
        exact fun h => hterminator (Option.some.inj h)
      rw [if_pos hterminator, parseReply, if_neg hshort, if_neg (not_not_intro hpreamble),
        if_pos hother]
  · rw [if_pos hpreamble, parseReply, if_neg hshort, if_pos hpreamble]

/-! ## The grammar -/

/-- At least six bytes: the preamble of a reply, this byte behind it, and the terminator at the end. -/
structure Marked (code : UInt8) (frame : Bytes) : Prop where
  long : 6 ≤ frame.length
  preamble : frame.take 4 = [0xFE, 0xFE, 0xE0, 0xA2]
  fifth : frame[4]? = some code
  last : frame.getLast? = some 0xFD

/-- The reply that repeats a command and its sub-commands in front of some data. -/
def CommandFrame.dataReply (sent : CommandFrame) (data : Bytes) : Bytes :=
  [0xFE, 0xFE, 0xE0, 0xA2] ++ [sent.command] ++ sent.sub.toList ++ sent.subsub.toList ++ data ++ [0xFD]

theorem CommandFrame.dataReply_eq (sent : CommandFrame) (data : Bytes) :
    sent.dataReply data = enclosed sent.command (sent.subs ++ data) := by
  simp [dataReply, enclosed, subs, replyPreamble, terminator]

theorem marked_enclosed {code code' : UInt8} {body : Bytes} :
    Marked code (enclosed code' body) ↔ code' = code := by
  constructor
  · intro h
    exact Option.some.inj h.fifth
  · rintro rfl
    exact ⟨by simp, rfl, rfl, List.getLast?_concat⟩

theorem Marked.exists_enclosed {code : UInt8} {frame : Bytes} (h : Marked code frame) :
    ∃ body, frame = enclosed code body := by
  obtain ⟨code', body, rfl⟩ :=
    Radio.exists_enclosed (Nat.not_lt_of_le h.long) h.preamble h.last
  exact ⟨body, by rw [marked_enclosed.mp h]⟩

/-- What a frame is, by what it says: a refusal, an acknowledgement, data, or nothing that is told. -/
theorem parseReply_cases (sent : CommandFrame) (frame : Bytes) :
    (Marked refused frame ∧
        (parseReply sent frame : Except (Fault α) Reply) = .error (.rejected sent.command)) ∨
      (Marked accepted frame ∧ (parseReply sent frame : Except (Fault α) Reply) = .ok .ok) ∨
      (∃ data, frame = sent.dataReply data ∧
        (parseReply sent frame : Except (Fault α) Reply) = .ok (.data data)) ∨
      ∃ detail, (parseReply sent frame : Except (Fault α) Reply) = .error (.framing detail) := by
  rcases enclosed_or_framing (α := α) sent frame with ⟨code, body, rfl⟩ | hframing
  · rw [parseReply_enclosed]
    by_cases hrefused : code = refused
    · rw [if_pos hrefused]
      exact Or.inl ⟨marked_enclosed.mpr hrefused, rfl⟩
    rw [if_neg hrefused]
    by_cases haccepted : code = accepted
    · rw [if_pos haccepted]
      exact Or.inr (Or.inl ⟨marked_enclosed.mpr haccepted, rfl⟩)
    rw [if_neg haccepted]
    by_cases hcommand : code = sent.command
    · rw [if_neg (not_not_intro hcommand)]
      cases hdata : dataAfter sent.subs body with
      | error detail => exact Or.inr (Or.inr (Or.inr ⟨detail, rfl⟩))
      | ok data =>
        refine Or.inr (Or.inr (Or.inl ⟨data, ?_, rfl⟩))
        rw [sent.dataReply_eq, hcommand, dataAfter_eq_ok_iff.mp hdata]
    · rw [if_pos hcommand]
      exact Or.inr (Or.inr (Or.inr ⟨_, rfl⟩))
  · exact Or.inr (Or.inr (Or.inr hframing))

variable {sent : CommandFrame} {frame : Bytes}

/-- **A bare acknowledgement** is told by the byte behind the preamble. -/
theorem parseReply_ok_iff :
    (parseReply sent frame : Except (Fault α) Reply) = .ok .ok ↔ Marked accepted frame := by
  constructor
  · intro h
    rcases parseReply_cases (α := α) sent frame with
      ⟨-, hreply⟩ | ⟨hmarked, -⟩ | ⟨data, -, hreply⟩ | ⟨detail, hreply⟩
    · cases hreply.symm.trans h
    · exact hmarked
    · cases hreply.symm.trans h
    · cases hreply.symm.trans h
  · intro h
    obtain ⟨body, rfl⟩ := h.exists_enclosed
    rw [parseReply_enclosed, if_neg (by decide), if_pos rfl]

/-- **A refusal** is told by the byte behind the preamble, and names the command. -/
theorem parseReply_rejected_iff :
    (parseReply sent frame : Except (Fault α) Reply) = .error (.rejected sent.command) ↔
      Marked refused frame := by
  constructor
  · intro h
    rcases parseReply_cases (α := α) sent frame with
      ⟨hmarked, -⟩ | ⟨-, hreply⟩ | ⟨data, -, hreply⟩ | ⟨detail, hreply⟩
    · exact hmarked
    · cases hreply.symm.trans h
    · cases hreply.symm.trans h
    · cases hreply.symm.trans h
  · intro h
    obtain ⟨body, rfl⟩ := h.exists_enclosed
    rw [parseReply_enclosed, if_pos rfl]

/-- **Data** stand behind the repeated command and its sub-commands, and end at the last byte. -/
theorem parseReply_data_iff (hrefused : sent.command ≠ refused)
    (haccepted : sent.command ≠ accepted) {data : Bytes} :
    (parseReply sent frame : Except (Fault α) Reply) = .ok (.data data) ↔
      frame = sent.dataReply data := by
  constructor
  · intro h
    rcases parseReply_cases (α := α) sent frame with
      ⟨-, hreply⟩ | ⟨-, hreply⟩ | ⟨data, hframe, hreply⟩ | ⟨detail, hreply⟩
    · cases hreply.symm.trans h
    · cases hreply.symm.trans h
    · cases hreply.symm.trans h
      exact hframe
    · cases hreply.symm.trans h
  · rintro rfl
    rw [sent.dataReply_eq, parseReply_enclosed, if_neg hrefused, if_neg haccepted,
      if_neg (not_not_intro rfl), dataAfter_append]
    rfl

/-- **The grammar of replies.**  A frame is data if and only if it is the preamble, the command with
its sub-commands, the data and the terminator.  It is an acknowledgement or a refusal if and only if it
has at least six bytes, begins with the preamble and the byte for it, and ends with the terminator.
Every other frame is malformed.  Reading a frame never asks for a place that it does not have. -/
theorem reply_grammar {sent : CommandFrame} (hrefused : sent.command ≠ 0xFA)
    (haccepted : sent.command ≠ 0xFB) (frame : Bytes) :
    (∀ data, (parseReply sent frame : Except (Fault α) Reply) = .ok (.data data) ↔
        frame = sent.dataReply data) ∧
      ((parseReply sent frame : Except (Fault α) Reply) = .ok .ok ↔ Marked 0xFB frame) ∧
      ((parseReply sent frame : Except (Fault α) Reply) = .error (.rejected sent.command) ↔
        Marked 0xFA frame) ∧
      ((∃ detail, (parseReply sent frame : Except (Fault α) Reply) = .error (.framing detail)) ↔
        (∀ data, frame ≠ sent.dataReply data) ∧ ¬ Marked 0xFB frame ∧ ¬ Marked 0xFA frame) ∧
      (readReply? sent frame : Option (Except (Fault α) Reply)) = some (parseReply sent frame) := by
  have hdata (data : Bytes) : (parseReply sent frame : Except (Fault α) Reply) = .ok (.data data) ↔
      frame = sent.dataReply data := parseReply_data_iff hrefused haccepted
  refine ⟨hdata, parseReply_ok_iff, parseReply_rejected_iff, ?_, readReply?_eq sent frame⟩
  constructor
  · rintro ⟨detail, h⟩
    refine ⟨fun data hframe => ?_, fun hmarked => ?_, fun hmarked => ?_⟩
    · cases h.symm.trans ((hdata data).mpr hframe)
    · cases h.symm.trans (parseReply_ok_iff.mpr hmarked)
    · cases h.symm.trans (parseReply_rejected_iff.mpr hmarked)
  · rintro ⟨hnoData, hnoOk, hnoRefusal⟩
    rcases parseReply_cases (α := α) sent frame with
      ⟨hmarked, -⟩ | ⟨hmarked, -⟩ | ⟨data, hframe, -⟩ | hframing
    · exact absurd hmarked hnoRefusal
    · exact absurd hmarked hnoOk
    · exact absurd hframe (hnoData data)
    · exact hframing

/-- Data with a terminator in them are read behind two sub-commands; the terminator of a frame is not
taken for a sub-command. -/
theorem reply_grammar_subsub :
    (0x27 : UInt8) ≠ 0xFA ∧ (0x27 : UInt8) ≠ 0xFB ∧
      (parseReply ⟨0x27, some 0x11, some 0x00, [1]⟩
          [0xFE, 0xFE, 0xE0, 0xA2, 0x27, 0x11, 0x00, 0x02, 0xFD, 0x03, 0xFD] :
        Except (Fault Float) Reply) = .ok (.data [0x02, 0xFD, 0x03]) ∧
      ∃ detail, (parseReply ⟨0x27, some 0x11, some 0xFD, [1]⟩
          [0xFE, 0xFE, 0xE0, 0xA2, 0x27, 0x11, 0xFD] : Except (Fault Float) Reply) =
        .error (.framing detail) := by
  have hrefused : (0x27 : UInt8) ≠ 0xFA := by decide
  have haccepted : (0x27 : UInt8) ≠ 0xFB := by decide
  refine ⟨hrefused, haccepted, ?_, ?_⟩
  · exact ((@reply_grammar Float ⟨0x27, some 0x11, some 0x00, [1]⟩ hrefused haccepted _).1 _).mpr rfl
  · have hframing := (@reply_grammar Float ⟨0x27, some 0x11, some 0xFD, [1]⟩ hrefused haccepted
      [0xFE, 0xFE, 0xE0, 0xA2, 0x27, 0x11, 0xFD]).2.2.2.1
    refine hframing.mpr ⟨fun data h => ?_, fun h => ?_, fun h => ?_⟩
    · have hlength := congrArg List.length h
      simp [CommandFrame.dataReply] at hlength
    · exact absurd h.fifth (by decide)
    · exact absurd h.fifth (by decide)

end EarthStation.Radio
