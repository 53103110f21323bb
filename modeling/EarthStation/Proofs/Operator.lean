import EarthStation.Operator
import EarthStation.Proofs.Rotator.Range
import EarthStation.Proofs.Text.Words

/-!
# Operator — a stream of lines is applied faithfully

* `Operator.Pins`, `Operator.Asks`: what a line asks for, by its words.
* `Operator.Request.ofLine?_eq_some_iff`: lines are read by these rules.
* `Operator.Stops`: where a stream is not followed any further.
* `Operator.hear_upTo`: what a stream comes to that is followed to such a place.
* `Operator.stream_law`: the commands of a stream, how it ends, and which positions are held.
-/

namespace EarthStation.Operator

open Rotator (Position)
open Text (FirstWord words)
open Tracking (Command)

variable {line : List Char} {p : Position Float} {r : Request}

/-! ## Lines -/

/-- The requests that are a single letter. -/
def letters : List (Char × Request) :=
  [('u', .command .unlock), ('s', .command .start), ('x', .command .stop), ('h', .command .home),
    ('a', .command .auxiliary), ('r', .command .unpin), ('q', .quit)]

/-- A line asks for the antenna to be held at a position: the letter for it is the first word, numerals
for azimuth and elevation are the second and the third, and the rotator can take the position. -/
inductive Pins (line : List Char) (p : Position Float) : Prop
  | intro {azimuth elevation rest rest' rest'' : List Char} (letter : FirstWord line ['p'] rest)
    (second : FirstWord rest azimuth rest') (third : FirstWord rest' elevation rest'')
    (azimuthDeg : Decimal.readFloat? azimuth = some p.azimuthDeg)
    (elevationDeg : Decimal.readFloat? elevation = some p.elevationDeg)
    (within : p.withinLimits = true)

/-- What a line asks for. -/
inductive Asks (line : List Char) : Request → Prop
  | letter {c : Char} {r : Request} {rest : List Char} (h : (c, r) ∈ letters)
    (first : FirstWord line [c] rest) : Asks line r
  | pin {p : Position Float} (h : Pins line p) : Asks line (.command (.pin p))

theorem position?_eq_some_iff {azimuth elevation : List Char} :
    position? azimuth elevation = some p ↔ Decimal.readFloat? azimuth = some p.azimuthDeg ∧
      Decimal.readFloat? elevation = some p.elevationDeg ∧ p.withinLimits = true := by
  unfold position?
  cases Decimal.readFloat? azimuth with
  | none => simp
  | some a =>
    cases Decimal.readFloat? elevation with
    | none => simp
    | some e =>
      obtain ⟨a', e'⟩ := p
      simp only [Option.bind_eq_bind, Option.bind_some, Option.ite_none_right_eq_some,
        Option.some.injEq, Position.mk.injEq]
      constructor
      · rintro ⟨hwithin, rfl, rfl⟩
        exact ⟨rfl, rfl, hwithin⟩
      · rintro ⟨rfl, rfl, hwithin⟩
        exact ⟨hwithin, rfl, rfl⟩

theorem ofLine?_pin : Request.ofLine? line = some (.command (.pin p)) ↔ Pins line p := by
  constructor
  · intro h
    unfold Request.ofLine? at h
    split at h
    all_goals try cases h
    rename_i azimuth elevation ws hwords
    obtain ⟨q, hq, hpin⟩ := Option.map_eq_some_iff.mp h
    cases hpin
    obtain ⟨rest, hletter, hrest⟩ := Text.words_eq_cons_iff.mp hwords
    obtain ⟨rest', hsecond, hrest'⟩ := Text.words_eq_cons_iff.mp hrest
    obtain ⟨rest'', hthird, -⟩ := Text.words_eq_cons_iff.mp hrest'
    obtain ⟨hazimuth, helevation, hwithin⟩ := position?_eq_some_iff.mp hq
    exact ⟨hletter, hsecond, hthird, hazimuth, helevation, hwithin⟩
  · rintro ⟨hletter, hsecond, hthird, hazimuth, helevation, hwithin⟩
    unfold Request.ofLine?
    rw [Text.words_of_firstWord hletter, Text.words_of_firstWord hsecond, Text.words_of_firstWord hthird]
    exact Option.map_eq_some_iff.mpr
      ⟨p, position?_eq_some_iff.mpr ⟨hazimuth, helevation, hwithin⟩, rfl⟩

/-- **Lines are read by these rules.** -/
theorem ofLine?_eq_some_iff : Request.ofLine? line = some r ↔ Asks line r := by
  constructor
  · intro h
    have hwords (c : Char) {ws : List (List Char)} (hcons : words line = [c] :: ws) :
        ∃ rest, FirstWord line [c] rest := by
      obtain ⟨rest, hfirst, -⟩ := Text.words_eq_cons_iff.mp hcons
      exact ⟨rest, hfirst⟩
    have hline := h
    unfold Request.ofLine? at h
    split at h
    case h_8 =>
      obtain ⟨q, -, rfl⟩ := Option.map_eq_some_iff.mp h
      exact .pin (ofLine?_pin.mp hline)
    case h_9 => cases h
    all_goals
      cases h
      obtain ⟨rest, hfirst⟩ := hwords _ ‹_›
      exact .letter (by simp [letters]) hfirst
  · rintro (⟨hletter, hfirst⟩ | hpins)
    · have hwords := Text.words_of_firstWord hfirst
      simp only [letters, List.mem_cons, Prod.mk.injEq, List.not_mem_nil, or_false] at hletter
      unfold Request.ofLine?
      rcases hletter with ⟨rfl, rfl⟩ | ⟨rfl, rfl⟩ | ⟨rfl, rfl⟩ | ⟨rfl, rfl⟩ | ⟨rfl, rfl⟩ |
        ⟨rfl, rfl⟩ | ⟨rfl, rfl⟩
      all_goals simp [hwords]
    · exact ofLine?_pin.mpr hpins

/-! ## Streams -/

/-- Holds of the lines that ask for the end of the run. -/
def Quits (line : String) : Prop := ∃ rest, FirstWord line.toList ['q'] rest

theorem quits_iff {line : String} : Quits line ↔ (words line.toList).head? = some ['q'] := by
  rw [List.head?_eq_some_iff]
  constructor
  · rintro ⟨rest, hfirst⟩
    exact ⟨_, Text.words_of_firstWord hfirst⟩
  · rintro ⟨ws, hwords⟩
    obtain ⟨rest, hfirst, -⟩ := Text.words_eq_cons_iff.mp hwords
    exact ⟨rest, hfirst⟩

instance (line : String) : Decidable (Quits line) := decidable_of_iff _ quits_iff.symm

theorem ofLine?_quit {line : String} : Request.ofLine? line.toList = some .quit ↔ Quits line := by
  rw [ofLine?_eq_some_iff]
  constructor
  · intro h
    generalize hr : Request.quit = r at h
    rcases h with ⟨hletter, hfirst⟩ | -
    · subst hr
      simp only [letters, List.mem_cons, Prod.mk.injEq, reduceCtorEq, and_false, false_or, and_true,
        List.not_mem_nil, or_false] at hletter
      exact ⟨_, hletter ▸ hfirst⟩
    · cases hr
  · rintro ⟨rest, hfirst⟩
    exact .letter (by simp [letters]) hfirst

/-- The command that a line asks for, if it asks for one. -/
def command? (line : String) : Option (Command Float) :=
  match Request.ofLine? line.toList with
  | some (.command c) => some c
  | _ => none

theorem command?_eq_some_iff {line : String} {c : Command Float} :
    command? line = some c ↔ Request.ofLine? line.toList = some (.command c) := by
  unfold command?
  rcases Request.ofLine? line.toList with _ | _ | _ <;> simp

/-- Where a stream is not followed any further: at its end, at a line that cannot be read, or at one that
asks for the end of the run. -/
inductive Stops : List (Except IoError String) → Prop
  | ended : Stops []
  | unread (cause : IoError) (later : List (Except IoError String)) : Stops (.error cause :: later)
  | quit {line : String} (h : Quits line) (later : List (Except IoError String)) :
    Stops (.ok line :: later)

/-- Holds where a line comes next that asks for the end of the run. -/
def QuitsNext (rest : List (Except IoError String)) : Prop :=
  ∃ line later, rest = .ok line :: later ∧ Quits line

/-- Every stream is followed to some such place. -/
theorem exists_stops (lines : List (Except IoError String)) :
    ∃ (heeded : List String) (rest : List (Except IoError String)),
      lines = heeded.map .ok ++ rest ∧ (∀ line ∈ heeded, ¬ Quits line) ∧ Stops rest := by
  induction lines with
  | nil => exact ⟨[], [], rfl, nofun, .ended⟩
  | cons l lines ih =>
    cases l with
    | error cause => exact ⟨[], _, rfl, nofun, .unread cause lines⟩
    | ok line =>
      by_cases hquits : Quits line
      · exact ⟨[], _, rfl, nofun, .quit hquits lines⟩
      · obtain ⟨heeded, rest, rfl, hheeded, hstops⟩ := ih
        exact ⟨line :: heeded, rest, rfl, List.forall_mem_cons.mpr ⟨hquits, hheeded⟩, hstops⟩

/-- One more line, with the command that it asks for if it asks for one. -/
def Heard.afterHeeded (line : String) (h : Heard) : Heard :=
  { h with commands := (command? line).toList ++ h.commands, linesTaken := h.linesTaken + 1 }

/-- A line that does not ask for the end of the run adds what it asks for, which may be nothing. -/
theorem hear_heeded {line : String} (h : ¬ Quits line) (lines : List (Except IoError String)) :
    hear true (.ok line :: lines) = (hear true lines).afterHeeded line := by
  unfold Heard.afterHeeded command?
  rw [hear]
  split
  · rename_i hnone
    rw [hnone]
    rfl
  · rename_i hquit
    exact absurd (ofLine?_quit.mp hquit) h
  · rename_i c hcommand
    rw [hcommand]
    rfl

/-- What is heard at a place where the stream is not followed any further. -/
theorem hear_stops {rest : List (Except IoError String)} (h : Stops rest) :
    (hear true rest).commands = [] ∧ ((hear true rest).running = false ↔ QuitsNext rest) ∧
      (hear true rest).linesTaken = min 1 rest.length := by
  cases h with
  | ended => exact ⟨rfl, ⟨nofun, by rintro ⟨_, _, ⟨⟩, -⟩⟩, rfl⟩
  | unread cause later =>
    exact ⟨rfl, ⟨nofun, by rintro ⟨_, _, ⟨⟩, -⟩⟩, by simp [hear, Heard.nothing, Heard.afterLine]⟩
  | @quit line hquits later =>
    rw [hear, ofLine?_quit.mpr hquits]
    exact ⟨rfl, ⟨fun _ => ⟨line, later, rfl, hquits⟩, fun _ => rfl⟩, by simp⟩

/-- **What a stream comes to**: the commands of the lines in front of the place where it is not followed
any further, in order. -/
theorem hear_upTo {heeded : List String} (hheeded : ∀ line ∈ heeded, ¬ Quits line)
    {rest : List (Except IoError String)} (hrest : Stops rest) :
    (hear true (heeded.map .ok ++ rest)).commands = heeded.filterMap command? ∧
      ((hear true (heeded.map .ok ++ rest)).running = false ↔ QuitsNext rest) ∧
      (hear true (heeded.map .ok ++ rest)).linesTaken = heeded.length + min 1 rest.length := by
  induction heeded with
  | nil =>
    obtain ⟨hcommands, hrunning, htaken⟩ := hear_stops hrest
    exact ⟨hcommands, hrunning, htaken.trans (Nat.zero_add _).symm⟩
  | cons line heeded ih =>
    obtain ⟨hline, hheeded⟩ := List.forall_mem_cons.mp hheeded
    obtain ⟨hcommands, hrunning, htaken⟩ := ih hheeded
    rw [List.map_cons, List.cons_append, hear_heeded hline]
    refine ⟨?_, hrunning, ?_⟩
    · rw [Heard.afterHeeded, hcommands, List.filterMap_cons]
      cases command? line <;> rfl
    · have htaken' : ((hear true (heeded.map .ok ++ rest)).afterHeeded line).linesTaken =
          heeded.length + min 1 rest.length + 1 := congrArg (· + 1) htaken
      rw [htaken', List.length_cons]
      omega

/-- **The law of the operator stream.**  Every stream is followed to its end, to a line that cannot be read
or to one whose first word is `q`.  Its commands are those of the lines in front of that place, one after
the other; lines that ask for nothing make no difference.  The run is ended just if it was followed to
such a word, and no line behind it is taken.

What a line asks for is told by its words: it asks for a position to be held just if its first word is `p`
and its second and third word are numerals of a position within the limits.  So all that are asked for
in a stream are within the limits, and neither of their angles is undefined or infinite. -/
theorem stream_law :
    (∀ lines : List (Except IoError String), ∃ (heeded : List String) (rest : List (Except IoError String)),
      lines = heeded.map .ok ++ rest ∧ (∀ line ∈ heeded, ¬ Quits line) ∧ Stops rest) ∧
    (∀ (heeded : List String) (rest : List (Except IoError String)),
      (∀ line ∈ heeded, ¬ Quits line) → Stops rest →
        let heard := hear true (heeded.map .ok ++ rest)
        heard.commands = heeded.filterMap command? ∧
        (heard.running = false ↔ QuitsNext rest) ∧
        heard.linesTaken = heeded.length + min 1 rest.length) ∧
    (∀ line c, command? line = some c ↔ Asks line.toList (.command c)) ∧
    (∀ line p, command? line = some (.pin p) ↔ Pins line.toList p) ∧
    (∀ lines p, .pin p ∈ (hear true lines).commands → p.withinLimits = true) ∧
    ∀ p : Position Float, p.withinLimits = true →
      p.azimuthDeg.isFinite = true ∧ p.elevationDeg.isFinite = true := by
  have hpin (line : String) (p : Position Float) : command? line = some (.pin p) ↔ Pins line.toList p :=
    command?_eq_some_iff.trans ofLine?_pin
  refine ⟨exists_stops, fun heeded rest hheeded hrest => hear_upTo hheeded hrest,
    fun line c => command?_eq_some_iff.trans ofLine?_eq_some_iff, hpin, fun lines p hp => ?_,
    fun p hp => ?_⟩
  · obtain ⟨heeded, rest, rfl, hheeded, hrest⟩ := exists_stops lines
    rw [(hear_upTo hheeded hrest).1] at hp
    obtain ⟨line, -, hline⟩ := List.mem_filterMap.mp hp
    obtain ⟨-, -, -, -, -, hwithin⟩ := (hpin line p).mp hline
    exact hwithin
  · exact (Rotator.withinLimits_iff.mp hp).finite

/-- A stream with blank and senseless lines and a position that does not exist, up to a line in the middle
that ends the run. -/
theorem stream_law_quit :
    let heeded := ["u\n", " \u2003\n", "p nan 3\n", "\tp  120 35.5 now\n", "stop\n", "p 1\n"]
    let rest : List (Except IoError String) := [.ok " q\n", .ok "h\n", .error .notText]
    ((∀ line ∈ heeded, ¬ Quits line) ∧ Stops rest) ∧
      (hear true (heeded.map .ok ++ rest)).commands = [.unlock, .pin ⟨120, 35.5⟩] ∧
      (hear true (heeded.map .ok ++ rest)).running = false ∧
      (hear true (heeded.map .ok ++ rest)).linesTaken = 7 := by
  intro heeded rest
  have hheeded : ∀ line ∈ heeded, ¬ Quits line := by decide
  have hquits : Quits " q\n" := by decide
  have hrest : Stops rest := .quit hquits _
  obtain ⟨-, hfollowed, -⟩ := stream_law
  obtain ⟨hcommands, hrunning, htaken⟩ := hfollowed heeded rest hheeded hrest
  have hasked : heeded.filterMap command? = [.unlock, .pin ⟨120, 35.5⟩] := by decide +kernel
  exact ⟨⟨hheeded, hrest⟩, hcommands.trans hasked, hrunning.mpr ⟨_, _, rfl, hquits⟩, htaken⟩

end EarthStation.Operator
