import EarthStation.Yaml.Value

/-!
# Scalar — the forms in which YAML writes a text

* `Yaml.singleQuoted?`, `Yaml.doubleQuoted?`: texts in quotes.
* `Yaml.plain?`: texts without quotes.
* `Yaml.blockText?`: texts in lines of their own.

Each reads from the front of a list of characters and answers what follows.  Inside a text a line
break counts as a blank, and of several all but the first are kept.
-/

namespace EarthStation.Yaml

/-- The line breaks that are left after `normalize`. -/
def isBreak (c : Char) : Bool := c == '\n' || c == '\u2028' || c == '\u2029'

def isBlank (c : Char) : Bool := c == ' ' || c == '\t'

/-- Carriage returns and next-line characters become line feeds. -/
def normalize : List Char → List Char
  | [] => []
  | '\r' :: '\n' :: rest => '\n' :: normalize rest
  | c :: rest => (if c == '\r' || c == '\u0085' then '\n' else c) :: normalize rest

/-- Holds at a blank, at a line break and at the end. -/
def atGap : List Char → Bool
  | [] => true
  | c :: _ => isBlank c || isBreak c

/-- Holds at the marks that begin and end documents. -/
def atDocumentMark : List Char → Bool
  | '-' :: '-' :: '-' :: rest => atGap rest
  | '.' :: '.' :: '.' :: rest => atGap rest
  | _ => false

/-- The blanks and line breaks since the last other character. -/
structure Gap where
  /-- The blanks, in reverse, where no line was broken. -/
  blanks : List Char
  /-- The first line break; nothing if it was escaped. -/
  first : Option (List Char)
  /-- The line breaks after the first, in reverse. -/
  more : List Char

namespace Gap

def empty : Gap := ⟨[], none, []⟩

/-- An escaped line break. -/
def escaped : Gap := ⟨[], some [], []⟩

def add (g : Gap) (c : Char) : Gap :=
  if isBreak c then
    match g.first with
    | none => ⟨[], some [c], []⟩
    | some _ => { g with more := c :: g.more }
  else if g.first.isSome then g
  else { g with blanks := c :: g.blanks }

/-- The characters that a gap stands for, in reverse. -/
def reversed (g : Gap) : List Char :=
  match g.first with
  | none => g.blanks
  | some ['\n'] => if g.more.isEmpty then [' '] else g.more
  | some first => g.more ++ first.reverse

def isEmpty (g : Gap) : Bool := g.blanks.isEmpty && g.first.isNone

end Gap

/-- The column after a character. -/
def columnAfter (c : Char) (column : Nat) : Nat := if isBreak c then 0 else column + 1

/-- The quote that is doubled inside texts that it encloses. -/
def singleQuote : Char := Char.ofNat 39

/-- Reads on inside single quotes; `text` is what has been read, in reverse. -/
def singleQuoted? (column : Nat) (text : List Char) (gap : Gap) :
    List Char → Option (String × List Char)
  | [] => none
  | c :: rest =>
    if isBlank c || isBreak c then singleQuoted? (columnAfter c column) text (gap.add c) rest
    else if column = 0 && atDocumentMark (c :: rest) then none
    else if c == singleQuote then
      match rest with
      | [] => some (String.ofList (gap.reversed ++ text).reverse, [])
      | d :: rest =>
        if d == singleQuote then
          singleQuoted? (column + 2) (c :: gap.reversed ++ text) .empty rest
        else some (String.ofList (gap.reversed ++ text).reverse, d :: rest)
    else singleQuoted? (column + 1) (c :: gap.reversed ++ text) .empty rest

/-- The characters that a backslash and a letter stand for. -/
def escape? (c : Char) : Option Char :=
  match c with
  | '0' => some (Char.ofNat 0)
  | 'a' => some (Char.ofNat 7)
  | 'b' => some (Char.ofNat 8)
  | 't' | '\t' => some '\t'
  | 'n' => some '\n'
  | 'v' => some (Char.ofNat 11)
  | 'f' => some (Char.ofNat 12)
  | 'r' => some '\r'
  | 'e' => some (Char.ofNat 27)
  | ' ' | '"' | '/' | '\\' => some c
  | 'N' => some '\u0085'
  | '_' => some '\u00a0'
  | 'L' => some '\u2028'
  | 'P' => some '\u2029'
  | _ => if c == singleQuote then some c else none

/-- How many hexadecimal digits follow a letter after a backslash. -/
def escapeDigits : Char → Nat
  | 'x' => 2
  | 'u' => 4
  | 'U' => 8
  | _ => 0

/-- The character with a number, if there is one. -/
def character? (n : Nat) : Option Char :=
  if n < 0xD800 ∨ (0xDFFF < n ∧ n ≤ 0x10FFFF) then some (Char.ofNat n) else none

/-- Reads what follows a backslash: the character and the rest. -/
def escaped? : List Char → Option (Char × List Char)
  | [] => none
  | c :: rest =>
    match escape? c, escapeDigits c with
    | some d, _ => some (d, rest)
    | none, 0 => none
    | none, count =>
      if count ≤ rest.length then do
        let n ← Value.natural? 16 (rest.take count)
        let d ← character? n
        pure (d, rest.drop count)
      else none

/-- Reads on inside double quotes; `fuel` is not below the number of characters. -/
def doubleQuoted? : (fuel column : Nat) → (text : List Char) → Gap → List Char →
    Option (String × List Char)
  | 0, _, _, _, _ => none
  | _ + 1, _, _, _, [] => none
  | fuel + 1, column, text, gap, c :: rest =>
    if isBlank c || isBreak c then
      doubleQuoted? fuel (columnAfter c column) text (gap.add c) rest
    else if column = 0 && atDocumentMark (c :: rest) then none
    else
      let text := gap.reversed ++ text
      if c == '"' then some (String.ofList text.reverse, rest)
      else if c == '\\' then
        match rest with
        | [] => none
        | d :: after =>
          if isBreak d then doubleQuoted? fuel 0 text .escaped after
          else match escaped? (d :: after) with
            | none => none
            | some (e, after) => doubleQuoted? fuel (column + 2) (e :: text) .empty after
      else doubleQuoted? fuel (column + 1) (c :: text) .empty rest

/-! ## Texts without quotes -/

/-- The characters that end a text inside brackets. -/
def isFlowMark (c : Char) : Bool := [',', '[', ']', '{', '}'].contains c

/-- What was read, what follows, and whether a line was broken behind the text. -/
structure PlainText where
  text : String
  rest : List Char
  brokeLine : Bool

/-- Reads on in a text without quotes that lines from the column `indent` on belong to. -/
def plain? (flow : Bool) (indent : Nat) :
    (column : Nat) → (text : List Char) → Gap → List Char → Option PlainText
  | _, text, gap, [] => some ⟨String.ofList text.reverse, [], gap.first.isSome⟩
  | column, text, gap, c :: rest =>
    let stop : Option PlainText :=
      some ⟨String.ofList text.reverse, c :: rest, gap.first.isSome⟩
    if isBlank c || isBreak c then
      if c == '\t' && gap.first.isSome && column < indent then none
      else plain? flow indent (columnAfter c column) text (gap.add c) rest
    else if !gap.isEmpty && (c == '#' || (!flow && column < indent)) then stop
    else if column = 0 && atDocumentMark (c :: rest) then stop
    else if c == ':' && atGap rest then stop
    else if flow && c == ':' && (rest.head?.any fun d => isFlowMark d || d == '?') then none
    else if flow && isFlowMark c then stop
    else plain? flow indent (column + 1) (c :: gap.reversed ++ text) .empty rest

/-! ## Texts in lines of their own -/

/-- What becomes of the line breaks at the end of a text. -/
inductive Chomping where
  | strip
  | clip
  | keep
deriving DecidableEq

/-- The marks behind the one that opens the text, in either order: the chomping and the indentation. -/
def blockHeader? : List Char → Option (Chomping × Option Nat × List Char)
  | cs =>
    let chomping (c : Char) : Option Chomping :=
      if c == '+' then some .keep else if c == '-' then some .strip else none
    let digit (c : Char) : Option Nat := if '1' ≤ c ∧ c ≤ '9' then some (Decimal.digitValue c) else none
    match cs with
    | [] => some (.clip, none, [])
    | c :: rest =>
      match chomping c, digit c with
      | some h, _ =>
        match rest with
        | d :: after => if (digit d).isSome then some (h, digit d, after) else some (h, none, rest)
        | [] => some (h, none, [])
      | none, some n =>
        match rest with
        | d :: after =>
          match chomping d with
          | some h => some (h, some n, after)
          | none => some (.clip, some n, rest)
        | [] => some (.clip, some n, [])
      | none, none => some (.clip, none, cs)

/-- Drops blanks and a comment up to the end of the line, and the line break. -/
def endOfLine? (cs : List Char) : Option (List Char) :=
  let rest := cs.dropWhile isBlank
  let rest := if rest.head? == some '#' then rest.dropWhile fun c => !isBreak c else rest
  match rest with
  | [] => some []
  | c :: rest => if isBreak c then some rest else none

/-- Empty lines, and where the next line begins. -/
structure EmptyLines where
  /-- Their line breaks, in reverse. -/
  breaks : List Char
  /-- The largest number of leading spaces. -/
  widest : Nat
  /-- The leading spaces of the line that follows. -/
  column : Nat
  rest : List Char

/-- Skips empty lines and the indentation of the next one; `indent` is unknown at first. -/
def emptyLines? (indent : Option Nat) :
    (column : Nat) → (breaks : List Char) → (widest : Nat) → List Char → Option EmptyLines
  | column, breaks, widest, [] => some ⟨breaks, max widest column, column, []⟩
  | column, breaks, widest, c :: rest =>
    let within := match indent with
      | none => true
      | some n => column < n
    if c == ' ' && within then emptyLines? indent (column + 1) breaks widest rest
    else if c == '\t' && within then none
    else if isBreak c then emptyLines? indent 0 (c :: breaks) (max widest column) rest
    else some ⟨breaks, max widest column, column, c :: rest⟩

/-- A text in lines of its own while it is read. -/
structure BlockState where
  /-- What has been read, in reverse. -/
  text : List Char
  /-- The break of the last line. -/
  leading : List Char
  /-- The breaks of empty lines since, in reverse. -/
  trailing : List Char
  /-- Whether the last line began with a blank. -/
  wasBlank : Bool

/-- Reads the lines that begin at the column `indent`; `fuel` is not below their number. -/
def blockLines? (literal : Bool) (indent : Nat) :
    (fuel column : Nat) → BlockState → List Char → Option (BlockState × List Char)
  | 0, _, _, _ => none
  | fuel + 1, column, s, cs =>
    if column ≠ indent || cs.isEmpty then some (s, cs)
    else
      let blank := cs.head?.any isBlank
      let text :=
        if !literal && s.leading == ['\n'] && !s.wasBlank && !blank then
          if s.trailing.isEmpty then ' ' :: s.text else s.trailing ++ s.text
        else s.trailing ++ s.leading ++ s.text
      let line := cs.takeWhile fun c => !isBreak c
      let text := line.reverse ++ text
      match cs.dropWhile fun c => !isBreak c with
      | [] => some (⟨text, [], [], blank⟩, [])
      | b :: rest =>
        match emptyLines? (some indent) 0 [] 0 rest with
        | none => none
        | some e => blockLines? literal indent fuel e.column ⟨text, [b], e.breaks, blank⟩ e.rest

/-- Reads a text behind the mark that opens it, for a parent at the column `parent`. -/
def blockText? (literal : Bool) (parent : Int) (cs : List Char) : Option (String × List Char) := do
  let (chomping, increment, rest) ← blockHeader? cs
  let rest ← endOfLine? rest
  let known : Option Nat := increment.map fun n => ((max parent 0) + n).toNat
  let e ← emptyLines? known 0 [] 0 rest
  let indent := known.getD (max (max e.widest (parent + 1).toNat) 1)
  let start : BlockState := ⟨[], [], e.breaks, false⟩
  let (s, rest) ← blockLines? literal indent (cs.length + 1) e.column start e.rest
  let text := match chomping with
    | .strip => s.text
    | .clip => s.leading ++ s.text
    | .keep => s.trailing ++ s.leading ++ s.text
  pure (String.ofList text.reverse, rest)

end EarthStation.Yaml
