import EarthStation.Pattern.Expression
import EarthStation.Decimal.Reader

/-!
# Reader — the notation of patterns

* `Pattern.Flags`: how letters, dots and anchors are taken.
* `Pattern.Reader.bracket?`: sets of characters between square brackets.
* `Pattern.ofString?`: a pattern, or `none` where the notation is violated.

Look-around and references to groups are not part of the notation.
-/

namespace EarthStation.Pattern

/-- How letters, dots and anchors are taken. -/
structure Flags where
  caseless : Bool
  /-- Anchors hold at line ends as well. -/
  multiline : Bool
  /-- The dot takes line feeds as well. -/
  dotAll : Bool
  /-- Blanks and comments between the parts are skipped. -/
  verbose : Bool
deriving DecidableEq, Repr

/-- A set as the flags take it. -/
def Flags.apply (f : Flags) (s : CharSet) : CharSet := if f.caseless then .caseless s else s

namespace Reader

abbrev Rest := List Char

def hexValue? (c : Char) : Option Nat :=
  if '0' ≤ c ∧ c ≤ '9' then some (c.toNat - 48)
  else if 'a' ≤ c ∧ c ≤ 'f' then some (c.toNat - 87)
  else if 'A' ≤ c ∧ c ≤ 'F' then some (c.toNat - 55)
  else none

/-- The character with a hexadecimal code. -/
def hexChar? (ds : List Char) : Option Char :=
  if ds.isEmpty then none
  else do
    let n ← ds.foldlM (fun n c => (hexValue? c).map (16 * n + ·)) 0
    if h : n.isValidChar then some (Char.ofNatAux n h) else none

/-- A hexadecimal code, in braces or with a fixed number of digits. -/
def hexCode? (width : Nat) : Rest → Option (Char × Rest)
  | '\x7b' :: rest =>
    let ds := rest.takeWhile (· ≠ '\x7d')
    match rest.dropWhile (· ≠ '\x7d') with
    | _ :: rest => (hexChar? ds).map (·, rest)
    | [] => none
  | rest =>
    if rest.length < width then none
    else (hexChar? (rest.take width)).map (·, rest.drop width)

/-- A named set such as the digits; a capital letter means the complement. -/
def namedSet? : Char → Option CharSet
  | 'd' => some .digit
  | 'D' => some (.complement .digit)
  | 'w' => some .word
  | 'W' => some (.complement .word)
  | 's' => some .blank
  | 'S' => some (.complement .blank)
  | _ => none

/-- A character that stands for another one behind a backslash. -/
def controlChar? : Char → Option Char
  | 'n' => some '\n'
  | 't' => some '\t'
  | 'r' => some '\r'
  | 'a' => some '\x07'
  | 'f' => some '\x0c'
  | 'v' => some '\x0b'
  | _ => none

/-- Punctuation stands for itself behind a backslash. -/
def isEscapable (c : Char) : Bool :=
  c.toNat < 128 && !c.isAlphanum && c != '<' && c != '>'

/-- What a backslash and the characters behind it stand for, where that is a character or a set. -/
inductive Escape where
  | literal (c : Char)
  | set (s : CharSet)

def escape? : Rest → Option (Escape × Rest)
  | [] => none
  | c :: rest =>
    match namedSet? c, controlChar? c with
    | some s, _ => some (.set s, rest)
    | none, some l => some (.literal l, rest)
    | none, none =>
      if c = 'x' then (hexCode? 2 rest).map fun (l, rest) => (.literal l, rest)
      else if c = 'u' then (hexCode? 4 rest).map fun (l, rest) => (.literal l, rest)
      else if c = 'U' then (hexCode? 8 rest).map fun (l, rest) => (.literal l, rest)
      else if isEscapable c then some (.literal c, rest)
      else none

/-! ## Sets in brackets -/

/-- The sets named between `[:` and `:]`. -/
def posixSet? (name : String) : Option CharSet :=
  let r (a b : Char) : CharSet := .range a.toNat b.toNat
  match name with
  | "alnum" => some (.union (r '0' '9') (.union (r 'A' 'Z') (r 'a' 'z')))
  | "alpha" => some (.union (r 'A' 'Z') (r 'a' 'z'))
  | "ascii" => some (.range 0 127)
  | "blank" => some (.union (r ' ' ' ') (r '\t' '\t'))
  | "cntrl" => some (.union (.range 0 31) (.range 127 127))
  | "digit" => some (r '0' '9')
  | "graph" => some (r '!' '~')
  | "lower" => some (r 'a' 'z')
  | "print" => some (r ' ' '~')
  | "punct" =>
    some (.union (.union (r '!' '/') (r ':' '@'))
      (.union (.range 91 96) (.range 123 126)))
  | "space" => some (.union (.range 9 13) (r ' ' ' '))
  | "upper" => some (r 'A' 'Z')
  | "word" => some (.union (.union (r '0' '9') (r 'A' 'Z')) (.union (r 'a' 'z') (r '_' '_')))
  | "xdigit" => some (.union (r '0' '9') (.union (r 'A' 'F') (r 'a' 'f')))
  | _ => none

/-- A set named between `[:` and `:]`, where there is one. -/
def posix? (rest : Rest) : Option (CharSet × Rest) :=
  match rest with
  | '[' :: ':' :: rest =>
    let (negated, rest) := match rest with
      | '^' :: rest => (true, rest)
      | rest => (false, rest)
    let name := rest.takeWhile (· ≠ ':')
    match rest.dropWhile (· ≠ ':') with
    | ':' :: ']' :: rest =>
      (posixSet? (String.ofList name)).map fun s => (if negated then .complement s else s, rest)
    | _ => none
  | _ => none

/-- One member of a bracket: a character or a named set. -/
def member? : Rest → Option (Escape × Rest)
  | [] => none
  | '\\' :: rest => escape? rest
  | c :: rest => some (.literal c, rest)

/-- A member, or a range between two characters. -/
def rangeOrMember? (rest : Rest) : Option (CharSet × Rest) := do
  let (first, rest) ← member? rest
  let alone : CharSet := match first with
    | .literal c => .single c
    | .set s => s
  match rest with
  | '-' :: ']' :: _ => some (alone, rest)
  | '-' :: '-' :: _ => some (alone, rest)
  | ['-'] => none
  | '-' :: rest =>
    let (last, rest) ← member? rest
    match first, last with
    | .literal a, .literal b => if a ≤ b then some (.range a.toNat b.toNat, rest) else none
    | _, _ => none
  | _ => some (alone, rest)

/-- How two parts of a bracket are joined. -/
inductive Operation where
  | intersection
  | difference
  | exclusive

def Operation.join : Operation → CharSet → CharSet → CharSet
  | intersection, a, b => .intersection a b
  | difference, a, b => .difference a b
  | exclusive, a, b => .exclusive a b

/-- The part of a bracket before an operation that waits for its right side. -/
abbrev Pending := Option (CharSet × Operation)

def Pending.close (p : Pending) (s : CharSet) : CharSet :=
  match p with
  | some (left, op) => op.join left s
  | none => s

mutual

/-- The rest of a bracket; `s` holds the members read so far since the last operation. -/
def members? (f : Flags) : (fuel : Nat) → Pending → CharSet → Rest → Option (CharSet × Rest)
  | 0, _, _, _ => none
  | fuel + 1, pending, s, rest =>
    match rest with
    | [] => none
    | ']' :: rest => some (pending.close s, rest)
    | '&' :: '&' :: rest =>
      members? f fuel (some (pending.close s, .intersection)) .none rest
    | '-' :: '-' :: rest => members? f fuel (some (pending.close s, .difference)) .none rest
    | '~' :: '~' :: rest => members? f fuel (some (pending.close s, .exclusive)) .none rest
    | '[' :: _ =>
      match posix? rest with
      | some (named, rest) => members? f fuel pending (.union s named) rest
      | none =>
        match bracket? f fuel rest with
        | some (inner, rest) => members? f fuel pending (.union s inner) rest
        | none => none
    | c :: tail =>
      if f.verbose && Text.isBlank c then members? f fuel pending s tail
      else
        match rangeOrMember? rest with
        | some (item, rest) => members? f fuel pending (.union s item) rest
        | none => none

/-- A set between square brackets.  A closing bracket right at the beginning, and hyphens there,
stand for themselves. -/
def bracket? (f : Flags) : (fuel : Nat) → Rest → Option (CharSet × Rest)
  | 0, _ => none
  | fuel + 1, rest =>
    match rest with
    | '[' :: rest =>
      let (negated, rest) := match rest with
        | '^' :: rest => (true, rest)
        | rest => (false, rest)
      let hyphens := rest.takeWhile (· = '-')
      let rest := rest.dropWhile (· = '-')
      let s : CharSet := if hyphens.isEmpty then .none else .single '-'
      let (s, rest) : CharSet × Rest := match hyphens, rest with
        | [], ']' :: rest => (.single ']', rest)
        | _, rest => (s, rest)
      (members? f fuel none s rest).map fun (s, rest) =>
        let s := f.apply s
        (if negated then .complement s else s, rest)
    | _ => none

end

/-! ## Repetitions -/

/-- A whole number with blanks around it. -/
def count? (rest : Rest) : Option (Option Nat × Rest) :=
  let rest := rest.dropWhile Text.isBlank
  let ds := rest.takeWhile Decimal.isDigit
  let rest := (rest.dropWhile Decimal.isDigit).dropWhile Text.isBlank
  if ds.isEmpty then some (none, rest)
  else if Decimal.natural ds < UInt32.size then some (some (Decimal.natural ds), rest)
  else none

/-- The bounds of a repetition behind an opening brace. -/
def bounds? (rest : Rest) : Option ((Nat × Option Nat) × Rest) := do
  let (least, rest) ← count? rest
  let least ← least
  match rest with
  | '\x7d' :: rest => some ((least, some least), rest)
  | ',' :: rest =>
    match rest.dropWhile Text.isBlank with
    | '\x7d' :: rest => some ((least, none), rest)
    | rest =>
      let (most, rest) ← count? rest
      let most ← most
      match rest with
      | '\x7d' :: rest => if least ≤ most then some ((least, some most), rest) else none
      | _ => none
  | _ => none

/-- A question mark behind a repetition only changes which match is preferred. -/
def skipLazy : Rest → Rest
  | '?' :: rest => rest
  | rest => rest

/-- The repetitions that follow an expression. -/
def repetitions? : (fuel : Nat) → Expression → Rest → Option (Expression × Rest)
  | 0, _, _ => none
  | fuel + 1, e, rest =>
    match rest with
    | '*' :: rest => repetitions? fuel (.repeated 0 none e) (skipLazy rest)
    | '+' :: rest => repetitions? fuel (.repeated 1 none e) (skipLazy rest)
    | '?' :: rest => repetitions? fuel (.repeated 0 (some 1) e) (skipLazy rest)
    | '\x7b' :: rest => do
      let ((least, most), rest) ← bounds? rest
      repetitions? fuel (.repeated least most e) (skipLazy rest)
    | _ => some (e, rest)

/-! ## Groups and sequences -/

/-- The flags that letters between `(?` and `)` or `:` set, and what follows. -/
def flagLetters? : (negated : Bool) → Flags → Rest → Option (Flags × Rest)
  | _, _, [] => none
  | negated, f, c :: rest =>
    match c with
    | ')' | ':' => some (f, c :: rest)
    | '-' => if negated then none else flagLetters? true f rest
    | 'i' => flagLetters? negated { f with caseless := !negated } rest
    | 'm' => flagLetters? negated { f with multiline := !negated } rest
    | 's' => flagLetters? negated { f with dotAll := !negated } rest
    | 'x' => flagLetters? negated { f with verbose := !negated } rest
    | 'U' | 'u' | 'R' => flagLetters? negated f rest
    | _ => none

/-- Holds of the characters of group names. -/
def isNameChar (first : Bool) (c : Char) : Bool :=
  c == '_' || c.isAlpha || (!first && (Decimal.isDigit c || c == '.' || c == '[' || c == ']'))

/-- The name of a group and the closing angle bracket. -/
def groupName? (rest : Rest) : Option Rest :=
  let name := rest.takeWhile (· ≠ '>')
  match name, rest.dropWhile (· ≠ '>') with
  | c :: more, _ :: rest =>
    if isNameChar true c && more.all (isNameChar false) then some rest else none
  | _, _ => none

/-- How a group begins: with its own flags, or as a change of flags for what follows. -/
inductive Opening where
  | group (f : Flags)
  | change (f : Flags)

/-- Reads what stands behind an opening parenthesis. -/
def opening? (f : Flags) : Rest → Option (Opening × Rest)
  | '?' :: 'P' :: '<' :: rest => (groupName? rest).map (.group f, ·)
  | '?' :: '<' :: '=' :: _ => none
  | '?' :: '<' :: '!' :: _ => none
  | '?' :: '<' :: rest => (groupName? rest).map (.group f, ·)
  | '?' :: ')' :: _ => none
  | '?' :: rest =>
    match flagLetters? false f rest with
    | some (f, ':' :: rest) => some (.group f, rest)
    | some (f, ')' :: rest) => some (.change f, rest)
    | _ => none
  | rest => some (.group f, rest)

/-- The anchor or set that a backslash and a letter stand for. -/
def escapedExpression? (f : Flags) : Rest → Option (Expression × Rest)
  | 'b' :: rest =>
    let special := [("start", Anchor.wordStart), ("end", .wordEnd),
      ("start-half", .wordStartHalf), ("end-half", .wordEndHalf)]
    match rest with
    | '\x7b' :: inner =>
      let name := String.ofList (inner.takeWhile (· ≠ '\x7d'))
      match special.find? (·.1 = name), inner.dropWhile (· ≠ '\x7d') with
      | some (_, a), _ :: rest => some (.anchor a, rest)
      | _, _ => some (.anchor .wordBoundary, rest)
    | _ => some (.anchor .wordBoundary, rest)
  | 'B' :: rest => some (.anchor .noWordBoundary, rest)
  | 'A' :: rest => some (.anchor .textStart, rest)
  | 'z' :: rest => some (.anchor .textEnd, rest)
  | '<' :: rest => some (.anchor .wordStart, rest)
  | '>' :: rest => some (.anchor .wordEnd, rest)
  | rest =>
    (escape? rest).map fun (e, rest) =>
      match e with
      | .literal c => (.chars (f.apply (.single c)), rest)
      | .set s => (.chars s, rest)

/-- Drops a comment, up to the end of its line. -/
def skipComment (rest : Rest) : Rest := rest.dropWhile (· ≠ '\n')

mutual

/-- The alternatives up to the end or a closing parenthesis; `done` holds those before. -/
def choices? (f : Flags) : (fuel : Nat) → (done : Option Expression) → (current : Expression) →
    Rest → Option (Expression × Rest)
  | 0, _, _, _ => none
  | fuel + 1, done, current, rest =>
    let joined := match done with
      | some e => Expression.choice e current
      | none => current
    match rest with
    | [] => some (joined, [])
    | ')' :: _ => some (joined, rest)
    | '|' :: rest => choices? f fuel (some joined) .empty rest
    | '(' :: rest =>
      match opening? f rest with
      | none => none
      | some (.change f, rest) =>
        match rest with
        | '*' :: _ | '+' :: _ | '?' :: _ | '\x7b' :: _ => none
        | rest => choices? f fuel done current rest
      | some (.group inner, rest) =>
        match choices? inner fuel none .empty rest with
        | some (e, ')' :: rest) => continue? f fuel done current e rest
        | _ => none
    | '[' :: _ =>
      match bracket? f fuel rest with
      | some (s, rest) => continue? f fuel done current (.chars s) rest
      | none => none
    | '\\' :: rest =>
      match escapedExpression? f rest with
      | some (e, rest) => continue? f fuel done current e rest
      | none => none
    | '*' :: _ | '+' :: _ | '?' :: _ | '\x7b' :: _ => none
    | '.' :: rest =>
      let s : CharSet := if f.dotAll then .complement .none else .complement (.single '\n')
      continue? f fuel done current (.chars s) rest
    | '^' :: rest =>
      continue? f fuel done current (.anchor (if f.multiline then .lineStart else .textStart)) rest
    | '$' :: rest =>
      continue? f fuel done current (.anchor (if f.multiline then .lineEnd else .textEnd)) rest
    | c :: rest =>
      if f.verbose && Text.isBlank c then choices? f fuel done current rest
      else if f.verbose && c == '#' then choices? f fuel done current (skipComment rest)
      else continue? f fuel done current (.chars (f.apply (.single c))) rest

/-- Appends an expression with its repetitions to the current alternative and reads on. -/
def continue? (f : Flags) : (fuel : Nat) → (done : Option Expression) → (current e : Expression) →
    Rest → Option (Expression × Rest)
  | 0, _, _, _, _ => none
  | fuel + 1, done, current, e, rest =>
    match repetitions? fuel e rest with
    | some (e, rest) => choices? f fuel done (.sequence current e) rest
    | none => none

end

end Reader

/-- Reads a pattern; `none` where the notation is violated. -/
def ofString? (caseless : Bool) (text : String) : Option Expression :=
  let rest := text.toList
  let flags : Flags := { caseless, multiline := false, dotAll := false, verbose := false }
  match Reader.choices? flags (4 * rest.length + 8) none .empty rest with
  | some (e, []) => some e
  | _ => none

end EarthStation.Pattern
