import EarthStation.Yaml.Scalar

/-!
# Token — the marks and scalars of a YAML text

* `Yaml.Token`: a mark, a name or a scalar; the nesting of blocks is made explicit.
* `Yaml.Token.ofText?`: the tokens of a text.

A block begins where a line is indented more than the one around it, and ends where one is indented
less.  A scalar turns out to be a key only at the colon behind it, so each place where a key may have
begun is remembered until then.
-/

namespace EarthStation.Yaml

inductive Token where
  | blockSequence
  | blockMapping
  | blockEnd
  | flowSequence
  | flowSequenceEnd
  | flowMapping
  | flowMappingEnd
  | blockEntry
  | flowEntry
  | key
  | value
  | anchor (name : String)
  | alias (name : String)
  | tag (handle rest : String)
  | scalar (text : String) (plain : Bool)
  | documentStart
  | documentEnd
  | version (major minor : Nat)
  | tagHandle (handle expansion : String)
deriving DecidableEq, Repr

/-- A place where a key may have begun. -/
structure KeyStart where
  /-- How many tokens were read before it. -/
  tokens : Nat
  /-- Whether a key has to begin here. -/
  required : Bool
  line : Nat
  column : Nat
  index : Nat

/-- A text while its tokens are read. -/
structure Scan where
  rest : List Char
  line : Nat
  column : Nat
  index : Nat
  tokens : List Token
  /-- The number of brackets that are open. -/
  flow : Nat
  /-- The column of the innermost block, and of those around it. -/
  indent : Int
  outer : List Int
  keyAllowed : Bool
  /-- Where keys may have begun, one for each open bracket. -/
  keys : List (Option KeyStart)

namespace Scan

def start (cs : List Char) : Scan where
  rest := cs
  line := 0
  column := 0
  index := 0
  tokens := []
  flow := 0
  indent := -1
  outer := []
  keyAllowed := true
  keys := [none]

/-- Moves past a character. -/
def past (s : Scan) (c : Char) : Scan :=
  { s with
    line := if isBreak c then s.line + 1 else s.line
    column := columnAfter c s.column
    index := s.index + 1 }

/-- Moves on to the given rest. -/
def moveTo (s : Scan) (rest : List Char) : Scan :=
  { (s.rest.take (s.rest.length - rest.length)).foldl past s with rest }

/-- Moves past a number of characters. -/
def skip (s : Scan) (count : Nat) : Scan := s.moveTo (s.rest.drop count)

def push (s : Scan) (t : Token) : Scan := { s with tokens := s.tokens ++ [t] }

/-- Puts a token in front of the one with the given number. -/
def insert (s : Scan) (position : Nat) (t : Token) : Scan :=
  { s with tokens := s.tokens.take position ++ t :: s.tokens.drop position }

/-! ## Keys -/

/-- The place where a key may have begun inside the innermost bracket. -/
def currentKey (s : Scan) : Option KeyStart := s.keys.head?.join

def setKey (s : Scan) (key : Option KeyStart) : Scan := { s with keys := key :: s.keys.tail }

/-- Forgets the current place; fails if a key was required there. -/
def dropKey? (s : Scan) : Option Scan :=
  match s.currentKey with
  | some k => if k.required then none else some (s.setKey none)
  | none => some s

/-- Remembers that a key may begin here. -/
def saveKey? (s : Scan) : Option Scan :=
  if s.keyAllowed then do
    let required := s.flow == 0 && s.indent == (s.column : Int)
    let s ← s.dropKey?
    pure (s.setKey (some ⟨s.tokens.length, required, s.line, s.column, s.index⟩))
  else some s

/-- A key does not go across lines, and is not longer than 1024 characters. -/
def isStale (s : Scan) (k : KeyStart) : Bool := decide (k.line < s.line) || decide (k.index + 1024 < s.index)

/-- Forgets the places that are too far back; fails if a key was required there. -/
def dropStale? (s : Scan) : Option Scan := do
  let keys ← s.keys.mapM fun key =>
    match key with
    | some k => if s.isStale k then (if k.required then none else some none) else some (some k)
    | none => some none
  pure { s with keys }

/-! ## Blocks -/

/-- Begins a block at a column further right. -/
def openBlock (s : Scan) (column : Nat) (position : Nat) (t : Token) : Scan :=
  if s.flow == 0 && s.indent < (column : Int) then
    { s.insert position t with indent := column, outer := s.indent :: s.outer }
  else s

/-- The blocks that are left open from a column on, and how many ended. -/
def closing (column : Int) : (indent : Int) → (outer : List Int) → Nat × Int × List Int
  | indent, [] => (0, indent, [])
  | indent, next :: outer =>
    if column < indent then
      let (count, indent, outer) := closing column next outer
      (count + 1, indent, outer)
    else (0, indent, next :: outer)

/-- Ends the blocks right of a column. -/
def closeBlocks (s : Scan) (column : Int) : Scan :=
  if s.flow == 0 then
    let (count, indent, outer) := closing column s.indent s.outer
    { s with tokens := s.tokens ++ List.replicate count .blockEnd, indent, outer }
  else s

/-! ## Blanks -/

/-- Skips blanks, line breaks and comments.  A new line outside brackets may begin with a key; where
it may, tabs are no blanks. -/
def skipBlanks (flow : Bool) : (comment keyAllowed : Bool) → List Char → List Char × Bool
  | _, keyAllowed, [] => ([], keyAllowed)
  | comment, keyAllowed, c :: rest =>
    if isBreak c then skipBlanks flow false (keyAllowed || !flow) rest
    else if comment then skipBlanks flow true keyAllowed rest
    else if c == ' ' || (c == '\t' && (flow || !keyAllowed)) then
      skipBlanks flow false keyAllowed rest
    else if c == '#' then skipBlanks flow true keyAllowed rest
    else (c :: rest, keyAllowed)

/-- Moves on to the next token. -/
def toToken (s : Scan) : Scan :=
  let (rest, keyAllowed) := skipBlanks (s.flow != 0) false s.keyAllowed s.rest
  { s.moveTo rest with keyAllowed }

/-! ## Single tokens -/

/-- Takes a mark of one character or more. -/
def mark (s : Scan) (count : Nat) (keyAllowed : Bool) (t : Token) : Scan :=
  { (s.push t).skip count with keyAllowed }

/-- A mark between documents. -/
def documentMark? (s : Scan) (t : Token) : Option Scan := do
  let s ← (s.closeBlocks (-1)).dropKey?
  pure (s.mark 3 false t)

def openBracket? (s : Scan) (t : Token) : Option Scan := do
  let s ← s.saveKey?
  pure { s.mark 1 true t with flow := s.flow + 1, keys := none :: s.keys }

def closeBracket? (s : Scan) (t : Token) : Option Scan := do
  let s ← s.dropKey?
  let s := s.mark 1 false t
  if s.flow == 0 then pure s else pure { s with flow := s.flow - 1, keys := s.keys.tail }

def flowEntry? (s : Scan) : Option Scan := do
  let s ← s.dropKey?
  pure (s.mark 1 true .flowEntry)

def blockEntry? (s : Scan) : Option Scan := do
  if s.flow == 0 && !s.keyAllowed then none
  else
    let s := s.openBlock s.column s.tokens.length .blockSequence
    let s ← s.dropKey?
    pure (s.mark 1 true .blockEntry)

def explicitKey? (s : Scan) : Option Scan := do
  if s.flow == 0 && !s.keyAllowed then none
  else
    let s := s.openBlock s.column s.tokens.length .blockMapping
    let s ← s.dropKey?
    pure (s.mark 1 (s.flow == 0) .key)

/-- A colon: what began at the remembered place is a key. -/
def colon? (s : Scan) : Option Scan :=
  match s.currentKey with
  | some k =>
    let s := (s.insert k.tokens .key).openBlock k.column k.tokens .blockMapping
    some ((s.setKey none).mark 1 false .value)
  | none =>
    if s.flow == 0 && !s.keyAllowed then none
    else
      let s := s.openBlock s.column s.tokens.length .blockMapping
      some (s.mark 1 (s.flow == 0) .value)

/-- Holds of the characters of names. -/
def isNameChar (c : Char) : Bool :=
  decide ('a' ≤ c ∧ c ≤ 'z') || decide ('A' ≤ c ∧ c ≤ 'Z') || Decimal.isDigit c || c == '_' || c == '-'

/-- Holds of what may follow a name. -/
def mayFollowName (cs : List Char) : Bool :=
  atGap cs || cs.head?.any fun c =>
    ['?', ':', ',', ']', '}', '%', '@', Char.ofNat 96].contains c

/-- A name behind an ampersand or an asterisk. -/
def name? (s : Scan) (t : String → Token) : Option Scan := do
  let s ← s.saveKey?
  let name := (s.rest.drop 1).takeWhile isNameChar
  let rest := (s.rest.drop 1).dropWhile isNameChar
  if name.isEmpty || !mayFollowName rest then none
  else pure { (s.push (t (String.ofList name))).moveTo rest with keyAllowed := false }

/-- Holds of the characters of tags. -/
def isTagChar (c : Char) : Bool :=
  isNameChar c || ";/?:@&=+$.!~*()%#".toList.contains c || c == singleQuote

/-- A tag: its handle and what follows the handle. -/
def tagParts? (cs : List Char) : Option (String × String × List Char) :=
  match cs with
  | '<' :: rest =>
    let uri := rest.takeWhile fun c => c != '>' && !isBlank c && !isBreak c
    match rest.drop uri.length with
    | '>' :: rest => if uri.isEmpty then none else some ("", String.ofList uri, rest)
    | _ => none
  | _ =>
    let name := cs.takeWhile isNameChar
    match cs.drop name.length with
    | '!' :: rest =>
      let suffix := rest.takeWhile isTagChar
      if suffix.isEmpty then none
      else some ("!" ++ String.ofList name ++ "!", String.ofList suffix, rest.drop suffix.length)
    | _ =>
      let suffix := cs.takeWhile isTagChar
      some ("!", String.ofList suffix, cs.drop suffix.length)

def tag? (s : Scan) : Option Scan := do
  let s ← s.saveKey?
  let (handle, suffix, rest) ← tagParts? (s.rest.drop 1)
  if atGap rest || (s.flow != 0 && rest.head? == some ',') then
    pure { (s.push (.tag handle suffix)).moveTo rest with keyAllowed := false }
  else none

def blockScalar? (s : Scan) (literal : Bool) : Option Scan := do
  let s ← s.dropKey?
  let (text, rest) ← blockText? literal s.indent (s.rest.drop 1)
  pure { (s.push (.scalar text false)).moveTo rest with keyAllowed := true }

def quoted? (s : Scan) (read : List Char → Option (String × List Char)) : Option Scan := do
  let s ← s.saveKey?
  let (text, rest) ← read (s.rest.drop 1)
  pure { (s.push (.scalar text false)).moveTo rest with keyAllowed := false }

def plainScalar? (s : Scan) : Option Scan := do
  let s ← s.saveKey?
  let p ← plain? (s.flow != 0) (s.indent + 1).toNat s.column [] .empty s.rest
  pure { (s.push (.scalar p.text true)).moveTo p.rest with keyAllowed := p.brokeLine }

/-- A line that begins with a percent sign. -/
def directive? (s : Scan) : Option Scan := do
  let s ← (s.closeBlocks (-1)).dropKey?
  let words (cs : List Char) : List Char × List Char :=
    let cs := cs.dropWhile isBlank
    (cs.takeWhile fun c => !isBlank c && !isBreak c, cs.dropWhile fun c => !isBlank c && !isBreak c)
  let name := (s.rest.drop 1).takeWhile isNameChar
  let (first, rest) := words (s.rest.drop (1 + name.length))
  let (token, rest) ← match String.ofList name with
    | "YAML" => do
      let digits := first.takeWhile Decimal.isDigit
      let minor := first.drop (digits.length + 1)
      if !digits.isEmpty && (first.drop digits.length).head? == some '.' && !minor.isEmpty
          && minor.all Decimal.isDigit then
        pure (Token.version (Decimal.natural digits) (Decimal.natural minor), rest)
      else none
    | "TAG" => do
      let (second, rest) := words rest
      if first.isEmpty || second.isEmpty then none
      else pure (Token.tagHandle (String.ofList first) (String.ofList second), rest)
    | _ => none
  let rest ← endOfLine? rest
  pure { (s.push token).moveTo rest with keyAllowed := false }

/-- Reads one token. -/
def next? (s : Scan) : Option Scan := do
  let s ← s.toToken.dropStale?
  let s := s.closeBlocks s.column
  let follows := (s.rest.drop 1)
  match s.rest with
  | [] => (s.closeBlocks (-1)).dropKey?
  | c :: _ =>
    if s.column = 0 && c == '%' then s.directive?
    else if s.column = 0 && atDocumentMark s.rest then
      s.documentMark? (if c == '-' then .documentStart else .documentEnd)
    else if c == '[' then s.openBracket? .flowSequence
    else if c == '{' then s.openBracket? .flowMapping
    else if c == ']' then s.closeBracket? .flowSequenceEnd
    else if c == '}' then s.closeBracket? .flowMappingEnd
    else if c == ',' then s.flowEntry?
    else if c == '-' && atGap follows then s.blockEntry?
    else if c == '?' && (s.flow != 0 || atGap follows) then s.explicitKey?
    else if c == ':' && (s.flow != 0 || atGap follows) then s.colon?
    else if c == '*' then s.name? .alias
    else if c == '&' then s.name? .anchor
    else if c == '!' then s.tag?
    else if c == '|' && s.flow == 0 then s.blockScalar? true
    else if c == '>' && s.flow == 0 then s.blockScalar? false
    else if c == singleQuote then s.quoted? (singleQuoted? (s.column + 1) [] .empty)
    else if c == '"' then
      s.quoted? (doubleQuoted? (s.rest.length + 1) (s.column + 1) [] .empty)
    else if isBlank c || "#|>%@".toList.contains c || c == Char.ofNat 96 then none
    else s.plainScalar?

/-- Reads tokens to the end of the text; each one takes at least one character, and the blocks that
are open at the end are ended. -/
def toEnd? : (fuel : Nat) → Scan → Option Scan
  | 0, _ => none
  | fuel + 1, s => do
    let next ← s.next?
    if s.toToken.rest.isEmpty then pure next else toEnd? fuel next

end Scan

/-- Holds of the characters that may stand in a text. -/
def isPrintable (c : Char) : Bool :=
  let n := c.toNat
  n == 9 || n == 10 || n == 13 || (32 ≤ n && n ≤ 126) || n == 0x85
    || (0xA0 ≤ n && n ≤ 0xFFFD) || 0x10000 ≤ n

/-- The tokens of a text, if it can be cut into tokens. -/
def Token.ofText? (text : String) : Option (List Token) :=
  let cs := match text.toList with
    | '\ufeff' :: rest => rest
    | cs => cs
  if cs.all isPrintable then
    ((Scan.start (normalize cs)).toEnd? (cs.length + 2)).map Scan.tokens
  else none

end EarthStation.Yaml
