import EarthStation.Yaml.Token

/-!
# Document — the value of a YAML text

* `Yaml.Value.ofTokens?`: the value that the tokens of one document form.
* `Yaml.Value.ofText?`: the value of a text with one document.

A text without a value stands for null.  A key may not stand twice in a mapping, a text may not hold
several documents, and values may not be nested deeper than 128 levels.
-/

namespace EarthStation.Yaml

/-- The tokens that are left, and the values that have names. -/
structure Reader where
  tokens : List Token
  anchors : List (String × Value)
  /-- What the handles of tags stand for. -/
  handles : List (String × String)

namespace Reader

def advance (r : Reader) : Reader := { r with tokens := r.tokens.tail }

end Reader

/-- What stands in front of a value. -/
structure Properties where
  anchor : Option String
  tag : Option (String × String)

/-- Reads an anchor and a tag, in either order. -/
def properties (r : Reader) : Properties × Reader :=
  match r.tokens with
  | .anchor a :: .tag h t :: rest => (⟨some a, some (h, t)⟩, { r with tokens := rest })
  | .tag h t :: .anchor a :: rest => (⟨some a, some (h, t)⟩, { r with tokens := rest })
  | .anchor a :: rest => (⟨some a, none⟩, { r with tokens := rest })
  | .tag h t :: rest => (⟨none, some (h, t)⟩, { r with tokens := rest })
  | _ => (⟨none, none⟩, r)

/-- The full name of a tag. -/
def resolveTag? (handles : List (String × String)) : Option (String × String) → Option (Option String)
  | none => some none
  | some ("", rest) => some (some rest)
  | some (handle, rest) =>
    match handles.lookup handle with
    | some expansion => some (some (expansion ++ rest))
    | none => none

/-- How the names of the predefined tags begin. -/
def standardTags : String := "tag:yaml.org,2002:"

/-- The name of a tag of the document's own. -/
def ownTag? (tag : String) : Option String :=
  match tag.toList with
  | '!' :: rest => some (String.ofList rest)
  | _ => none

/-- A value under a tag; the predefined ones do not change it. -/
def withTag? (tag : Option String) (v : Value) : Option Value :=
  match tag.bind ownTag? with
  | some "" => if v matches .null then none else some v
  | some name => some (.tagged name v)
  | none => some v

/-- The value of a scalar. -/
def scalarValue? (tag : Option String) (text : String) (plain : Bool) : Option Value :=
  let untagged : Option Value := if plain then Value.ofPlain? text else some (.string text)
  match tag with
  | none => untagged
  | some "!" => Value.ofPlain? text
  | some tag =>
    match ownTag? tag with
    | some name => untagged.map (.tagged name)
    | none =>
      if tag = standardTags ++ "null" then Value.nullOf? text
      else if tag = standardTags ++ "bool" then Value.boolOf? text
      else if tag = standardTags ++ "int" then
        (Value.integerOf? text.toList).bind fun n => Value.ofInteger? n text.toList
      else if tag = standardTags ++ "float" then (Value.floatOf? text.toList).map .float
      else some (.string text)

/-- The value where none is written. -/
def missing : Value := .null

/-- Adds a pair to a mapping, given in reverse; fails if the key is there. -/
def addEntry? (entries : List (Value × Value)) (key value : Value) : Option (List (Value × Value)) :=
  if entries.any fun e => e.1.same key then none else some ((key, value) :: entries)

/-- Where a value stands: in brackets, in a block, or in a block where a sequence needs no further
indentation. -/
inductive Place where
  | flow
  | block
  | blockValue
deriving DecidableEq

/-- Holds of tokens that end a value before it began. -/
def endsValue (ends : List Token) (r : Reader) : Bool :=
  match r.tokens with
  | [] => true
  | t :: _ => ends.contains t

/-- Reads what is one level deeper. -/
def nested? (tag : Option String) (r : Reader) (read : Nat → Reader → Option (Value × Reader)) :
    (depth : Nat) → Option (Value × Reader)
  | 0 => none
  | depth + 1 =>
    match read depth r with
    | none => none
    | some (v, r) => (withTag? tag v).map fun v => (v, r)

mutual

/-- Reads a value; `fuel` bounds the steps and `depth` the levels below. -/
def value? : (fuel depth : Nat) → Place → Reader → Option (Value × Reader)
  | 0, _, _, _ => none
  | fuel + 1, depth, place, r =>
    match r.tokens with
    | .alias name :: _ => (r.anchors.lookup name).map fun v => (v, r.advance)
    | _ =>
      let (p, r) := properties r
      match resolveTag? r.handles p.tag with
      | none => none
      | some tag =>
        match content? fuel depth place tag (p.anchor.isSome || p.tag.isSome) r with
        | none => none
        | some (v, r) =>
          match p.anchor with
          | some name => some (v, { r with anchors := (name, v) :: r.anchors })
          | none => some (v, r)

/-- Reads a value behind its anchor and tag. -/
def content? : (fuel depth : Nat) → Place → Option String → (announced : Bool) → Reader →
    Option (Value × Reader)
  | 0, _, _, _, _, _ => none
  | fuel + 1, depth, place, tag, announced, r =>
    match r.tokens with
    | .scalar text plain :: _ => (scalarValue? tag text plain).map fun v => (v, r.advance)
    | t :: _ =>
      if t = .flowSequence then
        nested? tag r.advance (fun depth r => flowItems? fuel depth true [] r) depth
      else if t = .flowMapping then
        nested? tag r.advance (fun depth r => flowEntries? fuel depth true [] r) depth
      else if t = .blockSequence && place ≠ .flow then
        nested? tag r.advance (fun depth r => blockItems? fuel depth true [] r) depth
      else if t = .blockMapping && place ≠ .flow then
        nested? tag r.advance (fun depth r => blockEntries? fuel depth [] r) depth
      else if t = .blockEntry && place = .blockValue then
        nested? tag r (fun depth r => blockItems? fuel depth false [] r) depth
      else if announced then (scalarValue? tag "" true).map fun v => (v, r)
      else none
    | [] => if announced then (scalarValue? tag "" true).map fun v => (v, r) else none

/-- Reads a value, or none where a token shows that there is none. -/
def valueUnless? : (fuel depth : Nat) → Place → List Token → Reader → Option (Value × Reader)
  | 0, _, _, _, _ => none
  | fuel + 1, depth, place, ends, r =>
    if endsValue ends r then some (missing, r) else value? fuel depth place r

/-- Reads the items of a block; `closed` holds if a token ends it. -/
def blockItems? : (fuel depth : Nat) → (closed : Bool) → List Value → Reader → Option (Value × Reader)
  | 0, _, _, _, _ => none
  | fuel + 1, depth, closed, items, r =>
    match r.tokens with
    | .blockEntry :: _ =>
      let ends := if closed then [.blockEntry, .blockEnd] else [.blockEntry, .key, .value, .blockEnd]
      match valueUnless? fuel depth .block ends r.advance with
      | none => none
      | some (v, r) => blockItems? fuel depth closed (v :: items) r
    | .blockEnd :: _ => some (.sequence items.reverse, if closed then r.advance else r)
    | _ => if closed then none else some (.sequence items.reverse, r)

/-- Reads the pairs of a block. -/
def blockEntries? : (fuel depth : Nat) → List (Value × Value) → Reader → Option (Value × Reader)
  | 0, _, _, _ => none
  | fuel + 1, depth, entries, r =>
    match r.tokens with
    | .key :: _ =>
      match valueUnless? fuel depth .blockValue [.key, .value, .blockEnd] r.advance with
      | none => none
      | some (key, r) =>
        match r.tokens with
        | .value :: _ =>
          match valueUnless? fuel depth .blockValue [.key, .value, .blockEnd] r.advance with
          | none => none
          | some (v, r) =>
            match addEntry? entries key v with
            | none => none
            | some entries => blockEntries? fuel depth entries r
        | _ =>
          match addEntry? entries key missing with
          | none => none
          | some entries => blockEntries? fuel depth entries r
    | .blockEnd :: _ => some (.mapping entries.reverse, r.advance)
    | _ => none

/-- Reads the items between brackets; a key among them is a mapping with one pair. -/
def flowItems? : (fuel depth : Nat) → (first : Bool) → List Value → Reader → Option (Value × Reader)
  | 0, _, _, _, _ => none
  | fuel + 1, depth, first, items, r =>
    match r.tokens with
    | .flowSequenceEnd :: _ => some (.sequence items.reverse, r.advance)
    | t :: _ =>
      let r? : Option Reader :=
        if first then some r else if t = .flowEntry then some r.advance else none
      match r? with
      | none => none
      | some r =>
        match r.tokens with
        | .flowSequenceEnd :: _ => some (.sequence items.reverse, r.advance)
        | .key :: _ =>
          match flowPair? fuel depth .flowSequenceEnd r.advance with
          | none => none
          | some (key, v, r) => flowItems? fuel depth false (.mapping [(key, v)] :: items) r
        | _ =>
          match value? fuel depth .flow r with
          | none => none
          | some (v, r) => flowItems? fuel depth false (v :: items) r
    | [] => none

/-- Reads a key and its value in brackets that end with the given token. -/
def flowPair? : (fuel depth : Nat) → (closing : Token) → Reader → Option (Value × Value × Reader)
  | 0, _, _, _ => none
  | fuel + 1, depth, closing, r =>
    match valueUnless? fuel depth .flow [.value, .flowEntry, closing] r with
    | none => none
    | some (key, r) =>
      match r.tokens with
      | .value :: _ =>
        (valueUnless? fuel depth .flow [.flowEntry, closing] r.advance).map fun (v, r) => (key, v, r)
      | _ => some (key, missing, r)

/-- Reads the pairs between braces. -/
def flowEntries? : (fuel depth : Nat) → (first : Bool) → List (Value × Value) → Reader →
    Option (Value × Reader)
  | 0, _, _, _, _ => none
  | fuel + 1, depth, first, entries, r =>
    match r.tokens with
    | .flowMappingEnd :: _ => some (.mapping entries.reverse, r.advance)
    | t :: _ =>
      let r? : Option Reader :=
        if first then some r else if t = .flowEntry then some r.advance else none
      match r? with
      | none => none
      | some r =>
        let pair : Option (Value × Value × Reader) :=
          match r.tokens with
          | .key :: _ => flowPair? fuel depth .flowMappingEnd r.advance
          | _ => (value? fuel depth .flow r).map fun (key, r) => (key, missing, r)
        match r.tokens with
        | .flowMappingEnd :: _ => some (.mapping entries.reverse, r.advance)
        | _ =>
          match pair with
          | none => none
          | some (key, v, r) =>
            match addEntry? entries key v with
            | none => none
            | some entries => flowEntries? fuel depth false entries r
    | [] => none

end

/-- The directives in front of a document. -/
structure Directives where
  version : Option (Nat × Nat)
  handles : List (String × String)
  rest : List Token

/-- Reads the directives in front of a document; none may stand twice. -/
def directives? : Option (Nat × Nat) → List (String × String) → List Token → Option Directives
  | version, handles, .version major minor :: rest =>
    if version.isSome || major ≠ 1 || (minor ≠ 1 && minor ≠ 2) then none
    else directives? (some (major, minor)) handles rest
  | version, handles, .tagHandle handle expansion :: rest =>
    if (handles.lookup handle).isSome then none
    else directives? version ((handle, expansion) :: handles) rest
  | version, handles, rest => some ⟨version, handles, rest⟩

/-- The handles that need no declaration. -/
def standardHandles : List (String × String) := [("!", "!"), ("!!", standardTags)]

/-- The nesting that is read. -/
def deepest : Nat := 128

/-- The value of the tokens behind the directives, and what follows it. -/
def documentValue? (handles : List (String × String)) (tokens : List Token) :
    Option (Value × List Token) :=
  let empty := match tokens with
    | [] | .documentStart :: _ | .documentEnd :: _ | .version _ _ :: _ | .tagHandle _ _ :: _ => true
    | _ => false
  if empty then some (missing, tokens)
  else
    let r : Reader := ⟨tokens, [], handles ++ standardHandles⟩
    (value? (4 * tokens.length + 8) deepest .block r).map fun (v, r) => (v, r.tokens)

/-- The value of the tokens of a text. -/
def Value.ofTokens? (tokens : List Token) : Option Value := do
  let d ← directives? none [] tokens
  let (v, rest) ← match d.rest with
    | .documentStart :: rest => documentValue? d.handles rest
    | rest => if d.rest.length = tokens.length then documentValue? [] rest else none
  if (rest.dropWhile fun t => t = .documentEnd).isEmpty then pure v else none

/-- The value of a text with at most one document. -/
def Value.ofText? (text : String) : Option Value := (Token.ofText? text).bind Value.ofTokens?

end EarthStation.Yaml
