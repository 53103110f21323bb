import EarthStation.Decimal.Reader

/-!
# Arguments — the words behind a command

* `Arguments.Form`: the options and the positions that a command has.
* `Arguments.Scan`: the words that have been taken, and the option that waits for its value.
* `Arguments.read`: what the words of a command give, or why they are refused.

A value is looked at when the next word shows that it is complete, so that of two mistakes the one
that is found first need not be the one that stands first.
-/

namespace EarthStation.Arguments

/-- Why words are refused. -/
inductive Refusal where
  /-- An option, or a word behind the last position. -/
  | unknown
  /-- A value that does not have the form of its option. -/
  | badValue
  /-- A position without a word. -/
  | missing
  /-- An option without its value, or with an empty path. -/
  | noValue
  /-- An option that was given before. -/
  | twice
  /-- A value for an option that takes none. -/
  | surplusValue
  | unknownCommand
  | noCommand
  | helpAsked
  /-- There are no words at all. -/
  | nothingGiven
deriving DecidableEq, Repr

def Refusal.message : Refusal → String
  | unknown => "unexpected word"
  | badValue => "invalid value of an option"
  | missing => "a word is missing"
  | noValue => "an option without its value"
  | twice => "an option that was given twice"
  | surplusValue => "a value for an option that takes none"
  | unknownCommand => "unknown command"
  | noCommand => "no command"
  | helpAsked | nothingGiven => "commands: track, passes, lifetime"

/-- The values that an option takes. -/
inductive Kind where
  | flag
  | text
  | path
  | number
  /-- A number that may begin with a minus also where it is a word of its own. -/
  | signedNumber
  | natural (bits : Nat)
  /-- A whole number that is read with a sign. -/
  | integer (bits : Nat)
deriving DecidableEq, Repr

/-- Refuses values that do not have the form of an option. -/
def Kind.check (value : String) : Kind → Except Refusal Unit
  | flag | text => .ok ()
  | path => if value.isEmpty then .error .noValue else .ok ()
  | number | signedNumber =>
    if (Decimal.readFloat? value.toList).isSome then .ok () else .error .badValue
  | natural bits =>
    if (Decimal.readNatural? (Nat.pow 2 bits) value.toList).isSome then .ok () else .error .badValue
  | integer bits =>
    if (Decimal.readInteger? 0 (Nat.pow 2 bits - 1 : Nat) value.toList).isSome then .ok () else .error .badValue

/-- What a command takes. -/
structure Form where
  options : List (String × Kind)
  /-- Options of one letter, with their full names. -/
  letters : List (Char × String)
  positions : List (String × Kind)
  /-- The commands that may follow. -/
  commands : List String

/-- The option that asks for help. -/
def helpName : String := "help"

/-- The words that have been taken. -/
structure Scan where
  /-- The values of options and positions, by name. -/
  given : List (String × String)
  /-- The last option or position, with its value unless that is still to come. -/
  pending : Option (String × Kind × Option String)
  /-- The number of positions that are filled. -/
  filled : Nat
  /-- Whether all further words fill positions. -/
  onlyPositions : Bool

namespace Scan

def start : Scan := ⟨[], none, 0, false⟩

/-- Takes a value. -/
def accept (s : Scan) (name : String) (kind : Kind) (value : String) : Except Refusal Scan :=
  if (s.given.lookup name).isSome then .error .twice
  else (kind.check value).map fun _ => { s with given := s.given ++ [(name, value)] }

/-- Takes the value that is pending. -/
def settle (s : Scan) : Except Refusal Scan :=
  match s.pending with
  | none => .ok s
  | some (_, _, none) => .error .noValue
  | some (name, kind, some value) => { s with pending := none }.accept name kind value

/-- The option that waits for its value. -/
def awaiting (s : Scan) : Option (String × Kind) :=
  match s.pending with
  | some (name, kind, none) => some (name, kind)
  | _ => none

/-- Takes an option without a value. -/
def takeFlag (s : Scan) (name : String) : Except Refusal Scan := do
  let s ← s.settle
  if name = helpName then .error .helpAsked else s.accept name .flag ""

/-- Takes an option that begins with two dashes, with the value behind its equals sign. -/
def takeOption (f : Form) (s : Scan) (name : String) (value : Option String) : Except Refusal Scan :=
  match f.options.lookup name, value with
  | none, _ => .error .unknown
  | some .flag, some _ => .error .surplusValue
  | some .flag, none => s.takeFlag name
  | some kind, some value => do (← s.settle).accept name kind value
  | some kind, none => do
    let s ← s.settle
    pure { s with pending := some (name, kind, none) }

/-- Takes options of one letter. -/
def takeLetters (f : Form) (s : Scan) : List Char → Except Refusal Scan
  | [] => .ok s
  | c :: rest =>
    match f.letters.lookup c with
    | none => .error .unknown
    | some name => do takeLetters f (← s.takeFlag name) rest

/-- Takes a word for a position. -/
def takePosition (f : Form) (s : Scan) (word : String) : Except Refusal Scan :=
  match f.positions[s.filled]? with
  | some (name, kind) => do
    let s ← s.settle
    pure { s with pending := some (name, kind, some word), filled := s.filled + 1 }
  | none =>
    if f.commands.isEmpty || (s.onlyPositions && f.commands.contains word) then .error .unknown
    else .error .unknownCommand

end Scan

/-- Splits at the first equals sign. -/
def splitValue (cs : List Char) : String × Option String :=
  let name := String.ofList (cs.takeWhile (· != '='))
  match cs.dropWhile (· != '=') with
  | [] => (name, none)
  | _ :: value => (name, some (String.ofList value))

/-- Holds of digits with at most one point and one exponent, neither of which comes first. -/
def looksNumeric (cs : List Char) : Bool :=
  let mantissa := cs.takeWhile (· != 'e')
  let exponent := cs.dropWhile (· != 'e')
  let plain := mantissa.filter (· != '.')
  plain.all Decimal.isDigit && mantissa.length ≤ plain.length + 1 && mantissa.head? != some '.'
    && match exponent with
      | [] => true
      | _ :: digits => !mantissa.isEmpty && !digits.isEmpty && digits.all Decimal.isDigit

/-- Takes one word that is not the name of a command. -/
def takeWord (f : Form) (s : Scan) (word : String) : Except Refusal Scan :=
  if s.onlyPositions then s.takePosition f word
  else match word.toList, s.awaiting with
    | ['-', '-'], _ => .ok { s with onlyPositions := true }
    | '-' :: '-' :: rest, _ =>
      let (name, value) := splitValue rest
      s.takeOption f name value
    | '-' :: c :: rest, some (name, .signedNumber) =>
      if looksNumeric (c :: rest) then
        .ok { s with pending := some (name, .signedNumber, some word) }
      else s.takeLetters f (c :: rest)
    | '-' :: c :: rest, _ => s.takeLetters f (c :: rest)
    | _, some (name, kind) => .ok { s with pending := some (name, kind, some word) }
    | _, none => s.takePosition f word

/-- What the words of a command give, and the command that follows with its words. -/
structure Reading where
  scan : Scan
  next : Option (String × List String)

/-- Takes words up to the name of a command that follows. -/
def takeWords (f : Form) (s : Scan) : List String → Except Refusal Reading
  | [] => .ok ⟨s, none⟩
  | word :: rest =>
    if f.commands.contains word && !s.onlyPositions && s.awaiting.isNone then
      .ok ⟨s, some (word, rest)⟩
    else do takeWords f (← takeWord f s word) rest

/-- What was given, once there are no more words. -/
def finish (f : Form) (s : Scan) : Except Refusal (List (String × String)) := do
  let s ← s.settle
  if f.positions.all fun p => (s.given.lookup p.1).isSome then pure s.given else .error .missing

/-- What the words of a command give that no other command follows. -/
def read (f : Form) (words : List String) : Except Refusal (List (String × String)) := do
  let r ← takeWords f .start words
  finish f r.scan

end EarthStation.Arguments
