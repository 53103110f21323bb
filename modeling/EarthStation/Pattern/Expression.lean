import EarthStation.Text.Blank
import EarthStation.Text.CaseFold
import EarthStation.Text.WordChar

/-!
# Expression — regular expressions and where they match

* `CharSet`: the sets of characters that a pattern can name.
* `Expression`: the regular expressions, with anchors.
* `Expression.ends`: the positions where a match that starts at given positions can end.
* `Expression.found`: whether there is a match anywhere in a text.

Only the existence of a match is asked for, so greediness plays no part.
-/

namespace EarthStation.Pattern

/-- A set of characters. -/
inductive CharSet where
  | none
  | range (first last : Nat)
  | digit
  | word
  | blank
  | union (a b : CharSet)
  | intersection (a b : CharSet)
  | difference (a b : CharSet)
  | exclusive (a b : CharSet)
  | complement (a : CharSet)
  /-- The characters that differ in case only from one in the set. -/
  | caseless (a : CharSet)
deriving Repr

def CharSet.contains : CharSet → Char → Bool
  | none, _ => false
  | range first last, c => first ≤ c.toNat && c.toNat ≤ last
  | digit, c => Text.decimalDigits.contains c
  | word, c => Text.wordChars.contains c
  | blank, c => Text.isBlank c
  | union a b, c => a.contains c || b.contains c
  | intersection a b, c => a.contains c && b.contains c
  | difference a b, c => a.contains c && !b.contains c
  | exclusive a b, c => a.contains c != b.contains c
  | complement a, c => !a.contains c
  | caseless a, c => a.contains c || (Text.caseVariants c).any a.contains

def CharSet.single (c : Char) : CharSet := range c.toNat c.toNat

/-- Conditions on a position of the text. -/
inductive Anchor where
  | textStart
  | textEnd
  | lineStart
  | lineEnd
  | wordBoundary
  | noWordBoundary
  | wordStart
  | wordEnd
  | wordStartHalf
  | wordEndHalf
deriving DecidableEq, Repr

/-- A regular expression. -/
inductive Expression where
  | empty
  | chars (set : CharSet)
  | anchor (a : Anchor)
  | sequence (a b : Expression)
  | choice (a b : Expression)
  /-- At least `least` times and, if `most` is given, at most that often. -/
  | repeated (least : Nat) (most : Option Nat) (a : Expression)
deriving Repr

namespace Anchor

/-- Whether the character before and the one after a position belong to words. -/
def isWordAt (text : Array Char) (i : Nat) : Bool :=
  match text[i]? with
  | some c => Text.wordChars.contains c
  | none => false

def holds (text : Array Char) (i : Nat) (a : Anchor) : Bool :=
  let before := i != 0 && isWordAt text (i - 1)
  let after := isWordAt text i
  match a with
  | textStart => i == 0
  | textEnd => i == text.size
  | lineStart => i == 0 || text[i - 1]? == some '\n'
  | lineEnd => i == text.size || text[i]? == some '\n'
  | wordBoundary => before != after
  | noWordBoundary => before == after
  | wordStart => !before && after
  | wordEnd => before && !after
  | wordStartHalf => !before
  | wordEndHalf => !after

end Anchor

/-- The members of both lists, each once. -/
def merge (xs ys : List Nat) : List Nat := xs ++ ys.filter (fun y => !xs.contains y)

/-- The positions reached by at most `count` applications of a step. -/
def reach (step : List Nat → List Nat) : (count : Nat) → List Nat → List Nat
  | 0, xs => xs
  | count + 1, xs =>
    let ys := merge xs (step xs)
    if ys.length = xs.length then xs else reach step count ys

/-- The positions reached by exactly `count` applications of a step. -/
def advance (step : List Nat → List Nat) : (count : Nat) → List Nat → List Nat
  | 0, xs => xs
  | count + 1, xs => if xs.isEmpty then [] else advance step count (step xs)

namespace Expression

/-- The positions where a match that starts at one of the given positions can end.  A repetition
without upper bound needs no more rounds than there are positions. -/
def ends (text : Array Char) : Expression → List Nat → List Nat
  | empty, xs => xs
  | chars set, xs =>
    xs.filterMap fun i =>
      match text[i]? with
      | some c => if set.contains c then some (i + 1) else none
      | none => none
  | anchor a, xs => xs.filter (a.holds text ·)
  | sequence a b, xs => b.ends text (a.ends text xs)
  | choice a b, xs => merge (a.ends text xs) (b.ends text xs)
  | repeated least most a, xs =>
    let rounds := match most with
      | some n => min (n - least) (text.size + 1)
      | none => text.size + 1
    reach (a.ends text) rounds (advance (a.ends text) least xs)

/-- Holds if there is a match anywhere in the text. -/
def found (e : Expression) (text : String) : Bool :=
  let text := text.toList.toArray
  !(e.ends text (List.range (text.size + 1))).isEmpty

end Expression

end EarthStation.Pattern
