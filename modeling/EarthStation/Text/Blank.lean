/-!
# Blank — white space

* `Text.isBlank`: the characters with the Unicode property White_Space.
* `Text.trim`, `Text.trimEnd`, `Text.words`: cutting texts at them.
-/

namespace EarthStation.Text

/-- Holds of the characters that count as white space. -/
def isBlank (c : Char) : Bool :=
  let n := c.toNat
  (9 ≤ n && n ≤ 13) || n == 0x20 || n == 0x85 || n == 0xA0 || n == 0x1680
    || (0x2000 ≤ n && n ≤ 0x200A) || n == 0x2028 || n == 0x2029 || n == 0x202F || n == 0x205F
    || n == 0x3000

/-- Without leading white space. -/
def trimStart (cs : List Char) : List Char := cs.dropWhile isBlank

/-- Without trailing white space. -/
def trimEnd (cs : List Char) : List Char := (cs.reverse.dropWhile isBlank).reverse

/-- Without white space at either end. -/
def trim (cs : List Char) : List Char := trimEnd (trimStart cs)

/-- The maximal runs without white space; `run` holds the current one in reverse. -/
def wordsFrom (run : List Char) : List Char → List (List Char)
  | [] => if run.isEmpty then [] else [run.reverse]
  | c :: cs =>
    if isBlank c then
      if run.isEmpty then wordsFrom [] cs else run.reverse :: wordsFrom [] cs
    else wordsFrom (c :: run) cs

/-- The maximal runs without white space. -/
def words (cs : List Char) : List (List Char) := wordsFrom [] cs

end EarthStation.Text
