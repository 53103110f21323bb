/-!
# Lines — cutting texts at separators

* `Text.split`: the pieces between single-character separators.
* `Text.splitAtMost`: the same with the rest left whole in the last piece.
* `Text.lines`: the lines of a text.
-/

namespace EarthStation.Text

/-- The pieces of `cs` between occurrences of `sep`; always at least one. -/
def split (sep : Char) : List Char → List (List Char)
  | [] => [[]]
  | c :: cs =>
    if c = sep then [] :: split sep cs
    else match split sep cs with
      | [] => [[c]]
      | piece :: pieces => (c :: piece) :: pieces

/-- At most `count + 1` pieces, the last of which may hold separators. -/
def splitAtMost (sep : Char) : (count : Nat) → List Char → List (List Char)
  | 0, cs => [cs]
  | _ + 1, [] => [[]]
  | count + 1, c :: cs =>
    if c = sep then [] :: splitAtMost sep count cs
    else match splitAtMost sep (count + 1) cs with
      | [] => [[c]]
      | piece :: pieces => (c :: piece) :: pieces

/-- A piece that ended in a line feed, without the carriage return before it. -/
def dropReturn (cs : List Char) : List Char :=
  if cs.getLast? = some '\r' then cs.dropLast else cs

/-- The lines of a text: what stands before each line feed, without a carriage return right before
it, and what follows the last one unless that is empty. -/
def lines (cs : List Char) : List (List Char) :=
  let pieces := split '\n' cs
  let final := pieces.getLast?.getD []
  let ended := pieces.dropLast.map dropReturn
  if final.isEmpty then ended else ended ++ [final]

end EarthStation.Text
