import EarthStation.IoError

/-!
# TextFile — files as texts

* `TextFile.read`: the text that a file holds.
-/

namespace EarthStation.TextFile

/-- The text of a file with the given content; `none` stands for a file that does not exist. -/
def read (content : Option ByteArray) : Except IoError String :=
  match content with
  | none => .error .missingFile
  | some bytes =>
    match String.fromUTF8? bytes with
    | some text => .ok text
    | none => .error .notText

end EarthStation.TextFile
