import EarthStation.TextFile

/-!
# Files — the files that a command reads and writes

* `Program.Files`: reading and writing files by name, in any monad.
* `Program.Disk`: files in memory, and `Program.Disk.files`, their use.
-/

namespace EarthStation.Program

/-- Reading and writing files by name. -/
structure Files (m : Type → Type) where
  read : String → m (Except IoError String)
  /-- Gives a file a new content, and makes it if there is none. -/
  write : String → String → m (Except IoError Unit)

/-- Files in memory, by name.  Of two files with one name the first counts. -/
abbrev Disk := List (String × ByteArray)

namespace Disk

/-- The directory that a name leads into, with the slash that ends it. -/
def directory (name : String) : List Char :=
  (name.toList.reverse.dropWhile (· ≠ '/')).reverse

/-- Holds if a file of that name can be made: its directory is the root of all names, or holds
another file. -/
def canHold (disk : Disk) (name : String) : Bool :=
  (directory name).isEmpty || disk.any fun f => (directory name).isPrefixOf f.1.toList

/-- The disk with a new content for a file. -/
def put (disk : Disk) (name : String) (content : ByteArray) : Disk :=
  (name, content) :: disk.filter fun f => f.1 ≠ name

/-- The use of files in memory. -/
def files : Files (StateM Disk) where
  read name := do
    let disk : Disk ← get
    pure (TextFile.read (disk.lookup name))
  write name text := do
    let disk : Disk ← get
    if disk.canHold name then
      set (disk.put name text.toUTF8)
      pure (.ok ())
    else pure (.error .missingFile)

end Disk

end EarthStation.Program
