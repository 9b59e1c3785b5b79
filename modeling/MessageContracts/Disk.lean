/-!
# Reading and creating files

A disk says what a path leads to. The program reads whole files, asks whether something stands at a
path, and writes to files and devices.
-/

namespace MessageContracts

/-- What takes the output of a task. -/
inductive Destination where
  /-- Standard output. -/
  | standardOutput
  /-- A file that is created or replaced. -/
  | file
  /-- A device that takes everything and keeps nothing. -/
  | void
  /-- A device that never has room. -/
  | full
deriving DecidableEq, Repr

/-- What paths lead to. -/
structure Disk where
  /-- The content of the file at a path, if there is a file that can be read. -/
  content? : String → Option ByteArray
  /-- Whether something stands at a path. -/
  exists? : String → Bool
  /-- What takes the output that goes to a path, if anything does. -/
  destination? : String → Option Destination

/-- The text of the file at a path, if there is a file and it holds text. -/
def Disk.text? (disk : Disk) (path : String) : Option String :=
  (disk.content? path).bind String.fromUTF8?

end MessageContracts
