import MessageContracts.Disk

/-!
# File trees

A file tree holds files and directories below one directory, the home of all paths that do not start
with a slash. The home stands among the common directories of a system, beside its devices, under a
name that no path can spell. A path is a row of steps between slashes: an empty step and a dot stay,
two dots go up, a name goes down, and each of them starts at a directory.
-/

namespace MessageContracts

/-- The names on the way down to a place. -/
abbrev Place := List String

/-- Files and directories below one directory. -/
structure FileTree where
  /-- The places of the directories below the home. -/
  directories : List Place
  /-- The places below the home and contents of the files. -/
  files : List (Place × ByteArray)

namespace FileTree

/-- The tree without files. -/
def empty : FileTree := ⟨[], []⟩

/-- The place of the home. -/
def home : Place := ["tmp", "\x00"]

/-- The directories around the home. -/
def surroundings : List Place := [[], ["dev"], ["tmp"]]

/-- The way down from the home to a place below it. -/
def below? (place : Place) : Option Place :=
  if home.isPrefixOf place then some (place.drop home.length) else none

/-- Whether a directory stands at a place. -/
def isDirectory (tree : FileTree) (place : Place) : Bool :=
  match below? place with
  | some place => place.isEmpty || tree.directories.contains place
  | none => surroundings.contains place

/-- The content of the file at a place below the home. -/
def file? (tree : FileTree) (place : Place) : Option ByteArray := tree.files.lookup place

/-- What can be read at a place: a file, or a device with nothing to give. -/
def content? (tree : FileTree) (place : Place) : Option ByteArray :=
  match below? place with
  | some place => tree.file? place
  | none => if place = ["dev", "null"] ∨ place = ["dev", "stdin"] then some .empty else none

/-- The place to which steps lead from a place, if each of them starts at a directory. Above the
topmost directory stands itself. -/
def follow (tree : FileTree) : List String → Place → Option Place
  | [], place => some place
  | step :: rest, place =>
    if !tree.isDirectory place then none
    else if step = "" ∨ step = "." then follow tree rest place
    else if step = ".." then follow tree rest place.dropLast
    else follow tree rest (place ++ [step])

/-- Paths have less than this number of bytes. -/
def pathLimit : Nat := 4096

/-- The steps of a path, between its slashes. -/
def steps (path : String) : List String := (path.toList.splitOn '/').map String.ofList

/-- The place to which a path leads. -/
def place? (tree : FileTree) (path : String) : Option Place :=
  if path = "" ∨ pathLimit ≤ path.utf8ByteSize then none
  else tree.follow (steps path) (if path.toList.head? = some '/' then [] else home)

/-- The greatest number of bytes in a name. -/
def nameLimit : Nat := 255

/-- What takes the output that goes to a place: a device, or a file with a name that is not too
long. -/
def destination? (tree : FileTree) (place : Place) : Option Destination :=
  if place = ["dev", "null"] ∨ place = ["dev", "stderr"] then some .void
  else if place = ["dev", "full"] then some .full
  else if place = ["dev", "stdout"] then some .standardOutput
  else if tree.isDirectory place then none
  else if place.getLast?.all fun name => name.utf8ByteSize ≤ nameLimit then some .file
  else none

/-- The tree as a disk. -/
def disk (tree : FileTree) : Disk where
  content? path := (tree.place? path).bind tree.content?
  exists? path := (tree.place? path).any fun place =>
    tree.isDirectory place || (tree.content? place).isSome
  destination? path := (tree.place? path).bind tree.destination?

/-- The tree with a directory and all directories above it. -/
def addDirectory (tree : FileTree) (place : Place) : FileTree :=
  { tree with directories := (List.range (place.length + 1)).map place.take ++ tree.directories }

/-- The tree with a file in place of what stood there, and the directories above it. -/
def addFile (tree : FileTree) (place : Place) (content : ByteArray) : FileTree :=
  { tree.addDirectory place.dropLast with
    files := (place, content) :: tree.files.filter (·.1 != place) }

/-- What replaces the content of the file at a path, with the way down from the home, unless the
content stays as it is. -/
def change? (tree : FileTree) (path : String) (content : ByteArray) : Option (Place × ByteArray) :=
  match (tree.place? path).bind below? with
  | none => none
  | some place => if tree.file? place == some content then none else some (place, content)

end FileTree

end MessageContracts
