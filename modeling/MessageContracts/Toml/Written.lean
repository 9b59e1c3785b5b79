import MessageContracts.Toml.Table
import MessageContracts.Toml.Text

/-!
# Writing TOML

A written document consists of headers and of assignments of texts and arrays of texts to bare
keys. A blank line stands before each header but the first. An array of several texts has one line
for each of them.
-/

namespace MessageContracts.Toml

/-- What a written document may assign. -/
inductive Assigned where
  /-- A text. -/
  | text (value : String)
  /-- An array of texts. -/
  | texts (values : List String)
deriving DecidableEq, Repr

/-- A statement of a written document. -/
inductive Entry where
  /-- A bare key and its value. -/
  | assign (key : String) (value : Assigned)
  /-- A header that opens the table at a path of bare keys. -/
  | table (path : List String)
  /-- A header that adds a table to the array at a path of bare keys. -/
  | element (path : List String)
deriving DecidableEq, Repr

namespace Assigned

/-- The value that is assigned. -/
def value : Assigned → Value
  | text value => .text value
  | texts values => .array (values.map .text)

/-- An item of an array on a line of its own. -/
def writeItem (item : String) : List Char :=
  [' ', ' ', ' ', ' '] ++ writeText item.toList ++ [',', '\n']

/-- The value as it is written. -/
def chars : Assigned → List Char
  | text value => writeText value.toList
  | texts [] => ['[', ']']
  | texts [item] => '[' :: writeText item.toList ++ [']']
  | texts items => ['[', '\n'] ++ items.flatMap writeItem ++ [']']

end Assigned

namespace Entry

/-- The statement that is written. -/
def statement : Entry → Statement
  | assign key value => .assign [key] value.value
  | table path => .table path
  | element path => .element path

/-- Whether the entry is a header. -/
def isHeader : Entry → Bool
  | assign _ _ => false
  | table _ | element _ => true

/-- The entry as it is written, without the end of its line. -/
def chars : Entry → List Char
  | assign key value => key.toList ++ [' ', '=', ' '] ++ value.chars
  | table path => '[' :: (".".intercalate path).toList ++ [']']
  | element path => ['[', '['] ++ (".".intercalate path).toList ++ [']', ']']

/-- Entries after the first, each on a line of its own. -/
def laterChars : List Entry → List Char
  | [] => []
  | entry :: rest =>
    (if entry.isHeader then ['\n'] else []) ++ entry.chars ++ '\n' :: laterChars rest

/-- The entries of a document as they are written. -/
def documentChars : List Entry → List Char
  | [] => []
  | entry :: rest => entry.chars ++ '\n' :: laterChars rest

end Entry

end MessageContracts.Toml
