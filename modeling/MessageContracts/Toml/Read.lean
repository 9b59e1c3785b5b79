import MessageContracts.Toml.Scalar
import MessageContracts.Toml.Table

/-!
# Reading TOML

A document is a row of statements, one to a line, with comments and blank lines between them. It is
read as a whole before anything is made of it, so a fault anywhere refuses all of it. Arrays and
inline tables nest at most eighty deep, and a path has at most eighty keys.
-/

namespace MessageContracts.Toml

/-- The source without blanks, line breaks and comments at its front, unless a comment holds a
control character; the flag says that a comment is open. -/
def skipFiller : Bool → List Char → Option (List Char)
  | _, [] => some []
  | _, '\n' :: rest => skipFiller false rest
  | _, '\r' :: '\n' :: rest => skipFiller false rest
  | true, c :: rest => if isPlain c then skipFiller true rest else none
  | false, c :: rest =>
    if c = '#' then skipFiller true rest
    else if isBlank c then skipFiller false rest
    else some (c :: rest)

/-- The source after the rest of a line that holds at most a comment. -/
def endLine (source : List Char) : Option (List Char) :=
  match skipBlanks source with
  | [] => some []
  | '#' :: rest => skipFiller true rest
  | rest => if startsWithBreak rest then some rest else none

/-- Whether a character may belong to a bare key. -/
def isKeyChar (c : Char) : Bool := c.isAlphanum || c == '_' || c == '-'

/-- A key, bare or as a text on one line, and what follows it. -/
def readKey (source : List Char) : Option (String × List Char) :=
  match readShort source with
  | some (text, rest) => some (String.ofList text, rest)
  | none =>
    let word := source.takeWhile isKeyChar
    if word.isEmpty then none else some (String.ofList word, source.dropWhile isKeyChar)

/-- A path of at most so many keys with dots and blanks between them, and what follows it. -/
def readPathOf : Nat → List Char → Option (List String × List Char)
  | 0, _ => none
  | count + 1, source => do
    let (key, rest) ← readKey (skipBlanks source)
    match skipBlanks rest with
    | '.' :: rest => do
      let (path, rest) ← readPathOf count rest
      some (key :: path, rest)
    | rest => some ([key], rest)

/-- How many keys a path has, and how deep arrays and inline tables nest. -/
def depthLimit : Nat := 80

/-- A path of keys and what follows it. -/
def readPath (source : List Char) : Option (List String × List Char) :=
  readPathOf depthLimit source

mutual

/-- A value and what follows it. The first argument bounds the length of the reading, the second is
how much deeper values may nest. -/
def readValue : Nat → Nat → List Char → Option (Value × List Char)
  | 0, _, _ => none
  | bound + 1, depth, source =>
    match source with
    | '[' :: rest => do
      match depth with
      | 0 => none
      | depth + 1 =>
        let (items, rest) ← readItems bound depth rest
        some (.array items, rest)
    | '{' :: rest => do
      match depth with
      | 0 => none
      | depth + 1 =>
        let (assignments, rest) ← readPairs bound depth rest
        let entries ← Entries.assignAll assignments []
        some (.table (closeEntries entries), rest)
    | source =>
      match readText source with
      | some (text, rest) => some (.text (String.ofList text), rest)
      | none => readScalar source

/-- The items of an array up to its end, and what follows it. A comma may stand after the last. -/
def readItems : Nat → Nat → List Char → Option (List Value × List Char)
  | 0, _, _ => none
  | bound + 1, depth, source => do
    match ← skipFiller false source with
    | ']' :: rest => some ([], rest)
    | source => do
      let (item, rest) ← readValue bound depth source
      match ← skipFiller false rest with
      | ',' :: rest => do
        let (items, rest) ← readItems bound depth rest
        some (item :: items, rest)
      | ']' :: rest => some ([item], rest)
      | _ => none

/-- The assignments of an inline table up to its end, and what follows it. A comma may stand after
the last. -/
def readPairs : Nat → Nat → List Char → Option (List (List String × Value) × List Char)
  | 0, _, _ => none
  | bound + 1, depth, source => do
    match ← skipFiller false source with
    | '}' :: rest => some ([], rest)
    | source => do
      let (pair, rest) ← readPair bound depth source
      match ← skipFiller false rest with
      | ',' :: rest => do
        let (pairs, rest) ← readPairs bound depth rest
        some (pair :: pairs, rest)
      | '}' :: rest => some ([pair], rest)
      | _ => none

/-- An assignment of an inline table and what follows it. Lines may break on both sides of its
equals sign. -/
def readPair : Nat → Nat → List Char → Option ((List String × Value) × List Char)
  | 0, _, _ => none
  | bound + 1, depth, source => do
    let (path, rest) ← readPath source
    match ← skipFiller false rest with
    | '=' :: rest => do
      let (value, rest) ← readValue bound depth (← skipFiller false rest)
      some ((path, value), rest)
    | _ => none

end

/-- A statement and what follows it on its line. -/
def readStatement (bound : Nat) (source : List Char) : Option (Statement × List Char) :=
  match source with
  | '[' :: '[' :: rest => do
    match ← readPath rest with
    | (path, ']' :: ']' :: rest) => some (.element path, rest)
    | _ => none
  | '[' :: rest => do
    match ← readPath rest with
    | (path, ']' :: rest) => some (.table path, rest)
    | _ => none
  | source => do
    match ← readPath source with
    | (path, '=' :: rest) => do
      let (value, rest) ← readValue bound depthLimit (skipBlanks rest)
      some (.assign path value, rest)
    | _ => none

/-- The statements of a document; the first argument bounds their number and length. -/
def readStatements : Nat → List Char → Option (List Statement)
  | 0, _ => none
  | bound + 1, source => do
    match ← skipFiller false source with
    | [] => some []
    | source => do
      let (statement, rest) ← readStatement bound source
      let statements ← readStatements bound (← endLine rest)
      some (statement :: statements)

/-- The document without a byte-order mark. -/
def dropMark : List Char → List Char
  | '\uFEFF' :: rest => rest
  | source => source

/-- The statements of a document. -/
def statements? (document : List Char) : Option (List Statement) :=
  readStatements (4 * document.length + 8) (dropMark document)

/-- The table that a document describes. -/
def read (document : String) : Option Value := do
  let entries ← Entries.ofStatements (← statements? document.toList)
  some (.table (closeEntries entries))

/-- Numbers in messages about TOML documents are written without an exponent, and a half goes up. -/
def numbers : Decimal.Notation := ⟨none, none, "", .up⟩

/-- The value that a document describes. A document that describes none counts as malformed unless
its numbers are narrow. -/
def decode {α : Type} (reader : Reader α) (document : String) : Except DocumentFault α :=
  match read document with
  | none => .error .malformed
  | some table =>
    (reader table.node).mapError fun fault => if table.isNarrow then fault else .malformed

end MessageContracts.Toml
