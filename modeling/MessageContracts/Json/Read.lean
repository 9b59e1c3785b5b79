import MessageContracts.Document.Shape
import MessageContracts.Json.Number
import MessageContracts.Json.Text

/-!
# Reading JSON

A document is one value with blanks around it. Reading never fails: where the document stops being
JSON, the tree has a broken node and everything after it is left alone. A document describes a value
if its tree does and nothing follows the tree.
-/

namespace MessageContracts.Json

open Text (Scalar)

/-- The blanks of JSON. -/
def isBlank : Scalar → Bool
  | some c => c == ' ' || c == '\n' || c == '\t' || c == '\r'
  | none => false

/-- The source without the blanks at its front. -/
def skipBlanks (source : List Scalar) : List Scalar := source.dropWhile isBlank

/-- The source after a word, if it starts with the word. -/
def after? : List Char → List Scalar → Option (List Scalar)
  | [], source => some source
  | c :: word, some d :: source => if c = d then after? word source else none
  | _ :: _, _ => none

/-- A value that is neither a list nor a record, and what follows it. -/
def readScalar (source : List Scalar) : Option (Node × List Scalar) :=
  match source with
  | some '"' :: rest => do
    let (value, rest) ← readText rest
    some ((value.map Node.text).getD .unreadable, rest)
  | some 'n' :: rest => (.null, ·) <$> after? ['u', 'l', 'l'] rest
  | some 't' :: rest => (.boolean true, ·) <$> after? ['r', 'u', 'e'] rest
  | some 'f' :: rest => (.boolean false, ·) <$> after? ['a', 'l', 's', 'e'] rest
  | _ => do
    let (literal, rest) ← readLiteral source
    some (literal.node, rest)

mutual

/-- A value and what follows it; nothing follows a value in which the document breaks off. The
first argument bounds the depth and length of the reading. -/
def readNode : Nat → List Scalar → Node × Option (List Scalar)
  | 0, _ => (.broken, none)
  | bound + 1, source =>
    match skipBlanks source with
    | some '[' :: rest =>
      match skipBlanks rest with
      | some ']' :: rest => (.list [] true, some rest)
      | rest =>
        let (items, complete, rest) := readItems bound rest
        (.list items complete, rest)
    | some '{' :: rest =>
      match skipBlanks rest with
      | some '}' :: rest => (.record [] true, some rest)
      | rest =>
        let (members, complete, rest) := readMembers bound rest
        (.record members complete, rest)
    | source =>
      match readScalar source with
      | none => (.broken, none)
      | some (node, rest) => (node, some rest)

/-- The items of a list up to its end, whether the end is there, and what follows it. -/
def readItems : Nat → List Scalar → List Node × Bool × Option (List Scalar)
  | 0, _ => ([], false, none)
  | bound + 1, source =>
    match readNode bound source with
    | (node, none) => ([node], false, none)
    | (node, some rest) =>
      match skipBlanks rest with
      | some ',' :: rest =>
        let (items, complete, rest) := readItems bound rest
        (node :: items, complete, rest)
      | some ']' :: rest => ([node], true, some rest)
      | _ => ([node], false, none)

/-- The members of a record up to its end, whether the end is there, and what follows it. -/
def readMembers : Nat → List Scalar → List (Option String × Node) × Bool × Option (List Scalar)
  | 0, _ => ([], false, none)
  | bound + 1, source =>
    match skipBlanks source with
    | some '"' :: rest =>
      match readText rest with
      | none => ([], false, none)
      | some (key, rest) =>
        match skipBlanks rest with
        | some ':' :: rest =>
          match readNode bound rest with
          | (node, none) => ([(key, node)], false, none)
          | (node, some rest) =>
            match skipBlanks rest with
            | some ',' :: rest =>
              let (members, complete, rest) := readMembers bound rest
              ((key, node) :: members, complete, rest)
            | some '}' :: rest => ([(key, node)], true, some rest)
            | _ => ([(key, node)], false, none)
        | _ => ([(key, .broken)], false, none)
    | _ => ([], false, none)

end

/-- A document as a tree, and whether nothing but blanks follows it. -/
structure Reading where
  /-- The value of the document. -/
  root : Node
  /-- Whether the document ends after the value. -/
  ended : Bool

/-- Read a document. -/
def read (source : List Scalar) : Reading :=
  match readNode (2 * source.length + 2) source with
  | (root, none) => ⟨root, false⟩
  | (root, some rest) => ⟨root, (skipBlanks rest).isEmpty⟩

/-- Numbers in messages about JSON documents: an exponent is written below `10 ^ -5` and from
`10 ^ 16` on, and a half goes to the even digit. -/
def numbers : Decimal.Notation := ⟨some (-5), some 16, "+", .even⟩

/-- The value that a row of characters describes. -/
def decodeScalars {α : Type} (reader : Reader α) (source : List Scalar) :
    Except DocumentFault α := do
  let reading := read source
  let value ← reader reading.root
  if reading.ended then .ok value else .error .malformed

/-- The value that a document describes. -/
def decode {α : Type} (reader : Reader α) (document : ByteArray) : Except DocumentFault α :=
  decodeScalars reader (Text.scalars document)

end MessageContracts.Json
