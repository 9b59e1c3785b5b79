import MessageContracts.Text.Alphanumeric
import MessageContracts.Trace.Pattern.Set

/-!
# Patterns of field values

A filter may ask for values that match a regular expression. Whether a text is one is a matter of
its grammar: alternatives of steps, sets and groups, each of which may be repeated. A counted
repetition ends with a brace, which also ends a value, so there is none.
-/

namespace MessageContracts.Pattern

/-- Whether the name of a group may start with this character. -/
def isNameStart (c : Char) : Bool := c == '_' || Text.isAlphabetic c

/-- Whether the name of a group may go on with this character. -/
def isNameChar (c : Char) : Bool :=
  c == '_' || c == '.' || c == '[' || c == ']' || Text.isAlphanumeric c

/-- What an opening parenthesis begins. -/
inductive Opening where
  /-- A change of mode up to the end of the group around it. -/
  | flags (mode : Mode)
  /-- A group that is read in a mode, with or without a name. -/
  | group (mode : Mode) (name : Option String)
deriving DecidableEq, Repr

/-- A group after the mark in front of its name, and what follows the name. -/
def readName (mode : Mode) (source : List Char) : Option (Opening × List Char) :=
  match source.takeWhile (· != '>'), source.dropWhile (· != '>') with
  | c :: name, _ :: rest =>
    if isNameStart c && name.all isNameChar then
      some (.group mode (some (String.ofList (c :: name))), rest)
    else none
  | _, _ => none

/-- What begins after an opening parenthesis, and what follows its head. Empty flags are no head of
their own. -/
def readOpening (mode : Mode) : List Char → Option (Opening × List Char)
  | '?' :: 'P' :: '<' :: rest => readName mode rest
  | '?' :: '<' :: rest => readName mode rest
  | '?' :: rest => do
    match ← readFlags [] rest with
    | ([], ')', _) => none
    | (flags, ')', rest) => some (.flags (mode.change flags), rest)
    | (flags, _, rest) => some (.group (mode.change flags) none, rest)
  | rest => some (.group mode none, rest)

/-- What has been read of the alternatives of a group. -/
structure Branches where
  /-- How deep the finished alternatives nest. -/
  finished : List Nat
  /-- How deep the parts of the open alternative nest, the latest first. -/
  parts : List Nat
  /-- Whether the latest part may be repeated. -/
  repeatable : Bool
deriving DecidableEq, Repr

namespace Branches

/-- Nothing has been read. -/
def start : Branches := ⟨[], [], false⟩

/-- With a further part. -/
def add (branches : Branches) (depth : Nat) : Branches :=
  { branches with parts := depth :: branches.parts, repeatable := true }

/-- With a change of mode, which cannot be repeated. -/
def addFlags (branches : Branches) : Branches :=
  { branches with parts := 0 :: branches.parts, repeatable := false }

/-- With the latest part repeated, if there is one. -/
def repeated? (branches : Branches) : Option Branches :=
  match branches.repeatable, branches.parts with
  | true, depth :: parts => some { branches with parts := (depth + 1) :: parts }
  | _, _ => none

/-- With the open alternative finished. -/
def next (branches : Branches) : Branches :=
  ⟨joinedDepth branches.parts :: branches.finished, [], false⟩

/-- How deep all alternatives nest. -/
def depth (branches : Branches) : Nat := joinedDepth branches.next.finished

end Branches

/-- The names of groups with one more, unless it is taken. -/
def addName? (names : List String) : Option String → Option (List String)
  | none => some names
  | some name => if names.contains name then none else some (name :: names)

/-- The source without the mark of a repetition that takes as little as it can. -/
def dropLazy : List Char → List Char
  | '?' :: rest => rest
  | rest => rest

/-- How deep the alternatives up to a closing parenthesis or the end nest, the names of all groups
so far, and what follows. The first argument bounds the length of the reading. -/
def readBranches : Nat → Mode → List String → Branches → List Char →
    Option (Nat × List String × List Char)
  | 0, _, _, _, _ => none
  | bound + 1, mode, names, branches, source =>
    match mode.skip source with
    | [] => some (branches.depth, names, [])
    | ')' :: rest => some (branches.depth, names, ')' :: rest)
    | '|' :: rest => readBranches bound mode names branches.next rest
    | '(' :: rest => do
      match ← readOpening mode (mode.skip rest) with
      | (.flags mode, rest) => readBranches bound mode names branches.addFlags rest
      | (.group inner name, rest) => do
        let names ← addName? names name
        match ← readBranches bound inner names .start rest with
        | (depth, names, ')' :: rest) =>
          readBranches bound mode names (branches.add (depth + 1)) rest
        | _ => none
    | '[' :: rest => do
      let (members, rest) ← openSet mode rest
      let (depth, rest) ← readSet mode bound none members rest
      readBranches bound mode names (branches.add depth) rest
    | '{' :: _ => none
    | '*' :: rest => do readBranches bound mode names (← branches.repeated?) (dropLazy rest)
    | '+' :: rest => do readBranches bound mode names (← branches.repeated?) (dropLazy rest)
    | '?' :: rest => do readBranches bound mode names (← branches.repeated?) (dropLazy rest)
    | source => do
      let (atom, rest) ← readStep mode source
      if atom.isStep mode then readBranches bound mode names (branches.add 0) rest else none

/-- How deep a pattern may nest. -/
def depthLimit : Nat := 250

/-- Whether a text is a pattern. -/
def isValid (text : List Char) : Bool :=
  match readBranches (text.length + 1) .initial [] .start text with
  | some (depth, _, []) => depth ≤ depthLimit
  | _ => false

end MessageContracts.Pattern
