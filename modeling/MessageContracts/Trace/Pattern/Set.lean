import MessageContracts.Trace.Pattern.Atom

/-!
# Sets of characters in a pattern

A set stands in brackets and holds characters, ranges, named classes and further sets. Two marks in
a row stand between sets that are intersected or subtracted. A bracket that comes first is a member,
so a set is never empty as it is written. Reading a set yields how deep it nests.
-/

namespace MessageContracts.Pattern

/-- How deep parts side by side nest: a single part adds nothing to itself. -/
def joinedDepth : List Nat → Nat
  | [] => 0
  | [depth] => depth
  | depths => 1 + depths.foldr max 0

/-- How deep a set nests within its brackets: members `parts`, after an operation whose left side
nests `left` deep. -/
def setDepth (left : Option Nat) (parts : List Nat) : Nat :=
  match left with
  | none => joinedDepth parts
  | some left => 1 + max left (joinedDepth parts)

/-- The names of classes. -/
def classNames : List String :=
  ["alnum", "alpha", "ascii", "blank", "cntrl", "digit", "graph", "lower", "print", "punct",
    "space", "upper", "word", "xdigit"]

/-- A named class after its opening bracket, whether it holds all others instead, and what follows
it. -/
def readClass : List Char → Option (Bool × List Char)
  | ':' :: source =>
    let others := source.head? == some '^'
    let source := if others then source.drop 1 else source
    let name := String.ofList (source.takeWhile (· != ':'))
    match source.dropWhile (· != ':') with
    | ':' :: ']' :: rest => if classNames.contains name then some (others, rest) else none
    | _ => none
  | _ => none

/-- What follows a member or a range of members. -/
def readRange (mode : Mode) (source : List Char) : Option (List Char) := do
  let (first, rest) ← readMember mode source
  let single (rest : List Char) := if first.isMember mode then some rest else none
  match mode.skip rest with
  | '-' :: tail =>
    match mode.skip tail with
    | ']' :: _ => single ('-' :: tail)
    | '-' :: _ => single ('-' :: tail)
    | tail => do
      match first, ← readMember mode tail with
      | .character a _, (.character b asByte, rest) =>
        if a ≤ b && first.isMember mode && (Atom.character b asByte).isMember mode then some rest
        else none
      | _, _ => none
  | rest => single rest

/-- The number of dashes at the front, and what follows them. The first argument bounds it. -/
def takeDashes (mode : Mode) : Nat → List Char → Nat × List Char
  | 0, source => (0, source)
  | bound + 1, source =>
    match mode.skip source with
    | '-' :: rest =>
      let (count, rest) := takeDashes mode bound rest
      (count + 1, rest)
    | rest => (0, rest)

/-- How deep the members nest that stand at the front of a set as they are, and what follows them.
No set of bytes holds all but some. -/
def openSet (mode : Mode) (source : List Char) : Option (List Nat × List Char) :=
  let source := mode.skip source
  let others := source.head? == some '^'
  let source := if others then source.drop 1 else source
  if others && !mode.wide then none
  else
    let (members, rest) := match takeDashes mode source.length source with
      | (0, ']' :: rest) => ([0], rest)
      | (count, rest) => (List.replicate count 0, rest)
    if members.isEmpty || mode.knowsCases then some (members, rest) else none

/-- Whether a set may hold a named class, or all that is not in one. -/
def allowsClass (mode : Mode) (others : Bool) : Bool :=
  mode.knowsCases && (mode.wide || !others)

/-- How deep a set nests, and what follows it. The first argument bounds the length of the reading;
`left` and `parts` have been read. -/
def readSet (mode : Mode) : Nat → Option Nat → List Nat → List Char → Option (Nat × List Char)
  | 0, _, _, _ => none
  | bound + 1, left, parts, source =>
    match mode.skip source with
    | ']' :: rest => some (1 + setDepth left parts, rest)
    | '&' :: '&' :: rest => readSet mode bound (some (setDepth left parts)) [] rest
    | '-' :: '-' :: rest => readSet mode bound (some (setDepth left parts)) [] rest
    | '~' :: '~' :: rest => readSet mode bound (some (setDepth left parts)) [] rest
    | '[' :: rest =>
      match readClass rest with
      | some (others, rest) =>
        if allowsClass mode others then readSet mode bound left (0 :: parts) rest else none
      | none => do
        let (members, rest) ← openSet mode rest
        let (depth, rest) ← readSet mode bound none members rest
        readSet mode bound left (depth :: parts) rest
    | source => do readSet mode bound left (0 :: parts) (← readRange mode source)

end MessageContracts.Pattern
