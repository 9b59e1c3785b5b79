import MessageContracts.Text.Characters

/-!
# Modes of a pattern

Flags inside a pattern change how its rest is read. Three of them matter to its grammar: blanks and
comments can be left out, the pattern can speak of bytes in place of characters, and it can take the
cases of a letter as one.
-/

namespace MessageContracts.Pattern

/-- How a pattern is read from some place on. -/
structure Mode where
  /-- Whether blanks and comments are left out. -/
  spaced : Bool
  /-- Whether the pattern speaks of characters and not of bytes. -/
  wide : Bool
  /-- Whether the cases of a letter count as one. -/
  folded : Bool
deriving DecidableEq, Repr

namespace Mode

/-- The mode at the start of a pattern. -/
def initial : Mode := ⟨false, true, false⟩

/-- Whether characters can be compared as the mode asks: the cases of letters are known to patterns
of bytes alone. -/
def knowsCases (mode : Mode) : Bool := !(mode.wide && mode.folded)

/-- The source without blanks and comments at its front; the flag says that a comment is open. -/
def skipSpace : Bool → List Char → List Char
  | _, [] => []
  | true, c :: rest => skipSpace (c != '\n') rest
  | false, c :: rest =>
    if Text.isBlank c then skipSpace false rest
    else if c = '#' then skipSpace true rest
    else c :: rest

/-- The source without what the mode leaves out at its front. -/
def skip (mode : Mode) (source : List Char) : List Char :=
  if mode.spaced then skipSpace false source else source

end Mode

/-- The letters of flags. -/
def flagLetters : List Char := ['i', 'm', 's', 'R', 'U', 'u', 'x']

/-- Flags up to the mark at their end, the mark, and what follows it; `given` have been read. A
minus sign turns off the flags after it. Nothing stands twice, and the minus sign does not stand
last. -/
def readFlags : List Char → List Char → Option (List Char × Char × List Char)
  | _, [] => none
  | given, c :: rest =>
    if c = ':' ∨ c = ')' then
      if given.getLast? = some '-' then none else some (given, c, rest)
    else if (c = '-' || flagLetters.contains c) && !given.contains c then
      readFlags (given ++ [c]) rest
    else none

/-- Whether flags turn one of them on or off, if they name it. -/
def flagState? (flags : List Char) (flag : Char) : Option Bool :=
  if flags.contains flag then some !((flags.takeWhile (· != flag)).contains '-') else none

/-- The mode with some flags turned on or off. -/
def Mode.change (mode : Mode) (flags : List Char) : Mode :=
  ⟨(flagState? flags 'x').getD mode.spaced, (flagState? flags 'u').getD mode.wide,
    (flagState? flags 'i').getD mode.folded⟩

end MessageContracts.Pattern
