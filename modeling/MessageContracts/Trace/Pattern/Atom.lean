import MessageContracts.Text.Characters
import MessageContracts.Trace.Pattern.Mode

/-!
# The smallest parts of a pattern

An atom is a character, a class of characters with a short name, or a place between characters.
Short names, the edges of words and the cases of letters are known for ASCII alone, so a pattern
that speaks of characters cannot use them. A pattern that speaks of bytes may only match whole
characters, so it cannot name what lies outside of ASCII, nor all but some bytes.
-/

namespace MessageContracts.Pattern

/-- A smallest part of a pattern. -/
inductive Atom where
  /-- A character; the flag says that it is written as a byte in two digits. -/
  | character (c : Char) (asByte : Bool)
  /-- Any character of a line. -/
  | any
  /-- A class of characters by name; the flag says that it holds all others instead. -/
  | kind (others : Bool)
  /-- A place between characters; the flag says that it is the edge of a word or within one. -/
  | place (ofWord : Bool)
deriving DecidableEq, Repr

namespace Atom

/-- Whether the atom may be a step of a pattern. -/
def isStep (mode : Mode) : Atom → Bool
  | character c asByte => mode.knowsCases && (mode.wide || !asByte || c.toNat < 0x80)
  | any => mode.wide
  | kind others => !mode.wide && !others
  | place ofWord => !(mode.wide && ofWord)

/-- Whether the atom may be a member of a set. -/
def isMember (mode : Mode) : Atom → Bool
  | character c _ => mode.knowsCases && (mode.wide || c.toNat < 0x80)
  | kind others => !mode.wide && !others
  | any | place _ => false

end Atom

/-- So many hexadecimal digits and what follows them. -/
def readDigits (mode : Mode) : Nat → List Char → Option (List Char × List Char)
  | 0, source => some ([], source)
  | count + 1, source =>
    match mode.skip source with
    | [] => none
    | digit :: rest => do
      let (digits, rest) ← readDigits mode count rest
      some (digit :: digits, rest)

/-- A character by its number in so many digits, and what follows it. -/
def readCode (mode : Mode) (count : Nat) (source : List Char) : Option (Atom × List Char) := do
  let (digits, rest) ← readDigits mode count source
  some (.character (← Text.hexChar? digits) (count == 2), rest)

/-- The character that a letter stands for after a backslash. -/
def letterEscape? : Char → Option Char
  | 'a' => some '\x07'
  | 'f' => some '\x0c'
  | 'n' => some '\n'
  | 'r' => some '\r'
  | 't' => some '\t'
  | 'v' => some '\x0b'
  | _ => none

/-- What a single character stands for after a backslash. Letters and digits without a meaning are
kept for later use. -/
def escapeAtom? (c : Char) : Option Atom :=
  if ['d', 's', 'w'].contains c then some (.kind false)
  else if ['D', 'S', 'W'].contains c then some (.kind true)
  else if ['A', 'z'].contains c then some (.place false)
  else if ['b', 'B', '<', '>'].contains c then some (.place true)
  else match letterEscape? c with
    | some c => some (.character c false)
    | none => if c.toNat < 0x80 && !c.isAlphanum then some (.character c false) else none

/-- An atom after a backslash, and what follows it. -/
def readEscape (mode : Mode) : List Char → Option (Atom × List Char)
  | 'x' :: rest => readCode mode 2 rest
  | 'u' :: rest => readCode mode 4 rest
  | 'U' :: rest => readCode mode 8 rest
  | c :: rest => do some (← escapeAtom? c, rest)
  | [] => none

/-- A step of a pattern, and what follows it. -/
def readStep (mode : Mode) : List Char → Option (Atom × List Char)
  | '\\' :: rest => readEscape mode rest
  | '.' :: rest => some (.any, rest)
  | '^' :: rest => some (.place false, rest)
  | '$' :: rest => some (.place false, rest)
  | c :: rest => some (.character c false, rest)
  | [] => none

/-- A member of a set, and what follows it. -/
def readMember (mode : Mode) : List Char → Option (Atom × List Char)
  | '\\' :: rest => readEscape mode rest
  | c :: rest => some (.character c false, rest)
  | [] => none

end MessageContracts.Pattern
