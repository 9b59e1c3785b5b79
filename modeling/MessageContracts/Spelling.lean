import MessageContracts.Text.Casing

/-!
# Spelling the members of a contract

The model holds raw identifiers. A member is spelt twice in the generated source, once as a field
and once as a constructor parameter, and a spelling style fixes both of them.
-/

namespace MessageContracts

open Text

/-- The two spellings that a member identifier needs. -/
structure SpellingStyle where
  /-- The spelling of the field, also used on the left of an assignment. -/
  member : String → String
  /-- The spelling of the constructor parameter. -/
  parameter : String → String

namespace Spelling

/-- Hyphens and underscores separate the words of an identifier. -/
def isSeparator (c : Char) : Bool := c == '-' || c == '_'

/-- Drop the separators and capitalise each word; the flag says that a word starts here. -/
def joinWords : Bool → List Char → List Char
  | _, [] => []
  | atStart, c :: rest =>
    if isSeparator c then joinWords true rest
    else (if atStart then upperCase c else [c]) ++ joinWords false rest

/-- The identifier with its words capitalised and joined. -/
def pascalCase (identifier : String) : String :=
  String.ofList (joinWords true identifier.toList)

/-- The words that C# reserves. -/
def reservedWords : List String := [
  "abstract", "as", "base", "bool", "break", "byte", "case", "catch", "char", "checked", "class",
  "const", "continue", "decimal", "default", "delegate", "do", "double", "else", "enum", "event",
  "explicit", "extern", "false", "finally", "fixed", "float", "for", "foreach", "goto", "if",
  "implicit", "in", "int", "interface", "internal", "is", "lock", "long", "namespace", "new",
  "null", "object", "operator", "out", "override", "params", "private", "protected", "public",
  "readonly", "ref", "return", "sbyte", "sealed", "short", "sizeof", "stackalloc", "static",
  "string", "struct", "switch", "this", "throw", "true", "try", "typeof", "uint", "ulong",
  "unchecked", "unsafe", "ushort", "using", "virtual", "void", "volatile", "while"]

/-- A name that is reserved needs a mark in front to serve as an identifier. -/
def escapeReserved (name : String) : String :=
  if reservedWords.contains name then "@" ++ name else name

/-- The parameter spelling: the joined words with a small first letter, escaped when reserved. -/
def parameterName (identifier : String) : String :=
  escapeReserved (lowerFirst (pascalCase identifier))

/-- The conventions of C#: fields in Pascal case, parameters in camel case. -/
def csharp : SpellingStyle := ⟨pascalCase, parameterName⟩

end Spelling

end MessageContracts
