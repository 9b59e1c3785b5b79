import MessageContracts.Text.Hidden

/-!
# Quoted text

Messages show a text between double quotes. The quotes and the backslash are escaped, the common
control characters have a letter each, and every other hidden character is written by its number,
so that the text can be told apart from any other one.
-/

namespace MessageContracts.Text

/-- The number of a character, in hexadecimal digits. -/
def codeEscape (c : Char) : List Char :=
  ['\\', 'u', '{'] ++ Nat.toDigits 16 c.toNat ++ ['}']

/-- A character of a quoted text. -/
def quotedChar (c : Char) : List Char :=
  match c with
  | '\x00' => ['\\', '0']
  | '\t' => ['\\', 't']
  | '\n' => ['\\', 'n']
  | '\r' => ['\\', 'r']
  | '\\' => ['\\', '\\']
  | '"' => ['\\', '"']
  | _ => if isHidden c then codeEscape c else [c]

/-- The text between double quotes, as messages show it. -/
def quoted (text : String) : String :=
  String.ofList ('"' :: text.toList.flatMap quotedChar ++ ['"'])

end MessageContracts.Text
