import MessageContracts.Json.Text

/-!
# Writing JSON

A value to be written holds no number with a fraction. It is written without blanks, with the
members of a record in their order.
-/

namespace MessageContracts.Json

/-- A value to be written. -/
inductive Value where
  /-- No value. -/
  | null
  /-- A text. -/
  | text (value : String)
  /-- A list. -/
  | list (items : List Value)
  /-- A record. -/
  | record (members : List (String × Value))
deriving Repr

namespace Value

mutual

/-- The characters of a value. -/
def chars : Value → List Char
  | null => ['n', 'u', 'l', 'l']
  | text value => quote value
  | list items => '[' :: itemChars items ++ [']']
  | record members => '{' :: memberChars members ++ ['}']

/-- The characters of the items of a list. -/
def itemChars : List Value → List Char
  | [] => []
  | [item] => item.chars
  | item :: rest => item.chars ++ ',' :: itemChars rest

/-- The characters of the members of a record. -/
def memberChars : List (String × Value) → List Char
  | [] => []
  | [(key, value)] => quote key ++ ':' :: value.chars
  | (key, value) :: rest => quote key ++ ':' :: value.chars ++ ',' :: memberChars rest

end

/-- The text of a value. -/
def compact (value : Value) : String := String.ofList value.chars

/-- A list of texts. -/
def texts (values : List String) : Value := list (values.map text)

/-- A text that may be absent. -/
def optionalText : Option String → Value
  | none => null
  | some value => text value

end Value

end MessageContracts.Json
