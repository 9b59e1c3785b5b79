import MessageContracts.Text.CaseTable

/-!
# Changing the case of a first letter

The mappings are those of single characters, without context: one character may map to several,
and a character in no table is left as it is.
-/

namespace MessageContracts.Text

/-- The mapping that a table of runs and a table of expansions describe together. -/
def mapCase (runs : List CaseRun) (expansions : List (Nat × List Nat)) (c : Char) : List Char :=
  match expansions.lookup c.toNat with
  | some codes => codes.map Char.ofNat
  | none =>
    match runs.find? (·.covers c.toNat) with
    | some run => [Char.ofNat (c.toNat + run.shift).toNat]
    | none => [c]

/-- The upper-case mapping of a character. -/
def upperCase (c : Char) : List Char := mapCase upperRuns upperExpansions c

/-- The lower-case mapping of a character. -/
def lowerCase (c : Char) : List Char := mapCase lowerRuns lowerExpansions c

/-- The text with its first character in upper case. -/
def upperFirst (text : String) : String :=
  match text.toList with
  | [] => ""
  | c :: rest => String.ofList (upperCase c ++ rest)

/-- The text with its first character in lower case. -/
def lowerFirst (text : String) : String :=
  match text.toList with
  | [] => ""
  | c :: rest => String.ofList (lowerCase c ++ rest)

end MessageContracts.Text
