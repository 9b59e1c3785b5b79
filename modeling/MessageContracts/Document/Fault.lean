import MessageContracts.Decimal.Shortest
import MessageContracts.Document.Node
import MessageContracts.Template.Error

/-!
# Why a document does not describe a value

A document is refused because it is malformed, or because it is well formed so far but has the
wrong shape. The wording of a fault depends on the document's format in one point only, the
notation of numbers.
-/

namespace MessageContracts

/-- What a reader found instead of what it expected. -/
inductive Found where
  /-- No value. -/
  | null
  /-- A truth value. -/
  | boolean (value : Bool)
  /-- An integer. -/
  | integer (value : Int)
  /-- A number that is not an integer. -/
  | real (value : Binary64)
  /-- A text. -/
  | text (value : String)
  /-- A list. -/
  | list
  /-- A record. -/
  | record
deriving DecidableEq, Repr

/-- Why a document does not describe a value. -/
inductive DocumentFault where
  /-- The document stops being well formed. -/
  | malformed
  /-- A value of another kind stands where this one is expected. -/
  | wrongType (found : Found) (expected : String)
  /-- A required field of a record is absent. -/
  | missingField (name : String)
  /-- A record gives a field twice. -/
  | duplicateField (name : String)
  /-- A list that stands for a record ends before a required field. -/
  | tooShort (length : Nat) (record : String) (fields : Nat)
  /-- A text is none of the listed names. -/
  | unknownVariant (name : String) (known : List String)
  /-- A name from a list of names is expected. -/
  | notAVariant
  /-- A record that stands for a name has not exactly one key. -/
  | variantCount (empty : Bool)
  /-- A name that takes no value has a list that is not empty. -/
  | variantList
  /-- A name that takes no value has a record that is not empty. -/
  | variantRecord
  /-- A name that takes no value has a scalar of this kind. -/
  | variantScalar (kind : String)
  /-- A template does not compile. -/
  | template (error : TemplateError)
deriving DecidableEq, Repr

namespace Found

/-- How a found value is described. -/
def describe (style : Decimal.Notation) : Found → String
  | .null => "null"
  | .boolean value => "boolean \x60" ++ (if value then "true" else "false") ++ "\x60"
  | .integer value => "integer \x60" ++ value.repr ++ "\x60"
  | .real value => "floating point \x60" ++ Decimal.text style value ++ "\x60"
  | .text value => "string " ++ Text.quoted value
  | .list => "sequence"
  | .record => "map"

end Found

namespace DocumentFault

/-- A name between grave accents. -/
def ticked (name : String) : String := "\x60" ++ name ++ "\x60"

/-- The wording of a fault in a document with this notation of numbers. A malformed document has
no wording of its own. -/
def message (style : Decimal.Notation) : DocumentFault → String
  | .malformed => ""
  | .wrongType found expected =>
    "invalid type: " ++ found.describe style ++ ", expected " ++ expected
  | .missingField name => "missing field " ++ ticked name
  | .duplicateField name => "duplicate field " ++ ticked name
  | .tooShort length record fields =>
    "invalid length " ++ length.repr ++ ", expected " ++ record ++ " with " ++ fields.repr
      ++ (if fields = 1 then " element" else " elements")
  | .unknownVariant name known =>
    "unknown variant " ++ ticked name ++ ", expected " ++ " or ".intercalate (known.map ticked)
  | .notAVariant => "wanted string or table"
  | .variantCount empty =>
    "wanted exactly 1 element, " ++ (if empty then "found 0 elements" else "more than 1 element")
  | .variantList => "expected empty array"
  | .variantRecord => "expected empty table"
  | .variantScalar kind => "expected table, found " ++ kind
  | .template error => error.message

end DocumentFault

namespace Node

/-- The fault of meeting this node where something else is expected. -/
def unexpected (expected : String) : Node → DocumentFault
  | .broken | .unreadable => .malformed
  | .null => .wrongType .null expected
  | .boolean value => .wrongType (.boolean value) expected
  | .integer value => .wrongType (.integer value) expected
  | .real value => .wrongType (.real value) expected
  | .text value => .wrongType (.text value) expected
  | .list _ _ => .wrongType .list expected
  | .moment | .record _ _ => .wrongType .record expected

end Node

end MessageContracts
