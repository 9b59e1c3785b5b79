import MessageContracts.Settings
import MessageContracts.Layout

/-!
# Manifests

A manifest says what is generated and how the text is laid out. A manifest is accepted if its
indent consists of blanks and each of its interface rules can be emitted: a rule without tags
never is, and an empty tag is a mistake.
-/

namespace MessageContracts

/-- The end of a line. -/
inductive LineEnding where
  /-- A line feed. -/
  | lf
  /-- A carriage return and a line feed. -/
  | crlf
deriving DecidableEq, Repr

/-- The characters that end a line. -/
def LineEnding.text : LineEnding → String
  | .lf => "\n"
  | .crlf => "\r\n"

/-- How the generated text is laid out. -/
structure OutputLayout where
  /-- The text that one level contributes to an indent. -/
  indent : String
  /-- The end of each line. -/
  lineEnding : LineEnding
deriving DecidableEq, Repr

/-- The layout unless another is configured. -/
def OutputLayout.stock : OutputLayout := ⟨LineWriter.stockUnit, .lf⟩

/-- What is generated, and how it is laid out. -/
structure Manifest where
  /-- The settings of the generator. -/
  settings : Settings
  /-- The layout of its output. -/
  layout : OutputLayout
deriving DecidableEq

/-- Why a manifest is not accepted. -/
inductive ManifestFault where
  /-- The indent holds something else than spaces and tabs. -/
  | indent (text : String)
  /-- The interface rule with this declaration has no tags. -/
  | noTags (declaration : String)
  /-- The interface rule with this declaration has an empty tag. -/
  | emptyTag (declaration : String)
deriving DecidableEq, Repr

/-- The wording of a fault. -/
def ManifestFault.message : ManifestFault → String
  | .indent text => "Output indent must be spaces or tabs, got " ++ Text.quoted text
  | .noTags declaration =>
    "Interface '" ++ declaration ++ "' has no tags and would never be emitted"
  | .emptyTag declaration => "Interface '" ++ declaration ++ "' has an empty tag"

/-- What is wrong with an interface rule. -/
def InterfaceRule.fault? (rule : InterfaceRule) : Option ManifestFault :=
  if rule.tags.isEmpty then some (.noTags rule.name.source)
  else if rule.tags.contains "" then some (.emptyTag rule.name.source)
  else none

/-- What is wrong with a layout. -/
def OutputLayout.fault? (layout : OutputLayout) : Option ManifestFault :=
  if layout.indent.toList.all fun c => c == ' ' || c == '\t' then none
  else some (.indent layout.indent)

namespace Manifest

/-- The manifest of stock settings. -/
def stock : Manifest := ⟨.stock, .stock⟩

/-- The first fault of a manifest: that of the layout, or else that of the first faulty rule. -/
def fault? (manifest : Manifest) : Option ManifestFault :=
  manifest.layout.fault? <|> manifest.settings.interfaces.findSome? (·.fault?)

end Manifest

end MessageContracts
