import MessageContracts.Settings.Codec
import MessageContracts.Manifest
import MessageContracts.Toml.Read
import MessageContracts.Toml.Written

/-!
# Manifests as documents

A manifest document has a section for the generator and one for the output, and gives the fields
that differ from the stock settings. A written manifest gives every field that has a value.
-/

namespace MessageContracts

namespace LineEnding

/-- The name of a line ending in a document. -/
def name : LineEnding → String
  | lf => "lf"
  | crlf => "crlf"

/-- The line ending of a name. -/
def ofName (name : String) : Except DocumentFault LineEnding :=
  match [lf, crlf].find? (·.name == name) with
  | some ending => .ok ending
  | none => .error (.unknownVariant name [lf.name, crlf.name])

/-- Accept the value of a name that takes no value: an empty list or record. -/
def emptyValue : Node → Except DocumentFault Unit
  | .list [] _ | .record [] _ => .ok ()
  | .list _ _ => .error .variantList
  | .record _ _ => .error .variantRecord
  | .text _ => .error (.variantScalar "string")
  | .integer _ => .error (.variantScalar "integer")
  | .real _ => .error (.variantScalar "float")
  | .boolean _ => .error (.variantScalar "boolean")
  | .moment => .error (.variantScalar "datetime")
  | .null | .unreadable | .broken => .error .malformed

/-- Read a line ending: its name, or a record with its name as the only key. -/
def reader : Reader LineEnding
  | .text name => ofName name
  | .record [] _ => .error (.variantCount true)
  | .record [(key, value)] _ => do
    let ending ← ofName (key.getD "")
    emptyValue value
    return ending
  | .record _ _ => .error (.variantCount false)
  | _ => .error .notAVariant

end LineEnding

/-- The document form of a layout. -/
def OutputLayout.shape : Shape OutputLayout where
  title := "struct OutputSection"
  fields := [
    .of "indent" false Reader.text fun layout indent => { layout with indent },
    .of "line_ending" false LineEnding.reader
      fun layout lineEnding => { layout with lineEnding }]
  blank := stock

/-- The entries of an interface rule in a written manifest. -/
def InterfaceRule.entries (rule : InterfaceRule) : List Toml.Entry :=
  [.element ["generator", "interfaces"], .assign "name" (.text rule.name.source),
    .assign "tags" (.texts rule.tags)]

/-- The assignment of a text that may be absent. -/
def Toml.Entry.optional (key : String) (value : Option String) : List Toml.Entry :=
  value.toList.map fun value => .assign key (.text value)

/-- The entries of settings in a written manifest. -/
def Settings.entries (settings : Settings) : List Toml.Entry :=
  [.table ["generator"],
    .assign "class_header" (.text settings.classHeader.source),
    .assign "member" (.text settings.member.source),
    .assign "private_ctor" (.text settings.privateConstructor.source)]
  ++ Toml.Entry.optional "namespace" settings.nameSpace
  ++ Toml.Entry.optional "region" settings.region
  ++ [.assign "interface_member" (.text settings.interfaceMember.source)]
  ++ (if settings.interfaces.isEmpty then [.assign "interfaces" (.texts [])] else [])
  ++ settings.interfaces.flatMap InterfaceRule.entries

/-- The entries of a layout in a written manifest. -/
def OutputLayout.entries (layout : OutputLayout) : List Toml.Entry :=
  [.table ["output"], .assign "indent" (.text layout.indent),
    .assign "line_ending" (.text layout.lineEnding.name)]

namespace Manifest

/-- The document form of a manifest. -/
def shape : Shape Manifest where
  title := "struct Manifest"
  fields := [
    .of "generator" false ((Settings.shape .skipped).read .skipped)
      fun manifest settings => { manifest with settings },
    .of "output" false (OutputLayout.shape.read .skipped)
      fun manifest layout => { manifest with layout }]
  blank := stock

/-- The manifest that a TOML document describes. -/
def ofToml (document : String) : Except DocumentFault Manifest :=
  Toml.decode (shape.read .skipped) document

/-- The manifest as a TOML document. -/
def toToml (manifest : Manifest) : String :=
  String.ofList (Toml.Entry.documentChars (manifest.settings.entries ++ manifest.layout.entries))

end Manifest

end MessageContracts
