import MessageContracts.Json.Read
import MessageContracts.Json.Value
import MessageContracts.Settings

/-!
# Settings as documents

A settings document gives the fields that differ from the stock settings. Templates are written as
their source text and compiled again when they are read.
-/

namespace MessageContracts

namespace InterfaceRule

/-- The document form of an interface rule. Both fields have to be given. -/
def shape : Shape InterfaceRule where
  title := "struct InterfaceKind"
  fields := [
    .of "name" true Reader.template fun rule name => { rule with name },
    .of "tags" true (Reader.list Reader.text) fun rule tags => { rule with tags }]
  blank := ⟨.ofSource "" (by decide), []⟩

/-- The rule as a JSON value. -/
def json (rule : InterfaceRule) : Json.Value :=
  .record [("name", .text rule.name.source), ("tags", .texts rule.tags)]

end InterfaceRule

namespace Settings

/-- The document form of settings in a format that treats surplus items so. -/
def shape (surplus : Surplus) : Shape Settings where
  title := "struct GeneratorConfig"
  fields := [
    .of "class_header" false Reader.template
      fun settings classHeader => { settings with classHeader },
    .of "member" false Reader.template fun settings member => { settings with member },
    .of "private_ctor" false Reader.template
      fun settings privateConstructor => { settings with privateConstructor },
    .of "namespace" false Reader.optionalText
      fun settings nameSpace => { settings with nameSpace },
    .of "region" false Reader.optionalText fun settings region => { settings with region },
    .of "interface_member" false Reader.template
      fun settings interfaceMember => { settings with interfaceMember },
    .of "interfaces" false (Reader.list (InterfaceRule.shape.read surplus))
      fun settings interfaces => { settings with interfaces }]
  blank := stock

/-- The settings as a JSON value. -/
def json (settings : Settings) : Json.Value :=
  .record [
    ("class_header", .text settings.classHeader.source),
    ("member", .text settings.member.source),
    ("private_ctor", .text settings.privateConstructor.source),
    ("namespace", .optionalText settings.nameSpace),
    ("region", .optionalText settings.region),
    ("interface_member", .text settings.interfaceMember.source),
    ("interfaces", .list (settings.interfaces.map InterfaceRule.json))]

/-- The settings as a JSON text. -/
def toJson (settings : Settings) : String := settings.json.compact

/-- The settings that a JSON document describes; an empty document describes the stock ones. -/
def ofJson (document : ByteArray) : Except DocumentFault Settings :=
  if document.isEmpty then .ok stock else Json.decode ((shape .refused).read .refused) document

end Settings

end MessageContracts
