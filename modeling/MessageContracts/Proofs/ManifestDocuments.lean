import MessageContracts.Manifest.Codec
import MessageContracts.Proofs.SettingsDocuments
import MessageContracts.Proofs.TableRecords
import MessageContracts.Proofs.WrittenDocuments
import MessageContracts.Proofs.WrittenTables

/-!
# The documents of manifests

A written manifest gives every field that has a value, and what is not given has its stock value
when the document is read. So a manifest is read back as it was, with one exception: a region that
is absent is not written, and the stock one takes its place. No document describes a manifest
without a region, so what has been read is always written and read back as it is.
-/

namespace MessageContracts

open Toml

/-- A template is read from its source. -/
theorem Reader.template_source {arity : Nat} (template : Template arity) :
    Reader.template (Value.text template.source).node = .ok template := by
  change (Template.parse template.source).mapError _ = .ok template
  rw [template.parse_source]
  rfl

/-- Assignments to bare keys need no quotes. -/
theorem Toml.Row.isBare_written {row : Row} (bare : ∀ key ∈ row.map (·.1), IsBareKey key) :
    ∀ entry ∈ row.written, entry.IsBare := by
  intro entry listed
  obtain ⟨assignment, here, rfl⟩ := List.mem_map.mp listed
  exact bare _ (List.mem_map_of_mem here)

namespace InterfaceRule

/-- The assignments of an interface rule. -/
def row (rule : InterfaceRule) : Row :=
  [("name", .text rule.name.source), ("tags", .texts rule.tags)]

/-- The keys of the assignments are distinct. -/
theorem nodup_keys (rule : InterfaceRule) : (rule.row.map (·.1)).Nodup := by simp [row]

/-- The rule as a value. -/
def toml (rule : InterfaceRule) : Value := .table rule.row.values

/-- An interface rule is read back. -/
theorem read_toml (rule : InterfaceRule) (surplus : Surplus) :
    shape.read surplus rule.toml.node = .ok rule := by
  have tags : Reader.list Reader.text (Value.array (rule.tags.map .text)).node = .ok rule.tags :=
    list_of_reads fun _ _ => rfl
  have whole : rule.part (rule.row.values.map (·.1)) = rule := by simp [part, row, Row.values]
  have read := read_table shape surplus rule.part rule.row.values rfl
    (fun given others same => by simp only [part, same]) ?_ (by simp [row, Row.values])
    (by simp [shape, Field.of, row, Row.values])
  · rwa [whole] at read
  · simp only [row, Row.values, List.map_cons, List.map_nil, List.forall_mem_cons]
    refine ⟨.of rfl (Reader.template_source _) ?_, .of rfl tags ?_, List.forall_mem_nil _⟩ <;>
    simp [part]

end InterfaceRule

namespace Settings

/-- The assignment of a text that may be absent. -/
def optionalRow (key : String) (value : Option String) : Row :=
  value.toList.map fun value => (key, .text value)

/-- The assignments of settings but for the interface rules. -/
def row (settings : Settings) : Row :=
  [("class_header", .text settings.classHeader.source),
    ("member", .text settings.member.source),
    ("private_ctor", .text settings.privateConstructor.source)]
  ++ optionalRow "namespace" settings.nameSpace
  ++ optionalRow "region" settings.region
  ++ [("interface_member", .text settings.interfaceMember.source)]

/-- The assignment of no interface rules. -/
def emptyRow (settings : Settings) : Row :=
  if settings.interfaces.isEmpty then [("interfaces", .texts [])] else []

/-- The settings as the entries of a table. -/
def tomlEntries (settings : Settings) : List (String × Value) :=
  settings.row.values ++ [("interfaces", .array (settings.interfaces.map InterfaceRule.toml))]

/-- The keys of the assignments. -/
theorem keys_row (settings : Settings) : settings.row.map (·.1) =
    ["class_header", "member", "private_ctor"]
    ++ settings.nameSpace.toList.map (fun _ => "namespace")
    ++ settings.region.toList.map (fun _ => "region")
    ++ ["interface_member"] := by
  simp only [row, List.map_append, optionalRow, List.map_map]
  rfl

/-- The keys of the assignments are distinct, and none of them is that of the rules. -/
theorem nodup_keys (settings : Settings) : (settings.row.map (·.1) ++ ["interfaces"]).Nodup := by
  rw [keys_row]
  cases settings.nameSpace <;> cases settings.region <;> simp

/-- The keys of the assignments need no quotes. -/
theorem isBare_row (settings : Settings) :
    ∀ key ∈ (settings.row ++ settings.emptyRow).map (·.1), IsBareKey key := by
  have empty : ∀ assignment ∈ settings.emptyRow, IsBareKey assignment.1 := by
    rw [emptyRow]
    split <;> decide
  rw [List.map_append, keys_row]
  simp only [List.forall_mem_append, List.forall_mem_map]
  exact ⟨⟨⟨⟨by decide, fun _ _ => by decide⟩, fun _ _ => by decide⟩, by decide⟩, empty⟩

/-- The key of the rules comes last. -/
theorem keys_tomlEntries (settings : Settings) :
    settings.tomlEntries.map (·.1) = settings.row.map (·.1) ++ ["interfaces"] := by
  rw [tomlEntries, List.map_append, Row.map_fst_values]
  rfl

/-- An absent text gives nothing, and a text that is there gives its field. -/
theorem gives_optionalRow {key : String} {value : Option String} {part : List String → Settings}
    {shape : Shape Settings} {set : Settings → Option String → Settings}
    (found : shape.fields.find? (·.name == key) = some (.of key false Reader.optionalText set))
    (sets : ∀ given, set (part given) value = part (key :: given)) :
    ∀ entry ∈ (optionalRow key value).values, Gives shape part entry.1 entry.2 := by
  cases value with
  | none => exact List.forall_mem_nil _
  | some text => exact List.forall_mem_singleton.mpr (.of found rfl sets)

/-- Settings are read back from their table: they override the stock ones field by field. -/
theorem read_tomlEntries (settings : Settings) (surplus : Surplus) :
    (shape surplus).read surplus (Value.table settings.tomlEntries).node =
      .ok (settings.overriding (settings.tomlEntries.map (·.1))) := by
  have rules : Reader.list (InterfaceRule.shape.read surplus)
      (Value.array (settings.interfaces.map InterfaceRule.toml)).node = .ok settings.interfaces :=
    list_of_reads fun rule _ => rule.read_toml surplus
  refine read_table _ surplus _ _ rfl (fun given others same => settings.overriding_congr same)
    ?_ ?_ ?_
  · have optional := @gives_optionalRow
    simp only [Row.values] at optional
    simp only [tomlEntries, row, Row.values, List.map_append, List.map_cons, List.map_nil,
      List.forall_mem_append, List.forall_mem_cons]
    refine ⟨⟨⟨⟨⟨.of rfl (Reader.template_source _) ?_, .of rfl (Reader.template_source _) ?_,
      .of rfl (Reader.template_source _) ?_, List.forall_mem_nil _⟩,
      optional rfl ?_⟩, optional rfl ?_⟩,
      .of rfl (Reader.template_source _) ?_, List.forall_mem_nil _⟩,
      .of rfl rules ?_, List.forall_mem_nil _⟩ <;>
    simp [overriding]
  · rw [keys_tomlEntries]
    exact settings.nodup_keys
  · simp [shape, Field.of]

/-- Settings are written as a table for all but the rules and a table for each of them. -/
theorem entries_eq (settings : Settings) : settings.entries =
    .table ["generator"] :: ((settings.row ++ settings.emptyRow).written ++
      (settings.interfaces.map InterfaceRule.row).flatMap fun row =>
        .element ["generator", "interfaces"] :: row.written) := by
  have optional : ∀ key value, Entry.optional key value = (optionalRow key value).written :=
    fun key value => by
      rw [Entry.optional, optionalRow, Row.written, List.map_map]
      rfl
  have rules : (if settings.interfaces.isEmpty then [Entry.assign "interfaces" (.texts [])]
      else []) = settings.emptyRow.written := by
    rw [emptyRow]
    split <;> rfl
  rw [entries, optional, optional, rules, List.flatMap_map]
  simp only [row, Row.written, List.map_append, List.map_cons, List.append_assoc,
    List.cons_append, List.nil_append]
  rfl

/-- The entries of settings fill the table of the generator. -/
theorem addSections_entries (settings : Settings) (later : List Entry)
    (header : ∀ entry ∈ later.head?, entry.isHeader = true) :
    ∃ inner, closeEntries inner = settings.tomlEntries ∧
      Entries.addSections [] ((settings.entries ++ later).map Entry.statement) =
        Entries.addSections [("generator", .table .header inner)] (later.map Entry.statement) := by
  have distinct := settings.nodup_keys
  rw [entries_eq, List.cons_append, List.append_assoc]
  cases rules : settings.interfaces with
  | nil =>
    have written : settings.row ++ settings.emptyRow =
        settings.row ++ [("interfaces", Assigned.texts [])] := by
      rw [emptyRow, rules]
      rfl
    refine ⟨(settings.row ++ [("interfaces", Assigned.texts [])]).items, ?_, ?_⟩
    · rw [closeEntries_items, tomlEntries, rules, Row.values, List.map_append]
      rfl
    · rw [written]
      refine Entries.addSections_table _ _ _ (by simp) ?_ header
      rwa [List.map_append]
  | cons rule others =>
    have written : settings.row ++ settings.emptyRow = settings.row := by
      rw [emptyRow, rules]
      exact List.append_nil _
    let rows := (rule :: others).map InterfaceRule.row
    have fresh : "interfaces" ∉ settings.row.items.map (·.1) := by
      rw [Row.map_fst_items]
      exact fun twice => List.disjoint_of_nodup_append distinct twice List.mem_cons_self
    have generator : "generator" ∉ ([] : Entries).map (·.1) := by simp
    have opened := Entries.addSections_table settings.row
      (rows.flatMap (fun row => .element ["generator", "interfaces"] :: row.written) ++ later) []
      generator (List.Nodup.of_append_left distinct) (by rintro entry ⟨⟩; rfl)
    have added := Entries.addSections_elements "generator" rows [] fresh
      (List.forall_mem_map.mpr fun rule _ => rule.nodup_keys) header
    rw [Entries.ofTables, List.append_nil] at added
    rw [written]
    refine ⟨_, ?_, opened.trans added⟩
    have filled : (rows.map Row.items).reverse ++ [] ≠ [] := by simp [rows]
    rw [closeEntries_append, closeEntries_items, Entries.closeEntries_ofTables _ filled,
      List.append_nil, List.reverse_reverse, tomlEntries, rules]
    simp only [rows, List.map_map, Function.comp_def, closeEntries_items]
    rfl

end Settings

/-- The assignments of a layout. -/
def OutputLayout.row (layout : OutputLayout) : Row :=
  [("indent", .text layout.indent), ("line_ending", .text layout.lineEnding.name)]

/-- A layout of which only these fields are given. -/
def OutputLayout.part (layout : OutputLayout) (given : List String) : OutputLayout where
  indent := if "indent" ∈ given then layout.indent else stock.indent
  lineEnding := if "line_ending" ∈ given then layout.lineEnding else stock.lineEnding

/-- A layout is read back. -/
theorem OutputLayout.read_row (layout : OutputLayout) (surplus : Surplus) :
    shape.read surplus (Value.table layout.row.values).node = .ok layout := by
  have ending : LineEnding.reader (Value.text layout.lineEnding.name).node =
      .ok layout.lineEnding := by
    cases layout.lineEnding <;> rfl
  have whole : layout.part (layout.row.values.map (·.1)) = layout := by
    simp [part, row, Row.values]
  have read := read_table shape surplus layout.part layout.row.values rfl
    (fun given others same => by simp only [part, same]) ?_ (by simp [row, Row.values])
    (by simp [shape, Field.of])
  · rwa [whole] at read
  · simp only [row, Row.values, List.map_cons, List.map_nil, List.forall_mem_cons]
    refine ⟨.of rfl rfl ?_, .of rfl ending ?_, List.forall_mem_nil _⟩ <;> simp [part]

namespace Manifest

/-- The table of a written manifest. -/
def tomlEntries (manifest : Manifest) : List (String × Value) :=
  [("generator", .table manifest.settings.tomlEntries),
    ("output", .table manifest.layout.row.values)]

/-- A manifest of which only these fields are given. -/
def part (manifest : Manifest) (given : List String) : Manifest where
  settings := if "generator" ∈ given then manifest.settings else stock.settings
  layout := if "output" ∈ given then manifest.layout else stock.layout

/-- The manifest with the stock region unless it has one. -/
def withStockRegion (manifest : Manifest) : Manifest :=
  { manifest with
    settings.region := some (manifest.settings.region.getD Settings.stockRegion) }

/-- The names in a written manifest need no quotes. -/
theorem isBare_entries (manifest : Manifest) :
    ∀ entry ∈ manifest.settings.entries ++ manifest.layout.entries, entry.IsBare := by
  have rule_bare (rule : InterfaceRule) : ∀ key ∈ rule.row.map (·.1), IsBareKey key := by
    simp only [InterfaceRule.row, List.map_cons, List.map_nil]
    decide
  have layout_bare : ∀ key ∈ manifest.layout.row.map (·.1), IsBareKey key := by
    simp only [OutputLayout.row, List.map_cons, List.map_nil]
    decide
  rw [Settings.entries_eq]
  refine List.forall_mem_append.mpr ⟨List.forall_mem_cons.mpr ⟨?_, List.forall_mem_append.mpr
    ⟨Row.isBare_written manifest.settings.isBare_row, ?_⟩⟩,
    List.forall_mem_cons.mpr ⟨?_, Row.isBare_written layout_bare⟩⟩
  · exact (by decide : IsBarePath ["generator"])
  · rw [List.forall_mem_flatMap, List.forall_mem_map]
    intro rule _
    exact List.forall_mem_cons.mpr ⟨(by decide : IsBarePath ["generator", "interfaces"]),
      Row.isBare_written (rule_bare rule)⟩
  · exact (by decide : IsBarePath ["output"])

/-- The statements of a written manifest fill its table. -/
theorem exists_ofStatements_entries (manifest : Manifest) :
    ∃ entries, closeEntries entries = manifest.tomlEntries ∧
      Entries.ofStatements
        ((manifest.settings.entries ++ manifest.layout.entries).map Entry.statement) =
          some entries := by
  obtain ⟨inner, closed, filled⟩ := manifest.settings.addSections_entries
    manifest.layout.entries (by rintro entry ⟨⟩; rfl)
  have output : "output" ∉ [("generator", Item.table .header inner)].map (·.1) := by simp
  have opened := Entries.addSections_table manifest.layout.row []
    [("generator", .table .header inner)] output (by simp [OutputLayout.row]) (by rintro entry ⟨⟩)
  rw [List.append_nil] at opened
  have sections : Entries.ofStatements
      ((manifest.settings.entries ++ manifest.layout.entries).map Entry.statement) =
      Entries.addSections []
        ((manifest.settings.entries ++ manifest.layout.entries).map Entry.statement) := rfl
  refine ⟨[("generator", .table .header inner),
    ("output", .table .header manifest.layout.row.items)], ?_, ?_⟩
  · simp only [closeEntries, Item.close, closed, closeEntries_items]
    rfl
  · rw [sections, filled]
    refine opened.trans ?_
    rw [List.map_nil, Entries.addSections]
    rfl

/-- A written manifest is read as its table. -/
theorem read_toToml (manifest : Manifest) :
    Toml.read manifest.toToml = some (.table manifest.tomlEntries) := by
  obtain ⟨entries, closed, filled⟩ := manifest.exists_ofStatements_entries
  rw [Toml.read, toToml, String.toList_ofList, statements?_documentChars manifest.isBare_entries]
  simp only [Option.bind_eq_bind, Option.bind_some, filled, closed]

/-- What is written overrides the stock settings by all but an absent region. -/
theorem overriding_tomlEntries (manifest : Manifest) :
    manifest.settings.overriding (manifest.settings.tomlEntries.map (·.1)) =
      manifest.withStockRegion.settings := by
  rw [Settings.keys_tomlEntries, Settings.keys_row, Settings.overriding, withStockRegion]
  cases nameSpace : manifest.settings.nameSpace <;> cases region : manifest.settings.region <;>
  simp [Settings.stock, nameSpace]

/-- A manifest is read back from its document, with the stock region if it has none. -/
theorem ofToml_toToml (manifest : Manifest) :
    ofToml manifest.toToml = .ok manifest.withStockRegion := by
  have settings := manifest.settings.read_tomlEntries .skipped
  rw [overriding_tomlEntries] at settings
  have whole : manifest.withStockRegion.part (manifest.tomlEntries.map (·.1)) =
      manifest.withStockRegion := by
    simp [part, tomlEntries]
  have read := read_table shape .skipped manifest.withStockRegion.part manifest.tomlEntries rfl
    (fun given others same => by simp only [part, same]) ?_ (by simp [tomlEntries])
    (by simp [shape, Field.of])
  · rw [whole] at read
    rw [ofToml, decode, read_toToml]
    simp only [read]
    rfl
  · simp only [tomlEntries, List.forall_mem_cons]
    refine ⟨.of rfl settings ?_, .of rfl (manifest.layout.read_row .skipped) ?_,
      List.forall_mem_nil _⟩ <;>
    simp [part, withStockRegion]

end Manifest

/-- A text that is read from a value is not absent. -/
theorem Reader.optionalText_ne_none {value : Value} {content : Option String}
    (read : Reader.optionalText value.node = .ok content) : content ≠ none := by
  cases value with
  | text value =>
    cases read
    exact Option.some_ne_none value
  | integer | real | overflow | boolean | moment | array | table => cases read

/-- Settings that are read from a value have a region. -/
theorem Settings.region_ne_none_of_read {surplus : Surplus} {value : Value} {settings : Settings}
    (read : (shape surplus).read surplus value.node = .ok settings) : settings.region ≠ none := by
  refine keeps_read (p := fun settings => settings.region ≠ none) (Option.some_ne_none _) ?_ read
  simp only [shape, List.forall_mem_cons]
  have kept {β : Type} {name : String} {reader : Reader β} {set : Settings → β → Settings}
      (same : ∀ settings content, (set settings content).region = settings.region) :
      Keeps (fun settings => settings.region ≠ none) (.of name false reader set) :=
    .of fun _ content _ settings holds => same settings content ▸ holds
  exact ⟨kept fun _ _ => rfl, kept fun _ _ => rfl, kept fun _ _ => rfl, kept fun _ _ => rfl,
    .of fun _ _ read _ _ => Reader.optionalText_ne_none read, kept fun _ _ => rfl,
    kept fun _ _ => rfl, List.forall_mem_nil _⟩

namespace Manifest

/-- A manifest that is read from a document has a region. -/
theorem region_ne_none_of_ofToml {document : String} {manifest : Manifest}
    (accepted : ofToml document = .ok manifest) : manifest.settings.region ≠ none := by
  rw [ofToml, decode] at accepted
  cases found : Toml.read document with
  | none => rw [found] at accepted; cases accepted
  | some table =>
    rw [found] at accepted
    have read : shape.read .skipped table.node = .ok manifest := by
      cases result : shape.read .skipped table.node with
      | error fault => simp only [result] at accepted; cases accepted
      | ok manifest => simp only [result] at accepted; cases accepted; rfl
    refine keeps_read (p := fun manifest => manifest.settings.region ≠ none)
      (Option.some_ne_none _) ?_ read
    simp only [shape, List.forall_mem_cons]
    exact ⟨.of fun _ _ read _ _ => Settings.region_ne_none_of_read read,
      .of fun _ _ _ _ holds => holds, List.forall_mem_nil _⟩

/-- A manifest with a region is the one with the stock region unless it has one. -/
theorem withStockRegion_of_ne_none {manifest : Manifest}
    (given : manifest.settings.region ≠ none) : manifest.withStockRegion = manifest := by
  obtain ⟨region, same⟩ := Option.ne_none_iff_exists'.mp given
  obtain ⟨settings, layout⟩ := manifest
  simp only [withStockRegion] at same ⊢
  rw [same, Option.getD_some, ← same]

/-- What a document describes is written to a document that describes it again. -/
theorem ofToml_toToml_of_ofToml {document : String} {manifest : Manifest}
    (accepted : ofToml document = .ok manifest) : ofToml manifest.toToml = .ok manifest := by
  rw [ofToml_toToml, withStockRegion_of_ne_none (region_ne_none_of_ofToml accepted)]

/-- The stock manifest in a namespace whose name has quotes of both kinds. -/
def quotedShop : Manifest := { stock with settings.nameSpace := some "It's a \"shop\"" }

/-- A document may give one field of one section. -/
theorem ofToml_quotedShop :
    ofToml "[generator]\nnamespace = \"\"\"It's a \"shop\"\"\"\"\n" = .ok quotedShop := by
  let entries : List Entry := [.table ["generator"], .assign "namespace" (.text "It's a \"shop\"")]
  have chars : "[generator]\nnamespace = \"\"\"It's a \"shop\"\"\"\"\n".toList =
      Entry.documentChars entries := by
    decide +kernel
  have bare : ∀ entry ∈ entries, entry.IsBare :=
    List.forall_mem_cons.mpr ⟨(by decide : IsBarePath ["generator"]),
      List.forall_mem_singleton.mpr (by decide : IsBareKey "namespace")⟩
  have read : Toml.read "[generator]\nnamespace = \"\"\"It's a \"shop\"\"\"\"\n" =
      some (.table [("generator", .table [("namespace", .text "It's a \"shop\"")])]) := by
    rw [Toml.read, chars, statements?_documentChars bare]
    simp [entries, Entry.statement, Assigned.value, Entries.ofStatements,
      Entries.takeAssignments, Entries.assignAll, Entries.assign, Entries.addSections,
      Entries.update, Entries.openTable, Entries.set, closeEntries, Item.close]
  rw [ofToml, decode, read]
  simp only [Value.node, Value.entryNodes, Value.sortMembers, List.mergeSort_singleton]
  rfl

/-- The name is read from between three quotes on each side, and once more after it is written. -/
theorem ofToml_toToml_of_ofToml_quotedShop :
    ofToml "[generator]\nnamespace = \"\"\"It's a \"shop\"\"\"\"\n" = .ok quotedShop ∧
      ofToml quotedShop.toToml = .ok quotedShop :=
  ⟨ofToml_quotedShop, ofToml_toToml_of_ofToml ofToml_quotedShop⟩

end Manifest

end MessageContracts
