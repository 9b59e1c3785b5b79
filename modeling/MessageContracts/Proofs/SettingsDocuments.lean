import MessageContracts.Proofs.RecordForms
import MessageContracts.Settings.Codec

/-!
# The documents of settings

A settings document gives some of the fields, and every field on its own keeps its stock value
unless it is given. A wrapper that is given as absent is not the same as one that is left out. A
template is given by its source, which compiles again to the same template.
-/

namespace MessageContracts

open Json

/-- A template is read from every spelling of its source. -/
theorem decodes_template {arity : Nat} (template : Template arity) :
    Decodes (.text template.source) Reader.template template := by
  rintro missing chars ⟨rfl, spelling⟩
  refine ⟨.text template.source, .spelling spelling, ?_⟩
  change (Template.parse template.source).mapError _ = .ok template
  rw [template.parse_source]
  rfl

namespace InterfaceRule

/-- The forms of an interface rule: both fields are required. -/
def form (rule : InterfaceRule) : Form := .record [
  ⟨"name", .fault, .text rule.name.source⟩,
  ⟨"tags", .fault, .list .text rule.tags⟩]

/-- An interface rule of which only these fields are given. -/
def part (rule : InterfaceRule) (given : List String) : InterfaceRule where
  name := if "name" ∈ given then rule.name else shape.blank.name
  tags := if "tags" ∈ given then rule.tags else []

/-- An interface rule is decoded from all its forms. -/
theorem decodes_form (rule : InterfaceRule) (surplus : Surplus) :
    Decodes rule.form (shape.read surplus) rule := by
  have tags := decodes_list fun tag (_ : tag ∈ rule.tags) => decodes_text tag
  refine decodes_record shape surplus rule.part rfl ?_ (by simp) ?_
  · refine .cons (.of (decodes_template _) ?_ ?_) (.cons (.of tags ?_ ?_) .nil)
    · simp
    · simp [part]
    · simp
    · simp [part]
  · intro given kept required
    simp only [List.forall_mem_cons] at required
    obtain ⟨name, tags, -⟩ := required
    rw [part, if_pos (name trivial), if_pos (tags trivial)]

/-- An interface rule is written in one of its forms. -/
theorem form_json (rule : InterfaceRule) : rule.form [] rule.json.chars := by
  have tags := Form.list_chars fun tag (_ : tag ∈ rule.tags) => Form.text_chars tag
  exact Form.record_chars (by simp) (.cons ⟨rfl, Form.text_chars _⟩ (.cons ⟨rfl, tags⟩ .nil))

end InterfaceRule

namespace Settings

/-- The stock settings with these fields taken from other settings. -/
def overriding (settings : Settings) (fields : List String) : Settings where
  classHeader := if "class_header" ∈ fields then settings.classHeader else stock.classHeader
  member := if "member" ∈ fields then settings.member else stock.member
  privateConstructor :=
    if "private_ctor" ∈ fields then settings.privateConstructor else stock.privateConstructor
  nameSpace := if "namespace" ∈ fields then settings.nameSpace else stock.nameSpace
  region := if "region" ∈ fields then settings.region else stock.region
  interfaceMember :=
    if "interface_member" ∈ fields then settings.interfaceMember else stock.interfaceMember
  interfaces := if "interfaces" ∈ fields then settings.interfaces else stock.interfaces

/-- The fields of settings as they can be written. Each of them can be left out, which says
something else than giving it. -/
def fieldForms (settings : Settings) : List FieldForm := [
  ⟨"class_header", .different, .text settings.classHeader.source⟩,
  ⟨"member", .different, .text settings.member.source⟩,
  ⟨"private_ctor", .different, .text settings.privateConstructor.source⟩,
  ⟨"namespace", .different, .optionalText settings.nameSpace⟩,
  ⟨"region", .different, .optionalText settings.region⟩,
  ⟨"interface_member", .different, .text settings.interfaceMember.source⟩,
  ⟨"interfaces", .different, .list InterfaceRule.form settings.interfaces⟩]

/-- The members that settings are written with. -/
def jsonMembers (settings : Settings) : List (String × Value) :=
  match settings.json with
  | .record members => members
  | _ => []

/-- Only which fields are taken matters, not their order. -/
theorem overriding_congr (settings : Settings) {fields others : List String}
    (same : ∀ field, field ∈ fields ↔ field ∈ others) :
    settings.overriding fields = settings.overriding others := by
  simp only [overriding, same]

/-- Taking every field gives the settings that they are taken from. -/
theorem overriding_all (settings : Settings) {fields : List String}
    (all : ∀ form ∈ settings.fieldForms, form.key ∈ fields) :
    settings.overriding fields = settings := by
  simp only [fieldForms, List.forall_mem_cons, List.not_mem_nil, false_imp_iff, implies_true,
    and_true] at all
  simp only [overriding, all, if_true]

/-- Each field that is given takes the place of the stock one. -/
theorem fieldFits (settings : Settings) (surplus : Surplus) :
    List.Forall₂ (FieldFits settings.overriding) (shape surplus).fields settings.fieldForms := by
  have interfaces := decodes_list fun rule (_ : rule ∈ settings.interfaces) =>
    rule.decodes_form surplus
  refine .cons (.of (decodes_template _) ?_ ?_) (.cons (.of (decodes_template _) ?_ ?_)
    (.cons (.of (decodes_template _) ?_ ?_) (.cons (.of (decodes_optionalText _) ?_ ?_)
    (.cons (.of (decodes_optionalText _) ?_ ?_) (.cons (.of (decodes_template _) ?_ ?_)
    (.cons (.of interfaces ?_ ?_) .nil)))))) <;>
  simp [overriding]

/-- Each member that settings are written with gives one of the fields. -/
theorem isMember_of_mem_jsonMembers (settings : Settings) :
    ∀ member ∈ settings.jsonMembers, IsMember settings.fieldForms
      ⟨some member.1, [], quote member.1 ++ ':' :: member.2.chars⟩ := by
  have interfaces := Form.list_chars fun rule (_ : rule ∈ settings.interfaces) => rule.form_json
  have known {key : String} {form : Form} {value : Value}
      (listed : ⟨key, .different, form⟩ ∈ settings.fieldForms) (written : form [] value.chars) :
      IsMember settings.fieldForms ⟨some key, [], quote key ++ ':' :: value.chars⟩ :=
    .known listed (.of (spelling_quote _)) (.of written)
  simp only [jsonMembers, json, List.forall_mem_cons]
  refine ⟨known ?_ (Form.text_chars _), known ?_ (Form.text_chars _),
    known ?_ (Form.text_chars _), known ?_ (Form.optionalText_chars _),
    known ?_ (Form.optionalText_chars _), known ?_ (Form.text_chars _), known ?_ interfaces,
    List.forall_mem_nil _⟩ <;>
  simp [fieldForms]

/-- Some of the members that settings are written with, in any order, make a record that gives
their fields. -/
theorem recordText_of_subset {settings : Settings} {members : List (String × Value)}
    (listed : members ⊆ settings.jsonMembers) (once : (members.map (·.1)).Nodup) :
    RecordText settings.fieldForms (members.map (·.1)) [] (Value.record members).chars := by
  let row : List WrittenMember := members.map fun member =>
    ⟨some member.1, [], quote member.1 ++ ':' :: member.2.chars⟩
  refine ⟨row, ?_, ?_, once, ?_, ?_⟩
  · rw [List.forall_mem_map]
    exact fun member here => settings.isMember_of_mem_jsonMembers member (listed here)
  · simp [row, List.filterMap_map]
  · simp [row, absentFaults, fieldForms, List.flatMap_map]
  · have chars : row.map (·.chars) =
        members.map fun member => quote member.1 ++ ':' :: member.2.chars := List.map_map
    rw [chars, Value.chars, memberChars_eq_intercalate]
    exact enclosed_intercalate _ _ _

/-- A record is not the empty document. -/
theorem ne_empty_of_recordText {forms : List FieldForm} {fields missing : List String}
    {document : String} (written : Padded (RecordText forms fields missing) document.toList) :
    document ≠ "" := by
  rintro rfl
  obtain ⟨before, middle, after, -, ⟨members, -, -, -, -, enclosed⟩, -, chars⟩ := written
  have length := congrArg List.length chars
  have brackets := enclosed.length_pos
  simp only [String.toList_empty, List.length_nil, List.length_append] at length
  omega

/-- Settings that give some of their fields override these fields of the stock settings. -/
theorem ofJson_of_recordText {settings : Settings} {fields : List String} {document : String}
    (written : Padded (RecordText settings.fieldForms fields []) document.toList) :
    ofJson document.toUTF8 = .ok (settings.overriding fields) := by
  have filled : document.toUTF8.isEmpty = false := by
    simp [ByteArray.isEmpty, ne_empty_of_recordText written]
  obtain ⟨before, middle, after, leading, inside, trailing, chars⟩ := written
  obtain ⟨node, reads, result⟩ := read_recordText (shape .refused) .refused rfl
    (settings.fieldFits .refused) (by simp [fieldForms]) inside
  have described := decode_toUTF8 ((shape .refused).read .refused)
    (reads.padded leading trailing)
  rw [← chars, String.ofList_toList] at described
  rw [ofJson, filled, if_neg Bool.false_ne_true, described, result,
    settings.overriding_congr fun _ => List.mem_reverse]
  rfl

/-- A document may give the fields of settings independently of each other: some of the members
that the settings are written with, in any order, override just these fields of the stock settings,
and so does every other form of such a record, with unknown keys among its own. All members
together give the settings back. A region that is given as absent stays absent, but one that is
left out is the stock one. -/
theorem ofJson_overrides_fields (settings : Settings) :
    ofJson settings.toJson.toUTF8 = .ok settings ∧
    (∀ members : List (String × Value), members ⊆ settings.jsonMembers →
      (members.map (·.1)).Nodup →
        RecordText settings.fieldForms (members.map (·.1)) [] (Value.record members).chars ∧
        ofJson (Value.record members).compact.toUTF8 =
          .ok (settings.overriding (members.map (·.1)))) ∧
    (∀ (fields : List String) (document : String),
      Padded (RecordText settings.fieldForms fields []) document.toList →
        ofJson document.toUTF8 = .ok (settings.overriding fields)) ∧
    (∀ fields : List String, (∀ form ∈ settings.fieldForms, form.key ∈ fields) →
      settings.overriding fields = settings) ∧
    ∀ fields : List String, (settings.overriding fields).region =
      if "region" ∈ fields then settings.region else some stockRegion := by
  have compact : ∀ members : List (String × Value), members ⊆ settings.jsonMembers →
      (members.map (·.1)).Nodup → ofJson (Value.record members).compact.toUTF8 =
        .ok (settings.overriding (members.map (·.1))) := fun members listed once => by
    refine ofJson_of_recordText (.of ?_)
    rw [Value.compact, String.toList_ofList]
    exact recordText_of_subset listed once
  have whole : settings.overriding (settings.jsonMembers.map (·.1)) = settings :=
    settings.overriding_all (by simp [fieldForms, jsonMembers, json])
  refine ⟨?_, fun members listed once => ⟨recordText_of_subset listed once,
    compact members listed once⟩, fun _ _ => ofJson_of_recordText,
    fun _ => settings.overriding_all, fun _ => rfl⟩
  have all := compact settings.jsonMembers (List.Subset.refl _) (by simp [jsonMembers, json])
  rwa [whole] at all

/-- The stock settings in a namespace and without a region. -/
def bareInShop : Settings := { stock with nameSpace := some "Shop", region := none }

/-- A document may say that there is no region, or say nothing about it. -/
theorem ofJson_overrides_fields_bareInShop :
    [("region", Value.null), ("namespace", .text "Shop")] ⊆ bareInShop.jsonMembers ∧
      ofJson "\x7b\"region\":null,\"namespace\":\"Shop\"\x7d".toUTF8 = .ok bareInShop ∧
      Padded (RecordText bareInShop.fieldForms ["namespace"] [])
        " \x7b\"x\":[ ],\"namespace\":\"Shop\"\x7d".toList ∧
      ofJson " \x7b\"x\":[ ],\"namespace\":\"Shop\"\x7d".toUTF8 =
        .ok { bareInShop with region := some stockRegion } ∧
      bareInShop.overriding (bareInShop.fieldForms.map (·.key)) = bareInShop := by
  have blank : Blanks [' '] := by simp [Blanks]
  have strange : WellFormed "[ ]".toList := .list (List.forall_mem_nil _) (.blank blank)
  have listed : [("region", Value.null), ("namespace", .text "Shop")] ⊆
      bareInShop.jsonMembers := by
    simp [jsonMembers, json, bareInShop, Value.optionalText]
  have inside : RecordText bareInShop.fieldForms ["namespace"] []
      "\x7b\"x\":[ ],\"namespace\":\"Shop\"\x7d".toList := by
    refine ⟨[⟨none, [], quote "x" ++ ':' :: "[ ]".toList⟩,
      ⟨some "namespace", [], quote "namespace" ++ ':' :: quote "Shop"⟩], ?_, rfl, by simp, by
      simp [absentFaults, fieldForms], .parts _ _⟩
    rw [List.forall_mem_cons, List.forall_mem_singleton]
    refine ⟨.unknown (by simp [fieldForms]) (.of (spelling_quote "x")) strange, ?_⟩
    have listed : ⟨"namespace", .different, .text "Shop"⟩ ∈ bareInShop.fieldForms := by
      simp [fieldForms, bareInShop, Form.optionalText]
    exact .known listed (.of (spelling_quote _)) (.of (Form.text_chars "Shop"))
  have written : Padded (RecordText bareInShop.fieldForms ["namespace"] [])
      " \x7b\"x\":[ ],\"namespace\":\"Shop\"\x7d".toList :=
    ⟨_, _, [], blank, inside, .nil, rfl⟩
  obtain ⟨-, compact, decodes, whole, -⟩ := ofJson_overrides_fields bareInShop
  exact ⟨listed, (compact _ listed (by decide)).2, written, decodes _ _ written,
    whole _ fun form here => List.mem_map_of_mem here⟩

end Settings

end MessageContracts
