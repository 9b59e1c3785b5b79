import MessageContracts.Model.Codec
import MessageContracts.Proofs.RecordForms

/-!
# The documents of a model

A model can be written in every form that its records allow: with the keys of a record in any order
and among unknown ones, and without lists that are empty or a name that an entity does not have. All
these documents decode to the model, the one that it is written in among them. A document that
leaves out a required field besides is refused for that field.
-/

namespace MessageContracts

open Json

section Forms

/-- The forms of a member: both fields are required. -/
def Member.form (member : Member) : Form := .record [
  ⟨"type", .fault, .text member.type⟩,
  ⟨"name", .fault, .text member.name⟩]

/-- The forms of a tag: both fields are required. -/
def Modifier.form (modifier : Modifier) : Form := .record [
  ⟨"identifier", .fault, .text modifier.identifier⟩,
  ⟨"interface", .fault, .text modifier.interface⟩]

/-- The forms of a message: the name is required, and empty lists may be left out. -/
def Message.form (message : Message) : Form := .record [
  ⟨"name", .fault, .text message.name⟩,
  ⟨"members", .ofList message.members, .list Member.form message.members⟩,
  ⟨"modifiers", .ofList message.modifiers, .list Modifier.form message.modifiers⟩]

/-- The forms of an entity: a name that it does not have and an empty list may be left out. -/
def Entity.form (entity : Entity) : Form := .record [
  ⟨"name", .ofOption entity.name, .optionalText entity.name⟩,
  ⟨"messages", .ofList entity.messages, .list Message.form entity.messages⟩]

/-- The forms of a model: empty lists may be left out. -/
def Model.form (model : Model) : Form := .record [
  ⟨"contracts", .ofList model.contracts, .list Message.form model.contracts⟩,
  ⟨"entities", .ofList model.entities, .list Entity.form model.entities⟩]

end Forms

section Parts

variable {given : List String} {key : String}

/-- No list is required. -/
theorem faultless_ofList {α : Type} (items : List α) :
    false = true ↔ Absence.ofList items = .fault := by
  cases items <;> simp [Absence.ofList]

/-- No text that may be absent is required. -/
theorem faultless_ofOption {α : Type} (value : Option α) :
    false = true ↔ Absence.ofOption value = .fault := by
  cases value <;> simp [Absence.ofOption]

/-- A list that is left out only where it is empty is known. -/
theorem ite_ofList {α : Type} {items : List α}
    (kept : Absence.ofList items = .different → key ∈ given) :
    (if key ∈ given then items else []) = items := by
  cases items with
  | nil => exact ite_self []
  | cons item rest => exact if_pos (kept rfl)

/-- A text that is left out only where there is none is known. -/
theorem ite_ofOption {α : Type} {value : Option α}
    (kept : Absence.ofOption value = .different → key ∈ given) :
    (if key ∈ given then value else none) = value := by
  cases value with
  | none => exact ite_self none
  | some value => exact if_pos (kept rfl)

/-- A member of which only these fields are given. -/
def Member.part (member : Member) (given : List String) : Member where
  type := if "type" ∈ given then member.type else ""
  name := if "name" ∈ given then member.name else ""

/-- A tag of which only these fields are given. -/
def Modifier.part (modifier : Modifier) (given : List String) : Modifier where
  identifier := if "identifier" ∈ given then modifier.identifier else ""
  interface := if "interface" ∈ given then modifier.interface else ""

/-- A message of which only these fields are given. -/
def Message.part (message : Message) (given : List String) : Message where
  name := if "name" ∈ given then message.name else ""
  members := if "members" ∈ given then message.members else []
  modifiers := if "modifiers" ∈ given then message.modifiers else []

/-- An entity of which only these fields are given. -/
def Entity.part (entity : Entity) (given : List String) : Entity where
  name := if "name" ∈ given then entity.name else none
  messages := if "messages" ∈ given then entity.messages else []

/-- A model of which only these fields are given. -/
def Model.part (model : Model) (given : List String) : Model where
  contracts := if "contracts" ∈ given then model.contracts else []
  entities := if "entities" ∈ given then model.entities else []

end Parts

section Decoding

/-- A member is decoded from all its forms. -/
theorem decodes_member (member : Member) :
    Decodes member.form (Member.shape.read Json.surplus) member := by
  refine decodes_record Member.shape _ member.part rfl ?_ (by simp) ?_
  · refine .cons (.of (decodes_text _) ?_ ?_) (.cons (.of (decodes_text _) ?_ ?_) .nil)
    · simp
    · simp [Member.part]
    · simp
    · simp [Member.part]
  · intro given kept required
    simp only [List.forall_mem_cons] at required
    obtain ⟨type, name, -⟩ := required
    rw [Member.part, if_pos (type trivial), if_pos (name trivial)]

/-- A tag is decoded from all its forms. -/
theorem decodes_modifier (modifier : Modifier) :
    Decodes modifier.form (Modifier.shape.read Json.surplus) modifier := by
  refine decodes_record Modifier.shape _ modifier.part rfl ?_ (by simp) ?_
  · refine .cons (.of (decodes_text _) ?_ ?_) (.cons (.of (decodes_text _) ?_ ?_) .nil)
    · simp
    · simp [Modifier.part]
    · simp
    · simp [Modifier.part]
  · intro given kept required
    simp only [List.forall_mem_cons] at required
    obtain ⟨identifier, interface, -⟩ := required
    rw [Modifier.part, if_pos (identifier trivial), if_pos (interface trivial)]

/-- A message is decoded from all its forms. -/
theorem decodes_message (message : Message) :
    Decodes message.form (Message.shape.read Json.surplus) message := by
  have members := decodes_list fun member (_ : member ∈ message.members) => decodes_member member
  have modifiers :=
    decodes_list fun modifier (_ : modifier ∈ message.modifiers) => decodes_modifier modifier
  refine decodes_record Message.shape _ message.part rfl ?_ (by simp) ?_
  · refine .cons (.of (decodes_text _) ?_ ?_) (.cons (.of members (faultless_ofList _) ?_)
      (.cons (.of modifiers (faultless_ofList _) ?_) .nil))
    · simp
    · simp [Message.part]
    · simp [Message.part]
    · simp [Message.part]
  · intro given kept required
    simp only [List.forall_mem_cons] at kept required
    obtain ⟨-, members, modifiers, -⟩ := kept
    obtain ⟨name, -⟩ := required
    rw [Message.part, if_pos (name trivial), ite_ofList members, ite_ofList modifiers]

/-- An entity is decoded from all its forms. -/
theorem decodes_entity (entity : Entity) :
    Decodes entity.form (Entity.shape.read Json.surplus) entity := by
  have messages :=
    decodes_list fun message (_ : message ∈ entity.messages) => decodes_message message
  refine decodes_record Entity.shape _ entity.part rfl ?_ (by simp) ?_
  · refine .cons (.of (decodes_optionalText _) (faultless_ofOption _) ?_)
      (.cons (.of messages (faultless_ofList _) ?_) .nil)
    · simp [Entity.part]
    · simp [Entity.part]
  · intro given kept required
    simp only [List.forall_mem_cons] at kept
    obtain ⟨name, messages, -⟩ := kept
    rw [Entity.part, ite_ofOption name, ite_ofList messages]

/-- A model is decoded from all its forms. -/
theorem decodes_model (model : Model) :
    Decodes model.form (Model.shape.read Json.surplus) model := by
  have contracts :=
    decodes_list fun contract (_ : contract ∈ model.contracts) => decodes_message contract
  have entities :=
    decodes_list fun entity (_ : entity ∈ model.entities) => decodes_entity entity
  refine decodes_record Model.shape _ model.part rfl ?_ (by simp) ?_
  · refine .cons (.of contracts (faultless_ofList _) ?_)
      (.cons (.of entities (faultless_ofList _) ?_) .nil)
    · simp [Model.part]
    · simp [Model.part]
  · intro given kept required
    simp only [List.forall_mem_cons] at kept
    obtain ⟨contracts, entities, -⟩ := kept
    rw [Model.part, ite_ofList contracts, ite_ofList entities]

end Decoding

section Compact

/-- A member is written in one of its forms. -/
theorem Member.form_json (member : Member) : member.form [] member.json.chars :=
  Form.record_chars (by simp)
    (.cons ⟨rfl, Form.text_chars _⟩ (.cons ⟨rfl, Form.text_chars _⟩ .nil))

/-- A tag is written in one of its forms. -/
theorem Modifier.form_json (modifier : Modifier) : modifier.form [] modifier.json.chars :=
  Form.record_chars (by simp)
    (.cons ⟨rfl, Form.text_chars _⟩ (.cons ⟨rfl, Form.text_chars _⟩ .nil))

/-- A message is written in one of its forms. -/
theorem Message.form_json (message : Message) : message.form [] message.json.chars := by
  have members := Form.list_chars fun member (_ : member ∈ message.members) => member.form_json
  have modifiers :=
    Form.list_chars fun modifier (_ : modifier ∈ message.modifiers) => modifier.form_json
  exact Form.record_chars (by simp) (.cons ⟨rfl, Form.text_chars _⟩
    (.cons ⟨rfl, members⟩ (.cons ⟨rfl, modifiers⟩ .nil)))

/-- An entity is written in one of its forms. -/
theorem Entity.form_json (entity : Entity) : entity.form [] entity.json.chars := by
  have messages := Form.list_chars fun message (_ : message ∈ entity.messages) => message.form_json
  exact Form.record_chars (by simp)
    (.cons ⟨rfl, Form.optionalText_chars _⟩ (.cons ⟨rfl, messages⟩ .nil))

/-- A model is written in one of its forms. -/
theorem Model.form_toJson (model : Model) : model.form [] model.toJson.toList := by
  have contracts :=
    Form.list_chars fun contract (_ : contract ∈ model.contracts) => contract.form_json
  have entities := Form.list_chars fun entity (_ : entity ∈ model.entities) => entity.form_json
  rw [Model.toJson, Value.compact, String.toList_ofList]
  exact Form.record_chars (by simp) (.cons ⟨rfl, contracts⟩ (.cons ⟨rfl, entities⟩ .nil))

end Compact

namespace Model

/-- A model is decoded from every document that is one of its forms, or else a required field that
the document leaves out is missed. -/
theorem ofJson_of_form {model : Model} {missing : List String} {document : String}
    (written : Padded (model.form missing) document.toList) :
    ofJson document.toUTF8 = outcome model missing := by
  obtain ⟨node, reads, result⟩ := (decodes_model model).padded written
  have described := decode_toUTF8 (shape.read Json.surplus) reads
  rw [String.ofList_toList] at described
  exact described.trans result

/-- What a model is written as decodes to the model. So does every other document that gives the
same records, with the keys of each record in any order, among unknown keys with any well-formed
values, and without lists that are empty or the name that an entity does not have. A document that
leaves out a required field besides is refused because the first of them is missing. -/
theorem ofJson_reads_forms (model : Model) :
    ofJson model.toJson.toUTF8 = .ok model ∧
    model.form [] model.toJson.toList ∧
    (∀ document : String, Padded (model.form []) document.toList →
      ofJson document.toUTF8 = .ok model) ∧
    ∀ (field : String) (others : List String) (document : String),
      Padded (model.form (field :: others)) document.toList →
        ofJson document.toUTF8 = .error (.missingField field) := by
  have compact := model.form_toJson
  refine ⟨ofJson_of_form (.of compact), compact, ?_, ?_⟩
  · exact fun document written => ofJson_of_form written
  · exact fun field others document written => ofJson_of_form written

/-- A model of one contract without fields. -/
def emptyContract : Model := ⟨[⟨"A", [], []⟩], []⟩

/-- A document may begin with an unknown key and leave out what is empty, but no name. -/
theorem ofJson_reads_forms_emptyContract :
    Padded (emptyContract.form [])
        "\x7b\"x\":[ ],\"contracts\":[\x7b\"name\":\"A\"\x7d]\x7d".toList ∧
      Padded (emptyContract.form ["name"]) "\x7b\"contracts\":[\x7b\x7d]\x7d".toList ∧
      ofJson "\x7b\"x\":[ ],\"contracts\":[\x7b\"name\":\"A\"\x7d]\x7d".toUTF8 =
        .ok emptyContract ∧
      ofJson "\x7b\"contracts\":[\x7b\x7d]\x7d".toUTF8 = .error (.missingField "name") := by
  have blank : Blanks [' '] := by simp [Blanks]
  have strange : WellFormed "[ ]".toList := .list (List.forall_mem_nil _) (.blank blank)
  -- The contract with its name and nothing else, and without even the name.
  have named : Message.form ⟨"A", [], []⟩ [] "\x7b\"name\":\"A\"\x7d".toList := by
    refine ⟨["name"], ⟨[⟨some "name", [], quote "name" ++ ':' :: quote "A"⟩], ?_, rfl, by simp,
      rfl, .parts _ _⟩, by simp [Absence.ofList]⟩
    rw [List.forall_mem_singleton]
    exact .known List.mem_cons_self (.of (spelling_quote _)) (.of (Form.text_chars "A"))
  have nameless : Message.form ⟨"A", [], []⟩ ["name"] "\x7b\x7d".toList :=
    ⟨[], ⟨[], List.forall_mem_nil _, rfl, .nil, rfl, .blank .nil⟩, by simp [Absence.ofList]⟩
  have first : emptyContract.form []
      "\x7b\"x\":[ ],\"contracts\":[\x7b\"name\":\"A\"\x7d]\x7d".toList := by
    refine ⟨["contracts"], ⟨[⟨none, [], quote "x" ++ ':' :: "[ ]".toList⟩, ⟨some "contracts", [],
      quote "contracts" ++ ':' :: "[\x7b\"name\":\"A\"\x7d]".toList⟩], ?_, rfl, by simp, rfl,
      .parts _ _⟩, by simp [emptyContract, Absence.ofList]⟩
    rw [List.forall_mem_cons, List.forall_mem_singleton]
    refine ⟨.unknown (by simp) (.of (spelling_quote "x")) strange, ?_⟩
    exact .known List.mem_cons_self (.of (spelling_quote _))
      (.of ⟨[([], _)], .cons (.of named) .nil, rfl, .parts _ _⟩)
  have second : emptyContract.form ["name"] "\x7b\"contracts\":[\x7b\x7d]\x7d".toList := by
    refine ⟨["contracts"], ⟨[⟨some "contracts", ["name"], quote "contracts" ++ ':' ::
      "[\x7b\x7d]".toList⟩], ?_, rfl, by simp, rfl, .parts _ _⟩,
      by simp [emptyContract, Absence.ofList]⟩
    rw [List.forall_mem_singleton]
    exact .known List.mem_cons_self (.of (spelling_quote _))
      (.of ⟨[(["name"], _)], .cons (.of nameless) .nil, rfl, .parts _ _⟩)
  obtain ⟨-, -, decodes, refuses⟩ := ofJson_reads_forms emptyContract
  exact ⟨.of first, .of second, decodes _ (.of first), refuses _ _ _ (.of second)⟩

end Model

end MessageContracts
