import MessageContracts.Document.Shape
import MessageContracts.Json.Read
import MessageContracts.Json.Value
import MessageContracts.Proofs.DocumentScalars
import MessageContracts.Proofs.JsonValues

/-!
# The forms of a value

One value can be written in many ways: a text in several spellings, the members of a record in any
order and among members that the record does not know, and a field whose absence says the same as
its value can be left out. A required field can be left out too, and then the document says which
one it lacks. What a reader of records makes of all these forms is settled by one law for each kind
of value; the fields of a record need no more than to be read and set on their own.
-/

namespace MessageContracts.Json

open Text (Scalar)

/-- How a value can be written: without which required fields, in the order in which a reader misses
them, and in which characters. -/
abbrev Form := List String → List Char → Prop

/-- What it means to leave a field of a record out. -/
inductive Absence where
  /-- Something else than giving the field. -/
  | different
  /-- The same as giving the field. -/
  | same
  /-- A fault: the field is required. -/
  | fault
deriving DecidableEq, Repr

/-- Leaving a list out says that it is empty. -/
def Absence.ofList {α : Type} : List α → Absence
  | [] => .same
  | _ :: _ => .different

/-- Leaving a text out says that there is none. -/
def Absence.ofOption {α : Type} : Option α → Absence
  | none => .same
  | some _ => .different

/-- How a field of a record can be written. -/
structure FieldForm where
  /-- The key. -/
  key : String
  /-- What it means to leave the field out. -/
  absence : Absence
  /-- How the value can be written. -/
  form : Form

/-- A member of a record as it is written. -/
structure WrittenMember where
  /-- The key of the field that it gives, absent if the record knows no such field. -/
  key : Option String
  /-- The required fields that are left out in its value. -/
  missing : List String
  /-- Its characters. -/
  chars : List Char

/-- How a member of a record with these fields can be written. -/
inductive IsMember (fields : List FieldForm) : WrittenMember → Prop where
  /-- One of the fields. -/
  | known {field : FieldForm} {missing : List String} {key value : List Char}
    (listed : field ∈ fields) (spelt : Padded (Spelling field.key) key)
    (written : Padded (field.form missing) value) :
    IsMember fields ⟨some field.key, missing, key ++ ':' :: value⟩
  /-- A key that the record does not know, with any well-formed value. -/
  | unknown {name : String} {key value : List Char} (unlisted : name ∉ fields.map (·.key))
    (spelt : Padded (Spelling name) key) (written : WellFormed value) :
    IsMember fields ⟨none, [], key ++ ':' :: value⟩

/-- The required fields that are not among the given ones. -/
def absentFaults (fields : List FieldForm) (given : List String) : List String :=
  (fields.filter fun field => decide (field.absence = .fault ∧ field.key ∉ given)).map (·.key)

/-- A record that gives some of its fields, each of them once, in any order and among members that
it does not know. -/
def RecordText (fields : List FieldForm) (given : List String) : Form := fun missing chars =>
  ∃ members : List WrittenMember, (∀ member ∈ members, IsMember fields member) ∧
    members.filterMap (·.key) = given ∧ given.Nodup ∧
    missing = members.flatMap (·.missing) ++ absentFaults fields given ∧
    Enclosed '\x7b' '\x7d' (members.map (·.chars)) chars

namespace Form

/-- A text, in any spelling. -/
def text (value : String) : Form := fun missing chars => missing = [] ∧ Spelling value chars

/-- A text that may be absent. -/
def optionalText : Option String → Form
  | none => fun missing chars => missing = [] ∧ chars = "null".toList
  | some value => text value

/-- A list of values, each in one of its forms. -/
def list {α : Type} (form : α → Form) (values : List α) : Form := fun missing chars =>
  ∃ items : List (List String × List Char),
    List.Forall₂ (fun value item => Padded (form value item.1) item.2) values items ∧
    missing = items.flatMap (·.1) ∧ Enclosed '[' ']' (items.map (·.2)) chars

/-- A record that leaves out no field unless the absence says the same or is a fault. -/
def record (fields : List FieldForm) : Form := fun missing chars =>
  ∃ given, RecordText fields given missing chars ∧
    ∀ field ∈ fields, field.absence = .different → field.key ∈ given

end Form

/-- What comes of reading a value in one of its forms: the value, or the first required field that
is missing. -/
def outcome {α : Type} (value : α) : List String → Except DocumentFault α
  | [] => .ok value
  | field :: _ => .error (.missingField field)

/-- Every form of a value is read to its end, and the reader finds the value or misses the first
required field that was left out. -/
def Decodes {α : Type} (form : Form) (reader : Reader α) (value : α) : Prop :=
  ∀ missing chars, form missing chars → ∃ node, ReadsAs chars node ∧
    reader node = outcome value missing

section Values

variable {α β : Type} {form : Form} {reader : Reader α} {value : α} {missing : List String}
  {chars : List Char}

/-- Of two readings one after the other, the first comes first with what it misses. -/
theorem outcome_bind (value : α) (first second : List String) (next : α → Except DocumentFault β)
    (result : β) (reads : next value = outcome result second) :
    (outcome value first >>= next) = outcome result (first ++ second) := by
  cases first with
  | nil => exact reads
  | cons field rest => rfl

/-- Blanks around a form change nothing. -/
theorem Decodes.padded (decodes : Decodes form reader value)
    (written : Padded (form missing) chars) :
    ∃ node, ReadsAs chars node ∧ reader node = outcome value missing := by
  obtain ⟨before, middle, after, leading, inside, trailing, rfl⟩ := written
  obtain ⟨node, reads, result⟩ := decodes missing middle inside
  exact ⟨node, reads.padded leading trailing, result⟩

/-- A text is read in every spelling. -/
theorem decodes_text (value : String) : Decodes (.text value) Reader.text value := by
  rintro missing chars ⟨rfl, spelling⟩
  exact ⟨.text value, .spelling spelling, rfl⟩

/-- A text that may be absent is read, whether or not it is. -/
theorem decodes_optionalText (value : Option String) :
    Decodes (.optionalText value) Reader.optionalText value := by
  cases value with
  | none =>
    rintro missing chars ⟨rfl, rfl⟩
    refine ⟨.null, .scalar (by decide) (by decide) (by decide) fun _ _ => rfl, rfl⟩
  | some value =>
    rintro missing chars ⟨rfl, spelling⟩
    exact ⟨.text value, .spelling spelling, rfl⟩

/-- Items are read one after the other, and the first that misses something stops the reading. -/
theorem exists_each_outcome {form : α → Form} {values : List α}
    (each : ∀ value ∈ values, Decodes (form value) reader value)
    {items : List (List String × List Char)}
    (written : List.Forall₂ (fun value item => Padded (form value item.1) item.2) values items) :
    ∃ nodes, List.Forall₂ ReadsAs (items.map (·.2)) nodes ∧
      Reader.each reader nodes = outcome values (items.flatMap (·.1)) := by
  induction written with
  | nil => exact ⟨[], .nil, rfl⟩
  | @cons value item values items first later ih =>
    obtain ⟨here, others⟩ := List.forall_mem_cons.mp each
    obtain ⟨node, reads, result⟩ := here.padded first
    obtain ⟨nodes, readsOthers, results⟩ := ih others
    refine ⟨node :: nodes, .cons reads readsOthers, ?_⟩
    rw [Reader.each, result, List.flatMap_cons]
    refine outcome_bind _ _ _ _ _ ?_
    rw [results]
    cases items.flatMap (·.1) <;> rfl

/-- A list is read item by item. -/
theorem decodes_list {form : α → Form} {values : List α}
    (each : ∀ value ∈ values, Decodes (form value) reader value) :
    Decodes (.list form values) (Reader.list reader) values := by
  rintro missing chars ⟨items, written, rfl, enclosed⟩
  obtain ⟨nodes, reads, results⟩ := exists_each_outcome each written
  refine ⟨.list nodes true, .list reads enclosed, ?_⟩
  rw [Reader.list, results]
  cases items.flatMap (·.1) <;> rfl

end Values

section Records

variable {α β : Type} {part : List String → α} {fields : List (Field α)}
  {forms : List FieldForm}

/-- A field that is written in one of these forms is read and set in a record of which only part of
the fields have been given. -/
structure FieldFits (part : List String → α) (field : Field α) (form : FieldForm) : Prop where
  /-- The field has the key of the form. -/
  name : field.name = form.key
  /-- The field is required exactly where its absence is a fault. -/
  required : field.required = true ↔ form.absence = .fault
  /-- Reading the field gives it. -/
  reads : ∀ missing chars, Padded (form.form missing) chars → ∃ node, ReadsAs chars node ∧
    ∀ given, field.read node (part given) = outcome (part (form.key :: given)) missing

/-- A field that is read on its own and then set fits when setting it gives it. -/
theorem FieldFits.of {name : String} {absence : Absence} {form : Form} {reader : Reader β}
    {value : β} {required : Bool} {set : α → β → α} (decodes : Decodes form reader value)
    (faulty : required = true ↔ absence = .fault)
    (sets : ∀ given, set (part given) value = part (name :: given)) :
    FieldFits part (.of name required reader set) ⟨name, absence, form⟩ where
  name := rfl
  required := faulty
  reads missing chars written := by
    obtain ⟨node, reads, result⟩ := decodes.padded written
    refine ⟨node, reads, fun given => ?_⟩
    rw [← sets given]
    simp only [Field.of, result]
    cases missing <;> rfl

/-- A field is found by its key. -/
theorem find?_of_fits (fits : List.Forall₂ (FieldFits part) fields forms)
    (distinct : (forms.map (·.key)).Nodup) {form : FieldForm} (listed : form ∈ forms) :
    ∃ field, fields.find? (·.name == form.key) = some field ∧ FieldFits part field form := by
  induction fits with
  | nil => cases listed
  | @cons field first fields forms fit others ih =>
    rw [List.map_cons, List.nodup_cons] at distinct
    rcases List.mem_cons.mp listed with rfl | later
    · have alike : (field.name == form.key) = true := beq_iff_eq.mpr fit.name
      refine ⟨field, ?_, fit⟩
      rw [List.find?_cons, alike]
    · obtain ⟨found, here, foundFits⟩ := ih distinct.2 later
      have unlike : (field.name == form.key) = false := by
        rw [beq_eq_false_iff_ne, fit.name]
        intro same
        exact distinct.1 (same ▸ List.mem_map_of_mem later)
      refine ⟨found, ?_, foundFits⟩
      rw [List.find?_cons, unlike]
      exact here

/-- No field is found by a key that is not listed. -/
theorem find?_of_unlisted (fits : List.Forall₂ (FieldFits part) fields forms) {name : String}
    (unlisted : name ∉ forms.map (·.key)) : fields.find? (·.name == name) = none := by
  induction fits with
  | nil => rfl
  | @cons field form fields forms fit others ih =>
    rw [List.map_cons, List.mem_cons, not_or] at unlisted
    have unlike : (field.name == name) = false := by
      rw [beq_eq_false_iff_ne, fit.name]
      exact Ne.symm unlisted.1
    rw [List.find?_cons, unlike]
    exact ih unlisted.2

/-- The first required field that has not been seen is the first absence that is a fault. -/
theorem find?_required (fits : List.Forall₂ (FieldFits part) fields forms)
    {seen given : List String} (same : ∀ key, key ∈ seen ↔ key ∈ given) :
    (fields.find? fun field => field.required && !seen.contains field.name).map (·.name) =
      (absentFaults forms given).head? := by
  induction fits with
  | nil => rfl
  | @cons field form fields forms fit others ih =>
    have here : (field.required && !seen.contains field.name) =
        decide (form.absence = .fault ∧ form.key ∉ given) := by
      rw [Bool.eq_iff_iff, decide_eq_true_iff, Bool.and_eq_true, fit.required, fit.name,
        Bool.not_eq_true', ← Bool.not_eq_true, List.contains_iff_mem, same]
    rw [List.find?_cons, here, absentFaults, List.filter_cons]
    cases decide (form.absence = .fault ∧ form.key ∉ given) with
    | true => exact congrArg some fit.name
    | false => exact ih

/-- Without an absence that is a fault, every required field is given. -/
theorem mem_of_absentFaults_eq_nil {given : List String} (faultless : absentFaults forms given = [])
    {form : FieldForm} (listed : form ∈ forms) (fault : form.absence = .fault) :
    form.key ∈ given := by
  by_contra missing
  have kept : form ∈ forms.filter fun field =>
      decide (field.absence = .fault ∧ field.key ∉ given) :=
    List.mem_filter.mpr ⟨listed, decide_eq_true ⟨fault, missing⟩⟩
  rw [List.map_eq_nil_iff.mp faultless] at kept
  cases kept

/-- The members of a record are read one by one: each of the fields is set, and what the record
does not know is passed over. -/
theorem readMembers_outcome (shape : Shape α)
    (fits : List.Forall₂ (FieldFits part) shape.fields forms)
    (distinct : (forms.map (·.key)).Nodup) {members : List WrittenMember}
    (each : ∀ member ∈ members, IsMember forms member) :
    ∃ nodes, List.Forall₂ MemberReadsAs (members.map (·.chars)) nodes ∧
      ∀ seen, (members.filterMap (·.key) ++ seen).Nodup →
        let given := (members.filterMap (·.key)).reverse ++ seen
        shape.readMembers nodes seen (part seen) =
          outcome (given, part given) (members.flatMap (·.missing)) := by
  induction members with
  | nil => exact ⟨[], .nil, fun _ _ => rfl⟩
  | cons member rest ih =>
    obtain ⟨here, later⟩ := List.forall_mem_cons.mp each
    obtain ⟨nodes, readsRest, results⟩ := ih later
    cases here with
    | @known form missing key value listed spelt written =>
      obtain ⟨field, found, fit⟩ := find?_of_fits fits distinct listed
      obtain ⟨node, reads, result⟩ := fit.reads missing value written
      refine ⟨(some form.key, node) :: nodes,
        .cons ⟨key, value, rfl, .spelling spelt, reads⟩ readsRest, fun seen once => ?_⟩
      have keys : (WrittenMember.mk (some form.key) missing (key ++ ':' :: value) :: rest).filterMap
          (·.key) = form.key :: rest.filterMap (·.key) := rfl
      rw [keys, List.cons_append] at once
      obtain ⟨unseen, others⟩ := List.nodup_cons.mp once
      have fresh : seen.contains form.key = false := by
        rw [← Bool.not_eq_true, List.contains_iff_mem]
        exact fun twice => unseen (List.mem_append_right _ twice)
      have next := results (form.key :: seen) (List.perm_middle.nodup_iff.mpr once)
      rw [keys, List.reverse_cons, List.append_assoc, List.flatMap_cons]
      rw [Shape.readMembers, found]
      simp only [fresh, Bool.false_eq_true, if_false, result]
      exact outcome_bind _ _ _ _ _ next
    | @unknown name key value unlisted spelt written =>
      obtain ⟨node, reads, wellFormed⟩ := written.exists_readsAs
      refine ⟨(some name, node) :: nodes,
        .cons ⟨key, value, rfl, .spelling spelt, reads⟩ readsRest, fun seen once => ?_⟩
      rw [Shape.readMembers, find?_of_unlisted fits unlisted]
      simp only [wellFormed, if_true]
      exact results seen once

/-- A record is read as the part of it that is given, or else misses what was left out. -/
theorem read_recordText (shape : Shape α) (surplus : Surplus) (blank : part [] = shape.blank)
    (fits : List.Forall₂ (FieldFits part) shape.fields forms)
    (distinct : (forms.map (·.key)).Nodup) {given missing : List String} {chars : List Char}
    (written : RecordText forms given missing chars) :
    ∃ node, ReadsAs chars node ∧
      shape.read surplus node = outcome (part given.reverse) missing := by
  obtain ⟨members, each, rfl, once, rfl, enclosed⟩ := written
  obtain ⟨nodes, reads, results⟩ := readMembers_outcome shape fits distinct each
  refine ⟨.record nodes true, .record reads enclosed, ?_⟩
  have row := results [] (by rw [List.append_nil]; exact once)
  have once_each : ∀ key, key ∈ (members.filterMap (·.key)).reverse ↔
      key ∈ members.filterMap (·.key) := fun _ => List.mem_reverse
  have absent := find?_required fits once_each
  simp only [List.append_nil, blank] at row
  rw [Shape.read, Shape.readRecord, row]
  refine outcome_bind _ _ _ _ _ ?_
  simp only [Bool.not_true, Bool.false_eq_true, if_false]
  cases found : shape.fields.find? fun field => field.required &&
      !(members.filterMap (·.key)).reverse.contains field.name with
  | none =>
    rw [found] at absent
    rw [List.head?_eq_none_iff.mp absent.symm]
    rfl
  | some field =>
    rw [found] at absent
    obtain ⟨more, faults⟩ := List.head?_eq_some_iff.mp absent.symm
    rw [faults]
    rfl

/-- A record that leaves out no field with something to say is read in every form. -/
theorem decodes_record {record : α} (shape : Shape α) (surplus : Surplus)
    (part : List String → α) (blank : part [] = shape.blank)
    (fits : List.Forall₂ (FieldFits part) shape.fields forms)
    (distinct : (forms.map (·.key)).Nodup)
    (whole : ∀ given, (∀ form ∈ forms, form.absence = .different → form.key ∈ given) →
      (∀ form ∈ forms, form.absence = .fault → form.key ∈ given) → part given = record) :
    Decodes (.record forms) (shape.read surplus) record := by
  rintro missing chars ⟨given, written, kept⟩
  obtain ⟨node, reads, result⟩ := read_recordText shape surplus blank fits distinct written
  refine ⟨node, reads, ?_⟩
  cases missing with
  | nil =>
    obtain ⟨members, -, -, -, none_missing, -⟩ := written
    have faultless := (List.append_eq_nil_iff.mp none_missing.symm).2
    have all : part given.reverse = record := by
      refine whole given.reverse (fun form listed different => ?_) fun form listed fault => ?_
      · exact List.mem_reverse.mpr (kept form listed different)
      · exact List.mem_reverse.mpr (mem_of_absentFaults_eq_nil faultless listed fault)
    rw [result, all]
  | cons field rest => exact result

end Records

section Compact

/-- Items are written with commas between them. -/
theorem itemChars_eq_intercalate (items : List Value) :
    Value.itemChars items = [','].intercalate (items.map Value.chars) := by
  induction items with
  | nil => rfl
  | cons item rest ih =>
    cases rest with
    | nil => rw [Value.itemChars, List.map_singleton, List.intercalate_singleton]
    | cons next rest =>
      rw [Value.itemChars, ih]
      · simp [List.intercalate_cons_cons]
      · exact List.cons_ne_nil _ _

/-- Members are written with commas between them. -/
theorem memberChars_eq_intercalate (members : List (String × Value)) :
    Value.memberChars members =
      [','].intercalate (members.map fun (key, value) => quote key ++ ':' :: value.chars) := by
  induction members with
  | nil => rfl
  | cons member rest ih =>
    obtain ⟨key, value⟩ := member
    cases rest with
    | nil => rw [Value.memberChars, List.map_singleton, List.intercalate_singleton]
    | cons next rest =>
      rw [Value.memberChars, ih]
      · simp [List.intercalate_cons_cons]
      · exact List.cons_ne_nil _ _

/-- Parts with commas and no blanks between them. -/
theorem enclosed_intercalate (opening closing : Char) (parts : List (List Char)) :
    Enclosed opening closing parts (opening :: [','].intercalate parts ++ [closing]) := by
  cases parts with
  | nil => exact .blank .nil
  | cons first rest => exact .parts first rest

namespace Form

/-- A text is written in one of its forms. -/
theorem text_chars (value : String) : text value [] (Value.text value).chars :=
  ⟨rfl, spelling_quote value⟩

/-- A text that may be absent is written in one of its forms. -/
theorem optionalText_chars (value : Option String) :
    optionalText value [] (Value.optionalText value).chars := by
  cases value with
  | none => exact ⟨rfl, rfl⟩
  | some value => exact text_chars value

/-- A list of values that are written in one of their forms is, too. -/
theorem list_chars {α : Type} {form : α → Form} {json : α → Value} {values : List α}
    (each : ∀ value ∈ values, form value [] (json value).chars) :
    list form values [] (Value.list (values.map json)).chars := by
  refine ⟨values.map fun value => ([], (json value).chars), ?_, ?_, ?_⟩
  · rw [List.forall₂_map_right_iff, List.forall₂_same]
    exact fun value listed => .of (each value listed)
  · simp
  · have items : (values.map fun value => (([] : List String), (json value).chars)).map (·.2) =
        (values.map json).map Value.chars := by
      simp
    rw [items, Value.chars, itemChars_eq_intercalate]
    exact enclosed_intercalate _ _ _

/-- Fields that are written in one of their forms are members. -/
theorem exists_members_chars {fields all : List FieldForm} {members : List (String × Value)}
    (written : List.Forall₂ (fun field member =>
      field.key = member.1 ∧ field.form [] member.2.chars) fields members)
    (listed : ∀ field ∈ fields, field ∈ all) :
    ∃ row : List WrittenMember, (∀ member ∈ row, IsMember all member) ∧
      row.filterMap (·.key) = fields.map (·.key) ∧ row.flatMap (·.missing) = [] ∧
      row.map (·.chars) = members.map fun (key, value) => quote key ++ ':' :: value.chars := by
  induction written with
  | nil => exact ⟨[], List.forall_mem_nil _, rfl, rfl, rfl⟩
  | @cons field member fields members first later ih =>
    obtain ⟨here, others⟩ := List.forall_mem_cons.mp listed
    obtain ⟨row, each, keys, missing, chars⟩ := ih others
    obtain ⟨key, value⟩ := member
    obtain ⟨rfl, form⟩ := first
    have whole : IsMember all ⟨some field.key, [], quote field.key ++ ':' :: value.chars⟩ :=
      .known here (.of (spelling_quote _)) (.of form)
    refine ⟨_ :: row, List.forall_mem_cons.mpr ⟨whole, each⟩, ?_, missing, ?_⟩
    · exact congrArg (field.key :: ·) keys
    · exact congrArg ((quote field.key ++ ':' :: value.chars) :: ·) chars

/-- A record of fields that are written in one of their forms is, too. -/
theorem record_chars {fields : List FieldForm} {members : List (String × Value)}
    (distinct : (fields.map (·.key)).Nodup)
    (written : List.Forall₂ (fun field member =>
      field.key = member.1 ∧ field.form [] member.2.chars) fields members) :
    record fields [] (Value.record members).chars := by
  obtain ⟨row, each, keys, missing, chars⟩ := exists_members_chars written fun _ => id
  have faultless : absentFaults fields (fields.map (·.key)) = [] := by
    rw [absentFaults, List.map_eq_nil_iff, List.filter_eq_nil_iff]
    intro field listed absent
    exact (of_decide_eq_true absent).2 (List.mem_map_of_mem listed)
  refine ⟨fields.map (·.key), ⟨row, each, keys, distinct, ?_, ?_⟩, fun field listed _ => ?_⟩
  · rw [missing, faultless]
    rfl
  · rw [chars, Value.chars, memberChars_eq_intercalate]
    exact enclosed_intercalate _ _ _
  · exact List.mem_map_of_mem listed

end Form

end Compact

/-- A document that is read as a node describes what a reader makes of the node. -/
theorem decode_toUTF8 {α : Type} (reader : Reader α) {chars : List Char} {node : Node}
    (reads : ReadsAs chars node) : decode reader (String.ofList chars).toUTF8 = reader node := by
  have source : Text.scalars (String.ofList chars).toUTF8 = chars.map some := by
    rw [Text.scalars_toUTF8, String.toList_ofList]
  have enough : 2 * chars.length ≤ 2 * (chars.map some).length + 2 := by
    rw [List.length_map]
    omega
  obtain ⟨later, read, behind⟩ := reads _ [] enough fun _ none_there => by cases none_there
  rw [List.append_nil] at read
  rw [decode, source, decodeScalars, Json.read, read]
  simp only [behind]
  cases reader node <;> rfl

end MessageContracts.Json
