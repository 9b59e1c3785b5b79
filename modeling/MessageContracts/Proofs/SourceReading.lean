import MessageContracts.Proofs.SpelledBreaks
import MessageContracts.Proofs.StockRows

/-!
# A source with the stock settings is read back

Where the names, types and interfaces of a model are plain words, every row of a source with the
stock settings tells what was put into it, every class and every interface tells where it ends, and
no class begins as an interface does. What the source shows of a model is therefore in the source.
-/

namespace MessageContracts

open Text Generator Outline

namespace Text

/-- A character of a plain word: a letter, a digit, an underscore or a dot. -/
def isWordChar (c : Char) : Bool := c.isAlphanum || c == '_' || c == '.'

/-- A plain word: it begins with a letter. -/
def isWord (text : String) : Bool :=
  match text.toList with
  | [] => false
  | first :: rest => first.isAlpha && rest.all isWordChar

variable {text : String}

/-- A plain word has the characters of plain words alone. -/
theorem not_mem_of_isWord (word : isWord text = true) {c : Char} (outside : isWordChar c = false) :
    c ∉ text.toList := by
  intro inside
  rw [isWord] at word
  cases chars : text.toList with
  | nil =>
    rw [chars] at inside
    exact absurd inside List.not_mem_nil
  | cons first rest =>
    rw [chars] at word inside
    obtain ⟨letter, others⟩ := Bool.and_eq_true_iff.mp word
    have part : isWordChar c = true := by
      rcases List.mem_cons.mp inside with rfl | later
      · rw [isWordChar, Char.isAlphanum, letter]
        rfl
      · exact List.all_eq_true.mp others c later
    rw [outside] at part
    cases part

/-- A plain word has no line breaks. -/
theorem breakless_of_isWord (word : isWord text = true) : Breakless text :=
  ⟨not_mem_of_isWord word (by decide), not_mem_of_isWord word (by decide)⟩

/-- A plain word is spelt without line breaks. -/
theorem breakless_pascalCase (word : isWord text = true) : Breakless (Spelling.pascalCase text) :=
  ⟨Spelling.not_mem_pascalCase (.inl rfl) (breakless_of_isWord word).1,
    Spelling.not_mem_pascalCase (.inr rfl) (breakless_of_isWord word).2⟩

end Text

/-- A message of plain words. -/
structure Message.Plain (message : Message) : Prop where
  /-- The name is one. -/
  name : isWord message.name = true
  /-- The types of the members are. -/
  types : ∀ member ∈ message.members, isWord member.type = true
  /-- The names of the members are. -/
  members : ∀ member ∈ message.members, isWord member.name = true
  /-- The interfaces of the modifiers are. -/
  interfaces : ∀ modifier ∈ message.modifiers, isWord modifier.interface = true

/-- A model of plain words. -/
structure Model.Plain (model : Model) : Prop where
  /-- The contracts are of plain words. -/
  contracts : ∀ contract ∈ model.contracts, contract.Plain
  /-- The names of the entities are plain words. -/
  names : ∀ entity ∈ model.entities, ∀ name ∈ entity.name, isWord name = true
  /-- The names of the messages of the entities are plain words. -/
  messages : ∀ entity ∈ model.entities, ∀ message ∈ entity.messages, isWord message.name = true

section Classes

/-- A row of a field is read back: a bracket ends the position and a space ends the type. -/
theorem readsBack_fieldRow :
    ReadsBack (fun entry : (String × String) × Nat => ' ' ∉ entry.1.1.toList)
      (fun entry => [fieldRow entry]) Prod.fst := by
  rintro ⟨⟨type, name⟩, position⟩ ⟨⟨otherType, otherName⟩, otherPosition⟩ free otherFree rest
    otherRest same
  obtain ⟨row, ends⟩ := List.cons.inj same
  have bracket (tail : List Char) : ")] public readonly ".toList ++ tail =
      ')' :: ("] public readonly ".toList ++ tail) := rfl
  have space (tail : List Char) : " ".toList ++ tail = ' ' :: tail := rfl
  have chars := congrArg String.toList row
  rw [fieldRow_eq, fieldRow_eq] at chars
  simp only [String.toList_append, bracket, space] at chars
  obtain ⟨-, afterNumber⟩ := append_cons_inj (not_mem_repr (by decide) position)
    (not_mem_repr (by decide) otherPosition) (List.append_cancel_left chars)
  obtain ⟨types, afterType⟩ := append_cons_inj free otherFree (List.append_cancel_left afterNumber)
  have names := List.append_cancel_right afterType
  exact ⟨congrArg₂ Prod.mk (String.toList_inj.mp types) (String.toList_inj.mp names), ends⟩

/-- Rows of fields are read back up to a blank row or a closing brace. -/
theorem fieldRows_inj {fields others : List (String × String)}
    (free : ∀ field ∈ fields, ' ' ∉ field.1.toList)
    (otherFree : ∀ field ∈ others, ' ' ∉ field.1.toList) {next otherNext : String}
    (stops : next = "" ∨ next = "\x7d") (otherStops : otherNext = "" ∨ otherNext = "\x7d")
    {rest otherRest : List String}
    (same : (fields.zipIdx 1).map fieldRow ++ next :: rest =
      (others.zipIdx 1).map fieldRow ++ otherNext :: otherRest) : fields = others := by
  have apart (entry : (String × String) × Nat) (rest : List String)
      (_ : ' ' ∉ entry.1.1.toList) :
      ¬([fieldRow entry] ++ rest).head? ∈ [some "", some "\x7d"] := by
    intro stop
    have first (tail : List Char) : "    [ProtoMember(".toList ++ tail =
        ' ' :: ("   [ProtoMember(".toList ++ tail) := rfl
    have begins : (fieldRow entry).toList.head? = some ' ' := by
      rw [fieldRow_eq, String.toList_append, first]
      rfl
    have row : fieldRow entry = "" ∨ fieldRow entry = "\x7d" := by simpa using stop
    rcases row with empty | brace
    · rw [empty] at begins
      cases begins
    · rw [brace] at begins
      exact absurd begins (by decide)
  have reachable {fields : List (String × String)} (free : ∀ field ∈ fields, ' ' ∉ field.1.toList) :
      ∀ entry ∈ fields.zipIdx 1, ' ' ∉ entry.1.1.toList :=
    fun entry inside => free entry.1 (List.fst_mem_of_mem_zipIdx inside)
  rw [List.map_eq_flatMap, List.map_eq_flatMap] at same
  have read := (readsBack_fieldRow.flatMap (fun rows => rows.head? ∈ [some "", some "\x7d"]) apart
    (reachable free) (reachable otherFree) (by simpa using stops) (by simpa using otherStops)
    same).1
  rwa [List.zipIdx_map_fst, List.zipIdx_map_fst] at read

/-- A heading is read back: a space ends the name, and commas end the interfaces. -/
theorem headingRow_inj {shown other : ShownClass} (free : ' ' ∉ shown.name.toList)
    (otherFree : ' ' ∉ other.name.toList) (listed : ∀ name ∈ shown.interfaces, ',' ∉ name.toList)
    (otherListed : ∀ name ∈ other.interfaces, ',' ∉ name.toList)
    (same : headingRow shown = headingRow other) :
    shown.name = other.name ∧ shown.interfaces = other.interfaces := by
  have colon (tail : List Char) : " : ".toList ++ tail = ' ' :: (": ".toList ++ tail) := rfl
  have chars := congrArg String.toList same
  obtain ⟨name, fields, interfaces⟩ := shown
  obtain ⟨otherName, otherFields, otherInterfaces⟩ := other
  cases interfaces with
  | nil =>
    cases otherInterfaces with
    | nil =>
      rw [headingRow_nil, headingRow_nil, String.toList_append, String.toList_append] at chars
      exact ⟨String.toList_inj.mp (List.append_cancel_left chars), rfl⟩
    | cons first rest =>
      rw [headingRow_nil, headingRow_cons] at chars
      simp only [String.toList_append, colon] at chars
      have names := List.append_cancel_left chars
      dsimp only at free
      rw [names] at free
      exact absurd (List.mem_append_right _ List.mem_cons_self) free
  | cons first rest =>
    cases otherInterfaces with
    | nil =>
      rw [headingRow_cons, headingRow_nil] at chars
      simp only [String.toList_append, colon] at chars
      have names := List.append_cancel_left chars
      dsimp only at otherFree
      rw [← names] at otherFree
      exact absurd (List.mem_append_right _ List.mem_cons_self) otherFree
    | cons otherFirst otherRest =>
      rw [headingRow_cons, headingRow_cons] at chars
      simp only [String.toList_append, colon] at chars
      obtain ⟨names, lists⟩ := append_cons_inj free otherFree (List.append_cancel_left chars)
      have joined := String.toList_inj.mp (List.append_cancel_left lists)
      exact ⟨String.toList_inj.mp names, intercalate_inj (rfl : ", ".toList = ',' :: [' '])
        (List.cons_ne_nil _ _) (List.cons_ne_nil _ _) listed otherListed joined⟩

/-- The rows of a class of plain words: its heading, its fields, and something that begins
otherwise. -/
theorem Message.Plain.exists_rows {contract : Message} (plain : contract.Plain) :
    ∃ next rest, (next = "" ∨ next = "\x7d") ∧
      (classLines (ofSettings .stock) 0 contract).map stockRow =
        "" :: "[ProtoContract]" :: headingRow contract.shown :: "\x7b" ::
          ((contract.shown.fields.zipIdx 1).map fieldRow ++ next :: rest) :=
  exists_map_stockRow_classLines (breakless_of_isWord plain.name)
    (fun member listed => ⟨breakless_of_isWord (plain.types member listed),
      breakless_pascalCase (plain.members member listed)⟩)
    (fun modifier listed => breakless_of_isWord (plain.interfaces modifier listed))

/-- The rows of a class are read back as what the class shows. -/
theorem readsBack_classRows :
    ReadsBack Message.Plain
      (fun contract => (classLines (ofSettings .stock) 0 contract).map stockRow)
      Message.shown := by
  have nameFree {contract : Message} (plain : contract.Plain) :
      ' ' ∉ contract.shown.name.toList := by
    rw [Message.shown]
    exact not_mem_of_isWord plain.name (by decide)
  have fieldsFree {contract : Message} (plain : contract.Plain) :
      ∀ field ∈ contract.shown.fields, ' ' ∉ field.1.toList := by
    intro field inside
    obtain ⟨member, listed, rfl⟩ := List.mem_map.mp inside
    exact not_mem_of_isWord (plain.types member listed) (by decide)
  have interfacesFree {contract : Message} (plain : contract.Plain) :
      ∀ name ∈ contract.shown.interfaces, ',' ∉ name.toList := by
    intro name inside
    obtain ⟨modifier, listed, rfl⟩ := List.mem_map.mp inside
    exact not_mem_of_isWord (plain.interfaces modifier listed) (by decide)
  intro contract other plain otherPlain rest otherRest same
  dsimp only at same
  have shown : contract.shown = other.shown := by
    obtain ⟨next, tail, stops, laid⟩ := plain.exists_rows
    obtain ⟨otherNext, otherTail, otherStops, otherLaid⟩ := otherPlain.exists_rows
    -- The heading gives the name and the interfaces, and the rows behind the brace give the fields.
    rw [laid, otherLaid] at same
    simp only [List.cons_append, List.append_assoc, List.cons.injEq, true_and] at same
    obtain ⟨heading, body⟩ := same
    obtain ⟨name, interfaces⟩ := headingRow_inj (nameFree plain) (nameFree otherPlain)
      (interfacesFree plain) (interfacesFree otherPlain) heading
    have fields := fieldRows_inj (fieldsFree plain) (fieldsFree otherPlain) stops otherStops body
    exact ShownClass.ext name fields interfaces
  -- The constructors and assignments follow from what is shown, so that all rows are the same.
  rw [classLines_eq_of_shown_eq .stock 0 shown] at same
  exact ⟨shown, List.append_cancel_left same⟩

end Classes

section Interfaces

/-- An interface of plain words that a stock rule gives rise to. -/
structure EmittedInterface.Plain (emitted : EmittedInterface) : Prop where
  /-- The rule is a stock rule. -/
  rule : emitted.rule ∈ Settings.stock.interfaces
  /-- The name of the entity is a plain word. -/
  entity : isWord emitted.entity = true
  /-- The names of the messages are plain words. -/
  messages : ∀ name ∈ emitted.messages, isWord name = true

/-- The interfaces that a model of plain words gives rise to are of plain words. -/
theorem plain_of_mem_emittedInterfaces {model : Model} (plain : model.Plain) :
    ∀ emitted ∈ Settings.stock.emittedInterfaces model, emitted.Plain := by
  intro emitted inside
  obtain ⟨entity, listed, inside⟩ := List.mem_flatMap.mp inside
  rw [Settings.entityInterfaces] at inside
  cases proper : entity.properName with
  | none =>
    rw [proper] at inside
    exact absurd inside List.not_mem_nil
  | some name =>
    rw [proper] at inside
    obtain ⟨rule, stock, emits⟩ := List.mem_filterMap.mp inside
    rw [InterfaceRule.emitted?] at emits
    split at emits
    · cases emits
    · obtain rfl := Option.some.inj emits
      refine ⟨stock, plain.names entity listed name (Option.filter_eq_some_iff.mp proper).1, ?_⟩
      intro messageName named
      obtain ⟨message, joins, rfl⟩ := List.mem_map.mp named
      exact plain.messages entity listed message (List.mem_filter.mp joins).1

/-- A declaration is read back: what follows the name tells the rules apart. -/
theorem declarationRow_inj {emitted other : EmittedInterface}
    (stock : emitted.rule ∈ Settings.stock.interfaces)
    (otherStock : other.rule ∈ Settings.stock.interfaces)
    (same : declarationRow emitted = declarationRow other) :
    emitted.entity = other.entity ∧ emitted.rule = other.rule := by
  obtain ⟨aggregate, state, rules, aggregates, states⟩ := exists_stock_interfaces
  rw [rules, List.mem_cons, List.mem_singleton] at stock otherStock
  -- Read from the end, one declaration goes on with a `g` where the other goes on with a `t`.
  have apart (name otherName : String) : "public interface I" ++ (name ++ "Aggregate") ≠
      "public interface I" ++ (otherName ++ "AggregateState") := by
    intro mixed
    have chars := congrArg String.toList mixed
    simp only [String.toList_append] at chars
    have ends := congrArg List.reverse (List.append_cancel_left chars)
    rw [List.reverse_append, List.reverse_append] at ends
    have letters : 'g' = 't' := (List.cons.inj (List.cons.inj (List.cons.inj
      (List.cons.inj ends).2).2).2).1
    exact absurd letters (by decide)
  have cancel {suffix name otherName : String}
      (declared : "public interface I" ++ (name ++ suffix) =
        "public interface I" ++ (otherName ++ suffix)) : name = otherName := by
    have chars := congrArg String.toList declared
    simp only [String.toList_append] at chars
    exact String.toList_inj.mp (List.append_cancel_right (List.append_cancel_left chars))
  rw [declarationRow, declarationRow] at same
  rcases stock with isAggregate | isState
  · rcases otherStock with otherIsAggregate | otherIsState
    · rw [isAggregate, otherIsAggregate, aggregates, aggregates] at same
      exact ⟨cancel same, isAggregate.trans otherIsAggregate.symm⟩
    · rw [isAggregate, otherIsState, aggregates, states] at same
      exact absurd same (apart _ _)
  · rcases otherStock with otherIsAggregate | otherIsState
    · rw [isState, otherIsAggregate, aggregates, states] at same
      exact absurd same.symm (apart _ _)
    · rw [isState, otherIsState, states, states] at same
      exact ⟨cancel same, isState.trans otherIsState.symm⟩

/-- A declaration of plain words has no line breaks. -/
theorem EmittedInterface.Plain.breakless {emitted : EmittedInterface} (plain : emitted.Plain) :
    Breakless (declarationRow emitted) := by
  obtain ⟨aggregate, state, rules, aggregates, states⟩ := exists_stock_interfaces
  have stock := plain.rule
  have name := breakless_of_isWord plain.entity
  have keyword : Breakless "public interface I" := by decide
  rw [rules, List.mem_cons, List.mem_singleton] at stock
  rw [declarationRow]
  rcases stock with isAggregate | isState
  · rw [isAggregate, aggregates]
    exact keyword.append (name.append (by decide))
  · rw [isState, states]
    exact keyword.append (name.append (by decide))

/-- The rows of an interface of plain words. -/
theorem EmittedInterface.Plain.rows {emitted : EmittedInterface} (plain : emitted.Plain) :
    (emittedLines .stock 0 emitted).map stockRow =
      "" :: declarationRow emitted :: "\x7b" :: (emitted.messages.map messageRow ++ ["\x7d"]) :=
  map_stockRow_emittedLines plain.breakless
    fun name listed => breakless_of_isWord (plain.messages name listed)

/-- A declaration is no marker of a class. -/
theorem EmittedInterface.Plain.declarationRow_ne {emitted : EmittedInterface}
    (plain : emitted.Plain) : declarationRow emitted ≠ "[ProtoContract]" := by
  obtain ⟨aggregate, state, rules, aggregates, states⟩ := exists_stock_interfaces
  have stock := plain.rule
  have keyword (suffix : String) : "public interface I" ++ suffix ≠ "[ProtoContract]" := by
    intro same
    have chars := congrArg String.toList same
    rw [String.toList_append] at chars
    have begins : 'p' = '[' := (List.cons.inj chars).1
    exact absurd begins (by decide)
  rw [rules, List.mem_cons, List.mem_singleton] at stock
  rw [declarationRow]
  rcases stock with isAggregate | isState
  · rw [isAggregate, aggregates]
    exact keyword _
  · rw [isState, states]
    exact keyword _

/-- A row of a message is read back. -/
theorem readsBack_messageRow : ReadsBack (fun _ => True) (fun name => [messageRow name]) id := by
  intro name other _ _ rest otherRest same
  obtain ⟨row, ends⟩ := List.cons.inj same
  have chars := congrArg String.toList row
  rw [messageRow_eq, messageRow_eq] at chars
  simp only [String.toList_append] at chars
  have names := List.append_cancel_right (List.append_cancel_left chars)
  exact ⟨String.toList_inj.mp names, ends⟩

/-- The rows of an interface are read back. -/
theorem readsBack_emittedRows :
    ReadsBack EmittedInterface.Plain
      (fun emitted => (emittedLines .stock 0 emitted).map stockRow) id := by
  intro emitted other plain otherPlain rest otherRest same
  have apart (name : String) (rest : List String) (_ : True) :
      ¬([messageRow name] ++ rest).head? = some "\x7d" := by
    intro stop
    have row : messageRow name = "\x7d" := Option.some.inj stop
    have chars := congrArg String.toList row
    rw [messageRow_eq, String.toList_append] at chars
    have begins : ' ' = '\x7d' := (List.cons.inj chars).1
    exact absurd begins (by decide)
  dsimp only at same
  rw [plain.rows, otherPlain.rows] at same
  simp only [List.cons_append, List.append_assoc, List.cons.injEq, true_and,
    List.nil_append, List.map_eq_flatMap] at same
  obtain ⟨declaration, body⟩ := same
  obtain ⟨entity, rule⟩ := declarationRow_inj plain.rule otherPlain.rule declaration
  obtain ⟨messages, ends⟩ := readsBack_messageRow.flatMap (·.head? = some "\x7d") apart
    (fun _ _ => trivial) (fun _ _ => trivial) rfl rfl body
  rw [List.map_id, List.map_id] at messages
  exact ⟨EmittedInterface.ext entity rule messages, (List.cons.inj ends).2⟩

end Interfaces

/-- Classes and interfaces one after the other, up to the end of the region, are read back. -/
theorem coreRows_inj {contracts otherContracts : List Message}
    (plain : ∀ contract ∈ contracts, contract.Plain)
    (otherPlain : ∀ contract ∈ otherContracts, contract.Plain)
    {emitted otherEmitted : List EmittedInterface} (words : ∀ each ∈ emitted, each.Plain)
    (otherWords : ∀ each ∈ otherEmitted, each.Plain)
    (same : contracts.flatMap (fun contract =>
          (classLines (ofSettings .stock) 0 contract).map stockRow) ++
        (emitted.flatMap (fun each => (emittedLines .stock 0 each).map stockRow)
          ++ ["#endregion"]) =
      otherContracts.flatMap (fun contract =>
          (classLines (ofSettings .stock) 0 contract).map stockRow) ++
        (otherEmitted.flatMap (fun each => (emittedLines .stock 0 each).map stockRow)
          ++ ["#endregion"])) :
    contracts.map Message.shown = otherContracts.map Message.shown ∧ emitted = otherEmitted := by
  -- A class is told from an interface and from the end of the region by its second row.
  have classesApart (contract : Message) (rest : List String) (isPlain : contract.Plain) :
      ¬((classLines (ofSettings .stock) 0 contract).map stockRow ++ rest)[1]? ≠
        some "[ProtoContract]" := by
    obtain ⟨next, tail, -, laid⟩ := isPlain.exists_rows
    rw [laid]
    exact not_not_intro rfl
  have interfacesStop {emitted : List EmittedInterface} (words : ∀ each ∈ emitted, each.Plain) :
      (emitted.flatMap (fun each => (emittedLines .stock 0 each).map stockRow)
        ++ ["#endregion"])[1]? ≠ some "[ProtoContract]" := by
    cases emitted with
    | nil => exact fun second => Option.some_ne_none _ second.symm
    | cons first rest =>
      have isPlain := words first List.mem_cons_self
      rw [List.flatMap_cons, isPlain.rows]
      exact fun second => isPlain.declarationRow_ne (Option.some.inj second)
  have interfacesApart (each : EmittedInterface) (rest : List String) (isPlain : each.Plain) :
      ¬((emittedLines .stock 0 each).map stockRow ++ rest).head? = some "#endregion" := by
    rw [isPlain.rows]
    exact fun first => absurd (Option.some.inj first) (by decide)
  obtain ⟨classes, interfaces⟩ := readsBack_classRows.flatMap (·[1]? ≠ some "[ProtoContract]")
    classesApart plain otherPlain (interfacesStop words) (interfacesStop otherWords) same
  obtain ⟨same, -⟩ := readsBack_emittedRows.flatMap (·.head? = some "#endregion") interfacesApart
    words otherWords rfl rfl interfaces
  rw [List.map_id, List.map_id] at same
  exact ⟨classes, same⟩

namespace Generator

/-- Two models of plain words of which the stock settings and the conventions of C# make the same
source show the same classes and give rise to the same interfaces, in the same order. -/
theorem sourceText_inj (model other : Model) (plain : model.Plain) (otherPlain : other.Plain)
    (source : String) (text : (ofSettings .stock).sourceText model = some source)
    (otherText : (ofSettings .stock).sourceText other = some source) :
    model.contracts.map Message.shown = other.contracts.map Message.shown ∧
      Settings.stock.emittedInterfaces model = Settings.stock.emittedInterfaces other := by
  have outlines : Outline.text LineWriter.stockUnit "\n" ((ofSettings .stock).outline model 0) =
      Outline.text LineWriter.stockUnit "\n" ((ofSettings .stock).outline other 0) := by
    rw [sourceText_eq_outline] at text otherText
    exact Option.some.inj (text.trans otherText.symm)
  have rows := rows_eq_of_text_eq (by decide) (feedless_outline _ model 0)
    (feedless_outline _ other 0) outlines
  change ((ofSettings .stock).outline model 0).map stockRow =
    ((ofSettings .stock).outline other 0).map stockRow at rows
  rw [map_stockRow_outline, map_stockRow_outline] at rows
  exact coreRows_inj plain.contracts otherPlain.contracts (plain_of_mem_emittedInterfaces plain)
    (plain_of_mem_emittedInterfaces otherPlain) (List.cons.inj rows).2

/-- A model of a contract with a tag, and of an entity that the contract joins. -/
def taggedModel : Model where
  contracts := [⟨"Opened", [⟨"System.Int32", "open_date"⟩], [⟨"?", "ICommand"⟩]⟩]
  entities := [⟨some "Account", [⟨"Opened", [], [⟨"?", "ICommand"⟩]⟩]⟩]

/-- The same model as far as its source goes: the member is named otherwise, the contract has
another tag, and there is one more entity, which has no name. -/
def retaggedModel : Model where
  contracts := [⟨"Opened", [⟨"System.Int32", "OpenDate"⟩], [⟨"!", "ICommand"⟩]⟩]
  entities := [⟨some "Account", [⟨"Opened", [], [⟨"?", "ICommand"⟩]⟩]⟩, ⟨none, []⟩]

/-- Two different models of plain words with one source. -/
theorem sourceText_inj_retagged :
    taggedModel ≠ retaggedModel ∧ taggedModel.Plain ∧ retaggedModel.Plain ∧
      ∃ source, (ofSettings .stock).sourceText taggedModel = some source ∧
        (ofSettings .stock).sourceText retaggedModel = some source ∧
        taggedModel.contracts.map Message.shown = retaggedModel.contracts.map Message.shown ∧
        Settings.stock.emittedInterfaces taggedModel =
          Settings.stock.emittedInterfaces retaggedModel := by
  have message (member : Member) (type : isWord member.type = true)
      (name : isWord member.name = true) (tag : String) :
      Message.Plain ⟨"Opened", [member], [⟨tag, "ICommand"⟩]⟩ :=
    ⟨(by decide : isWord "Opened" = true), List.forall_mem_singleton.mpr type,
      List.forall_mem_singleton.mpr name,
      List.forall_mem_singleton.mpr (by decide : isWord "ICommand" = true)⟩
  have plain : taggedModel.Plain :=
    ⟨List.forall_mem_singleton.mpr (message _ (by decide) (by decide) "?"), by decide, by decide⟩
  have otherPlain : retaggedModel.Plain :=
    ⟨List.forall_mem_singleton.mpr (message _ (by decide) (by decide) "!"), by decide, by decide⟩
  have text := sourceText_eq_some (ofSettings .stock) taggedModel
  have otherText := sourceText_eq_of_shown_eq
    (by decide +kernel : taggedModel.contracts.map Message.shown =
      retaggedModel.contracts.map Message.shown)
    (by decide +kernel : Settings.stock.emittedInterfaces taggedModel =
      Settings.stock.emittedInterfaces retaggedModel)
  rw [text] at otherText
  exact ⟨by decide, plain, otherPlain, _, text, otherText.symm,
    sourceText_inj taggedModel retaggedModel plain otherPlain _ text otherText.symm⟩

end Generator

end MessageContracts
