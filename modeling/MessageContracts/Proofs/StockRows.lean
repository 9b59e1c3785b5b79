import MessageContracts.Proofs.LineBreaks
import MessageContracts.Proofs.OutlineRows
import MessageContracts.Proofs.Shown

/-!
# The rows of a source with the stock settings

With the stock settings and the stock layout every row of a class heading, of a field and of an
interface is a fixed text around what the model says there, as long as the model says it without
line breaks. The other rows of a class follow from what it shows, and are left as they are.
-/

namespace MessageContracts

open Text Generator Outline

/-- A row with the stock layout. -/
def stockRow (line : PlacedLine) : String := line.row LineWriter.stockUnit

/-- A line at level zero is its own row. -/
theorem stockRow_zero (text : String) : stockRow ⟨0, text⟩ = text := by
  rw [stockRow, PlacedLine.row]
  split
  · exact String.empty_append
  · exact String.empty_append

/-- A blank line has a blank row at every level. -/
theorem stockRow_blank (level : Nat) : stockRow ⟨level, ""⟩ = "" := rfl

/-- A line at level one is indented by four spaces. -/
theorem stockRow_one {text : String} (filled : text ≠ "") :
    stockRow ⟨1, text⟩ = "    " ++ text := by
  have indent : indentText LineWriter.stockUnit 1 = "    " := by decide
  rw [stockRow, PlacedLine.row, if_neg filled, indent]

/-- Lines placed at level zero are their own rows. -/
theorem map_stockRow_place_zero (lines : List String) : (place 0 lines).map stockRow = lines := by
  rw [place, List.map_map]
  refine (List.map_congr_left fun line _ => ?_).trans (List.map_id lines)
  exact stockRow_zero line

/-- The rows of a block at level zero are those of its body, between braces. -/
theorem map_stockRow_braces_zero (body : List PlacedLine) :
    (braces 0 body).map stockRow = "\x7b" :: body.map stockRow ++ ["\x7d"] := by
  rw [braces, List.cons_append, List.map_cons, List.map_append, List.map_singleton, stockRow_zero,
    stockRow_zero]
  rfl

section Templates

/-- The text of segments, one after the other. -/
theorem Template.render_of_segments {arity : Nat} {template : Template arity}
    {segments : List (Segment arity)} (compiled : template.segments = segments)
    (arguments : Vector String arity) :
    template.render arguments = (segments.map (segmentText arguments)).foldr (· ++ ·) "" := by
  rw [render, compiled]
  induction segments.map (segmentText arguments) with
  | nil => rfl
  | cons text rest ih => rw [String.join_cons, ih, List.foldr_cons]

/-- The stock class declaration. -/
theorem render_stock_classHeader (name : String) :
    Settings.stock.classHeader.render (.singleton name) =
      "\n[ProtoContract]\npublic sealed class " ++ name := by
  have segments : Settings.stock.classHeader.segments =
      [.literal "\n[ProtoContract]\npublic sealed class ", .argument 0] := by decide +kernel
  rw [Template.render_of_segments segments]
  exact congrArg (_ ++ ·) String.append_empty

/-- The stock field declaration. -/
theorem render_stock_member (position type name : String) :
    Settings.stock.member.render #v[position, type, name] =
      "[ProtoMember(" ++ (position ++
        (")] public readonly " ++ (type ++ (" " ++ (name ++ ";"))))) := by
  have segments : Settings.stock.member.segments =
      [.literal "[ProtoMember(", .argument 0, .literal ")] public readonly ", .argument 1,
        .literal " ", .argument 2, .literal ";"] := by decide +kernel
  rw [Template.render_of_segments segments]
  rfl

/-- The stock constructor without parameters begins with a line feed. -/
theorem exists_render_stock_privateConstructor (name : String) :
    ∃ rest, Settings.stock.privateConstructor.render (.singleton name) = "" ++ "\n" ++ rest := by
  have segments : Settings.stock.privateConstructor.segments =
      [.literal "\nprivate ", .argument 0, .literal " () \x7b\x7d"] := by decide +kernel
  refine ⟨"private " ++ (name ++ " () \x7b\x7d"), ?_⟩
  rw [Template.render_of_segments segments, ← String.append_assoc]
  rfl

/-- The stock line of an interface's body. -/
theorem render_stock_interfaceMember (name : String) :
    Settings.stock.interfaceMember.render (.singleton name) = "void When(" ++ (name ++ " c);") := by
  have segments : Settings.stock.interfaceMember.segments =
      [.literal "void When(", .argument 0, .literal " c);"] := by decide +kernel
  rw [Template.render_of_segments segments]
  rfl

/-- The two stock rules and what they declare. -/
theorem exists_stock_interfaces :
    ∃ aggregate state : InterfaceRule, Settings.stock.interfaces = [aggregate, state] ∧
      (∀ name, aggregate.name.render (.singleton name) =
        "public interface I" ++ (name ++ "Aggregate")) ∧
      ∀ name, state.name.render (.singleton name) =
        "public interface I" ++ (name ++ "AggregateState") := by
  refine ⟨_, _, rfl, fun name => ?_, fun name => ?_⟩
  · refine (Template.render_of_segments
      (by decide +kernel : _ = [.literal "public interface I", .argument 0, .literal "Aggregate"])
      _).trans ?_
    rfl
  · refine (Template.render_of_segments
      (by decide +kernel : _ =
        [.literal "public interface I", .argument 0, .literal "AggregateState"]) _).trans ?_
    rfl

end Templates

section Classes

-- Rows have equations of their own: unfolding them in place would evaluate their literals.

/-- The row of a class heading. -/
def headingRow (shown : ShownClass) : String :=
  "public sealed class " ++ (shown.name ++
    if shown.interfaces.isEmpty then "" else " : " ++ ", ".intercalate shown.interfaces)

/-- Without interfaces a heading ends in the name. -/
theorem headingRow_nil (name : String) (fields : List (String × String)) :
    headingRow ⟨name, fields, []⟩ = "public sealed class " ++ name :=
  congrArg ("public sealed class " ++ ·) String.append_empty

/-- Interfaces follow the name behind a colon. -/
theorem headingRow_cons (name : String) (fields : List (String × String)) (first : String)
    (rest : List String) : headingRow ⟨name, fields, first :: rest⟩ =
      "public sealed class " ++ (name ++ (" : " ++ ", ".intercalate (first :: rest))) := rfl

/-- The row of a field at a position. -/
def fieldRow (field : (String × String) × Nat) : String :=
  "    [ProtoMember(" ++ (field.2.repr ++ (")] public readonly " ++
    (field.1.1 ++ (" " ++ (field.1.2 ++ ";")))))

/-- A row of a field is put together from seven pieces. -/
theorem fieldRow_eq (type name : String) (position : Nat) :
    fieldRow ((type, name), position) = "    [ProtoMember(" ++ (position.repr ++
      (")] public readonly " ++ (type ++ (" " ++ (name ++ ";"))))) := rfl

/-- Joined texts without line breaks have none. -/
theorem breakless_intercalate {separator : String} (between : Breakless separator)
    {texts : List String} (each : ∀ text ∈ texts, Breakless text) :
    Breakless (separator.intercalate texts) :=
  ⟨not_mem_intercalate between.1 fun text listed => (each text listed).1,
    not_mem_intercalate between.2 fun text listed => (each text listed).2⟩

/-- The heading of a class whose name and interfaces have no line breaks. -/
theorem classHeading_stock {contract : Message} (name : Breakless contract.name)
    (interfaces : ∀ modifier ∈ contract.modifiers, Breakless modifier.interface) :
    classHeading (ofSettings .stock) contract =
      ["", "[ProtoContract]", headingRow contract.shown] := by
  have keyword : Breakless "public sealed class " := by decide
  have marker : Breakless "[ProtoContract]" := by decide
  have colon : Breakless " : " := by decide
  have header : physicalLines (Settings.stock.classHeader.render (.singleton contract.name)) =
      ["", "[ProtoContract]", "public sealed class " ++ contract.name] := by
    have split : "\n[ProtoContract]\npublic sealed class " ++ contract.name =
        "" ++ "\n" ++ ("[ProtoContract]" ++ "\n" ++ ("public sealed class " ++ contract.name)) := by
      apply String.toList_inj.mp
      simp only [String.toList_append]
      rfl
    rw [render_stock_classHeader, split, physicalLines_append_feed (by decide : Breakless ""),
      physicalLines_append_feed marker, physicalLines_of_breakless (keyword.append name)]
  rw [classHeading, ofSettings_settings, header, Message.shown]
  cases modifiers : contract.modifiers with
  | nil => rw [List.map_nil, headingRow_nil]
  | cons modifier rest =>
    have bases : Breakless (" : " ++ ", ".intercalate ((modifier :: rest).map (·.interface))) :=
      colon.append (breakless_intercalate (by decide)
        (List.forall_mem_map.mpr (modifiers ▸ interfaces)))
    dsimp only
    rw [physicalLines_of_breakless bases, List.map_cons, headingRow_cons]
    exact congrArg (fun row => ["", "[ProtoContract]", row]) String.append_assoc

/-- The row of a field declaration whose type and name have no line breaks. -/
theorem map_stockRow_field {field : String × String} (type : Breakless field.1)
    (name : Breakless field.2) (position : Nat) :
    (place 1 (physicalLines (Settings.stock.member.render
      #v[position.repr, field.1, field.2]))).map stockRow = [fieldRow (field, position)] := by
  have opening : Breakless "[ProtoMember(" := by decide
  have middle : Breakless ")] public readonly " := by decide
  have space : Breakless " " := by decide
  have semicolon : Breakless ";" := by decide
  have number : Breakless position.repr :=
    ⟨not_mem_repr (by decide) position, not_mem_repr (by decide) position⟩
  have whole := opening.append (number.append (middle.append
    (type.append (space.append (name.append semicolon)))))
  have filled : "[ProtoMember(" ++ (position.repr ++ (")] public readonly " ++
      (field.1 ++ (" " ++ (field.2 ++ ";"))))) ≠ "" := by
    intro empty
    exact absurd (String.append_eq_empty_iff.mp empty).1 (by decide)
  have indented (rest : String) :
      "    " ++ ("[ProtoMember(" ++ rest) = "    [ProtoMember(" ++ rest :=
    String.append_assoc.symm
  rw [render_stock_member, physicalLines_of_breakless whole, place, List.map_singleton,
    List.map_singleton, stockRow_one filled, fieldRow_eq, indented]

/-- The rows of fields whose types and names have no line breaks. -/
theorem map_stockRow_fields {members : List Member}
    (each : ∀ member ∈ members, Breakless member.type ∧ Breakless (Spelling.pascalCase member.name))
    (position : Nat) :
    (fieldLines (ofSettings .stock) 1 position members).map stockRow =
      ((members.map Member.shown).zipIdx position).map fieldRow := by
  rw [fieldLines_eq_shown, List.map_flatMap]
  refine (List.flatMap_congr fun entry inside => ?_).trans List.map_eq_flatMap.symm
  obtain ⟨member, listed, same⟩ := List.mem_map.mp (List.fst_mem_of_mem_zipIdx inside)
  have free : Breakless entry.1.1 ∧ Breakless entry.1.2 := same ▸ each member listed
  exact map_stockRow_field free.1 free.2 entry.2

/-- The rows of a class: its heading, its fields, and something that begins otherwise. -/
theorem exists_map_stockRow_classLines {contract : Message} (name : Breakless contract.name)
    (members : ∀ member ∈ contract.members,
      Breakless member.type ∧ Breakless (Spelling.pascalCase member.name))
    (interfaces : ∀ modifier ∈ contract.modifiers, Breakless modifier.interface) :
    ∃ next rest, (next = "" ∨ next = "\x7d") ∧
      (classLines (ofSettings .stock) 0 contract).map stockRow =
        "" :: "[ProtoContract]" :: headingRow contract.shown :: "\x7b" ::
          ((contract.shown.fields.zipIdx 1).map fieldRow ++ next :: rest) := by
  have heading := classHeading_stock name interfaces
  rw [classLines, List.map_append, heading, map_stockRow_place_zero, map_stockRow_braces_zero,
    classBody]
  cases listed : contract.members with
  | nil =>
    rw [Message.shown, listed]
    exact ⟨"\x7d", [], .inr rfl, rfl⟩
  | cons member others =>
    have fields := map_stockRow_fields (listed ▸ members) 1
    obtain ⟨later, begins⟩ := exists_render_stock_privateConstructor contract.name
    have feed := physicalLines_append_feed (by decide : Breakless "") later
    rw [← begins] at feed
    dsimp only
    rw [ofSettings_settings, feed, List.map_append, List.map_append, List.map_append, fields,
      Message.shown, listed]
    simp only [place, List.map_cons, stockRow_blank, List.append_assoc, List.cons_append,
      List.nil_append]
    exact ⟨"", _, .inl rfl, rfl⟩

end Classes

section Interfaces

/-- The row of an interface's declaration. -/
def declarationRow (emitted : EmittedInterface) : String :=
  emitted.rule.name.render (.singleton emitted.entity)

/-- The row of a message in an interface. -/
def messageRow (name : String) : String := "    void When(" ++ (name ++ " c);")

/-- A row of a message is put together from three pieces. -/
theorem messageRow_eq (name : String) :
    messageRow name = "    void When(" ++ (name ++ " c);") := rfl

/-- The rows of an interface whose declaration and messages have no line breaks. -/
theorem map_stockRow_emittedLines {emitted : EmittedInterface}
    (declaration : Breakless (declarationRow emitted))
    (messages : ∀ name ∈ emitted.messages, Breakless name) :
    (emittedLines .stock 0 emitted).map stockRow =
      "" :: declarationRow emitted :: "\x7b" :: (emitted.messages.map messageRow ++ ["\x7d"]) := by
  have opening : Breakless "void When(" := by decide
  have closing : Breakless " c);" := by decide
  have indented (rest : String) : "    " ++ ("void When(" ++ rest) = "    void When(" ++ rest :=
    String.append_assoc.symm
  have body : (emitted.messages.flatMap fun name => place (0 + 1) (physicalLines
      (Settings.stock.interfaceMember.render (.singleton name)))).map stockRow =
      emitted.messages.map messageRow := by
    rw [List.map_flatMap, List.map_eq_flatMap]
    refine List.flatMap_congr fun name listed => ?_
    have filled : "void When(" ++ (name ++ " c);") ≠ "" := by
      intro empty
      exact absurd (String.append_eq_empty_iff.mp empty).1 (by decide)
    rw [render_stock_interfaceMember, physicalLines_of_breakless
      (opening.append ((messages name listed).append closing)), place, List.map_singleton,
      List.map_singleton, Nat.zero_add, stockRow_one filled, messageRow_eq, indented]
  rw [declarationRow] at declaration
  rw [emittedLines, List.cons_append, List.map_cons, stockRow_blank, List.map_append,
    map_stockRow_braces_zero, body, physicalLines_of_breakless declaration,
    map_stockRow_place_zero]
  rfl

end Interfaces

/-- The rows of a source with the stock settings, wrapped in its region. -/
theorem map_stockRow_outline (model : Model) :
    ((ofSettings .stock).outline model 0).map stockRow =
      "#region Generated by Code DSL" ::
        (model.contracts.flatMap (fun contract =>
            (classLines (ofSettings .stock) 0 contract).map stockRow) ++
          ((Settings.stock.emittedInterfaces model).flatMap (fun emitted =>
            (emittedLines .stock 0 emitted).map stockRow) ++ ["#endregion"])) := by
  have opening : physicalLines ("#region " ++ Settings.stockRegion) =
      ["#region Generated by Code DSL"] := by decide
  have inside := congrArg (List.map stockRow) (flatMap_entityLines_eq_emitted .stock 0 model)
  change (place 0 (physicalLines ("#region " ++ Settings.stockRegion))
    ++ coreLines (ofSettings .stock) model 0 ++ [PlacedLine.mk 0 "#endregion"]).map stockRow = _
  rw [opening, coreLines, List.map_append, List.map_append, List.map_append,
    map_stockRow_place_zero, inside, List.map_flatMap, List.map_flatMap, List.map_singleton,
    stockRow_zero, List.append_assoc, List.append_assoc]
  rfl

end MessageContracts
