import Mathlib.Data.List.Forall2
import MessageContracts.Json.Read
import MessageContracts.Proofs.JsonNumbers
import MessageContracts.Proofs.JsonStrings

/-!
# The grammar of values

A value is a word, a number, a text, or a list or record of values, with blanks wherever they may
stand. Every value that is written by these rules is read to its end as a well-formed node, as long
as it is followed by something that cannot go on with it: reading a part takes no more than twice
as many steps as the part has characters.
-/

namespace MessageContracts.Json

open Text (Scalar)

/-- Characters that may stand between the parts of a document. -/
def Blanks (chars : List Char) : Prop := ∀ c ∈ chars, c = ' ' ∨ c = '\n' ∨ c = '\t' ∨ c = '\r'

/-- Blanks around a part. -/
def Padded (inside : List Char → Prop) (chars : List Char) : Prop :=
  ∃ before middle after, Blanks before ∧ inside middle ∧ Blanks after ∧
    chars = before ++ middle ++ after

/-- Parts between two brackets, with a comma between any two of them. -/
inductive Enclosed (opening closing : Char) : List (List Char) → List Char → Prop where
  /-- No parts, but there may be blanks. -/
  | blank {blanks : List Char} (blank : Blanks blanks) :
    Enclosed opening closing [] (opening :: blanks ++ [closing])
  /-- One part or more. -/
  | parts (first : List Char) (rest : List (List Char)) :
    Enclosed opening closing (first :: rest)
      (opening :: [','].intercalate (first :: rest) ++ [closing])

/-- A well-formed value, with blanks around it or without. -/
inductive WellFormed : List Char → Prop where
  /-- A word. -/
  | word {chars : List Char} (listed : chars ∈ ["null", "true", "false"].map String.toList) :
    WellFormed chars
  /-- A number. -/
  | number {chars : List Char} (number : IsNumber chars) : WellFormed chars
  /-- A quoted text, even if its pieces amount to no characters. -/
  | text {pieces : List Piece} {chars : List Char} (quoted : Quoted pieces chars) :
    WellFormed chars
  /-- A list of values. -/
  | list {items : List (List Char)} {chars : List Char} (each : ∀ item ∈ items, WellFormed item)
    (enclosed : Enclosed '[' ']' items chars) : WellFormed chars
  /-- A record of values under quoted texts. -/
  | record {members : List (List Char × List Char)} {chars : List Char}
    (keys : ∀ member ∈ members, Padded (fun key => ∃ pieces, Quoted pieces key) member.1)
    (each : ∀ member ∈ members, WellFormed member.2)
    (enclosed : Enclosed '\x7b' '\x7d' (members.map fun (key, value) => key ++ ':' :: value)
      chars) : WellFormed chars
  /-- A value with blanks around it. -/
  | padded {before chars after : List Char} (leading : Blanks before) (inside : WellFormed chars)
    (trailing : Blanks after) : WellFormed (before ++ chars ++ after)

section Blanks

variable {chars : List Char} {source : List Scalar}

/-- No characters are blanks. -/
theorem Blanks.nil : Blanks [] := List.forall_mem_nil _

/-- A part without blanks around it. -/
theorem Padded.of {inside : List Char → Prop} (bare : inside chars) : Padded inside chars :=
  ⟨[], chars, [], .nil, bare, .nil, (List.append_nil _).symm⟩

/-- Blanks are skipped. -/
theorem skipBlanks_append (blank : Blanks chars) :
    skipBlanks (chars.map some ++ source) = skipBlanks source := by
  refine List.dropWhile_append_of_pos fun c inside => ?_
  obtain ⟨d, listed, rfl⟩ := List.mem_map.mp inside
  rcases blank d listed with rfl | rfl | rfl | rfl <;> rfl

/-- What is no blank stays. -/
theorem skipBlanks_cons {c : Scalar} (filled : isBlank c = false) (source : List Scalar) :
    skipBlanks (c :: source) = c :: source := List.dropWhile_cons_of_neg (by rw [filled]; decide)

/-- Blanks are skipped at once. -/
theorem skipBlanks_skipBlanks (source : List Scalar) :
    skipBlanks (skipBlanks source) = skipBlanks source := by
  induction source with
  | nil => rfl
  | cons c rest ih =>
    by_cases blank : isBlank c = true
    · have skipped : skipBlanks (c :: rest) = skipBlanks rest := List.dropWhile_cons_of_pos blank
      rw [skipped, ih]
    · have kept := skipBlanks_cons (Bool.eq_false_iff.mpr blank) rest
      rw [kept, kept]

/-- A node is read after the blanks in front of it. -/
theorem readNode_skipBlanks (bound : Nat) (source : List Scalar) :
    readNode bound (skipBlanks source) = readNode bound source := by
  cases bound with
  | zero => rfl
  | succ bound => rw [readNode, readNode, skipBlanks_skipBlanks]

/-- Items are read after the blanks in front of them. -/
theorem readItems_skipBlanks (bound : Nat) (source : List Scalar) :
    readItems bound (skipBlanks source) = readItems bound source := by
  cases bound with
  | zero => rfl
  | succ bound => rw [readItems, readItems, readNode_skipBlanks]

/-- Members are read after the blanks in front of them. -/
theorem readMembers_skipBlanks (bound : Nat) (source : List Scalar) :
    readMembers bound (skipBlanks source) = readMembers bound source := by
  cases bound with
  | zero => rfl
  | succ bound => rw [readMembers, readMembers, skipBlanks_skipBlanks]

end Blanks

/-- Characters that are read as a node, up to blanks behind them, whatever follows. -/
def ReadsAs (chars : List Char) (node : Node) : Prop :=
  ∀ bound rest, 2 * chars.length ≤ bound → Delimited rest →
    ∃ later, readNode bound (chars.map some ++ rest) = (node, some later) ∧
      skipBlanks later = skipBlanks rest

/-- Characters that are read as the key of a member, which is absent if it has no value. -/
def KeyReadsAs (chars : List Char) (key : Option String) : Prop :=
  ∀ rest, ∃ inside later, skipBlanks (chars.map some ++ rest) = some '"' :: inside ∧
    readText inside = some (key, later) ∧ skipBlanks later = skipBlanks rest

/-- Characters that are read as a member of a record. -/
def MemberReadsAs (chars : List Char) (member : Option String × Node) : Prop :=
  ∃ key value, chars = key ++ ':' :: value ∧ KeyReadsAs key member.1 ∧ ReadsAs value member.2

section Scalars

variable {chars : List Char}

/-- A value that is neither a list nor a record is read as what its first character announces. -/
theorem ReadsAs.scalar {c : Char} {more : List Char} {node : Node}
    (filled : isBlank (some c) = false) (no_list : c ≠ '[') (no_record : c ≠ '\x7b')
    (reads : ∀ rest, Delimited rest →
      readScalar ((c :: more).map some ++ rest) = some (node, rest)) :
    ReadsAs (c :: more) node := by
  intro bound rest enough ends
  rw [List.length_cons] at enough
  obtain ⟨bound, rfl⟩ := Nat.exists_eq_add_one.mpr (show 0 < bound by omega)
  have bare : skipBlanks ((c :: more).map some ++ rest) = (c :: more).map some ++ rest :=
    skipBlanks_cons filled _
  refine ⟨rest, ?_, rfl⟩
  rw [readNode, bare]
  split
  case h_1 same => exact absurd (Option.some.inj (List.cons.inj same).1) no_list
  case h_2 same => exact absurd (Option.some.inj (List.cons.inj same).1) no_record
  case h_3 => rw [reads rest ends]

/-- A word is read as what it stands for. -/
theorem exists_readsAs_word (listed : chars ∈ ["null", "true", "false"].map String.toList) :
    ∃ node, ReadsAs chars node ∧ node.isWellFormed = true := by
  simp only [List.map_cons, List.map_nil, List.mem_cons, List.not_mem_nil, or_false] at listed
  rcases listed with rfl | rfl | rfl
  · exact ⟨.null, .scalar (by decide) (by decide) (by decide) fun _ _ => rfl, rfl⟩
  · exact ⟨.boolean true, .scalar (by decide) (by decide) (by decide) fun _ _ => rfl, rfl⟩
  · exact ⟨.boolean false, .scalar (by decide) (by decide) (by decide) fun _ _ => rfl, rfl⟩

/-- A number is read as a number, or as a number out of range. -/
theorem exists_readsAs_number (number : IsNumber chars) :
    ∃ node, ReadsAs chars node ∧ node.isWellFormed = true := by
  obtain ⟨literal, reads⟩ := readLiteral_append number
  obtain ⟨c, more, rfl, first⟩ := number.head
  -- The first character announces neither a text nor a word, a list or a record.
  have other {mark : Char} (no_minus : mark ≠ '-') (no_digit : mark.isDigit = false) :
      c ≠ mark := by
    rintro rfl
    rcases first with minus | digit
    · exact no_minus minus
    · rw [no_digit] at digit
      cases digit
  have no_word (mark : Char) (unlike : mark ≠ '-' ∧ mark.isDigit = false)
      (rest source : List Scalar) (same : (c :: more).map some ++ rest = some mark :: source) :
      False := other unlike.1 unlike.2 (Option.some.inj (List.cons.inj same).1)
  have filled : isBlank (some c) = false := by
    simp only [isBlank, Bool.or_eq_false_iff, beq_eq_false_iff_ne]
    exact ⟨⟨⟨other (by decide) (by decide), other (by decide) (by decide)⟩,
      other (by decide) (by decide)⟩, other (by decide) (by decide)⟩
  refine ⟨literal.node, .scalar filled (other (by decide) (by decide))
    (other (by decide) (by decide)) fun rest ends => ?_, literal.isWellFormed_node⟩
  rw [readScalar.eq_5 _ (no_word '"' (by decide) rest) (no_word 'n' (by decide) rest)
    (no_word 't' (by decide) rest) (no_word 'f' (by decide) rest), reads rest ends]
  rfl

/-- A quoted text is read up to its closing quote. -/
theorem readText_of_quoted {pieces : List Piece} (quoted : Quoted pieces chars) :
    ∃ inside, chars = '"' :: inside ∧ ∀ rest, readText (inside.map some ++ rest) =
      some (String.ofList <$> joinPieces pieces, rest) := by
  obtain ⟨inside, written, rfl⟩ := quoted
  refine ⟨inside ++ ['"'], rfl, fun rest => ?_⟩
  have source : (inside ++ ['"']).map some ++ rest = inside.map some ++ some '"' :: rest := by
    simp
  rw [source, readText_of_piecesText written]

/-- A quoted text is read as what its pieces are joined to, if they are. -/
theorem ReadsAs.quoted {pieces : List Piece} (quoted : Quoted pieces chars) :
    ReadsAs chars (((String.ofList <$> joinPieces pieces).map Node.text).getD .unreadable) := by
  obtain ⟨inside, rfl, reads⟩ := readText_of_quoted quoted
  refine .scalar (by decide) (by decide) (by decide) fun rest _ => ?_
  rw [List.map_cons, List.cons_append, readScalar, reads rest]
  rfl

/-- One of the ways to write a text is read as the text. -/
theorem ReadsAs.spelling {text : String} (spelling : Spelling text chars) :
    ReadsAs chars (.text text) := by
  obtain ⟨pieces, quoted, amounts⟩ := spelling
  have reads := ReadsAs.quoted quoted
  rw [joinPieces_of_amounts amounts] at reads
  simpa using reads

/-- A quoted text is read as a key, with blanks around it or without. -/
theorem KeyReadsAs.quoted {pieces : List Piece} (key : Padded (Quoted pieces) chars) :
    KeyReadsAs chars (String.ofList <$> joinPieces pieces) := by
  obtain ⟨before, middle, after, leading, quoted, trailing, rfl⟩ := key
  obtain ⟨inside, rfl, reads⟩ := readText_of_quoted quoted
  intro rest
  have source : (before ++ '"' :: inside ++ after).map some ++ rest =
      before.map some ++ some '"' :: (inside.map some ++ (after.map some ++ rest)) := by
    simp
  refine ⟨inside.map some ++ (after.map some ++ rest), after.map some ++ rest, ?_, reads _,
    skipBlanks_append trailing⟩
  rw [source, skipBlanks_append leading, skipBlanks_cons rfl]

/-- One of the ways to write a text is read as the key. -/
theorem KeyReadsAs.spelling {key : String} (spelling : Padded (Spelling key) chars) :
    KeyReadsAs chars (some key) := by
  obtain ⟨before, middle, after, leading, ⟨pieces, quoted, amounts⟩, trailing, same⟩ := spelling
  have reads := KeyReadsAs.quoted ⟨before, middle, after, leading, quoted, trailing, same⟩
  rw [joinPieces_of_amounts amounts] at reads
  simpa using reads

/-- Blanks around a value change nothing. -/
theorem ReadsAs.padded {before after : List Char} {node : Node} (leading : Blanks before)
    (reads : ReadsAs chars node) (trailing : Blanks after) :
    ReadsAs (before ++ chars ++ after) node := by
  intro bound rest enough ends
  have delimited : Delimited (after.map some ++ rest) := by
    cases after with
    | nil => exact ends
    | cons c after =>
      rcases trailing c List.mem_cons_self with rfl | rfl | rfl | rfl <;>
        exact beginsIn_cons (by decide) _
  have source : (before ++ chars ++ after).map some ++ rest =
      before.map some ++ (chars.map some ++ (after.map some ++ rest)) := by
    simp
  have fewer : 2 * chars.length ≤ bound := by
    rw [List.length_append, List.length_append] at enough
    omega
  obtain ⟨later, read, behind⟩ := reads bound _ fewer delimited
  refine ⟨later, ?_, behind.trans (skipBlanks_append trailing)⟩
  rw [source, ← readNode_skipBlanks, skipBlanks_append leading, readNode_skipBlanks, read]

end Scalars

section Collections

variable {items : List (List Char)} {nodes : List Node} {members : List (Option String × Node)}
  {chars : List Char}

/-- Brackets are characters, too. -/
theorem Enclosed.length_pos {opening closing : Char}
    (enclosed : Enclosed opening closing items chars) : 0 < chars.length := by
  cases enclosed <;> exact Nat.zero_lt_succ _

/-- No value begins with a closing bracket. -/
theorem readNode_closing (bound : Nat) (rest : List Scalar) :
    readNode bound (some ']' :: rest) = (.broken, none) := by
  cases bound with
  | zero => rfl
  | succ bound =>
    have bare : skipBlanks (some ']' :: rest) = some ']' :: rest := skipBlanks_cons rfl rest
    rw [readNode, bare]
    rfl

/-- A list is opened by a bracket. -/
theorem readNode_list (bound : Nat) (inside : List Scalar) :
    readNode (bound + 1) (some '[' :: inside) = match skipBlanks inside with
      | some ']' :: rest => (.list [] true, some rest)
      | source =>
        let (items, complete, rest) := readItems bound source
        (.list items complete, rest) := by
  rw [readNode, skipBlanks_cons rfl]
  rfl

/-- A record is opened by a brace. -/
theorem readNode_record (bound : Nat) (inside : List Scalar) :
    readNode (bound + 1) (some '\x7b' :: inside) = match skipBlanks inside with
      | some '\x7d' :: rest => (.record [] true, some rest)
      | source =>
        let (members, complete, rest) := readMembers bound source
        (.record members complete, rest) := by
  rw [readNode, skipBlanks_cons rfl]
  rfl

/-- An item is read, and what comes next tells whether it was the last one. -/
theorem ReadsAs.readItems_append {item : List Char} {node : Node} (reads : ReadsAs item node)
    {bound : Nat} (enough : 2 * item.length ≤ bound) {behind : List Scalar}
    (ends : Delimited behind) :
    readItems (bound + 1) (item.map some ++ behind) = match skipBlanks behind with
      | some ',' :: rest =>
        let (items, complete, rest) := readItems bound rest
        (node :: items, complete, rest)
      | some ']' :: rest => ([node], true, some rest)
      | _ => ([node], false, none) := by
  obtain ⟨later, read, skipped⟩ := reads bound behind enough ends
  rw [readItems, read]
  exact skipped ▸ rfl

/-- Items with commas between them are read up to the closing bracket. -/
theorem readItems_intercalate (parts : List.Forall₂ ReadsAs items nodes) (filled : items ≠ [])
    {bound : Nat} (enough : 2 * ([','].intercalate items).length < bound) (rest : List Scalar) :
    readItems bound (([','].intercalate items).map some ++ some ']' :: rest) =
      (nodes, true, some rest) := by
  induction parts generalizing bound with
  | nil => exact absurd rfl filled
  | @cons item node others otherNodes first later ih =>
    obtain ⟨bound, rfl⟩ := Nat.exists_eq_add_one.mpr (Nat.zero_lt_of_lt enough)
    cases later with
    | nil =>
      rw [List.intercalate_singleton] at enough ⊢
      rw [first.readItems_append (by omega) (beginsIn_cons (by decide) rest), skipBlanks_cons rfl]
      rfl
    | @cons next nextNode more moreNodes second later =>
      rw [List.intercalate_cons_cons] at enough ⊢
      simp only [List.length_append, List.length_singleton] at enough
      let remaining := ([','].intercalate (next :: more)).map some ++ some ']' :: rest
      have source : (item ++ [','] ++ [','].intercalate (next :: more)).map some ++
          some ']' :: rest = item.map some ++ some ',' :: remaining := by
        simp [remaining]
      have others : readItems bound remaining = (nextNode :: moreNodes, true, some rest) :=
        ih (List.cons_ne_nil _ _) (by omega)
      rw [source, first.readItems_append (by omega) (beginsIn_cons (by decide) remaining),
        skipBlanks_cons rfl]
      simp only [others]

/-- Items between brackets are read as a list. -/
theorem ReadsAs.list (parts : List.Forall₂ ReadsAs items nodes)
    (enclosed : Enclosed '[' ']' items chars) : ReadsAs chars (.list nodes true) := by
  intro bound rest enough ends
  refine ⟨rest, ?_, rfl⟩
  have some_chars := enclosed.length_pos
  obtain ⟨bound, rfl⟩ := Nat.exists_eq_add_one.mpr (show 0 < bound by omega)
  cases enclosed with
  | @blank blanks blank =>
    cases parts
    have source : ('[' :: blanks ++ [']']).map some ++ rest =
        some '[' :: (blanks.map some ++ some ']' :: rest) := by
      simp
    rw [source, readNode_list, skipBlanks_append blank, skipBlanks_cons rfl]
    rfl
  | parts first others =>
    let inside := ([','].intercalate (first :: others)).map some ++ some ']' :: rest
    have source : ('[' :: [','].intercalate (first :: others) ++ [']']).map some ++ rest =
        some '[' :: inside := by
      simp [inside]
    have fewer : 2 * ([','].intercalate (first :: others)).length < bound := by
      simp only [List.length_cons, List.length_append, List.length_nil] at enough
      omega
    have read : readItems bound (skipBlanks inside) = (nodes, true, some rest) := by
      rw [readItems_skipBlanks]
      exact readItems_intercalate parts (List.cons_ne_nil _ _) fewer rest
    -- Items that are read cannot begin with the closing bracket.
    have no_end : ∀ more, skipBlanks inside ≠ some ']' :: more := by
      intro more closed
      obtain ⟨bound, rfl⟩ := Nat.exists_eq_add_one.mpr (Nat.zero_lt_of_lt fewer)
      rw [closed, readItems, readNode_closing] at read
      simp at read
    rw [source, readNode_list]
    split
    case h_1 more closed => exact absurd closed (no_end more)
    case h_2 => rw [read]

/-- A member is read, and what comes next tells whether it was the last one. -/
theorem MemberReadsAs.readMembers_append {item : List Char} {member : Option String × Node}
    (reads : MemberReadsAs item member) {bound : Nat} (enough : 2 * item.length ≤ bound)
    {behind : List Scalar} (ends : Delimited behind) :
    readMembers (bound + 1) (item.map some ++ behind) = match skipBlanks behind with
      | some ',' :: rest =>
        let (members, complete, rest) := readMembers bound rest
        (member :: members, complete, rest)
      | some '\x7d' :: rest => ([member], true, some rest)
      | _ => ([member], false, none) := by
  obtain ⟨key, value, rfl, readsKey, readsValue⟩ := reads
  obtain ⟨name, node⟩ := member
  rw [List.length_append, List.length_cons] at enough
  have source : (key ++ ':' :: value).map some ++ behind =
      key.map some ++ some ':' :: (value.map some ++ behind) := by
    simp
  obtain ⟨inside, laterKey, opened, readKey, skippedKey⟩ :=
    readsKey (some ':' :: (value.map some ++ behind))
  obtain ⟨later, read, skipped⟩ := readsValue bound behind (by omega) ends
  rw [skipBlanks_cons rfl] at skippedKey
  rw [source, readMembers, opened]
  simp only [readKey, skippedKey, read]
  exact skipped ▸ rfl

/-- Members with commas between them are read up to the closing brace. -/
theorem readMembers_intercalate (parts : List.Forall₂ MemberReadsAs items members)
    (filled : items ≠ []) {bound : Nat}
    (enough : 2 * ([','].intercalate items).length < bound) (rest : List Scalar) :
    readMembers bound (([','].intercalate items).map some ++ some '\x7d' :: rest) =
      (members, true, some rest) := by
  induction parts generalizing bound with
  | nil => exact absurd rfl filled
  | @cons item member others otherMembers first later ih =>
    obtain ⟨bound, rfl⟩ := Nat.exists_eq_add_one.mpr (Nat.zero_lt_of_lt enough)
    cases later with
    | nil =>
      rw [List.intercalate_singleton] at enough ⊢
      rw [first.readMembers_append (by omega) (beginsIn_cons (by decide) rest),
        skipBlanks_cons rfl]
      rfl
    | @cons next nextMember more moreMembers second later =>
      rw [List.intercalate_cons_cons] at enough ⊢
      simp only [List.length_append, List.length_singleton] at enough
      let remaining := ([','].intercalate (next :: more)).map some ++ some '\x7d' :: rest
      have source : (item ++ [','] ++ [','].intercalate (next :: more)).map some ++
          some '\x7d' :: rest = item.map some ++ some ',' :: remaining := by
        simp [remaining]
      have others : readMembers bound remaining =
          (nextMember :: moreMembers, true, some rest) :=
        ih (List.cons_ne_nil _ _) (by omega)
      rw [source, first.readMembers_append (by omega) (beginsIn_cons (by decide) remaining),
        skipBlanks_cons rfl]
      simp only [others]

/-- Members between braces are read as a record. -/
theorem ReadsAs.record (parts : List.Forall₂ MemberReadsAs items members)
    (enclosed : Enclosed '\x7b' '\x7d' items chars) : ReadsAs chars (.record members true) := by
  intro bound rest enough ends
  refine ⟨rest, ?_, rfl⟩
  have some_chars := enclosed.length_pos
  obtain ⟨bound, rfl⟩ := Nat.exists_eq_add_one.mpr (show 0 < bound by omega)
  cases enclosed with
  | @blank blanks blank =>
    cases parts
    have source : ('\x7b' :: blanks ++ ['\x7d']).map some ++ rest =
        some '\x7b' :: (blanks.map some ++ some '\x7d' :: rest) := by
      simp
    rw [source, readNode_record, skipBlanks_append blank, skipBlanks_cons rfl]
    rfl
  | parts first others =>
    let inside := ([','].intercalate (first :: others)).map some ++ some '\x7d' :: rest
    have source : ('\x7b' :: [','].intercalate (first :: others) ++ ['\x7d']).map some ++ rest =
        some '\x7b' :: inside := by
      simp [inside]
    have fewer : 2 * ([','].intercalate (first :: others)).length < bound := by
      simp only [List.length_cons, List.length_append, List.length_nil] at enough
      omega
    have read : readMembers bound (skipBlanks inside) = (members, true, some rest) := by
      rw [readMembers_skipBlanks]
      exact readMembers_intercalate parts (List.cons_ne_nil _ _) fewer rest
    -- Members that are read cannot begin with the closing brace.
    have no_end : ∀ more, skipBlanks inside ≠ some '\x7d' :: more := by
      intro more closed
      obtain ⟨bound, rfl⟩ := Nat.exists_eq_add_one.mpr (Nat.zero_lt_of_lt fewer)
      rw [closed, readMembers, skipBlanks_cons rfl] at read
      simp at read
    rw [source, readNode_record]
    split
    case h_1 more closed => exact absurd closed (no_end more)
    case h_2 => rw [read]

end Collections

/-- Where each of several parts can be read, the row of them can. -/
theorem exists_forall₂ {α β : Type} {relation : α → β → Prop} {parts : List α}
    (each : ∀ part ∈ parts, ∃ result, relation part result) :
    ∃ results, List.Forall₂ relation parts results := by
  induction parts with
  | nil => exact ⟨[], .nil⟩
  | cons part rest ih =>
    obtain ⟨here, later⟩ := List.forall_mem_cons.mp each
    obtain ⟨result, related⟩ := here
    obtain ⟨results, others⟩ := ih later
    exact ⟨result :: results, .cons related others⟩

/-- Items that are well-formed one by one are well formed. -/
theorem allWellFormed_of_forall₂ {α : Type} {items : List α} {nodes : List Node}
    (parts : List.Forall₂ (fun _ node => node.isWellFormed = true) items nodes) :
    Node.allWellFormed nodes = true := by
  induction parts with
  | nil => rfl
  | cons first later ih => rw [Node.allWellFormed, first, ih]; rfl

/-- Members that are well-formed one by one are well formed. -/
theorem membersWellFormed_of_forall₂ {α : Type} {items : List α}
    {members : List (Option String × Node)}
    (parts : List.Forall₂ (fun _ member => member.2.isWellFormed = true) items members) :
    Node.membersWellFormed members = true := by
  induction parts with
  | nil => rfl
  | cons first later ih => rw [Node.membersWellFormed, first, ih]; rfl

/-- A well-formed value is read to its end, as a well-formed node. -/
theorem WellFormed.exists_readsAs {chars : List Char} (wellFormed : WellFormed chars) :
    ∃ node, ReadsAs chars node ∧ node.isWellFormed = true := by
  induction wellFormed with
  | word listed => exact exists_readsAs_word listed
  | number number => exact exists_readsAs_number number
  | @text pieces chars quoted =>
    refine ⟨_, .quoted quoted, ?_⟩
    cases joinPieces pieces <;> rfl
  | list each enclosed ih =>
    obtain ⟨nodes, parts⟩ := exists_forall₂ ih
    refine ⟨.list nodes true, .list (parts.imp fun _ _ part => part.1) enclosed, ?_⟩
    exact allWellFormed_of_forall₂ (parts.imp fun _ _ part => part.2)
  | @record members chars keys each enclosed ih =>
    have readable : ∀ member ∈ members, ∃ result : Option String × Node,
        MemberReadsAs (member.1 ++ ':' :: member.2) result ∧ result.2.isWellFormed = true := by
      intro member listed
      obtain ⟨before, middle, after, leading, ⟨pieces, quoted⟩, trailing, same⟩ :=
        keys member listed
      have readsKey := KeyReadsAs.quoted ⟨before, middle, after, leading, quoted, trailing, same⟩
      obtain ⟨node, reads, wellFormed⟩ := ih member listed
      exact ⟨(_, node), ⟨member.1, member.2, rfl, readsKey, reads⟩, wellFormed⟩
    obtain ⟨results, parts⟩ := exists_forall₂ readable
    have reads := List.forall₂_map_left_iff.mpr (parts.imp fun _ _ part => part.1)
    refine ⟨.record results true, .record reads enclosed, ?_⟩
    exact membersWellFormed_of_forall₂ (parts.imp fun _ _ part => part.2)
  | padded leading inside trailing ih =>
    obtain ⟨node, reads, wellFormed⟩ := ih
    exact ⟨node, reads.padded leading trailing, wellFormed⟩

end MessageContracts.Json
