import Mathlib.Data.List.Basic
import MessageContracts.Proofs.WrittenTexts
import MessageContracts.Toml.Read
import MessageContracts.Toml.Written

/-!
# Documents that are written are read back

A written document is a row of entries, each on a line of its own but for arrays, which have a line
for each of their items. The reader finds the statements of the entries again, in their order. The
bound of a reading is never met: what is read for it is at least as long.
-/

namespace MessageContracts.Toml

/-- Whether a name can be written as a key without quotes. -/
def IsBareKey (key : String) : Prop := key ≠ "" ∧ ∀ c ∈ key.toList, isKeyChar c = true

/-- Whether a row of names can be written as a path. -/
def IsBarePath (path : List String) : Prop :=
  path ≠ [] ∧ path.length ≤ depthLimit ∧ ∀ key ∈ path, IsBareKey key

/-- Whether the names in an entry can be written without quotes. -/
def Entry.IsBare : Entry → Prop
  | assign key _ => IsBareKey key
  | table path | element path => IsBarePath path

instance : DecidablePred IsBareKey := fun key =>
  decidable_of_iff ((key != "" && key.toList.all isKeyChar) = true) (by simp [IsBareKey])

instance : DecidablePred IsBarePath := fun path =>
  decidable_of_iff
    ((!path.isEmpty && path.length ≤ depthLimit && path.all fun key => IsBareKey key) = true)
    (by simp [IsBarePath, and_assoc])

section Filler

variable {c : Char}

/-- The characters that begin a comment, a blank or a line break. -/
def fillerStarts : List Char := ['\n', '\r', '#', ' ', '\t']

/-- Nothing is skipped in front of what is neither blank nor a comment. -/
theorem skipFiller_cons (solid : c ∉ fillerStarts) (rest : List Char) :
    skipFiller false (c :: rest) = some (c :: rest) := by
  simp only [fillerStarts, List.mem_cons, List.not_mem_nil, or_false, not_or] at solid
  obtain ⟨no_feed, no_return, no_mark, no_space, no_tab⟩ := solid
  rw [skipFiller]
  · simp [no_mark, isBlank, no_space, no_tab]
  · exact fun feed => no_feed feed
  · exact fun _ here => absurd here no_return

/-- No blanks are skipped either. -/
theorem skipBlanks_cons (solid : c ∉ fillerStarts) (rest : List Char) :
    skipBlanks (c :: rest) = c :: rest := by
  simp only [fillerStarts, List.mem_cons, List.not_mem_nil, or_false, not_or] at solid
  rw [skipBlanks, List.dropWhile_cons_of_neg]
  simp [isBlank, solid]

/-- A text begins with a mark. -/
theorem exists_writeText_cons (text : List Char) :
    ∃ mark tail, writeText text = mark :: tail ∧ (mark = '"' ∨ mark = '\'') := by
  rw [writeText]
  split
  case h_1 | h_3 => exact ⟨_, _, rfl, .inl rfl⟩
  case h_2 | h_4 => exact ⟨_, _, rfl, .inr rfl⟩

/-- A mark is no filler. -/
theorem not_mem_fillerStarts_of_mark {mark : Char} (marks : mark = '"' ∨ mark = '\'') :
    mark ∉ fillerStarts := by
  rcases marks with rfl | rfl <;> decide

end Filler

section Values

/-- What is read as a text is read as a value that is this text. -/
theorem readValue_of_readText (bound depth : Nat) {chars text rest : List Char}
    (read : readText chars = some (text, rest)) :
    readValue (bound + 1) depth chars = some (.text (String.ofList text), rest) := by
  have no_bracket : ∀ more, chars ≠ '[' :: more := by
    rintro more rfl
    cases read
  have no_brace : ∀ more, chars ≠ '\x7b' :: more := by
    rintro more rfl
    cases read
  rw [readValue.eq_6 depth chars bound no_bracket no_brace, read]

/-- A text is read as a value. -/
theorem readValue_writeText (bound depth : Nat) (text : String) {rest : List Char}
    (quote : rest.head? ≠ some '"') (apostrophe : rest.head? ≠ some '\'') :
    readValue (bound + 1) depth (writeText text.toList ++ rest) = some (.text text, rest) := by
  have read := readText_writeText text.toList quote apostrophe
  rw [readValue_of_readText bound depth read, String.ofList_toList]

/-- A line break in front of the items of an array is skipped. -/
theorem readItems_feed (bound depth : Nat) (source : List Char) :
    readItems bound depth ('\n' :: source) = readItems bound depth source := by
  cases bound with
  | zero => rw [readItems, readItems]
  | succ bound => rw [readItems, readItems, skipFiller]

/-- Blanks in front of the items of an array are skipped. -/
theorem readItems_space (bound depth : Nat) (source : List Char) :
    readItems bound depth (' ' :: source) = readItems bound depth source := by
  have skipped : skipFiller false (' ' :: source) = skipFiller false source := by
    rw [skipFiller] <;> simp [isBlank]
  cases bound with
  | zero => rw [readItems, readItems]
  | succ bound => rw [readItems, readItems, skipped]

/-- The end of an array. -/
theorem readItems_end (bound depth : Nat) (rest : List Char) :
    readItems (bound + 1) depth (']' :: rest) = some ([], rest) := by
  rw [readItems, skipFiller_cons (by decide)]
  rfl

/-- A text among the items of an array is the first of them. The next character says whether it is
the last one, too. -/
theorem readItems_writeText (bound depth : Nat) (text : String) {next : Char} (rest : List Char)
    (separates : next = ',' ∨ next = ']') :
    readItems (bound + 2) depth (writeText text.toList ++ next :: rest) =
      if next = ']' then some ([.text text], rest)
      else (readItems (bound + 1) depth rest).map fun row => (.text text :: row.1, row.2) := by
  have solid : next ∉ fillerStarts := by rcases separates with rfl | rfl <;> decide
  have read : readValue (bound + 1) depth (writeText text.toList ++ next :: rest) =
      some (.text text, next :: rest) := by
    refine readValue_writeText bound depth text ?_ ?_ <;>
    rcases separates with rfl | rfl <;> simp
  obtain ⟨mark, tail, chars, marks⟩ := exists_writeText_cons text.toList
  rw [chars, List.cons_append] at read ⊢
  rw [readItems, skipFiller_cons (not_mem_fillerStarts_of_mark marks)]
  simp only [Option.bind_eq_bind, Option.bind_some]
  split
  case h_1 first => rcases marks with rfl | rfl <;> simp at first
  case h_2 =>
    rw [read]
    simp only [Option.bind_some, skipFiller_cons solid]
    rcases separates with rfl | rfl
    · rw [if_neg (by decide), Option.map_eq_bind]
      rfl
    · rfl

/-- The lines of an array's items are read up to its end. -/
theorem readItems_lines {bound : Nat} (depth : Nat) {items : List String}
    (enough : items.length < bound) (rest : List Char) :
    readItems bound depth (items.flatMap Assigned.writeItem ++ ']' :: rest) =
      some (items.map .text, rest) := by
  induction items generalizing bound with
  | nil =>
    obtain ⟨bound, rfl⟩ := Nat.exists_eq_succ_of_ne_zero (Nat.ne_of_gt enough)
    exact readItems_end bound depth rest
  | cons item items ih =>
    rw [List.length_cons] at enough
    obtain ⟨bound, rfl⟩ : ∃ more, bound = more + 2 := ⟨bound - 2, by omega⟩
    have later := ih (Nat.lt_of_succ_lt_succ enough)
    rw [List.flatMap_cons, Assigned.writeItem]
    simp only [List.append_assoc, List.cons_append, List.nil_append, readItems_space]
    rw [readItems_writeText bound depth item _ (.inl rfl), if_neg (by decide), readItems_feed,
      later]
    rfl

/-- Every line of an item has a character. -/
theorem length_le_flatMap_writeItem (items : List String) :
    items.length ≤ (items.flatMap Assigned.writeItem).length := by
  induction items with
  | nil => exact Nat.le_refl _
  | cons item items ih =>
    rw [List.flatMap_cons, List.length_append, Assigned.writeItem]
    simp only [List.length_cons, List.length_append, List.length_nil]
    omega

/-- An array is read as its items. -/
theorem readValue_bracket {bound depth : Nat} {source rest : List Char} {items : List Value}
    (read : readItems bound depth source = some (items, rest)) :
    readValue (bound + 1) (depth + 1) ('[' :: source) = some (.array items, rest) := by
  rw [readValue.eq_3, read]
  rfl

/-- What an entry assigns is read back. -/
theorem readValue_chars {bound : Nat} (depth : Nat) (value : Assigned)
    (enough : value.chars.length < bound) (rest : List Char) :
    readValue bound (depth + 1) (value.chars ++ '\n' :: rest) =
      some (value.value, '\n' :: rest) := by
  match value with
  | .text value =>
    obtain ⟨bound, rfl⟩ : ∃ more, bound = more + 1 := ⟨bound - 1, by omega⟩
    exact readValue_writeText bound (depth + 1) value (by simp) (by simp)
  | .texts [] =>
    simp only [Assigned.chars, List.length_cons] at enough
    obtain ⟨bound, rfl⟩ : ∃ more, bound = more + 2 := ⟨bound - 2, by omega⟩
    exact readValue_bracket (readItems_end bound depth ('\n' :: rest))
  | .texts [item] =>
    simp only [Assigned.chars, List.length_cons, List.length_append] at enough
    obtain ⟨bound, rfl⟩ : ∃ more, bound = more + 3 := ⟨bound - 3, by omega⟩
    have read := readItems_writeText bound depth item ('\n' :: rest) (.inr rfl)
    rw [if_pos rfl] at read
    rw [Assigned.chars, List.cons_append, List.cons_append, List.append_assoc]
    exact readValue_bracket read
  | .texts (first :: second :: items) =>
    have chars : (Assigned.texts (first :: second :: items)).chars =
        '[' :: '\n' :: ((first :: second :: items).flatMap Assigned.writeItem ++ [']']) := rfl
    have lines := length_le_flatMap_writeItem (first :: second :: items)
    rw [chars] at enough ⊢
    simp only [List.length_cons, List.length_append] at enough lines
    obtain ⟨bound, rfl⟩ : ∃ more, bound = more + 1 := ⟨bound - 1, by omega⟩
    have room : (first :: second :: items).length < bound := by
      simp only [List.length_cons]
      omega
    have read := readItems_lines depth room ('\n' :: rest)
    rw [← readItems_feed] at read
    simp only [List.cons_append, List.append_assoc, List.nil_append]
    exact readValue_bracket read

end Values

section Paths

variable {key : String} {path : List String}

/-- The characters of a key are no filler and no marks. -/
theorem of_isKeyChar {c : Char} (allowed : isKeyChar c = true) :
    c ∉ fillerStarts ∧ c ≠ '"' ∧ c ≠ '\'' ∧ c ≠ '[' ∧ c ≠ '\uFEFF' := by
  refine ⟨fun listed => ?_, ?_⟩
  · simp only [fillerStarts, List.mem_cons, List.not_mem_nil, or_false] at listed
    rcases listed with rfl | rfl | rfl | rfl | rfl <;> simp [isKeyChar] at allowed
  · refine ⟨?_, ?_, ?_, ?_⟩ <;> rintro rfl <;> simp [isKeyChar] at allowed

/-- A key begins with one of its characters. -/
theorem IsBareKey.exists_cons (bare : IsBareKey key) :
    ∃ first tail, key.toList = first :: tail ∧ isKeyChar first = true := by
  obtain ⟨filled, each⟩ := bare
  cases chars : key.toList with
  | nil => exact absurd (String.toList_eq_nil_iff.mp chars) filled
  | cons first tail => exact ⟨first, tail, rfl, each first (chars ▸ List.mem_cons_self)⟩

/-- A key is read up to a character that belongs to no key. -/
theorem readKey_append (bare : IsBareKey key) {next : Char} (ends : isKeyChar next = false)
    (rest : List Char) : readKey (key.toList ++ next :: rest) = some (key, next :: rest) := by
  obtain ⟨first, tail, chars, allowed⟩ := bare.exists_cons
  obtain ⟨-, no_quote, no_mark, -⟩ := of_isKeyChar allowed
  have no_text : readShort (key.toList ++ next :: rest) = none := by
    rw [chars]
    exact readShort.eq_3 _ (fun _ h => no_quote (List.cons.inj h).1)
      (fun _ h => no_mark (List.cons.inj h).1)
  have word : (key.toList ++ next :: rest).takeWhile isKeyChar = key.toList := by
    rw [List.takeWhile_append_of_pos bare.2, List.takeWhile_cons_of_neg (by simp [ends]),
      List.append_nil]
  have later : (key.toList ++ next :: rest).dropWhile isKeyChar = next :: rest := by
    rw [List.dropWhile_append_of_pos bare.2, List.dropWhile_cons_of_neg (by simp [ends])]
  rw [readKey, no_text]
  simp only [word, later, String.ofList_toList]
  rw [if_neg (by simp [bare.1])]

/-- No blanks stand in front of a key. -/
theorem skipBlanks_key (bare : IsBareKey key) (rest : List Char) :
    skipBlanks (key.toList ++ rest) = key.toList ++ rest := by
  obtain ⟨first, tail, chars, allowed⟩ := bare.exists_cons
  rw [chars]
  exact skipBlanks_cons (of_isKeyChar allowed).1 _

/-- A path is read up to a character that belongs to no key, unless a dot follows. -/
theorem readPathOf_append {count : Nat} (few : path.length ≤ count) (filled : path ≠ [])
    (bare : ∀ key ∈ path, IsBareKey key) {next : Char} (ends : isKeyChar next = false)
    (rest : List Char) (no_dot : ∀ more, skipBlanks (next :: rest) ≠ '.' :: more) :
    readPathOf count ((".".intercalate path).toList ++ next :: rest) =
      some (path, skipBlanks (next :: rest)) := by
  induction path generalizing count with
  | nil => exact absurd rfl filled
  | cons key path ih =>
    obtain ⟨here, later⟩ := List.forall_mem_cons.mp bare
    rw [List.length_cons] at few
    obtain ⟨count, rfl⟩ : ∃ more, count = more + 1 := ⟨count - 1, by omega⟩
    cases path with
    | nil =>
      rw [String.intercalate_singleton, readPathOf, skipBlanks_key here,
        readKey_append here ends]
      simp only [Option.bind_eq_bind, Option.bind_some]
    | cons second path =>
      have next_path := ih (Nat.le_of_succ_le_succ few) (List.cons_ne_nil _ _) later
      have chars : (".".intercalate (key :: second :: path)).toList ++ next :: rest =
          key.toList ++ '.' :: ((".".intercalate (second :: path)).toList ++ next :: rest) := by
        rw [String.intercalate_cons_cons]
        simp
      rw [chars, readPathOf, skipBlanks_key here, readKey_append here (by decide)]
      simp only [Option.bind_eq_bind, Option.bind_some]
      rw [skipBlanks_cons (by decide)]
      simp only [next_path, Option.bind_some]

end Paths

section Entries

/-- What is assigned begins with a mark or a bracket. -/
theorem Assigned.exists_chars_cons (value : Assigned) :
    ∃ first tail, value.chars = first :: tail ∧ first ∉ fillerStarts := by
  match value with
  | .text value =>
    obtain ⟨mark, tail, chars, marks⟩ := exists_writeText_cons value.toList
    exact ⟨mark, tail, chars, not_mem_fillerStarts_of_mark marks⟩
  | .texts [] | .texts [_] | .texts (_ :: _ :: _) => exact ⟨'[', _, rfl, by decide⟩

/-- A path begins with a character of a key. -/
theorem IsBarePath.exists_cons {path : List String} (bare : IsBarePath path) :
    ∃ first tail, (".".intercalate path).toList = first :: tail ∧ isKeyChar first = true := by
  obtain ⟨filled, -, each⟩ := bare
  match path with
  | [key] =>
    rw [String.intercalate_singleton]
    exact (each key List.mem_cons_self).exists_cons
  | key :: second :: path =>
    obtain ⟨first, tail, chars, allowed⟩ := (each key List.mem_cons_self).exists_cons
    rw [String.intercalate_cons_cons, String.toList_append, String.toList_append, chars]
    exact ⟨first, _, rfl, allowed⟩

/-- A path is read up to the bracket that closes a header. -/
theorem readPath_bracket {path : List String} (bare : IsBarePath path) (rest : List Char) :
    readPath ((".".intercalate path).toList ++ ']' :: rest) = some (path, ']' :: rest) := by
  have closing : skipBlanks (']' :: rest) = ']' :: rest := skipBlanks_cons (by decide) rest
  have read := readPathOf_append bare.2.1 bare.1 bare.2.2 (by decide : isKeyChar ']' = false)
    rest (by simp [closing])
  rwa [closing] at read

/-- A key is read up to the equals sign. -/
theorem readPath_equals {key : String} (bare : IsBareKey key) (rest : List Char) :
    readPath (key.toList ++ ' ' :: '=' :: rest) = some ([key], '=' :: rest) := by
  have blank : skipBlanks (' ' :: '=' :: rest) = '=' :: rest := rfl
  have few : [key].length ≤ depthLimit := by simp [depthLimit]
  have read := readPathOf_append few (List.cons_ne_nil _ _) (List.forall_mem_singleton.mpr bare)
    (by decide : isKeyChar ' ' = false) ('=' :: rest) (by simp [blank])
  rwa [String.intercalate_singleton, blank] at read

/-- An entry is read up to the end of its line. -/
theorem readStatement_chars {bound : Nat} {entry : Entry} (bare : entry.IsBare)
    (enough : entry.chars.length < bound) (rest : List Char) :
    readStatement bound (entry.chars ++ '\n' :: rest) = some (entry.statement, '\n' :: rest) := by
  cases entry with
  | assign key value =>
    have source : (Entry.assign key value).chars ++ '\n' :: rest =
        key.toList ++ ' ' :: '=' :: ' ' :: (value.chars ++ '\n' :: rest) := by
      simp [Entry.chars]
    have size : value.chars.length < bound := by
      simp only [Entry.chars, List.length_append] at enough
      omega
    have no_bracket : ∀ more,
        key.toList ++ ' ' :: '=' :: ' ' :: (value.chars ++ '\n' :: rest) ≠ '[' :: more := by
      obtain ⟨first, tail, chars, allowed⟩ := IsBareKey.exists_cons bare
      obtain ⟨-, -, -, no_bracket, -⟩ := of_isKeyChar allowed
      rw [chars]
      exact fun _ h => no_bracket (List.cons.inj h).1
    have blank : skipBlanks (' ' :: (value.chars ++ '\n' :: rest)) =
        value.chars ++ '\n' :: rest := by
      obtain ⟨first, tail, chars, solid⟩ := value.exists_chars_cons
      rw [chars]
      exact skipBlanks_cons solid _
    rw [source, readStatement.eq_3 bound _ (fun _ => no_bracket _) no_bracket,
      readPath_equals bare]
    simp only [Option.bind_eq_bind, Option.bind_some, blank]
    rw [depthLimit, readValue_chars 79 value size rest]
    rfl
  | table path =>
    obtain ⟨first, tail, chars, allowed⟩ := IsBarePath.exists_cons bare
    obtain ⟨-, -, -, no_bracket, -⟩ := of_isKeyChar allowed
    have source : (Entry.table path).chars ++ '\n' :: rest =
        '[' :: ((".".intercalate path).toList ++ ']' :: '\n' :: rest) := by
      simp [Entry.chars]
    have single : ∀ more, (".".intercalate path).toList ++ ']' :: '\n' :: rest ≠ '[' :: more := by
      rw [chars]
      exact fun _ h => no_bracket (List.cons.inj h).1
    rw [source, readStatement.eq_2 bound _ single, readPath_bracket bare]
    rfl
  | element path =>
    have source : (Entry.element path).chars ++ '\n' :: rest =
        '[' :: '[' :: ((".".intercalate path).toList ++ ']' :: ']' :: '\n' :: rest) := by
      simp [Entry.chars]
    rw [source, readStatement.eq_1 bound, readPath_bracket bare]
    rfl

/-- An entry begins with a bracket or a character of a key. -/
theorem Entry.IsBare.exists_cons {entry : Entry} (bare : entry.IsBare) :
    ∃ first tail, entry.chars = first :: tail ∧ first ∉ fillerStarts ∧ first ≠ '\uFEFF' := by
  cases entry with
  | assign key value =>
    obtain ⟨first, tail, chars, allowed⟩ := IsBareKey.exists_cons bare
    obtain ⟨solid, -, -, -, no_mark⟩ := of_isKeyChar allowed
    refine ⟨first, tail ++ ([' ', '=', ' '] ++ value.chars), ?_, solid, no_mark⟩
    rw [Entry.chars, chars, List.append_assoc, List.cons_append]
  | table path | element path => exact ⟨'[', _, rfl, by decide, by decide⟩

/-- The statement of an entry at the front is read, and then those of the lines behind it. -/
theorem readStatements_chars {bound : Nat} {entry : Entry} (bare : entry.IsBare)
    (enough : entry.chars.length < bound) {rest : List Char} {statements : List Statement}
    (later : readStatements bound ('\n' :: rest) = some statements) :
    readStatements (bound + 1) (entry.chars ++ '\n' :: rest) =
      some (entry.statement :: statements) := by
  have read := readStatement_chars bare enough rest
  obtain ⟨first, tail, chars, solid, -⟩ := bare.exists_cons
  rw [chars, List.cons_append] at read ⊢
  rw [readStatements, skipFiller_cons solid]
  have line : endLine ('\n' :: rest) = some ('\n' :: rest) := rfl
  simp only [Option.bind_eq_bind, Option.bind_some, read, line, later]

/-- A line break in front of a document is skipped. -/
theorem readStatements_feed (bound : Nat) (source : List Char) :
    readStatements bound ('\n' :: source) = readStatements bound source := by
  cases bound with
  | zero => rfl
  | succ bound => rfl

/-- The entries after the first are read line by line. -/
theorem readStatements_laterChars {bound : Nat} {entries : List Entry}
    (bare : ∀ entry ∈ entries, entry.IsBare)
    (enough : (Entry.laterChars entries).length < bound) :
    readStatements bound ('\n' :: Entry.laterChars entries) =
      some (entries.map Entry.statement) := by
  rw [readStatements_feed]
  induction entries generalizing bound with
  | nil =>
    obtain ⟨bound, rfl⟩ : ∃ more, bound = more + 1 := ⟨bound - 1, by omega⟩
    rfl
  | cons entry entries ih =>
    obtain ⟨here, others⟩ := List.forall_mem_cons.mp bare
    rw [Entry.laterChars] at enough ⊢
    simp only [List.length_append, List.length_cons] at enough
    obtain ⟨bound, rfl⟩ : ∃ more, bound = more + 1 := ⟨bound - 1, by omega⟩
    have later := ih others (by omega : (Entry.laterChars entries).length < bound)
    rw [← readStatements_feed] at later
    have read := readStatements_chars here (by omega) later
    rw [List.append_assoc]
    cases entry.isHeader with
    | false => exact read
    | true => exact (readStatements_feed _ _).trans read

/-- The statements of a written document are those of its entries, in their order. -/
theorem statements?_documentChars {entries : List Entry}
    (bare : ∀ entry ∈ entries, entry.IsBare) :
    statements? (Entry.documentChars entries) = some (entries.map Entry.statement) := by
  cases entries with
  | nil => rfl
  | cons entry entries =>
    obtain ⟨here, others⟩ := List.forall_mem_cons.mp bare
    rw [Entry.documentChars, statements?]
    have unmarked : dropMark (entry.chars ++ '\n' :: Entry.laterChars entries) =
        entry.chars ++ '\n' :: Entry.laterChars entries := by
      obtain ⟨first, tail, chars, -, no_mark⟩ := here.exists_cons
      rw [chars]
      exact dropMark.eq_2 _ fun _ h => no_mark (List.cons.inj h).1
    rw [unmarked]
    simp only [List.length_append, List.length_cons]
    refine readStatements_chars here ?_ (readStatements_laterChars others ?_) <;> omega

end Entries

end MessageContracts.Toml
