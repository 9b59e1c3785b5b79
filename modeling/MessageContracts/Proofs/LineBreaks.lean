import MessageContracts.Proofs.TemplateGrammar
import MessageContracts.Spelling
import MessageContracts.Text.Lines

/-!
# Line breaks with and without carriage returns

A carriage return put in front of every line feed of a text changes none of its physical lines, as
long as the text had no carriage return before. Putting them in goes along with joining texts, with
rendering a template, whose source goes on to compile, and with both spellings of an identifier,
because a change of case neither touches a line break nor makes one.
-/

namespace MessageContracts

namespace Text

/-- The characters with a carriage return in front of every line feed. -/
def insertReturns (text : List Char) : List Char :=
  text.flatMap fun c => if c = '\n' then ['\r', '\n'] else [c]

/-- The text with a carriage return in front of every line feed. -/
def withReturns (text : String) : String := String.ofList (insertReturns text.toList)

/-- A text without carriage returns. -/
def ReturnFree (text : String) : Prop := '\r' ∉ text.toList

instance (text : String) : Decidable (ReturnFree text) :=
  inferInstanceAs (Decidable ('\r' ∉ text.toList))

/-- A line feed gets a carriage return. -/
theorem insertReturns_feed (rest : List Char) :
    insertReturns ('\n' :: rest) = '\r' :: '\n' :: insertReturns rest := rfl

/-- Any other character stays by itself. -/
theorem insertReturns_cons {c : Char} (other : c ≠ '\n') (rest : List Char) :
    insertReturns (c :: rest) = c :: insertReturns rest := by
  rw [insertReturns, List.flatMap_cons, if_neg other]
  rfl

/-- Two rows of characters get their carriage returns one after the other. -/
theorem insertReturns_append (first second : List Char) :
    insertReturns (first ++ second) = insertReturns first ++ insertReturns second :=
  List.flatMap_append

/-- Characters without a line feed stay as they are. -/
theorem insertReturns_of_not_mem {text : List Char} (feedless : '\n' ∉ text) :
    insertReturns text = text := by
  induction text with
  | nil => rfl
  | cons c rest ih =>
    rw [List.mem_cons, not_or] at feedless
    rw [insertReturns_cons (Ne.symm feedless.1), ih feedless.2]

/-- The characters of a text with its carriage returns. -/
@[simp] theorem toList_withReturns (text : String) :
    (withReturns text).toList = insertReturns text.toList := String.toList_ofList

/-- Two texts get their carriage returns one after the other. -/
@[simp] theorem withReturns_append (first second : String) :
    withReturns (first ++ second) = withReturns first ++ withReturns second := by
  apply String.toList_inj.mp
  simp only [toList_withReturns, String.toList_append, insertReturns_append]

/-- A text without a line feed stays as it is. -/
theorem withReturns_of_not_mem {text : String} (feedless : '\n' ∉ text.toList) :
    withReturns text = text := by
  rw [withReturns, insertReturns_of_not_mem feedless, String.ofList_toList]

/-- A text that is given without line feeds is met exactly where it was. -/
theorem withReturns_eq_iff {text fixed : String} (feedless : '\n' ∉ fixed.toList) :
    withReturns text = fixed ↔ text = fixed := by
  refine ⟨fun same => ?_, fun same => same ▸ withReturns_of_not_mem (same ▸ feedless)⟩
  have none_inside : '\n' ∉ text.toList := by
    intro feed
    apply feedless
    rw [← same, toList_withReturns]
    exact List.mem_flatMap.mpr ⟨'\n', feed, by simp⟩
  rw [← same, withReturns_of_not_mem none_inside]

/-- Joined texts get their carriage returns one after the other. -/
theorem withReturns_join (texts : List String) :
    withReturns (String.join texts) = String.join (texts.map withReturns) := by
  induction texts with
  | nil => rfl
  | cons text rest ih =>
    rw [String.join_cons, withReturns_append, ih, List.map_cons, String.join_cons]

/-- Texts joined by a separator without a line feed get their carriage returns one by one. -/
theorem withReturns_intercalate {separator : String} (feedless : '\n' ∉ separator.toList)
    (texts : List String) :
    withReturns (separator.intercalate texts) = separator.intercalate (texts.map withReturns) := by
  induction texts with
  | nil => rfl
  | cons text rest ih =>
    cases rest with
    | nil => rw [List.map_singleton, String.intercalate_singleton, String.intercalate_singleton]
    | cons second rest =>
      rw [String.intercalate_cons_cons, withReturns_append, withReturns_append,
        withReturns_of_not_mem feedless, ih]
      exact String.intercalate_cons_cons.symm

/-- Two texts without carriage returns have none together. -/
theorem ReturnFree.append {first second : String} (head : ReturnFree first)
    (tail : ReturnFree second) : ReturnFree (first ++ second) := by
  rw [ReturnFree, String.toList_append, List.mem_append]
  exact not_or_intro head tail

/-- Joined texts without carriage returns have none. -/
theorem ReturnFree.join {texts : List String} (each : ∀ text ∈ texts, ReturnFree text) :
    ReturnFree (String.join texts) := by
  rw [ReturnFree, String.toList_join]
  intro inside
  obtain ⟨text, member, inside⟩ := List.mem_flatMap.mp inside
  exact each text member inside

/-- Joined texts have no character that neither they nor the separator have. -/
theorem not_mem_intercalate {c : Char} {separator : String} (between : c ∉ separator.toList)
    {texts : List String} (each : ∀ text ∈ texts, c ∉ text.toList) :
    c ∉ (separator.intercalate texts).toList := by
  induction texts with
  | nil => exact List.not_mem_nil
  | cons text rest ih =>
    obtain ⟨first, others⟩ := List.forall_mem_cons.mp each
    cases rest with
    | nil =>
      rw [String.intercalate_singleton]
      exact first
    | cons second rest =>
      rw [String.intercalate_cons_cons, String.toList_append, String.toList_append, List.mem_append,
        List.mem_append]
      exact not_or_intro (not_or_intro first between) (ih others)

/-- Texts without carriage returns joined by such a separator have none. -/
theorem ReturnFree.intercalate {separator : String} (between : ReturnFree separator)
    {texts : List String} (each : ∀ text ∈ texts, ReturnFree text) :
    ReturnFree (separator.intercalate texts) := not_mem_intercalate between each

/-- A piece of several characters begins with its first one, whether or not it loses its last. -/
theorem dropReturn_cons_cons (c d : Char) (line : List Char) :
    dropReturn (c :: d :: line) = c :: dropReturn (d :: line) := by
  rw [dropReturn, dropReturn, List.getLast?_cons_cons]
  by_cases ending : (d :: line).getLast? = some '\r'
  · rw [if_pos ending, if_pos ending, List.dropLast_cons_cons]
  · rw [if_neg ending, if_neg ending]

/-- A piece that begins with a character other than a carriage return keeps that character. -/
theorem dropReturn_cons {c : Char} (other : c ≠ '\r') (line : List Char) :
    dropReturn (c :: line) = c :: dropReturn line := by
  cases line with
  | nil =>
    have last : [c].getLast? ≠ some '\r' := by simpa using other
    have none_there : ([] : List Char).getLast? ≠ some '\r' := by simp
    rw [dropReturn, if_neg last, dropReturn, if_neg none_there]
  | cons d line => exact dropReturn_cons_cons c d line

/-- Cut at the line feeds and without a carriage return at their ends, the pieces are the same. -/
theorem splitLines_insertReturns {text : List Char} (free : '\r' ∉ text) :
    (splitLines (insertReturns text)).map dropReturn = (splitLines text).map dropReturn := by
  induction text with
  | nil => rfl
  | cons c rest ih =>
    rw [List.mem_cons, not_or] at free
    obtain ⟨other, free⟩ := free
    have later := ih free
    by_cases feed : c = '\n'
    · subst feed
      have returned : splitLines ('\r' :: '\n' :: insertReturns rest) =
          ['\r'] :: splitLines (insertReturns rest) := rfl
      have ended : splitLines ('\n' :: rest) = [] :: splitLines rest := rfl
      rw [insertReturns_feed, returned, ended, List.map_cons, List.map_cons, later]
      rfl
    · rw [insertReturns_cons feed]
      simp only [splitLines, if_neg feed]
      cases pieces : splitLines (insertReturns rest) with
      | nil => exact absurd pieces (splitLines_ne_nil _)
      | cons line lines =>
        cases bare : splitLines rest with
        | nil => exact absurd bare (splitLines_ne_nil _)
        | cons bareLine bareLines =>
          rw [pieces, bare, List.map_cons, List.map_cons] at later
          obtain ⟨here, there⟩ := List.cons.inj later
          rw [List.map_cons, List.map_cons, dropReturn_cons (Ne.symm other),
            dropReturn_cons (Ne.symm other), here, there]

/-- Carriage returns in front of the line feeds change no physical line. -/
theorem lines_withReturns {text : String} (free : ReturnFree text) :
    lines (withReturns text) = lines text := by
  have pieces := congrArg (List.map String.ofList) (splitLines_insertReturns free)
  rw [List.map_map, List.map_map] at pieces
  rw [lines, toList_withReturns]
  exact pieces

/-- A number is written in digits alone. -/
theorem not_mem_repr {c : Char} (other : c.isDigit = false) (n : Nat) : c ∉ n.repr.toList := by
  rw [Nat.toList_repr]
  intro digit
  have decimal := Nat.isDigit_of_mem_toDigits (by decide) (by decide) digit
  rw [other] at decimal
  cases decimal

end Text

namespace Template

open Text SourceToken

variable {arity : Nat}

/-- The tokens of a source with its carriage returns. -/
def tokenWithReturns : SourceToken arity → List (SourceToken arity)
  | plain c noOpening noClosing =>
    if c = '\n' then [plain '\r' (by decide) (by decide), plain '\n' (by decide) (by decide)]
    else [plain c noOpening noClosing]
  | other => [other]

/-- The characters of a token with its carriage returns. -/
theorem spellingAll_tokenWithReturns (first : SourceToken arity) :
    spellingAll (tokenWithReturns first) = insertReturns first.spelling := by
  cases first with
  | plain c noOpening noClosing =>
    by_cases feed : c = '\n'
    · subst feed
      rfl
    · rw [tokenWithReturns, if_neg feed, spelling, insertReturns_cons feed]
      rfl
  | openingBrace => rfl
  | closingBrace => rfl
  | placeholder digits nonempty decimal index_lt =>
    have feedless : '\n' ∉ (placeholder digits nonempty decimal index_lt).spelling := by
      simp only [spelling, List.mem_append, List.mem_cons, List.not_mem_nil, or_false, not_or]
      refine ⟨⟨by decide, fun feed => ?_⟩, by decide⟩
      exact absurd (decimal _ feed) (by decide)
    rw [insertReturns_of_not_mem feedless]
    exact List.append_nil _

/-- The meaning of a token with its carriage returns, for arguments with theirs. -/
theorem meaning_tokenWithReturns (arguments : Vector String arity) (first : SourceToken arity) :
    String.join ((tokenWithReturns first).map (meaning (arguments.map withReturns))) =
      withReturns (first.meaning arguments) := by
  have single (text : String) : String.join [text] = text := by
    rw [String.join_cons, String.join_nil, String.append_empty]
  cases first with
  | plain c noOpening noClosing =>
    by_cases feed : c = '\n'
    · subst feed
      exact (by decide : String.join [String.singleton '\r', String.singleton '\n'] =
        withReturns (String.singleton '\n'))
    · have alone : '\n' ∉ (String.singleton c).toList := by
        simpa using Ne.symm feed
      rw [tokenWithReturns, if_neg feed, List.map_singleton, single, meaning, meaning,
        withReturns_of_not_mem alone]
  | openingBrace => exact (single _).trans (by decide : "\x7b" = withReturns "\x7b")
  | closingBrace => exact (single _).trans (by decide : "\x7d" = withReturns "\x7d")
  | placeholder digits nonempty decimal index_lt =>
    exact (single _).trans (Vector.getElem_map withReturns index_lt)

/-- A template with carriage returns in its source still compiles, and rendering it with those of
the arguments gives the rendered text with its carriage returns. -/
theorem exists_parse_withReturns (fits : arity ≤ indexLimit) (template : Template arity) :
    ∃ returned : Template arity, parse (withReturns template.source) = .ok returned ∧
      ∀ arguments, returned.render (arguments.map withReturns) =
        withReturns (template.render arguments) := by
  obtain ⟨row, text⟩ :=
    (exists_parse_iff_exists_row fits template.source).mp ⟨template, parse_source template⟩
  have returnedText : spellingAll (row.flatMap tokenWithReturns) =
      (withReturns template.source).toList := by
    rw [toList_withReturns, ← text]
    clear text
    induction row with
    | nil => rfl
    | cons first rest ih =>
      rw [List.flatMap_cons, spellingAll_cons, insertReturns_append, ← ih,
        ← spellingAll_tokenWithReturns]
      exact List.flatMap_append
  obtain ⟨returned, parsed⟩ := (exists_parse_iff_exists_row fits _).mpr ⟨_, returnedText⟩
  refine ⟨returned, parsed, fun arguments => ?_⟩
  rw [render_of_spelling fits returned _ (returnedText.trans (by rw [source_of_parse parsed])),
    render_of_spelling fits template arguments text, withReturns_join]
  clear text returnedText
  induction row with
  | nil => rfl
  | cons first rest ih =>
    rw [List.flatMap_cons, List.map_append, String.join_append, ih, meaning_tokenWithReturns,
      List.map_cons, List.map_cons, String.join_cons]

/-- A template without carriage returns renders arguments without them to a text without them. -/
theorem returnFree_render (fits : arity ≤ indexLimit) {template : Template arity}
    (source : ReturnFree template.source) {arguments : Vector String arity}
    (each : ∀ index : Fin arity, ReturnFree (arguments.get index)) :
    ReturnFree (template.render arguments) := by
  obtain ⟨row, text⟩ :=
    (exists_parse_iff_exists_row fits template.source).mp ⟨template, parse_source template⟩
  rw [render_of_spelling fits template arguments text]
  refine .join fun piece member => ?_
  obtain ⟨token, inside, rfl⟩ := List.mem_map.mp member
  cases token with
  | plain c noOpening noClosing =>
    intro ending
    apply source
    rw [← text]
    have same : '\r' = c := by simpa [meaning] using ending
    exact List.mem_flatMap.mpr ⟨_, inside, List.mem_singleton.mpr same⟩
  | openingBrace => exact (by decide : '\r' ∉ "\x7b".toList)
  | closingBrace => exact (by decide : '\r' ∉ "\x7d".toList)
  | placeholder digits nonempty decimal index_lt => exact each ⟨digitsValue digits, index_lt⟩

end Template

end MessageContracts
