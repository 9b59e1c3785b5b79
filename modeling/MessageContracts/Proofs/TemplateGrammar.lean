import Mathlib.Data.List.Induction
import Mathlib.Data.Nat.Digits.Defs
import MessageContracts.Proofs.Delimited
import MessageContracts.Template

/-!
# The grammar of template sources

A source is a row of tokens: single characters, doubled braces, and digits between braces. Every
token has one spelling, and a row of tokens can be read back from the row of their spellings. The
scanner accepts exactly the sources that are such rows, and a compiled template renders each token
by its own meaning. What is wrong with any other source is not considered here.
-/

namespace MessageContracts.Template

/-- The number that digits stand for in the decimal system. -/
def digitsValue (digits : List Char) : Nat :=
  Nat.ofDigits 10 (digits.reverse.map fun digit => digit.toNat - '0'.toNat)

/-- A token as it is written. -/
inductive SourceToken (arity : Nat) where
  /-- A character other than a brace. -/
  | plain (c : Char) (noOpening : c ≠ '{') (noClosing : c ≠ '}')
  /-- A doubled opening brace. -/
  | openingBrace
  /-- A doubled closing brace. -/
  | closingBrace
  /-- Digits between braces, at least one, whose value is the number of an argument. -/
  | placeholder (digits : List Char) (nonempty : digits ≠ [])
      (decimal : ∀ digit ∈ digits, digit.isDigit = true) (index_lt : digitsValue digits < arity)

namespace SourceToken

variable {arity : Nat}

/-- The characters of a token. -/
def spelling : SourceToken arity → List Char
  | plain c _ _ => [c]
  | openingBrace => ['{', '{']
  | closingBrace => ['}', '}']
  | placeholder digits _ _ _ => '{' :: digits ++ ['}']

/-- The characters of tokens one after the other. -/
def spellingAll (tokens : List (SourceToken arity)) : List Char := tokens.flatMap spelling

/-- What a token stands for: a character, a brace, or an argument as it is. -/
def meaning (arguments : Vector String arity) : SourceToken arity → String
  | plain c _ _ => String.singleton c
  | openingBrace => "\x7b"
  | closingBrace => "\x7d"
  | placeholder digits _ _ index_lt => arguments[digitsValue digits]

/-- The token of the scanner. -/
def token : SourceToken arity → Token arity
  | plain c _ _ => .char c
  | openingBrace => .char '{'
  | closingBrace => .char '}'
  | placeholder digits _ _ index_lt => .argument ⟨digitsValue digits, index_lt⟩

/-- The characters of a row of tokens are those of the first and then those of the rest. -/
theorem spellingAll_cons (first : SourceToken arity) (rest : List (SourceToken arity)) :
    spellingAll (first :: rest) = first.spelling ++ spellingAll rest := List.flatMap_cons

end SourceToken

open SourceToken

variable {arity : Nat}

/-- Reading digits from the left gives their decimal value. -/
theorem decimalValue_eq_digitsValue (digits : List Char) :
    decimalValue digits = digitsValue digits := by
  induction digits using List.reverseRecOn with
  | nil => rfl
  | append_singleton digits last ih =>
    have left : decimalValue (digits ++ [last]) =
        decimalValue digits * 10 + (last.toNat - '0'.toNat) := by
      rw [decimalValue, List.foldl_append]
      rfl
    have right : digitsValue (digits ++ [last]) =
        (last.toNat - '0'.toNat) + 10 * digitsValue digits := by
      rw [digitsValue, List.reverse_append, List.map_append, Nat.ofDigits_append]
      simp [digitsValue]
    rw [left, right, ih]
    omega

/-- A body names the argument with this index when it is a row of digits with that value. -/
theorem argument?_eq_ok_iff (fits : arity ≤ indexLimit) (body : List Char) (index : Fin arity) :
    argument? arity body = .ok index ↔
      body ≠ [] ∧ (∀ digit ∈ body, digit.isDigit = true) ∧ digitsValue body = index := by
  have below := index.isLt
  by_cases names : body ≠ [] ∧ body.all Char.isDigit = true ∧ decimalValue body < indexLimit
  · rw [argument?, placeholderIndex?, if_pos names]
    obtain ⟨nonempty, decimal, -⟩ := names
    rw [List.all_eq_true] at decimal
    rw [decimalValue_eq_digitsValue]
    dsimp only
    by_cases supplied : digitsValue body < arity
    · rw [dif_pos supplied, Except.ok.injEq, Fin.ext_iff]
      exact ⟨fun same => ⟨nonempty, decimal, same⟩, fun parts => parts.2.2⟩
    · rw [dif_neg supplied]
      exact ⟨nofun, fun parts => by omega⟩
  · rw [argument?, placeholderIndex?, if_neg names]
    refine ⟨nofun, fun ⟨nonempty, decimal, value⟩ => ?_⟩
    refine absurd ⟨nonempty, List.all_eq_true.mpr decimal, ?_⟩ names
    rw [decimalValue_eq_digitsValue]
    omega

/-- No brace is a digit. -/
theorem not_mem_of_decimal {digits : List Char}
    (decimal : ∀ digit ∈ digits, digit.isDigit = true) : '{' ∉ digits ∧ '}' ∉ digits := by
  refine ⟨fun opening => ?_, fun closing => ?_⟩
  · exact absurd (decimal _ opening) (by decide)
  · exact absurd (decimal _ closing) (by decide)

/-- What starts with digits does not start with an opening brace. -/
theorem decimal_append_ne {digits : List Char} (nonempty : digits ≠ [])
    (decimal : ∀ digit ∈ digits, digit.isDigit = true) (rest more : List Char) :
    digits ++ rest ≠ '{' :: more := by
  cases digits with
  | nil => exact absurd rfl nonempty
  | cons first digits =>
    intro same
    have opening : first = '{' := (List.cons.inj same).1
    exact (not_mem_of_decimal decimal).1 (opening ▸ List.mem_cons_self)

/-- A placeholder is its digits up to the first closing brace. -/
theorem SourceToken.placeholder_append {digits : List Char} (nonempty : digits ≠ [])
    (decimal : ∀ digit ∈ digits, digit.isDigit = true) (index_lt : digitsValue digits < arity)
    (rest : List Char) :
    (placeholder digits nonempty decimal index_lt).spelling ++ rest =
      '{' :: (digits ++ '}' :: rest) := by
  rw [spelling, List.append_assoc]
  rfl

/-- No spelling of a token begins another one, so the first token of a text is determined. -/
theorem SourceToken.spelling_append_inj {first other : SourceToken arity}
    {rest otherRest : List Char} (same : first.spelling ++ rest = other.spelling ++ otherRest) :
    first = other ∧ rest = otherRest := by
  cases first with
  | plain c noOpening noClosing => cases other <;> simp_all [spelling]
  | openingBrace =>
    cases other with
    | plain c noOpening noClosing => exact absurd (List.cons.inj same).1.symm noOpening
    | openingBrace => exact ⟨rfl, (List.cons.inj (List.cons.inj same).2).2⟩
    | closingBrace => exact absurd (List.cons.inj same).1 (by decide)
    | placeholder digits nonempty decimal index_lt =>
      rw [placeholder_append] at same
      exact absurd (List.cons.inj same).2.symm (decimal_append_ne nonempty decimal _ _)
  | closingBrace =>
    cases other with
    | plain c noOpening noClosing => exact absurd (List.cons.inj same).1.symm noClosing
    | openingBrace => exact absurd (List.cons.inj same).1 (by decide)
    | closingBrace => exact ⟨rfl, (List.cons.inj (List.cons.inj same).2).2⟩
    | placeholder digits nonempty decimal index_lt =>
      exact absurd (List.cons.inj same).1 (by decide)
  | placeholder digits nonempty decimal index_lt =>
    rw [placeholder_append] at same
    cases other with
    | plain c noOpening noClosing => exact absurd (List.cons.inj same).1.symm noOpening
    | openingBrace =>
      exact absurd (List.cons.inj same).2 (decimal_append_ne nonempty decimal _ _)
    | closingBrace => exact absurd (List.cons.inj same).1 (by decide)
    | placeholder others othersNonempty othersDecimal others_lt =>
      rw [placeholder_append] at same
      -- Neither row of digits holds a closing brace, so both end at the first one.
      obtain ⟨rfl, rest⟩ := append_cons_inj (not_mem_of_decimal decimal).2
        (not_mem_of_decimal othersDecimal).2 (List.cons.inj same).2
      exact ⟨rfl, rest⟩

/-- A token has a character. -/
theorem SourceToken.spelling_ne_nil (token : SourceToken arity) : token.spelling ≠ [] := by
  cases token <;> exact List.cons_ne_nil _ _

/-- A source is a row of tokens in one way at most. -/
theorem SourceToken.spellingAll_inj {tokens others : List (SourceToken arity)}
    (same : spellingAll tokens = spellingAll others) : tokens = others := by
  induction tokens generalizing others with
  | nil =>
    cases others with
    | nil => rfl
    | cons other others =>
      rw [spellingAll_cons] at same
      exact absurd (List.append_eq_nil_iff.mp same.symm).1 other.spelling_ne_nil
  | cons first tokens ih =>
    cases others with
    | nil =>
      rw [spellingAll_cons] at same
      exact absurd (List.append_eq_nil_iff.mp same).1 first.spelling_ne_nil
    | cons other others =>
      rw [spellingAll_cons, spellingAll_cons] at same
      obtain ⟨rfl, rest⟩ := spelling_append_inj same
      rw [ih rest]

/-- The text is a row of tokens that the scanner's tokens stand for. -/
def Spelled (text : List Char) (tokens : List (Token arity)) : Prop :=
  ∃ row : List (SourceToken arity), spellingAll row = text ∧ row.map token = tokens

/-- Only an empty row has no characters. -/
theorem spelled_nil (tokens : List (Token arity)) : Spelled [] tokens ↔ tokens = [] := by
  constructor
  · rintro ⟨row, text, rfl⟩
    have empty : row = [] := spellingAll_inj text
    rw [empty]
    rfl
  · rintro rfl
    exact ⟨[], rfl, rfl⟩

/-- What begins with a token continues with the tokens of the rest. -/
theorem spelled_spelling_append (first : SourceToken arity) (rest : List Char)
    (tokens : List (Token arity)) :
    Spelled (first.spelling ++ rest) tokens ↔
      ∃ more, Spelled rest more ∧ first.token :: more = tokens := by
  constructor
  · rintro ⟨row, text, rfl⟩
    cases row with
    | nil => exact absurd (List.append_eq_nil_iff.mp text.symm).1 first.spelling_ne_nil
    | cons other row =>
      rw [spellingAll_cons] at text
      obtain ⟨rfl, rest⟩ := spelling_append_inj text
      exact ⟨row.map token, ⟨row, rest, rfl⟩, rfl⟩
  · rintro ⟨more, ⟨row, rfl, rfl⟩, rfl⟩
    exact ⟨first :: row, spellingAll_cons first row, rfl⟩

/-- A closing brace that is not doubled begins no token. -/
theorem not_spelled_closing {rest : List Char} (single : ∀ more, rest ≠ '}' :: more)
    (tokens : List (Token arity)) : ¬ Spelled ('}' :: rest) tokens := by
  rintro ⟨row, text, -⟩
  cases row with
  | nil => cases text
  | cons first row =>
    rw [spellingAll_cons] at text
    cases first with
    | plain c noOpening noClosing => exact noClosing (List.cons.inj text).1
    | openingBrace => exact absurd (List.cons.inj text).1 (by decide)
    | closingBrace => exact single _ (List.cons.inj text).2.symm
    | placeholder digits nonempty decimal index_lt =>
      exact absurd (List.cons.inj text).1 (by decide)

/-- An opening brace that is not doubled opens a placeholder, which a closing brace ends. -/
theorem exists_placeholder_of_opening {rest : List Char} (single : ∀ more, rest ≠ '{' :: more)
    {row : List (SourceToken arity)} (text : spellingAll row = '{' :: rest) :
    ∃ digits nonempty decimal index_lt more,
      row = .placeholder digits nonempty decimal index_lt :: more ∧
        digits ++ '}' :: spellingAll more = rest := by
  cases row with
  | nil => cases text
  | cons first row =>
    rw [spellingAll_cons] at text
    cases first with
    | plain c noOpening noClosing => exact absurd (List.cons.inj text).1 noOpening
    | openingBrace => exact absurd (List.cons.inj text).2.symm (single _)
    | closingBrace => exact absurd (List.cons.inj text).1 (by decide)
    | placeholder digits nonempty decimal index_lt =>
      rw [placeholder_append] at text
      exact ⟨digits, nonempty, decimal, index_lt, row, rfl, (List.cons.inj text).2⟩

/-- Putting a token in front fails with the rest and succeeds with the rest. -/
theorem andThen_eq_ok_iff (first : Token arity) (rest : Except TemplateFault (List (Token arity)))
    (tokens : List (Token arity)) :
    (do return first :: (← rest)) = Except.ok tokens ↔
      ∃ more, rest = .ok more ∧ first :: more = tokens := by
  cases rest with
  | error fault => exact ⟨nofun, nofun⟩
  | ok more =>
    refine ⟨fun whole => ⟨more, rfl, Except.ok.inj whole⟩, ?_⟩
    rintro ⟨_, same, rfl⟩
    cases same
    rfl

/-- The characters of the token that a scan stands in. -/
def Scan.begun : Scan → List Char
  | .text => []
  | .body _ read => '{' :: read.reverse

/-- A scan in a placeholder has read no closing brace, nor a second opening brace at once. -/
def Scan.Sound : Scan → List Char → Prop
  | .text, _ => True
  | .body _ read, rest => '}' ∉ read ∧ ∀ more, read.reverse ++ rest ≠ '{' :: more

/-- The end of a placeholder is found where its text is a row of tokens. -/
theorem spelled_body (fits : arity ≤ indexLimit) {body : List Char} (bodyOpen : '}' ∉ body)
    (rest : List Char) (single : ∀ more, body ++ '}' :: rest ≠ '{' :: more)
    (tokens : List (Token arity)) :
    Spelled ('{' :: body ++ '}' :: rest) tokens ↔
      ∃ index, argument? arity body = .ok index ∧
        ∃ more, Spelled rest more ∧ .argument index :: more = tokens := by
  constructor
  · rintro ⟨row, text, rfl⟩
    obtain ⟨digits, nonempty, decimal, index_lt, more, rfl, whole⟩ :=
      exists_placeholder_of_opening single text
    obtain ⟨rfl, rfl⟩ := append_cons_inj (not_mem_of_decimal decimal).2 bodyOpen whole
    exact ⟨⟨digitsValue digits, index_lt⟩,
      (argument?_eq_ok_iff fits _ _).mpr ⟨nonempty, decimal, rfl⟩, more.map token,
      ⟨more, rfl, rfl⟩, rfl⟩
  · rintro ⟨index, named, more, spelled, rfl⟩
    obtain ⟨nonempty, decimal, value⟩ := (argument?_eq_ok_iff fits _ _).mp named
    have index_lt : digitsValue body < arity := value ▸ index.isLt
    have first : (SourceToken.placeholder body nonempty decimal index_lt).token =
        .argument index := congrArg Token.argument (Fin.ext value)
    have text := placeholder_append nonempty decimal index_lt rest
    rw [List.cons_append, ← text, spelled_spelling_append, first]
    exact ⟨more, spelled, rfl⟩

/-- A scan succeeds exactly on the texts that are rows of tokens, and finds these. -/
theorem scan_eq_ok_iff (fits : arity ≤ indexLimit) (state : Scan) (position : Nat)
    (rest : List Char) (tokens : List (Token arity)) (sound : state.Sound rest) :
    scan arity state position rest = .ok tokens ↔ Spelled (state.begun ++ rest) tokens := by
  -- The cases are those of the scanner: up to the sixth outside every placeholder, then inside.
  induction state, position, rest using scan.induct generalizing tokens with
  | case1 position =>
    rw [scan, Except.ok.injEq]
    exact eq_comm.trans (spelled_nil tokens).symm
  | case2 position rest ih =>
    rw [scan, andThen_eq_ok_iff]
    refine Iff.trans ?_ (spelled_spelling_append .openingBrace rest tokens).symm
    simp only [ih _ trivial, Scan.begun, List.nil_append, token]
  | case3 position rest single ih =>
    rw [scan]
    · exact ih tokens ⟨List.not_mem_nil, single⟩
    · exact single
  | case4 position rest ih =>
    rw [scan, andThen_eq_ok_iff]
    refine Iff.trans ?_ (spelled_spelling_append .closingBrace rest tokens).symm
    simp only [ih _ trivial, Scan.begun, List.nil_append, token]
  | case5 position rest single =>
    rw [scan]
    · exact ⟨nofun, fun spelled => absurd spelled (not_spelled_closing single tokens)⟩
    · exact single
  | case6 position c rest _ noOpening _ noClosing ih =>
    rw [scan, andThen_eq_ok_iff]
    · refine Iff.trans ?_ (spelled_spelling_append (.plain c noOpening noClosing) rest tokens).symm
      simp only [ih _ trivial, Scan.begun, List.nil_append, token]
    all_goals assumption
  | case7 start read position =>
    rw [scan]
    refine ⟨nofun, ?_⟩
    rintro ⟨row, text, -⟩
    obtain ⟨digits, _, _, _, more, _, whole⟩ := exists_placeholder_of_opening sound.2 text
    have closing : '}' ∈ read.reverse ++ [] :=
      whole ▸ List.mem_append_right _ List.mem_cons_self
    rw [List.append_nil, List.mem_reverse] at closing
    exact absurd closing sound.1
  | case8 start read position rest ih =>
    obtain ⟨bodyOpen, single⟩ := sound
    rw [← List.mem_reverse] at bodyOpen
    rw [scan, Scan.begun, spelled_body fits bodyOpen rest single]
    cases argument? arity read.reverse with
    | error fault => exact ⟨nofun, nofun⟩
    | ok index =>
      refine (andThen_eq_ok_iff (.argument index) _ tokens).trans ?_
      simp only [ih _ trivial, Scan.begun, List.nil_append, Except.ok.injEq, exists_eq_left']
  | case9 start read position c rest noClosing ih =>
    have pending : (Scan.body start (c :: read)).Sound rest := by
      refine ⟨?_, ?_⟩
      · exact List.not_mem_cons_of_ne_of_not_mem (fun same => noClosing same.symm) sound.1
      · rw [List.reverse_cons, List.append_assoc, List.singleton_append]
        exact sound.2
    rw [scan, ih tokens pending, Scan.begun, Scan.begun, List.reverse_cons, List.cons_append,
      List.append_assoc, List.singleton_append, List.cons_append]
    exact noClosing

/-- The text that a token of the scanner stands for. -/
def tokenText (arguments : Vector String arity) : Token arity → String
  | .char c => String.singleton c
  | .argument index => arguments.get index

/-- A token means what the token of the scanner stands for. -/
theorem SourceToken.tokenText_token (arguments : Vector String arity) (first : SourceToken arity) :
    tokenText arguments first.token = first.meaning arguments := by
  cases first <;> rfl

/-- Joining characters to literals keeps the text. -/
theorem join_segmentText_literal? (arguments : Vector String arity) (read : List Char) :
    String.join ((literal? read).map (segmentText arguments)) = String.ofList read.reverse := by
  cases read with
  | nil => rfl
  | cons last read =>
    rw [literal?, List.map_singleton, String.join_cons, String.join_nil, String.append_empty]
    · rfl
    · exact List.cons_ne_nil _ _

/-- The segments of tokens stand for what the tokens stand for one after the other. -/
theorem join_segmentText_assemble (arguments : Vector String arity) (read : List Char)
    (tokens : List (Token arity)) :
    String.join ((assemble read tokens).map (segmentText arguments)) =
      String.ofList read.reverse ++ String.join (tokens.map (tokenText arguments)) := by
  induction tokens generalizing read with
  | nil =>
    rw [assemble, join_segmentText_literal?, List.map_nil, String.join_nil, String.append_empty]
  | cons first tokens ih =>
    cases first with
    | char c =>
      rw [assemble, ih, List.map_cons, String.join_cons, ← String.append_assoc,
        List.reverse_cons, String.ofList_append, tokenText, String.singleton_eq_ofList]
    | argument index =>
      rw [assemble, List.map_append, String.join_append, join_segmentText_literal?,
        List.map_cons, String.join_cons, ih, List.map_cons, String.join_cons]
      rfl

/-- Compiling succeeds exactly on rows of tokens, and gives the segments of these. -/
theorem compile_eq_ok_iff (fits : arity ≤ indexLimit) (source : String)
    (segments : List (Segment arity)) :
    compile arity source = .ok segments ↔
      ∃ tokens, Spelled source.toList tokens ∧ assemble [] tokens = segments := by
  have read := fun tokens : List (Token arity) =>
    scan_eq_ok_iff fits .text 0 source.toList tokens trivial
  simp only [Scan.begun, List.nil_append] at read
  simp only [← read]
  rw [compile]
  cases scan arity .text 0 source.toList with
  | error fault => exact ⟨nofun, nofun⟩
  | ok tokens =>
    refine ⟨fun whole => ⟨tokens, rfl, Except.ok.inj whole⟩, ?_⟩
    rintro ⟨_, same, rfl⟩
    cases same
    rfl

/-- A template that a source compiles to keeps the source. -/
theorem source_of_parse {source : String} {template : Template arity}
    (parsed : parse source = .ok template) : template.source = source := by
  unfold parse at parsed
  split at parsed
  · cases parsed
    rfl
  · cases parsed

/-- A source gives a template exactly when it compiles. -/
theorem exists_parse_iff (source : String) :
    (∃ template : Template arity, parse source = .ok template) ↔
      ∃ segments, compile arity source = .ok segments := by
  constructor
  · rintro ⟨template, parsed⟩
    exact ⟨template.segments, source_of_parse parsed ▸ template.compiled⟩
  · rintro ⟨segments, compiled⟩
    exact ⟨⟨source, segments, compiled⟩, parse_source ⟨source, segments, compiled⟩⟩

/-- A source compiles exactly when it is a row of tokens. -/
theorem exists_parse_iff_exists_row (fits : arity ≤ indexLimit) (source : String) :
    (∃ template : Template arity, parse source = .ok template) ↔
      ∃ row : List (SourceToken arity), spellingAll row = source.toList := by
  simp only [exists_parse_iff, compile_eq_ok_iff fits]
  constructor
  · rintro ⟨_, _, ⟨row, text, _⟩, _⟩
    exact ⟨row, text⟩
  · rintro ⟨row, text⟩
    exact ⟨_, _, ⟨row, text, rfl⟩, rfl⟩

/-- Rendering a compiled row of tokens gives the meanings of the tokens. -/
theorem render_of_spelling (fits : arity ≤ indexLimit) (template : Template arity)
    (arguments : Vector String arity) {row : List (SourceToken arity)}
    (text : spellingAll row = template.source.toList) :
    template.render arguments = String.join (row.map (meaning arguments)) := by
  obtain ⟨tokens, ⟨other, otherText, rfl⟩, segments⟩ :=
    (compile_eq_ok_iff fits _ _).mp template.compiled
  obtain rfl : other = row := spellingAll_inj (otherText.trans text.symm)
  rw [render, ← segments, join_segmentText_assemble, List.map_map]
  have meanings : tokenText arguments ∘ SourceToken.token = meaning arguments :=
    funext (tokenText_token arguments)
  rw [meanings]
  exact String.empty_append

/-- A source compiles exactly when it is a row of tokens. It is such a row in one way only, the
template keeps it, and rendering puts the meanings of its tokens together, where an argument
means its own text. -/
theorem parse_reads_tokens (fits : arity ≤ indexLimit) (source : String) :
    ((∃ template : Template arity, parse source = .ok template) ↔
        ∃ row : List (SourceToken arity), spellingAll row = source.toList) ∧
      ∀ template : Template arity, parse source = .ok template →
        template.source = source ∧
          ∃ row : List (SourceToken arity), spellingAll row = source.toList ∧
            (∀ other, spellingAll other = source.toList → other = row) ∧
            ∀ arguments, template.render arguments =
              String.join (row.map (meaning arguments)) := by
  have accepted := exists_parse_iff_exists_row fits source
  refine ⟨accepted, fun template parsed => ⟨source_of_parse parsed, ?_⟩⟩
  obtain ⟨row, text⟩ := accepted.mp ⟨template, parsed⟩
  refine ⟨row, text, fun other otherText => spellingAll_inj (otherText.trans text.symm), ?_⟩
  intro arguments
  exact render_of_spelling fits template arguments (source_of_parse parsed ▸ text)

/-- Placeholders between doubled braces, one of them with a leading zero, and a character beyond
ASCII. -/
def adjacentBraces : List (SourceToken 3) :=
  [.openingBrace, .placeholder ['0', '0'] (by decide) (List.all_eq_true.mp rfl) (by decide),
    .closingBrace, .plain ' ' (by decide) (by decide),
    .placeholder ['2'] (by decide) (List.all_eq_true.mp rfl) (by decide),
    .plain 'é' (by decide) (by decide), .closingBrace]

/-- Three braces in a row are a doubled one and the edge of a placeholder. -/
theorem parse_reads_tokens_adjacentBraces :
    3 ≤ indexLimit ∧
      ∃ template : Template 3,
        parse "\x7b\x7b\x7b00\x7d\x7d\x7d \x7b2\x7dé\x7d\x7d" = .ok template ∧
          ∀ arguments, template.render arguments =
            String.join ["\x7b", arguments[0], "\x7d", " ", arguments[2], "é", "\x7d"] := by
  have fits : 3 ≤ indexLimit := by decide
  obtain ⟨accepted, reading⟩ := parse_reads_tokens fits
    "\x7b\x7b\x7b00\x7d\x7d\x7d \x7b2\x7dé\x7d\x7d"
  have text : spellingAll adjacentBraces =
      "\x7b\x7b\x7b00\x7d\x7d\x7d \x7b2\x7dé\x7d\x7d".toList := by
    decide
  obtain ⟨template, parsed⟩ := accepted.mpr ⟨_, text⟩
  obtain ⟨-, row, -, unique, rendered⟩ := reading template parsed
  refine ⟨fits, template, parsed, fun arguments => ?_⟩
  rw [rendered, ← unique _ text]
  have first : digitsValue ['0', '0'] = 0 := by decide
  have last : digitsValue ['2'] = 2 := by decide
  simp only [adjacentBraces, List.map_cons, List.map_nil, meaning, first, last]
  rfl

end MessageContracts.Template
