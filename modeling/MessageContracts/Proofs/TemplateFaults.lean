import MessageContracts.Proofs.TemplateScan

/-!
# Where a source is wrong

A source is a row of tokens up to a place where no token begins, and there is only one such place.
A source that is refused does not end there: a brace stands at that place, and what follows the
brace decides what is wrong. The place is counted in bytes.
-/

namespace MessageContracts.Template

open SourceToken
open String (utf8ByteSize_ofList utf8Len utf8Len_toList)

/-- Whether a text begins with no token. -/
def Tokenless (arity : Nat) (text : List Char) : Prop :=
  ∀ token : SourceToken arity, ¬token.spelling <+: text

/-- Whether a source goes wrong at this byte: up to it, the source is a source that compiles, and
from there on `rest` stands, which begins with a brace but with no token. -/
structure FaultyAt (arity : Nat) (source : String) (position : Nat) (rest : List Char) : Prop where
  /-- What stands before the place compiles. -/
  accepted : ∃ before : String, before ++ String.ofList rest = source ∧
    before.utf8ByteSize = position ∧ ∃ template : Template arity, parse before = .ok template
  /-- A brace stands at the place. -/
  brace : rest.head? = some '{' ∨ rest.head? = some '}'
  /-- No token begins there. -/
  tokenless : Tokenless arity rest

/-- What is wrong with a source that goes wrong at this byte, where `rest` stands. -/
inductive Diagnosis (arity position : Nat) : List Char → TemplateFault → Prop where
  /-- A closing brace that is not doubled. -/
  | closing {rest : List Char} (single : rest.head? ≠ some '}') :
    Diagnosis arity position ('}' :: rest) (.unmatchedClosingBrace position)
  /-- An opening brace that is not doubled, with no closing brace behind it. -/
  | unclosed {rest : List Char} (single : rest.head? ≠ some '{') (open_end : '}' ∉ rest) :
    Diagnosis arity position ('{' :: rest) (.unclosedPlaceholder position)
  /-- Digits up to the first closing brace, with a value that fits in 64 bits but is not the number
  of an argument. -/
  | outOfRange {body rest : List Char} (nonempty : body ≠ [])
    (decimal : ∀ digit ∈ body, digit.isDigit = true) (unsupplied : arity ≤ digitsValue body)
    (fits : digitsValue body < indexLimit) :
    Diagnosis arity position ('{' :: (body ++ '}' :: rest))
      (.placeholderOutOfRange (digitsValue body) arity)
  /-- Anything else up to the first closing brace. -/
  | invalid {body rest : List Char} (single : (body ++ '}' :: rest).head? ≠ some '{')
    (bodyOpen : '}' ∉ body)
    (other : ¬(body ≠ [] ∧ (∀ digit ∈ body, digit.isDigit = true) ∧ arity ≤ digitsValue body ∧
      digitsValue body < indexLimit)) :
    Diagnosis arity position ('{' :: (body ++ '}' :: rest))
      (.invalidPlaceholder (String.ofList body))

section Rows

variable {arity : Nat}

/-- Every text is a row of tokens and then something that begins with no token. -/
theorem exists_row_append_tokenless (arity : Nat) (text : List Char) :
    ∃ (row : List (SourceToken arity)) (rest : List Char),
      spellingAll row ++ rest = text ∧ Tokenless arity rest := by
  by_cases begins : ∃ token : SourceToken arity, token.spelling <+: text
  · obtain ⟨token, behind, whole⟩ := begins
    have shorter : behind.length < text.length := by
      have filled := List.length_pos_iff.mpr token.spelling_ne_nil
      rw [← whole, List.length_append]
      omega
    obtain ⟨row, rest, same, bare⟩ := exists_row_append_tokenless arity behind
    refine ⟨token :: row, rest, ?_, bare⟩
    rw [spellingAll_cons, List.append_assoc, same, whole]
  · exact ⟨[], text, rfl, not_exists.mp begins⟩
termination_by text.length

/-- A text goes wrong in one place only: the tokens before such a place are determined. -/
theorem append_tokenless_inj {row others : List (SourceToken arity)} {rest otherRest : List Char}
    (bare : Tokenless arity rest) (otherBare : Tokenless arity otherRest)
    (same : spellingAll row ++ rest = spellingAll others ++ otherRest) :
    row = others ∧ rest = otherRest := by
  have reads : ReadsBack (fun _ => True) (@spelling arity) id :=
    fun _ _ _ _ _ _ => spelling_append_inj
  have agree := reads.flatMap (Tokenless arity)
    (fun token rest _ none_begins => none_begins token (List.prefix_append _ _))
    (fun _ _ => trivial) (fun _ _ => trivial) bare otherBare same
  rw [List.map_id, List.map_id] at agree
  exact agree

/-- A text that begins with no token begins with a brace. -/
theorem Tokenless.exists_brace {text : List Char} (bare : Tokenless arity text)
    (filled : text ≠ []) : ∃ rest, text = '{' :: rest ∨ text = '}' :: rest := by
  cases text with
  | nil => exact absurd rfl filled
  | cons c rest =>
    refine ⟨rest, ?_⟩
    by_contra no_brace
    rw [not_or] at no_brace
    have noOpening : c ≠ '{' := fun same => no_brace.1 (same ▸ rfl)
    have noClosing : c ≠ '}' := fun same => no_brace.2 (same ▸ rfl)
    exact bare (.plain c noOpening noClosing) (List.prefix_append [c] rest)

/-- Digits between braces that begin no token have a value beyond the arguments. -/
theorem Tokenless.le_digitsValue {body rest : List Char}
    (bare : Tokenless arity ('{' :: (body ++ '}' :: rest))) (nonempty : body ≠ [])
    (decimal : ∀ digit ∈ body, digit.isDigit = true) : arity ≤ digitsValue body := by
  by_contra supplied
  refine bare (.placeholder body nonempty decimal (Nat.lt_of_not_le supplied)) ⟨rest, ?_⟩
  exact placeholder_append nonempty decimal _ rest

/-- A placeholder that is no token is refused for what is wrong with its body. -/
theorem exists_argument?_eq_error {body rest : List Char} (position : Nat)
    (bare : Tokenless arity ('{' :: (body ++ '}' :: rest))) (bodyOpen : '}' ∉ body) :
    ∃ fault, argument? arity body = .error fault ∧
      Diagnosis arity position ('{' :: (body ++ '}' :: rest)) fault := by
  by_cases names : body ≠ [] ∧ body.all Char.isDigit = true ∧ decimalValue body < indexLimit
  · have nonempty := names.1
    have decimal := List.all_eq_true.mp names.2.1
    have fits := names.2.2
    rw [decimalValue_eq_digitsValue] at fits
    have unsupplied := bare.le_digitsValue nonempty decimal
    refine ⟨_, ?_, .outOfRange nonempty decimal unsupplied fits⟩
    rw [argument?, placeholderIndex?, if_pos names, decimalValue_eq_digitsValue]
    exact dif_neg (Nat.not_lt.mpr unsupplied)
  · refine ⟨.invalidPlaceholder (String.ofList body), ?_, .invalid ?_ bodyOpen ?_⟩
    · rw [argument?, placeholderIndex?, if_neg names]
    · intro doubled
      obtain ⟨more, same⟩ := List.head?_eq_some_iff.mp doubled
      rw [same] at bare
      exact bare .openingBrace (List.prefix_append ['{', '{'] more)
    · rintro ⟨nonempty, decimal, -, fits⟩
      rw [← decimalValue_eq_digitsValue] at fits
      exact names ⟨nonempty, List.all_eq_true.mpr decimal, fits⟩

/-- A scan that stands where no token begins meets the fault that the text has there. -/
theorem exists_scan_eq_error (position : Nat) {rest : List Char} (bare : Tokenless arity rest)
    (filled : rest ≠ []) :
    ∃ fault, scan arity .text position rest = .error fault ∧
      Diagnosis arity position rest fault := by
  obtain ⟨behind, rfl | rfl⟩ := bare.exists_brace filled
  · have single : ∀ more, behind ≠ '{' :: more := by
      rintro more rfl
      exact bare .openingBrace (List.prefix_append ['{', '{'] more)
    by_cases closed : '}' ∈ behind
    · obtain ⟨body, rest, rfl, bodyOpen⟩ := List.eq_append_cons_of_mem closed
      obtain ⟨fault, refused, diagnosis⟩ := exists_argument?_eq_error position bare bodyOpen
      refine ⟨fault, ?_, diagnosis⟩
      rw [scan_placeholder position single bodyOpen, refused]
      rfl
    · refine ⟨_, scan_unclosed position single closed, .unclosed ?_ closed⟩
      exact fun doubled => (List.head?_eq_some_iff.mp doubled).elim single
  · have single : ∀ more, behind ≠ '}' :: more := by
      rintro more rfl
      exact bare .closingBrace (List.prefix_append ['}', '}'] more)
    refine ⟨.unmatchedClosingBrace position, ?_, .closing ?_⟩
    · rw [scan]
      exact single
    · exact fun doubled => (List.head?_eq_some_iff.mp doubled).elim single

/-- Leading zeros do not change a value. -/
theorem digitsValue_zeros_append (zeros : Nat) (digits : List Char) :
    digitsValue (List.replicate zeros '0' ++ digits) = digitsValue digits := by
  rw [← decimalValue_eq_digitsValue, ← decimalValue_eq_digitsValue]
  induction zeros with
  | zero => rfl
  | succ zeros ih =>
    rw [List.replicate_succ, List.cons_append, ← ih]
    rfl

/-- A row of tokens is scanned to its end. -/
theorem scan_spellingAll (fits : arity ≤ indexLimit) (position : Nat)
    (row : List (SourceToken arity)) :
    scan arity .text position (spellingAll row) = .ok (row.map token) :=
  (scan_eq_ok_iff fits .text position _ _ trivial).mpr ⟨row, rfl, rfl⟩

/-- A source goes wrong behind a row of tokens. -/
theorem faultyAt_iff (fits : arity ≤ indexLimit) {source : String} {position : Nat}
    {rest : List Char} :
    FaultyAt arity source position rest ↔ rest ≠ [] ∧ Tokenless arity rest ∧
      ∃ row : List (SourceToken arity), spellingAll row ++ rest = source.toList ∧
        utf8Len (spellingAll row) = position := by
  constructor
  · rintro ⟨⟨before, rfl, rfl, compiles⟩, brace, bare⟩
    obtain ⟨row, same⟩ := (exists_parse_iff_exists_row fits before).mp compiles
    refine ⟨?_, bare, row, ?_, ?_⟩
    · rintro rfl
      rcases brace with brace | brace <;> cases brace
    · rw [same, String.toList_append, String.toList_ofList]
    · rw [same, utf8Len_toList]
  · rintro ⟨filled, bare, row, same, rfl⟩
    refine ⟨⟨String.ofList (spellingAll row), ?_, utf8ByteSize_ofList _, ?_⟩, ?_, bare⟩
    · rw [← String.ofList_append, same, String.ofList_toList]
    · exact (exists_parse_iff_exists_row fits _).mpr ⟨row, String.toList_ofList.symm⟩
    · obtain ⟨behind, rfl | rfl⟩ := bare.exists_brace filled
      · exact .inl rfl
      · exact .inr rfl

end Rows

/-- A source that is refused goes wrong at exactly one byte: what stands before it compiles, and a
brace stands there but no token. What follows decides what is reported, with the whole source.
Leading zeros do not count towards the value of a placeholder. -/
theorem parse_error_diagnosis {arity : Nat} (fits : arity ≤ indexLimit) {source : String}
    {error : TemplateError}
    (refused : (parse source : Except TemplateError (Template arity)) = .error error) :
    error.template = source ∧
      (∃ position rest, FaultyAt arity source position rest ∧
        (∀ other otherRest, FaultyAt arity source other otherRest →
          other = position ∧ otherRest = rest) ∧
        Diagnosis arity position rest error.fault) ∧
      ∀ zeros digits, digitsValue (List.replicate zeros '0' ++ digits) = digitsValue digits := by
  obtain ⟨whole, met⟩ := (parse_eq_error_iff source error).mp refused
  obtain ⟨row, rest, same, bare⟩ := exists_row_append_tokenless arity source.toList
  have read := scan_append (scan_spellingAll fits 0 row) rest
  rw [same, met, Nat.zero_add] at read
  have filled : rest ≠ [] := by
    rintro rfl
    rw [scan] at read
    cases read
  obtain ⟨fault, stopped, diagnosis⟩ :=
    exists_scan_eq_error (utf8Len (spellingAll row)) bare filled
  rw [stopped] at read
  rw [← Except.error.inj read] at diagnosis
  have faulty := (faultyAt_iff fits).mpr ⟨filled, bare, row, same, rfl⟩
  refine ⟨whole, ⟨_, rest, faulty, fun other otherRest otherFaulty => ?_, diagnosis⟩,
    digitsValue_zeros_append⟩
  obtain ⟨-, otherBare, others, otherSame, rfl⟩ := (faultyAt_iff fits).mp otherFaulty
  obtain ⟨rfl, rfl⟩ := append_tokenless_inj otherBare bare (otherSame.trans same.symm)
  exact ⟨rfl, rfl⟩

/-- Adjacent braces, and behind them a placeholder for an eighth argument. -/
def eighthArgument : String := "é\x7b\x7b\x7b00\x7d\x7d\x7d\x7b07\x7d\x7d"

/-- With two arguments, the placeholder for an eighth one is at fault. Its place counts the two
bytes of the first character. -/
theorem parse_error_diagnosis_eighthArgument :
    2 ≤ indexLimit ∧
      (parse eighthArgument : Except TemplateError (Template 2)) =
        .error ⟨eighthArgument, .placeholderOutOfRange 7 2⟩ ∧
      FaultyAt 2 eighthArgument 10 "\x7b07\x7d\x7d".toList ∧
      (∀ other otherRest, FaultyAt 2 eighthArgument other otherRest →
        other = 10 ∧ otherRest = "\x7b07\x7d\x7d".toList) ∧
      Diagnosis 2 10 "\x7b07\x7d\x7d".toList (.placeholderOutOfRange 7 2) := by
  have fits : 2 ≤ indexLimit := by decide
  have refused : (parse eighthArgument : Except TemplateError (Template 2)) =
      .error ⟨eighthArgument, .placeholderOutOfRange 7 2⟩ := (parse_eq_error_iff _ _).mpr ⟨rfl, rfl⟩
  have bare : Tokenless 2 "\x7b07\x7d\x7d".toList := by
    rintro (⟨c, noOpening, noClosing⟩ | _ | _ | ⟨digits, nonempty, decimal, index_lt⟩)
      ⟨behind, same⟩
    · exact noOpening (List.cons.inj same).1
    · exact absurd (List.cons.inj (List.cons.inj same).2).1 (by decide)
    · exact absurd (List.cons.inj same).1 (by decide)
    · rw [placeholder_append] at same
      obtain ⟨rfl, -⟩ := append_cons_inj (not_mem_of_decimal decimal).2
        (show '}' ∉ ['0', '7'] by decide) (List.cons.inj same).2
      exact absurd index_lt (by decide)
  have faulty : FaultyAt 2 eighthArgument 10 "\x7b07\x7d\x7d".toList :=
    (faultyAt_iff fits).mpr ⟨List.cons_ne_nil _ _, bare,
      [.plain 'é' (by decide) (by decide), .openingBrace,
        .placeholder ['0', '0'] (by decide) (List.all_eq_true.mp rfl) (by decide),
        .closingBrace], rfl, rfl⟩
  obtain ⟨-, ⟨position, rest, -, unique, diagnosis⟩, -⟩ := parse_error_diagnosis fits refused
  obtain ⟨rfl, rfl⟩ := unique _ _ faulty
  exact ⟨fits, refused, faulty, unique, diagnosis⟩

end MessageContracts.Template
