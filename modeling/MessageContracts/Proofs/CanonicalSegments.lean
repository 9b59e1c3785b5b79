import MessageContracts.Proofs.TemplateGrammar

/-!
# The segments of a template are canonical

Compiling joins the characters of a source as far as it can: no literal is empty, and no two
literals are neighbours. A row of segments like this is determined by what it stands for, however
its source was written. Arguments of one character each are enough to tell two rows apart: with
them every character of the text stands for one token, and as they change, so do just the
characters that stand for placeholders.
-/

namespace MessageContracts

variable {arity : Nat}

/-- The tokens that are joined in a segment. -/
def Segment.tokens : Segment arity → List (Token arity)
  | literal text => text.toList.map .char
  | argument index => [.argument index]

/-- The character that a token stands for when every argument is one character. -/
def Token.letter (letters : Fin arity → Char) : Token arity → Char
  | char c => c
  | argument index => letters index

/-- There are arguments other than a given character. -/
theorem Token.exists_letters_ne (arity : Nat) (c : Char) :
    ∃ letters : Fin arity → Char, ∀ index, letters index ≠ c := by
  by_cases same : c = 'a'
  · exact ⟨fun _ => 'b', fun _ => same ▸ (by decide : 'b' ≠ 'a')⟩
  · exact ⟨fun _ => 'a', fun _ => Ne.symm same⟩

/-- Tokens that stand for the same character among all arguments are equal. -/
theorem Token.eq_of_letter_eq {first second : Token arity}
    (same : ∀ letters, first.letter letters = second.letter letters) : first = second := by
  cases first with
  | char c =>
    cases second with
    | char d => exact congrArg char (same fun _ => 'a')
    | argument index =>
      obtain ⟨letters, differ⟩ := exists_letters_ne arity c
      exact absurd (same letters).symm (differ index)
  | argument index =>
    cases second with
    | char c =>
      obtain ⟨letters, differ⟩ := exists_letters_ne arity c
      exact absurd (same letters) (differ index)
    | argument other =>
      -- One argument differs from all others.
      have marked : 'a' = if other = index then 'a' else 'b' := by
        simpa [letter] using same fun place => if place = index then 'a' else 'b'
      by_cases equal : other = index
      · rw [equal]
      · rw [if_neg equal] at marked
        exact absurd marked (by decide)

/-- Rows of tokens that stand for the same characters among all arguments are equal. -/
theorem Token.eq_of_map_letter_eq {first second : List (Token arity)}
    (same : ∀ letters, first.map (letter letters) = second.map (letter letters)) :
    first = second := by
  induction first generalizing second with
  | nil => exact (List.map_eq_nil_iff.mp (same fun _ => 'a').symm).symm
  | cons token rest ih =>
    cases second with
    | nil => cases same fun _ => 'a'
    | cons other others =>
      have head := Token.eq_of_letter_eq fun letters => (List.cons.inj (same letters)).1
      have tail := ih fun letters => (List.cons.inj (same letters)).2
      rw [head, tail]

namespace Template

/-- The arguments that are one character each. -/
def letterArguments (letters : Fin arity → Char) : Vector String arity :=
  .ofFn fun index => String.singleton (letters index)

/-- Among arguments of one character each, tokens stand for one character each. -/
theorem join_tokenText_letterArguments (letters : Fin arity → Char) (tokens : List (Token arity)) :
    String.join (tokens.map (tokenText (letterArguments letters))) =
      String.ofList (tokens.map (Token.letter letters)) := by
  induction tokens with
  | nil => rfl
  | cons token rest ih =>
    have single : tokenText (letterArguments letters) token =
        String.singleton (token.letter letters) := by
      cases token with
      | char c => rfl
      | argument index => exact Vector.getElem_ofFn index.isLt
    rw [List.map_cons, String.join_cons, ih, single, String.singleton_eq_ofList,
      ← String.ofList_append]
    rfl

/-- No literal of the row is empty, and no two literals of it are neighbours. -/
structure Canonical (segments : List (Segment arity)) : Prop where
  /-- Every literal has a character. -/
  filled : .literal "" ∉ segments
  /-- No literal stands next to another one. -/
  apart : ∀ first second, ¬ [.literal first, .literal second] <:+: segments

namespace Canonical

variable {first : Segment arity} {segments : List (Segment arity)}

/-- The row without segments. -/
theorem nil : Canonical ([] : List (Segment arity)) where
  filled := List.not_mem_nil
  apart _ _ inside := by cases List.infix_nil.mp inside

/-- What is behind the first segment. -/
theorem tail (whole : Canonical (first :: segments)) : Canonical segments where
  filled := List.not_mem_of_not_mem_cons whole.filled
  apart _ _ inside := whole.apart _ _ (inside.trans (List.suffix_cons first segments).isInfix)

/-- A placeholder may stand in front of everything. -/
theorem argument_cons (rest : Canonical segments) (index : Fin arity) :
    Canonical (.argument index :: segments) where
  filled listed := by
    cases listed with
    | tail _ listed => exact rest.filled listed
  apart _ _ inside := by
    obtain front | inside := List.infix_cons_iff.mp inside
    · cases (List.cons_prefix_cons.mp front).1
    · exact rest.apart _ _ inside

/-- The literal of the characters read so far may stand in front of what is no literal. -/
theorem literal?_append (rest : Canonical segments) (read : List Char)
    (ended : ∀ text more, segments ≠ .literal text :: more) :
    Canonical (literal? read ++ segments) := by
  cases read with
  | nil => exact rest
  | cons c read =>
    have filled : String.ofList (c :: read).reverse ≠ "" := by
      simp
    constructor
    · intro listed
      obtain same | listed := List.mem_cons.mp listed
      · exact filled (Segment.literal.inj same).symm
      · exact rest.filled listed
    · intro first second inside
      obtain front | inside := List.infix_cons_iff.mp inside
      · obtain ⟨more, behind⟩ := (List.cons_prefix_cons.mp front).2
        exact ended second more behind.symm
      · exact rest.apart _ _ inside

end Canonical

/-- Joining characters as they come gives a canonical row, whatever has been read before. -/
theorem canonical_assemble (read : List Char) (tokens : List (Token arity)) :
    Canonical (assemble read tokens) := by
  induction tokens generalizing read with
  | nil =>
    rw [assemble, ← List.append_nil (literal? read)]
    exact Canonical.nil.literal?_append read (by simp)
  | cons token rest ih =>
    cases token with
    | char c => exact ih (c :: read)
    | argument index => exact ((ih []).argument_cons index).literal?_append read (by simp)

/-- Characters are read one after the other. -/
theorem assemble_map_char (read text : List Char) (tokens : List (Token arity)) :
    assemble read (text.map .char ++ tokens) = assemble (text.reverse ++ read) tokens := by
  induction text generalizing read with
  | nil => rfl
  | cons c text ih =>
    rw [List.map_cons, List.cons_append, assemble, ih, List.reverse_cons, List.append_assoc]
    rfl

/-- A literal is complete where no character follows. -/
theorem assemble_eq_append (read : List Char) {tokens : List (Token arity)}
    (ended : ∀ c more, tokens ≠ .char c :: more) :
    assemble read tokens = literal? read ++ assemble [] tokens := by
  cases tokens with
  | nil => exact (List.append_nil _).symm
  | cons token rest =>
    cases token with
    | char c => exact absurd rfl (ended c rest)
    | argument index => rfl

/-- A text with a character is the literal of its characters. -/
theorem literal?_reverse_toList {text : String} (filled : text ≠ "") :
    (literal? text.toList.reverse : List (Segment arity)) = [.literal text] := by
  rw [literal?, List.reverse_reverse, String.ofList_toList]
  intro empty
  exact filled (String.toList_eq_nil_iff.mp (List.reverse_eq_nil_iff.mp empty))

/-- Taking a canonical row apart and joining its tokens again gives the row. -/
theorem Canonical.assemble_tokens {segments : List (Segment arity)}
    (canonical : Canonical segments) :
    assemble [] (segments.flatMap Segment.tokens) = segments := by
  induction segments with
  | nil => rfl
  | cons first rest ih =>
    have joined := ih canonical.tail
    cases first with
    | argument index => exact congrArg (.argument index :: ·) joined
    | literal text =>
      have filled : text ≠ "" := by
        rintro rfl
        exact canonical.filled List.mem_cons_self
      have ended : ∀ c more, rest.flatMap Segment.tokens ≠ .char c :: more := by
        cases rest with
        | nil => nofun
        | cons second rest =>
          cases second with
          | argument index => nofun
          | literal other => exact absurd ⟨[], rest, rfl⟩ (canonical.apart text other)
      rw [List.flatMap_cons, Segment.tokens, assemble_map_char, List.append_nil,
        assemble_eq_append _ ended, joined, literal?_reverse_toList filled]
      rfl

/-- A canonical row is determined by its texts for arguments of one character each. -/
theorem Canonical.eq_of_text_eq {first second : List (Segment arity)}
    (canonical : Canonical first) (otherCanonical : Canonical second)
    (same : ∀ letters, String.join (first.map (segmentText (letterArguments letters))) =
      String.join (second.map (segmentText (letterArguments letters)))) :
    first = second := by
  have spelled {segments : List (Segment arity)} (row : Canonical segments)
      (letters : Fin arity → Char) :
      String.join (segments.map (segmentText (letterArguments letters))) =
        String.ofList ((segments.flatMap Segment.tokens).map (Token.letter letters)) := by
    conv_lhs => rw [← row.assemble_tokens]
    rw [join_segmentText_assemble, join_tokenText_letterArguments]
    exact String.empty_append
  have tokens : first.flatMap Segment.tokens = second.flatMap Segment.tokens :=
    Token.eq_of_map_letter_eq fun letters => by
      have texts := same letters
      rw [spelled canonical, spelled otherCanonical] at texts
      exact String.ofList_injective texts
  rw [← canonical.assemble_tokens, tokens, otherCanonical.assemble_tokens]

/-- The segments of every template are canonical. -/
theorem canonical_segments (template : Template arity) : Canonical template.segments := by
  have compiled := template.compiled
  rw [compile] at compiled
  cases read : scan arity .text 0 template.source.toList with
  | error fault =>
    rw [read] at compiled
    cases compiled
  | ok tokens =>
    rw [read] at compiled
    have segments : assemble [] tokens = template.segments := Except.ok.inj compiled
    rw [← segments]
    exact canonical_assemble [] tokens

/-- A source that is accepted compiles to a canonical row of segments. So two templates are rendered
alike with all arguments exactly if they have the same segments, however their sources were
written. -/
theorem parse_is_canonical (arity : Nat) :
    (∀ source (template : Template arity), parse source = .ok template →
      compile arity source = .ok template.segments ∧ Canonical template.segments) ∧
      ∀ first second : Template arity,
        (∀ arguments, first.render arguments = second.render arguments) ↔
          first.segments = second.segments := by
  refine ⟨fun source template parsed => ?_, fun first second => ⟨fun same => ?_, fun same => ?_⟩⟩
  · refine ⟨?_, canonical_segments template⟩
    rw [← source_of_parse parsed]
    exact template.compiled
  · exact (canonical_segments first).eq_of_text_eq (canonical_segments second) fun letters =>
      same (letterArguments letters)
  · intro arguments
    rw [render, render, same]

/-- An opening brace, the first argument and an exclamation mark. -/
def bracedCall : Template 2 :=
  ⟨"\x7b\x7b\x7b0\x7d!", [.literal "\x7b", .argument 0, .literal "!"], by decide⟩

/-- The same with a leading zero in the placeholder. -/
def paddedCall : Template 2 :=
  ⟨"\x7b\x7b\x7b00\x7d!", [.literal "\x7b", .argument 0, .literal "!"], by decide⟩

/-- The exclamation mark comes before the argument. -/
def movedCall : Template 2 := ⟨"\x7b\x7b!\x7b0\x7d", [.literal "\x7b!", .argument 0], by decide⟩

/-- A leading zero changes the source and no text; moving a literal to the other side of a
placeholder changes the text for some arguments, though not for all. -/
theorem parse_is_canonical_paddedCall :
    parse "\x7b\x7b\x7b00\x7d!" = .ok paddedCall ∧ Canonical paddedCall.segments ∧
      bracedCall.source ≠ paddedCall.source ∧
      (∀ arguments, bracedCall.render arguments = paddedCall.render arguments) ∧
      bracedCall.render #v["!", ""] = movedCall.render #v["!", ""] ∧
      ∃ arguments, bracedCall.render arguments ≠ movedCall.render arguments := by
  obtain ⟨compiles, alike⟩ := parse_is_canonical 2
  have parsed := parse_source paddedCall
  refine ⟨parsed, (compiles _ _ parsed).2, by decide, (alike _ _).mpr rfl, by decide +kernel, ?_⟩
  by_contra same
  have segments := (alike bracedCall movedCall).mp (by simpa using same)
  exact absurd segments (by decide)

end Template

end MessageContracts
