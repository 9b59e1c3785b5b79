import MessageContracts.Proofs.TemplateGrammar
import MessageContracts.Proofs.TextCuts

/-!
# The scan of a source

A source compiles when its scan meets no fault, and it is refused for the fault that the scan meets.
Inside a placeholder, the scan goes on to the first closing brace. A scan that comes to the end of a
text stands between two tokens, so what follows the text is read as if it stood alone.
-/

namespace MessageContracts.Template

open String (utf8Len utf8Len_nil)

variable {arity : Nat}

/-- A source is refused for the fault that its scan meets, and the report carries the source. -/
theorem parse_eq_error_iff (source : String) (error : TemplateError) :
    (parse source : Except TemplateError (Template arity)) = .error error ↔
      error.template = source ∧ scan arity .text 0 source.toList = .error error.fault := by
  unfold parse
  split
  next segments compiled =>
    refine ⟨nofun, fun ⟨_, failed⟩ => ?_⟩
    rw [compile, failed] at compiled
    cases compiled
  next fault refused =>
    have met : scan arity .text 0 source.toList = .error fault := by
      rw [compile] at refused
      cases read : scan arity .text 0 source.toList with
      | error other =>
        rw [read] at refused
        exact congrArg _ (Except.error.inj refused)
      | ok tokens =>
        rw [read] at refused
        cases refused
    obtain ⟨template, other⟩ := error
    rw [met, Except.error.injEq, Except.error.injEq, TemplateError.mk.injEq]
    exact and_congr_left' eq_comm

/-- A source compiles when its scan meets no fault. -/
theorem exists_parse_iff_exists_scan (source : String) :
    (∃ template : Template arity, parse source = .ok template) ↔
      ∃ tokens, scan arity .text 0 source.toList = .ok tokens := by
  rw [exists_parse_iff]
  cases read : scan arity .text 0 source.toList with
  | error fault =>
    refine ⟨fun ⟨segments, compiled⟩ => ?_, nofun⟩
    rw [compile, read] at compiled
    cases compiled
  | ok tokens =>
    refine ⟨fun _ => ⟨tokens, rfl⟩, fun _ => ⟨assemble [] tokens, ?_⟩⟩
    rw [compile, read]
    rfl

/-- A template is rendered as the tokens of its source are. -/
theorem render_of_scan {template : Template arity} {tokens : List (Token arity)}
    (read : scan arity .text 0 template.source.toList = .ok tokens)
    (arguments : Vector String arity) :
    template.render arguments = String.join (tokens.map (tokenText arguments)) := by
  have compiled := template.compiled
  rw [compile, read] at compiled
  have segments : assemble [] tokens = template.segments := Except.ok.inj compiled
  rw [render, ← segments, join_segmentText_assemble]
  exact String.empty_append

/-- A placeholder that no closing brace ends is never closed. -/
theorem scan_body_of_not_mem (start position : Nat) (read : List Char) {text : List Char}
    (unclosed : '}' ∉ text) :
    scan arity (.body start read) position text = .error (.unclosedPlaceholder start) := by
  induction text generalizing position read with
  | nil => rw [scan]
  | cons c text ih =>
    rw [scan, ih _ _ (List.not_mem_of_not_mem_cons unclosed)]
    rintro rfl
    exact unclosed List.mem_cons_self

/-- The body of a placeholder ends before the first closing brace. -/
theorem scan_body_append (start position : Nat) (read : List Char) {body : List Char}
    (bodyOpen : '}' ∉ body) (rest : List Char) :
    scan arity (.body start read) position (body ++ '}' :: rest) =
      (do
        let index ← argument? arity (read.reverse ++ body)
        return .argument index ::
          (← scan arity .text (position + utf8Len body + 1) rest)) := by
  induction body generalizing position read with
  | nil =>
    rw [List.nil_append, List.append_nil, utf8Len_nil, Nat.add_zero, scan]
  | cons c body ih =>
    have place := Text.add_utf8Len_cons position c body
    rw [List.cons_append, scan, ih _ _ (List.not_mem_of_not_mem_cons bodyOpen),
      List.reverse_cons, List.append_assoc, List.singleton_append, ← place]
    rintro rfl
    exact bodyOpen List.mem_cons_self

/-- An opening brace that no closing one follows is a placeholder that is never closed. -/
theorem scan_unclosed (position : Nat) {text : List Char} (single : ∀ more, text ≠ '{' :: more)
    (unclosed : '}' ∉ text) :
    scan arity .text position ('{' :: text) = .error (.unclosedPlaceholder position) := by
  rw [scan, scan_body_of_not_mem position (position + 1) [] unclosed]
  exact single

/-- A placeholder is refused for what is wrong with its body, or else its argument is found and the
scan goes on. -/
theorem scan_placeholder (position : Nat) {body rest : List Char}
    (single : ∀ more, body ++ '}' :: rest ≠ '{' :: more) (bodyOpen : '}' ∉ body) :
    scan arity .text position ('{' :: (body ++ '}' :: rest)) =
      (do
        let index ← argument? arity body
        return .argument index ::
          (← scan arity .text (position + 1 + utf8Len body + 1) rest)) := by
  rw [scan, scan_body_append position (position + 1) [] bodyOpen rest]
  · rfl
  · exact single

/-- Behind a token that is put in front, the others are joined as before. -/
theorem andThen_append (first : Token arity) (tokens : List (Token arity))
    (rest : Except TemplateFault (List (Token arity))) :
    (do return first :: (← (tokens ++ ·) <$> rest)) = (first :: tokens ++ ·) <$> rest := by
  cases rest <;> rfl

/-- A text that does not begin with a mark does not begin with it when it goes on. -/
theorem append_ne_cons {mark : Char} {text : List Char} (filled : text ≠ [])
    (single : ∀ more, text ≠ mark :: more) (rest more : List Char) :
    text ++ rest ≠ mark :: more := by
  cases text with
  | nil => exact absurd rfl filled
  | cons c text =>
    intro same
    exact single text (congrArg (· :: text) (List.cons.inj same).1)

/-- A scan that has come to the end of a text goes on behind it as a new one would. -/
theorem scan_append {state : Scan} {position : Nat} {text : List Char}
    {tokens : List (Token arity)} (read : scan arity state position text = .ok tokens)
    (rest : List Char) :
    scan arity state position (text ++ rest) =
      (tokens ++ ·) <$> scan arity .text (position + utf8Len text) rest := by
  -- No case ends in the middle of a token: a lone brace at the end of the text is a fault.
  induction state, position, text using scan.induct generalizing tokens with
  | case1 position =>
    rw [scan] at read
    cases read
    rw [List.nil_append, utf8Len_nil, Nat.add_zero]
    cases scan arity .text position rest <;> rfl
  | case2 position text ih =>
    have place : position + utf8Len ('{' :: '{' :: text) = position + 2 + utf8Len text :=
      (Text.add_utf8Len_cons position '{' _).trans (Text.add_utf8Len_cons _ '{' text)
    rw [scan, andThen_eq_ok_iff] at read
    obtain ⟨more, later, rfl⟩ := read
    rw [List.cons_append, List.cons_append, scan, ih later, andThen_append, place]
  | case3 position text single ih =>
    have place : position + utf8Len ('{' :: text) = position + 1 + utf8Len text :=
      Text.add_utf8Len_cons position '{' text
    rw [scan] at read
    · have filled : text ≠ [] := by
        rintro rfl
        rw [scan] at read
        cases read
      rw [List.cons_append, scan, ih read, place]
      exact append_ne_cons filled single rest
    · exact single
  | case4 position text ih =>
    have place : position + utf8Len ('}' :: '}' :: text) = position + 2 + utf8Len text :=
      (Text.add_utf8Len_cons position '}' _).trans (Text.add_utf8Len_cons _ '}' text)
    rw [scan, andThen_eq_ok_iff] at read
    obtain ⟨more, later, rfl⟩ := read
    rw [List.cons_append, List.cons_append, scan, ih later, andThen_append, place]
  | case5 position text single =>
    rw [scan] at read
    · cases read
    · exact single
  | case6 position c text _ noOpening _ noClosing ih =>
    have place := Text.add_utf8Len_cons position c text
    rw [scan, andThen_eq_ok_iff] at read
    · obtain ⟨more, later, rfl⟩ := read
      rw [List.cons_append, scan, ih later, andThen_append, place]
      · exact fun _ same _ => noOpening same
      · exact noOpening
      · exact fun _ same _ => noClosing same
      · exact noClosing
    all_goals assumption
  | case7 start body position =>
    rw [scan] at read
    cases read
  | case8 start body position text ih =>
    have place : position + utf8Len ('}' :: text) = position + 1 + utf8Len text :=
      Text.add_utf8Len_cons position '}' text
    rw [scan] at read
    rw [List.cons_append, scan, place]
    cases named : argument? arity body.reverse with
    | error fault =>
      rw [named] at read
      cases read
    | ok index =>
      rw [named] at read
      obtain ⟨more, later, rfl⟩ := (andThen_eq_ok_iff (.argument index) _ _).mp read
      rw [ih later]
      exact andThen_append (.argument index) more _
  | case9 start body position c text noClosing ih =>
    have place := Text.add_utf8Len_cons position c text
    rw [scan] at read
    · rw [List.cons_append, scan, ih read, place]
      exact noClosing
    · exact noClosing

end MessageContracts.Template
