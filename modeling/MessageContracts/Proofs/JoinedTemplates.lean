import MessageContracts.Proofs.TemplateScan

/-!
# Sources one after the other

What is written behind a source that compiles is read as if it stood alone: both compile if the
second does, the rendered texts are joined as the sources are, and a fault in the second is the same
fault, further on by the bytes of the first.
-/

namespace MessageContracts

/-- The fault of the same kind, so many bytes further on if it has a place. -/
def TemplateFault.movedBy (bytes : Nat) : TemplateFault → TemplateFault
  | unclosedPlaceholder position => unclosedPlaceholder (position + bytes)
  | unmatchedClosingBrace position => unmatchedClosingBrace (position + bytes)
  | invalidPlaceholder body => invalidPlaceholder body
  | placeholderOutOfRange index arity => placeholderOutOfRange index arity

namespace Template

open String (utf8Len_toList)

variable {arity : Nat}

/-- The scan that stands at the same point of a text so many bytes further on. -/
def Scan.movedBy (bytes : Nat) : Scan → Scan
  | .text => .text
  | .body start read => .body (start + bytes) read

/-- Putting a token in front leaves a fault as it is. -/
theorem andThen_mapError (change : TemplateFault → TemplateFault) (first : Token arity)
    (rest : Except TemplateFault (List (Token arity))) :
    (do return first :: (← rest.mapError change)) =
      (do return first :: (← rest)).mapError change := by
  cases rest <;> rfl

/-- What is wrong with the body of a placeholder does not depend on its place. -/
theorem mapError_argument? (bytes : Nat) (body : List Char) :
    (argument? arity body).mapError (.movedBy bytes) = argument? arity body := by
  unfold argument?
  split
  · rfl
  · split <;> rfl

/-- A scan so many bytes further on reads the same and meets the same fault further on. -/
theorem scan_movedBy (bytes : Nat) (state : Scan) (position : Nat) (text : List Char) :
    scan arity (state.movedBy bytes) (position + bytes) text =
      (scan arity state position text).mapError (.movedBy bytes) := by
  induction state, position, text using scan.induct with
  | case1 position => rw [scan, Scan.movedBy, scan]; rfl
  | case2 position text ih =>
    rw [scan, Scan.movedBy, scan, ← andThen_mapError, ← ih, Nat.add_right_comm]
    rfl
  | case3 position text single ih =>
    rw [Scan.movedBy, scan, scan, ← ih, Nat.add_right_comm]
    · rfl
    · exact single
    · exact single
  | case4 position text ih =>
    rw [scan, Scan.movedBy, scan, ← andThen_mapError, ← ih, Nat.add_right_comm]
    rfl
  | case5 position text single =>
    rw [Scan.movedBy, scan, scan]
    · rfl
    · exact single
    · exact single
  | case6 position c text _ noOpening _ noClosing ih =>
    rw [Scan.movedBy, scan, scan, ← andThen_mapError, ← ih, Nat.add_right_comm]
    · rfl
    all_goals assumption
  | case7 start read position => rw [scan, Scan.movedBy, scan]; rfl
  | case8 start read position text ih =>
    rw [Scan.movedBy, scan, scan, Nat.add_right_comm, ← Scan.movedBy.eq_1 bytes, ih]
    have unmoved := @mapError_argument? arity bytes read.reverse
    cases named : argument? arity read.reverse with
    | error fault =>
      rw [named] at unmoved
      exact congrArg _ (Except.error.inj unmoved).symm
    | ok index => exact andThen_mapError _ (.argument index) _
  | case9 start read position c text noClosing ih =>
    rw [Scan.movedBy, scan, scan, ← ih, Nat.add_right_comm]
    · rfl
    · exact noClosing
    · exact noClosing

/-- Behind a source that compiles, another one is read as if it stood alone: the two together
compile if the other one does, and are then rendered as the one and the other. If the other one is
refused, the two are refused for the same fault, further on by the bytes of the first. -/
theorem parse_append (source rest : String) {first : Template arity}
    (compiles : parse source = .ok first) :
    ((∃ both : Template arity, parse (source ++ rest) = .ok both) ↔
        ∃ second : Template arity, parse rest = .ok second) ∧
      (∀ both second : Template arity, parse (source ++ rest) = .ok both →
        parse rest = .ok second → ∀ arguments,
          both.render arguments = first.render arguments ++ second.render arguments) ∧
      ∀ error, (parse rest : Except TemplateError (Template arity)) = .error error →
        (parse (source ++ rest) : Except TemplateError (Template arity)) =
          .error ⟨source ++ rest, error.fault.movedBy source.utf8ByteSize⟩ := by
  obtain ⟨tokens, read⟩ := (exists_parse_iff_exists_scan source).mp ⟨first, compiles⟩
  have whole : scan arity .text 0 (source ++ rest).toList =
      (tokens ++ ·) <$> (scan arity .text 0 rest.toList).mapError
        (.movedBy source.utf8ByteSize) := by
    rw [String.toList_append, scan_append read, ← scan_movedBy, utf8Len_toList]
    rfl
  refine ⟨?_, fun both second joined alone arguments => ?_, fun error refused => ?_⟩
  · rw [exists_parse_iff_exists_scan, exists_parse_iff_exists_scan, whole]
    cases scan arity .text 0 rest.toList with
    | error fault => exact ⟨nofun, nofun⟩
    | ok others => exact ⟨fun _ => ⟨others, rfl⟩, fun _ => ⟨tokens ++ others, rfl⟩⟩
  · obtain ⟨others, readRest⟩ := (exists_parse_iff_exists_scan rest).mp ⟨second, alone⟩
    rw [readRest] at whole
    have readBoth : scan arity .text 0 both.source.toList = .ok (tokens ++ others) := by
      rw [source_of_parse joined]
      exact whole
    rw [← source_of_parse compiles] at read
    rw [← source_of_parse alone] at readRest
    rw [render_of_scan readBoth, render_of_scan read, render_of_scan readRest, List.map_append,
      String.join_append]
  · obtain ⟨-, met⟩ := (parse_eq_error_iff rest error).mp refused
    rw [met] at whole
    exact (parse_eq_error_iff _ _).mpr ⟨rfl, whole⟩

/-- A doubled brace at the end of a source does not take a brace from the one behind it, and the
place of a fault counts bytes, not characters. -/
theorem parse_append_afterBraces :
    ∃ first : Template 1, parse "é\x7b0\x7d\x7d\x7d" = .ok first ∧
      (∃ second both : Template 1, parse "\x7d\x7d\x7b0\x7d" = .ok second ∧
        parse ("é\x7b0\x7d\x7d\x7d" ++ "\x7d\x7d\x7b0\x7d") = .ok both ∧
        ∀ arguments, both.render arguments =
          first.render arguments ++ second.render arguments) ∧
      (parse ("é\x7b0\x7d\x7d\x7d" ++ "\x7d") : Except TemplateError (Template 1)) =
        .error ⟨"é\x7b0\x7d\x7d\x7d" ++ "\x7d", .unmatchedClosingBrace 7⟩ := by
  obtain ⟨first, compiles⟩ : ∃ first : Template 1, parse "é\x7b0\x7d\x7d\x7d" = .ok first :=
    (exists_parse_iff_exists_scan _).mpr ⟨_, rfl⟩
  obtain ⟨second, alone⟩ : ∃ second : Template 1, parse "\x7d\x7d\x7b0\x7d" = .ok second :=
    (exists_parse_iff_exists_scan _).mpr ⟨_, rfl⟩
  have refused : (parse "\x7d" : Except TemplateError (Template 1)) =
      .error ⟨"\x7d", .unmatchedClosingBrace 0⟩ := (parse_eq_error_iff _ _).mpr ⟨rfl, rfl⟩
  obtain ⟨accepted, rendered, -⟩ := parse_append _ "\x7d\x7d\x7b0\x7d" compiles
  obtain ⟨-, -, moved⟩ := parse_append _ "\x7d" compiles
  obtain ⟨both, joined⟩ := accepted.mpr ⟨second, alone⟩
  exact ⟨first, compiles, ⟨second, both, alone, joined, rendered both second joined alone⟩,
    moved _ refused⟩

end Template

end MessageContracts
