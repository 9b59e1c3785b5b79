import MessageContracts.Proofs.ManifestDocuments
import MessageContracts.Proofs.RecordForms
import MessageContracts.Proofs.TemplateWalk

/-!
# Templates that cannot fail

Compiling cuts a source only where it can be cut, and it goes on behind a placeholder with the
character after its closing brace. Every template, however it was come by, is what its source
compiles to, so rendering it looks up no argument that is not supplied. The entry of a document
that describes a source is the template that compiling the source gives, or is refused for the same
fault.
-/

namespace MessageContracts

open String (utf8Len)

/-- Whether a walk over a source comes to its end without a cut that fails. -/
structure Walk.IsSafe (arity : Nat) (source : String) : Prop where
  /-- No number of turns breaks the walk. -/
  unbroken : ∀ rounds,
    (Turn.onward (Walk.start source.toList)).after arity source.toList rounds ≠ .broken
  /-- With a turn for every character and one more, it ends with what compiling finds. -/
  ended : ∀ rounds, source.toList.length < rounds →
    (Turn.onward (Walk.start source.toList)).after arity source.toList rounds =
      .ended ((Template.compile arity source).map (·.map Segment.loose))
  /-- A turn at a placeholder leaves it at the character behind the closing brace. -/
  resumes : ∀ rounds walk next,
    (Turn.onward (Walk.start source.toList)).after arity source.toList rounds = .onward walk →
    walk.turn arity source.toList = .onward next →
    ∃ position rest, walk.StandsAt source.toList position rest ∧
      ∀ behind, rest = '{' :: behind → (∀ more, behind ≠ '{' :: more) →
        ∃ body more, behind = body ++ '}' :: more ∧ '}' ∉ body ∧
          next.StandsAt source.toList (position + utf8Len ('{' :: (body ++ ['}']))) more

/-- Whether a template is what its source compiles to and can be rendered with any arguments. -/
structure Template.IsSafe {arity : Nat} (template : Template arity) : Prop where
  /-- Its segments are those of its source. -/
  compiled : Template.compile arity template.source = .ok template.segments
  /-- Compiling its source gives the template, and compiling another one does not. -/
  parsed : ∀ source, Template.parse source = .ok template ↔ source = template.source
  /-- So does a node of a document with its source, and no other node. -/
  described : ∀ node, Reader.template node = .ok template ↔ node = .text template.source
  /-- Every argument that it names is supplied. -/
  supplied : ∀ index, .argument index ∈ template.segments.map Segment.loose → index < arity
  /-- Looking up the arguments finds each of them, and gives the rendered text. -/
  rendered : ∀ arguments, ((template.segments.map Segment.loose).mapM
    (LooseSegment.text? arguments)).map String.join = some (template.render arguments)

/-- Whether documents that describe a source are read as compiling the source. -/
structure Template.IsReadAlike (arity : Nat) (source : String) : Prop where
  /-- The source has a spelling in JSON and one in TOML. -/
  spelled : Json.Spelling source (Json.quote source) ∧
    Toml.readText (Toml.writeText source.toList) = some (source.toList, [])
  /-- A JSON document that is a spelling of the source. -/
  json : ∀ document : String, Json.Padded (Json.Spelling source) document.toList →
    Json.decode (Reader.template : Reader (Template arity)) document.toUTF8 =
      (Template.parse source).mapError .template
  /-- A TOML value that is a spelling of the source, wherever it stands. -/
  toml : ∀ bound depth chars rest, Toml.readText chars = some (source.toList, rest) →
    ∃ value, Toml.readValue (bound + 1) depth chars = some (value, rest) ∧
      (Reader.template : Reader (Template arity)) value.node =
        (Template.parse source).mapError .template

section Walks

variable (arity : Nat) (source : String)

/-- However far it has come, a walk from the start of a source has ended or stands in it. -/
theorem Turn.sound_after_start (rounds : Nat) :
    ((onward (Walk.start source.toList)).after arity source.toList rounds).Sound source.toList :=
  sound_after rounds ⟨0, source.toList, Walk.standsAt_start source.toList⟩

/-- Every walk is safe. -/
theorem Walk.isSafe : Walk.IsSafe arity source where
  unbroken rounds broken := by
    have sound := Turn.sound_after_start arity source rounds
    rw [broken] at sound
    exact sound
  ended _ enough := Turn.after_start arity source enough
  resumes rounds walk next reached turned := by
    have sound := Turn.sound_after_start arity source rounds
    rw [reached] at sound
    obtain ⟨position, rest, stands⟩ := sound
    refine ⟨position, rest, stands, ?_⟩
    rintro behind rfl single
    have goes := @Walk.goes_turn arity _ _ _ _ stands
    rw [turned] at goes
    cases goes with
    | doubled => exact absurd rfl (single _)
    | plain noOpening => exact absurd rfl noOpening
    | @argument body more index _ bodyOpen _ =>
      refine ⟨body, more, rfl, bodyOpen, ?_⟩
      rw [utf8Len_placeholder]
      exact stands.behind_placeholder rfl

end Walks

section Templates

variable {arity : Nat}

/-- The text of a segment is found among the arguments. -/
theorem LooseSegment.text?_loose (arguments : Vector String arity) (segment : Segment arity) :
    segment.loose.text? arguments = some (Template.segmentText arguments segment) := by
  cases segment with
  | literal text => rfl
  | argument index => exact Vector.getElem?_eq_getElem index.isLt

/-- Every template is safe. -/
theorem Template.isSafe (template : Template arity) : template.IsSafe where
  compiled := template.compiled
  parsed source := by
    constructor
    · exact fun parsed => (source_of_parse parsed).symm
    · rintro rfl
      exact parse_source template
  described node := by
    constructor
    · intro read
      cases node with
      | text value =>
        have result : (parse value : Except TemplateError (Template arity)).mapError
            DocumentFault.template = .ok template := read
        cases parsed : (parse value : Except TemplateError (Template arity)) with
        | ok other =>
          rw [parsed] at result
          cases result
          rw [source_of_parse parsed]
        | error error =>
          rw [parsed] at result
          cases result
      | _ => cases read
    · rintro rfl
      exact Reader.template_source template
  supplied index named := by
    obtain ⟨segment, listed, same⟩ := List.mem_map.mp named
    cases segment with
    | literal text => cases same
    | argument supplied =>
      cases same
      exact supplied.isLt
  rendered arguments := by
    have found : LooseSegment.text? arguments ∘ Segment.loose =
        fun segment => some (segmentText arguments segment) :=
      funext (LooseSegment.text?_loose arguments)
    rw [List.mapM_map, found]
    exact congrArg _ List.mapM_pure

/-- What describes a source is read as the source. -/
theorem Template.isReadAlike (arity : Nat) (source : String) :
    Template.IsReadAlike arity source where
  spelled := by
    have written := @Toml.readText_writeText [] source.toList nofun nofun
    rw [List.append_nil] at written
    exact ⟨Json.spelling_quote source, written⟩
  json document written := by
    obtain ⟨before, middle, after, leading, spelling, trailing, same⟩ := written
    have reads := (Json.ReadsAs.spelling spelling).padded leading trailing
    have described := Json.decode_toUTF8 (Reader.template : Reader (Template arity)) reads
    rw [← same, String.ofList_toList] at described
    exact described
  toml bound depth chars rest read := by
    refine ⟨_, Toml.readValue_of_readText bound depth read, ?_⟩
    rw [String.ofList_toList]
    rfl

end Templates

/-- Neither compiling nor rendering can fail in the middle. For every source, the walk that cuts it
up is safe, and JSON and TOML documents that describe it are read as compiling it. Every template is
safe, whichever of the ways gave it. -/
theorem Template.compile_render_safe (arity : Nat) :
    (∀ source, Walk.IsSafe arity source ∧ Template.IsReadAlike arity source) ∧
      ∀ template : Template arity, template.IsSafe :=
  ⟨fun source => ⟨Walk.isSafe arity source, Template.isReadAlike arity source⟩, Template.isSafe⟩

/-- A placeholder between a character of two bytes and a doubled brace. -/
def accentedPlaceholder : String := "é\x7b0\x7d\x7d\x7d"

/-- Its walk ends in time, an escaped JSON text and a TOML text with a comment behind it are read as
the source, and the only argument is looked up. -/
theorem Template.compile_render_safe_accentedPlaceholder :
    (Turn.onward (Walk.start accentedPlaceholder.toList)).after 1 accentedPlaceholder.toList 7 =
        .ended (.ok [.literal "é", .argument 0, .literal "\x7d"]) ∧
      Json.Padded (Json.Spelling accentedPlaceholder)
        " \"\\u00e9\x7b0\x7d\x7d\x7d\"".toList ∧
      Json.decode (Reader.template : Reader (Template 1))
          " \"\\u00e9\x7b0\x7d\x7d\x7d\"".toUTF8 =
        (Template.parse accentedPlaceholder).mapError .template ∧
      (∃ value, Toml.readValue 1 0 "'é\x7b0\x7d\x7d\x7d' # kept".toList =
          some (value, " # kept".toList) ∧
        (Reader.template : Reader (Template 1)) value.node =
          (Template.parse accentedPlaceholder).mapError .template) ∧
      ∃ template : Template 1, Template.parse accentedPlaceholder = .ok template ∧
        ∀ arguments, ((template.segments.map Segment.loose).mapM
          (LooseSegment.text? arguments)).map String.join = some (template.render arguments) := by
  obtain ⟨sources, templates⟩ := Template.compile_render_safe 1
  obtain ⟨walks, reads⟩ := sources accentedPlaceholder
  have accent : Json.PieceText (.unit (((0 * 16 + 0) * 16 + 14) * 16 + 9)) "\\u00e9".toList :=
    .unit (.inl rfl) (.inl rfl) (.inl rfl) (.inl rfl)
  obtain ⟨pieces, written, amount⟩ := Json.exists_piecesText_flatMap "\x7b0\x7d\x7d\x7d".toList
  have spelling : Json.Padded (Json.Spelling accentedPlaceholder)
      " \"\\u00e9\x7b0\x7d\x7d\x7d\"".toList :=
    ⟨[' '], _, [], List.forall_mem_singleton.mpr (.inl rfl),
      ⟨_, ⟨_, .cons accent written, rfl⟩, .unit (.inl (by decide)) amount⟩, .nil, rfl⟩
  refine ⟨?_, spelling, reads.json _ spelling, reads.toml 0 0 _ _ ?_, ?_⟩
  · rw [walks.ended 7 (by decide)]
    rfl
  · rfl
  · have compiles : (Template.compile 1 accentedPlaceholder).isOk := by decide
    exact ⟨Template.ofSource accentedPlaceholder compiles,
      ((templates _).parsed _).mpr rfl, (templates _).rendered⟩

end MessageContracts
