import MessageContracts.Proofs.TemplateScan
import MessageContracts.Proofs.TextCuts

/-!
# Compiling by cuts in the source

A source can also be compiled by a walk over its characters that knows at which byte each of them
begins and cuts the body of a placeholder out of the source at bytes. A cut inside a character or
beyond the end would break the walk. Every turn leaves the walk standing at the first byte of a
character with as much to find as before, so for no source does it break, and it finds what
compiling finds.
-/

namespace MessageContracts

open String (utf8Len utf8Len_append utf8Len_cons utf8Len_nil)

namespace Text

/-- Characters with the bytes at which they begin, the first of them at `position`. -/
def indexed : Nat → List Char → List (Nat × Char)
  | _, [] => []
  | position, c :: rest => (position, c) :: indexed (position + c.utf8Size) rest

/-- Where nothing is indexed, there is no character. -/
theorem eq_nil_of_indexed_eq_nil {position : Nat} {text : List Char}
    (none_there : indexed position text = []) : text = [] := by
  cases text with
  | nil => rfl
  | cons c rest => cases none_there

/-- The first character is at the position itself, and the others are behind it. -/
theorem exists_of_indexed_eq_cons {position first : Nat} {text : List Char} {c : Char}
    {behind : List (Nat × Char)} (shape : indexed position text = (first, c) :: behind) :
    ∃ rest, text = c :: rest ∧ first = position ∧
      behind = indexed (position + c.utf8Size) rest := by
  cases text with
  | nil => cases shape
  | cons d rest =>
    cases shape
    exact ⟨rest, rfl, rfl, rfl⟩

/-- The number of bytes before the first occurrence of a character. -/
def bytesBefore? (mark : Char) : List Char → Option Nat
  | [] => none
  | c :: rest => if c = mark then some 0 else (bytesBefore? mark rest).map (c.utf8Size + ·)

/-- Without an occurrence, there are no bytes before the first one. -/
theorem bytesBefore?_of_not_mem {mark : Char} {text : List Char} (absent : mark ∉ text) :
    bytesBefore? mark text = none := by
  induction text with
  | nil => rfl
  | cons c text ih =>
    have other : c ≠ mark := fun same => absurd (same ▸ List.mem_cons_self) absent
    rw [bytesBefore?, if_neg other, ih (List.not_mem_of_not_mem_cons absent)]
    rfl

/-- The bytes before the first occurrence are those of the part before it. -/
theorem bytesBefore?_append {mark : Char} {text : List Char} (absent : mark ∉ text)
    (rest : List Char) : bytesBefore? mark (text ++ mark :: rest) = some (utf8Len text) := by
  induction text with
  | nil => exact if_pos rfl
  | cons c text ih =>
    have other : c ≠ mark := fun same => absurd (same ▸ List.mem_cons_self) absent
    rw [List.cons_append, bytesBefore?, if_neg other, ih (List.not_mem_of_not_mem_cons absent),
      Option.map_some, utf8Len_cons, Nat.add_comm]

/-- What begins at or before the byte of a character goes with it, and what is behind it stays. -/
theorem dropWhile_indexed (position : Nat) (text : List Char) (last : Char) (rest : List Char) :
    (indexed position (text ++ last :: rest)).dropWhile (·.1 ≤ position + utf8Len text) =
      indexed (position + utf8Len text + last.utf8Size) rest := by
  induction text generalizing position with
  | nil =>
    have wide := last.utf8Size_pos
    rw [List.nil_append, indexed, utf8Len_nil, Nat.add_zero, List.dropWhile_cons_of_pos]
    · cases rest with
      | nil => rfl
      | cons next rest =>
        rw [indexed, List.dropWhile_cons_of_neg]
        simp only [decide_eq_true_eq]
        omega
    · exact decide_eq_true (Nat.le_refl position)
  | cons c text ih =>
    have place := add_utf8Len_cons position c text
    rw [List.cons_append, indexed, place, List.dropWhile_cons_of_pos, ih]
    simp only [decide_eq_true_eq]
    omega

end Text

/-- A piece of a template that may name an argument which is never supplied. -/
inductive LooseSegment where
  /-- Text that is copied. -/
  | literal (text : String)
  /-- The argument with this index, if there is one. -/
  | argument (index : Nat)

/-- The segment, no longer knowing that its argument is supplied. -/
def Segment.loose {arity : Nat} : Segment arity → LooseSegment
  | .literal text => .literal text
  | .argument index => .argument index

/-- The text of a piece, if its argument is supplied. -/
def LooseSegment.text? {arity : Nat} (arguments : Vector String arity) :
    LooseSegment → Option String
  | literal text => some text
  | argument index => arguments[index]?

/-- Where a walk over a source stands. -/
structure Walk where
  /-- The characters ahead, with the bytes at which they begin. -/
  ahead : List (Nat × Char)
  /-- The text gathered since the last placeholder. -/
  literal : String
  /-- The pieces found before that text. -/
  found : List LooseSegment

/-- What comes of a turn of a walk. -/
inductive Turn where
  /-- The walk goes on. -/
  | onward (walk : Walk)
  /-- The walk is at its end. -/
  | ended (result : Except TemplateFault (List LooseSegment))
  /-- The source was to be cut where it cannot be cut. -/
  | broken

namespace Walk

/-- The walk before its first turn. -/
def start (source : List Char) : Walk := ⟨Text.indexed 0 source, "", []⟩

/-- The pieces found, with the gathered text behind them unless it is empty. -/
def pieces (walk : Walk) : List LooseSegment :=
  if walk.literal = "" then walk.found else walk.found ++ [.literal walk.literal]

/-- Gather a character and leave these ahead. -/
def gather (walk : Walk) (c : Char) (ahead : List (Nat × Char)) : Turn :=
  .onward ⟨ahead, walk.literal.push c, walk.found⟩

/-- The turn at the brace that opens a placeholder at byte `position`: its body is cut out of the
source, and everything up to its closing brace is skipped. -/
def placeholder (arity : Nat) (source : List Char) (walk : Walk) (position : Nat)
    (ahead : List (Nat × Char)) : Turn :=
  let first := position + 1
  match Text.dropBytes? first source with
  | none => .broken
  | some behind =>
    match Text.bytesBefore? '}' behind with
    | none => .ended (.error (.unclosedPlaceholder position))
    | some length =>
      match Text.between? first (first + length) source with
      | none => .broken
      | some body =>
        match Template.placeholderIndex? body with
        | none => .ended (.error (.invalidPlaceholder (String.ofList body)))
        | some index =>
          if arity ≤ index then .ended (.error (.placeholderOutOfRange index arity))
          else .onward ⟨ahead.dropWhile (·.1 ≤ first + length), "",
            walk.pieces ++ [.argument index]⟩

/-- One turn of a walk. -/
def turn (arity : Nat) (source : List Char) (walk : Walk) : Turn :=
  match walk.ahead with
  | [] => .ended (.ok walk.pieces)
  | (_, '{') :: (_, '{') :: ahead => walk.gather '{' ahead
  | (position, '{') :: ahead => walk.placeholder arity source position ahead
  | (_, '}') :: (_, '}') :: ahead => walk.gather '}' ahead
  | (position, '}') :: _ => .ended (.error (.unmatchedClosingBrace position))
  | (_, c) :: ahead => walk.gather c ahead

/-- Whether a walk stands at this byte of the source, with `rest` ahead of it. -/
def StandsAt (source : List Char) (walk : Walk) (position : Nat) (rest : List Char) : Prop :=
  ∃ before, before ++ rest = source ∧ utf8Len before = position ∧
    walk.ahead = Text.indexed position rest

/-- What a turn does at byte `position`, with these characters ahead. -/
inductive Goes (arity position : Nat) (walk : Walk) : List Char → Turn → Prop where
  /-- At the end of the source, the walk ends with its pieces. -/
  | done : Goes arity position walk [] (.ended (.ok walk.pieces))
  /-- Of a doubled brace, one is gathered. -/
  | doubled {brace : Char} {rest : List Char} (isBrace : brace = '{' ∨ brace = '}') :
    Goes arity position walk (brace :: brace :: rest)
      (walk.gather brace (Text.indexed (position + 2) rest))
  /-- Any other character is gathered. -/
  | plain {c : Char} {rest : List Char} (noOpening : c ≠ '{') (noClosing : c ≠ '}') :
    Goes arity position walk (c :: rest)
      (walk.gather c (Text.indexed (position + c.utf8Size) rest))
  /-- A closing brace that is not doubled ends the walk. -/
  | closing {rest : List Char} (single : ∀ more, rest ≠ '}' :: more) :
    Goes arity position walk ('}' :: rest) (.ended (.error (.unmatchedClosingBrace position)))
  /-- So does an opening brace with no closing one behind it. -/
  | unclosed {rest : List Char} (single : ∀ more, rest ≠ '{' :: more) (openEnd : '}' ∉ rest) :
    Goes arity position walk ('{' :: rest) (.ended (.error (.unclosedPlaceholder position)))
  /-- So does a placeholder whose body names no argument. -/
  | refused {body rest : List Char} {fault : TemplateFault}
    (single : ∀ more, body ++ '}' :: rest ≠ '{' :: more) (bodyOpen : '}' ∉ body)
    (names : Template.argument? arity body = .error fault) :
    Goes arity position walk ('{' :: (body ++ '}' :: rest)) (.ended (.error fault))
  /-- A placeholder for an argument is found, and the walk goes on behind its closing brace. -/
  | argument {body rest : List Char} {index : Fin arity}
    (single : ∀ more, body ++ '}' :: rest ≠ '{' :: more) (bodyOpen : '}' ∉ body)
    (names : Template.argument? arity body = .ok index) :
    Goes arity position walk ('{' :: (body ++ '}' :: rest))
      (.onward ⟨Text.indexed (position + 1 + utf8Len body + 1) rest, "",
        walk.pieces ++ [.argument index]⟩)

section Turns

variable {arity position : Nat} {source rest : List Char} {walk : Walk}

/-- No cut fails at a placeholder: the walk finds its end and its body, and skips both. -/
theorem goes_placeholder {behind : List Char} (single : ∀ more, behind ≠ '{' :: more)
    (stands : walk.StandsAt source position ('{' :: behind)) :
    Goes arity position walk ('{' :: behind)
      (walk.placeholder arity source position (Text.indexed (position + 1) behind)) := by
  obtain ⟨before, whole, place, -⟩ := stands
  have opened : utf8Len (before ++ ['{']) = position + 1 := by
    rw [utf8Len_append, place]
    rfl
  have split : (before ++ ['{']) ++ behind = source := by
    rw [List.append_assoc, List.singleton_append, whole]
  have dropped : Text.dropBytes? (position + 1) source = some behind := by
    rw [← opened, ← split]
    exact (Text.cut_append _ behind).2
  rw [placeholder]
  simp only [dropped]
  by_cases closed : '}' ∈ behind
  · obtain ⟨body, rest, rfl, bodyOpen⟩ := List.eq_append_cons_of_mem closed
    have cut : Text.between? (position + 1) (position + 1 + utf8Len body) source = some body := by
      rw [← opened, ← split]
      exact Text.between?_append _ body _
    have behindBrace := Text.dropWhile_indexed (position + 1) body '}' rest
    simp only [Text.bytesBefore?_append bodyOpen, cut, behindBrace]
    cases named : Template.placeholderIndex? body with
    | none => exact .refused single bodyOpen (by rw [Template.argument?, named])
    | some index =>
      by_cases supplied : index < arity
      · have names : Template.argument? arity body = .ok ⟨index, supplied⟩ := by
          rw [Template.argument?, named]
          exact dif_pos supplied
        simp only [if_neg (Nat.not_le.mpr supplied)]
        exact .argument single bodyOpen names
      · have names : Template.argument? arity body =
            .error (.placeholderOutOfRange index arity) := by
          rw [Template.argument?, named]
          exact dif_neg supplied
        simp only [if_pos (Nat.le_of_not_lt supplied)]
        exact .refused single bodyOpen names
  · simp only [Text.bytesBefore?_of_not_mem closed]
    exact .unclosed single closed

/-- A turn goes as it should from wherever the walk stands. -/
theorem goes_turn (stands : walk.StandsAt source position rest) :
    Goes arity position walk rest (walk.turn arity source) := by
  obtain ⟨before, whole, place, ahead⟩ := stands
  unfold turn
  split
  case h_1 ended =>
    obtain rfl := Text.eq_nil_of_indexed_eq_nil (ahead.symm.trans ended)
    exact .done
  case h_2 first second behind shape =>
    obtain ⟨rest, rfl, rfl, shape⟩ := Text.exists_of_indexed_eq_cons (ahead.symm.trans shape)
    obtain ⟨rest, rfl, rfl, rfl⟩ := Text.exists_of_indexed_eq_cons shape.symm
    exact .doubled (.inl rfl)
  case h_3 first behind single shape =>
    obtain ⟨rest, rfl, rfl, rfl⟩ := Text.exists_of_indexed_eq_cons (ahead.symm.trans shape)
    refine goes_placeholder ?_ ⟨before, whole, place, ahead⟩
    rintro more rfl
    exact single _ _ rfl
  case h_4 first second behind shape =>
    obtain ⟨rest, rfl, rfl, shape⟩ := Text.exists_of_indexed_eq_cons (ahead.symm.trans shape)
    obtain ⟨rest, rfl, rfl, rfl⟩ := Text.exists_of_indexed_eq_cons shape.symm
    exact .doubled (.inr rfl)
  case h_5 first behind single shape =>
    obtain ⟨rest, rfl, rfl, rfl⟩ := Text.exists_of_indexed_eq_cons (ahead.symm.trans shape)
    refine .closing ?_
    rintro more rfl
    exact single _ _ rfl
  case h_6 first c behind _ noOpening _ noClosing shape =>
    obtain ⟨rest, rfl, rfl, rfl⟩ := Text.exists_of_indexed_eq_cons (ahead.symm.trans shape)
    exact .plain noOpening noClosing

/-- A walk that has left a part of the source behind stands behind that part. -/
theorem StandsAt.behind (consumed : List Char)
    (stands : walk.StandsAt source position (consumed ++ rest)) {later : Nat}
    (place : position + utf8Len consumed = later) {next : Walk}
    (ahead : next.ahead = Text.indexed later rest) : next.StandsAt source later rest := by
  obtain ⟨before, whole, at_before, -⟩ := stands
  refine ⟨before ++ consumed, ?_, ?_, ahead⟩
  · rw [List.append_assoc, whole]
  · rw [utf8Len_append, at_before, place]

/-- A walk before its first turn stands at the first byte. -/
theorem standsAt_start (source : List Char) : (start source).StandsAt source 0 source :=
  ⟨[], rfl, rfl, rfl⟩

/-- Two braces are two bytes. -/
theorem utf8Len_braces {brace : Char} (isBrace : brace = '{' ∨ brace = '}') :
    utf8Len [brace, brace] = 2 := by
  rcases isBrace with rfl | rfl <;> rfl

/-- A placeholder has two bytes more than its body. -/
theorem utf8Len_placeholder (position : Nat) (body : List Char) :
    position + utf8Len ('{' :: (body ++ ['}'])) = position + 1 + utf8Len body + 1 := by
  rw [Text.add_utf8Len_cons, utf8Len_append, ← Nat.add_assoc]
  rfl

/-- A walk that has left a placeholder behind stands at the character behind its closing brace. -/
theorem StandsAt.behind_placeholder {body : List Char}
    (stands : walk.StandsAt source position ('{' :: (body ++ '}' :: rest))) {next : Walk}
    (ahead : next.ahead = Text.indexed (position + 1 + utf8Len body + 1) rest) :
    next.StandsAt source (position + 1 + utf8Len body + 1) rest := by
  have split : '{' :: (body ++ '}' :: rest) = '{' :: (body ++ ['}']) ++ rest := by
    rw [List.cons_append, List.append_assoc, List.singleton_append]
  rw [split] at stands
  exact stands.behind _ (utf8Len_placeholder position body) ahead

/-- What a walk is to find, at byte `position` and with these characters ahead: its own pieces and
the segments of the tokens that a scan finds from there on. -/
def result (arity : Nat) (walk : Walk) (position : Nat) (rest : List Char) :
    Except TemplateFault (List LooseSegment) :=
  (Template.scan arity .text position rest).map fun tokens =>
    walk.found ++ (Template.assemble walk.literal.toList.reverse tokens).map Segment.loose

/-- The gathered text is a literal unless it is empty. -/
theorem pieces_eq (arity : Nat) (walk : Walk) : walk.pieces = walk.found ++
    (Template.literal? walk.literal.toList.reverse : List (Segment arity)).map Segment.loose := by
  obtain ⟨ahead, literal, found⟩ := walk
  by_cases blank : literal = ""
  · subst blank
    exact (List.append_nil found).symm
  · rw [pieces, if_neg blank, Template.literal?, List.reverse_reverse, String.ofList_toList]
    · rfl
    · exact fun none_there =>
        blank (String.toList_eq_nil_iff.mp (List.reverse_eq_nil_iff.mp none_there))

/-- Gathering the character that a scan finds leaves as much to be found. -/
theorem result_gather {c : Char} {later : Nat} {behind : List Char} {next : Walk}
    (gathers : walk.gather c (Text.indexed later behind) = .onward next)
    (finds : Template.scan arity .text position rest =
      (do return .char c :: (← Template.scan arity .text later behind))) :
    next.result arity later behind = walk.result arity position rest := by
  cases gathers
  rw [result, result, finds]
  have gathered : (walk.literal.push c).toList.reverse = c :: walk.literal.toList.reverse := by
    rw [String.toList_push, List.reverse_append]
    rfl
  simp only [gathered]
  cases Template.scan arity .text later behind <;> rfl

/-- A walk that ends has found what it is to find. -/
theorem Goes.ended_eq {result : Except TemplateFault (List LooseSegment)}
    (goes : Goes arity position walk rest (.ended result)) :
    result = walk.result arity position rest := by
  cases goes with
  | done =>
    rw [Walk.result, Template.scan, pieces_eq arity]
    rfl
  | @closing rest single =>
    rw [Walk.result, Template.scan]
    · rfl
    · exact single
  | @unclosed rest single openEnd =>
    rw [Walk.result, Template.scan_unclosed position single openEnd]
    rfl
  | @refused body rest fault single bodyOpen names =>
    rw [Walk.result, Template.scan_placeholder position single bodyOpen, names]
    rfl

/-- A walk that goes on stands further on in the source, with less ahead and as much to find. -/
theorem Goes.exists_onward {next : Walk} (stands : walk.StandsAt source position rest)
    (goes : Goes arity position walk rest (.onward next)) :
    ∃ later behind, next.StandsAt source later behind ∧ behind.length < rest.length ∧
      next.result arity later behind = walk.result arity position rest := by
  cases goes with
  | @doubled brace behind isBrace =>
    have wide := congrArg (position + ·) (utf8Len_braces isBrace)
    refine ⟨position + 2, behind, StandsAt.behind [brace, brace] stands wide rfl, ?_,
      result_gather rfl ?_⟩
    · rw [List.length_cons, List.length_cons]
      omega
    · rcases isBrace with rfl | rfl <;> rw [Template.scan]
  | @plain c behind noOpening noClosing =>
    have wide : position + utf8Len [c] = position + c.utf8Size := by
      rw [utf8Len_cons, utf8Len_nil, Nat.zero_add]
    refine ⟨position + c.utf8Size, behind, StandsAt.behind [c] stands wide rfl,
      Nat.lt_succ_self _, result_gather rfl ?_⟩
    rw [Template.scan]
    · exact fun _ same _ => noOpening same
    · exact noOpening
    · exact fun _ same _ => noClosing same
    · exact noClosing
  | @argument body behind index single bodyOpen names =>
    refine ⟨position + 1 + utf8Len body + 1, behind, stands.behind_placeholder rfl, ?_, ?_⟩
    · rw [List.length_cons, List.length_append, List.length_cons]
      omega
    · rw [Walk.result, Walk.result, Template.scan_placeholder position single bodyOpen, names]
      cases Template.scan arity .text (position + 1 + utf8Len body + 1) behind with
      | error fault => rfl
      | ok tokens =>
        have joined : walk.pieces ++ [.argument index] ++
            (Template.assemble [] tokens).map Segment.loose = walk.found ++
              (Template.assemble walk.literal.toList.reverse
                (.argument index :: tokens)).map Segment.loose := by
          rw [pieces_eq arity, Template.assemble, List.map_append, List.map_cons,
            List.append_assoc, List.append_assoc]
          rfl
        exact congrArg Except.ok joined

end Turns

end Walk

namespace Turn

/-- What comes of so many turns more. -/
def after (arity : Nat) (source : List Char) : Nat → Turn → Turn
  | 0, turn => turn
  | rounds + 1, .onward walk => after arity source rounds (walk.turn arity source)
  | _ + 1, turn => turn

/-- Whether the walk has ended or stands somewhere in the source. -/
def Sound (source : List Char) : Turn → Prop
  | onward walk => ∃ position rest, walk.StandsAt source position rest
  | ended _ => True
  | broken => False

variable {arity : Nat} {source : List Char}

/-- A walk that has ended stays as it is. -/
theorem after_ended (rounds : Nat) (result : Except TemplateFault (List LooseSegment)) :
    (ended result).after arity source rounds = .ended result := by
  cases rounds <;> rfl

/-- A turn never breaks a walk that stands in the source. -/
theorem sound_turn {walk : Walk} {position : Nat} {rest : List Char}
    (stands : walk.StandsAt source position rest) : (walk.turn arity source).Sound source := by
  have goes := @Walk.goes_turn arity _ _ _ _ stands
  cases went : walk.turn arity source with
  | onward next =>
    rw [went] at goes
    obtain ⟨later, behind, further, -⟩ := goes.exists_onward stands
    exact ⟨later, behind, further⟩
  | ended result => trivial
  | broken =>
    rw [went] at goes
    cases goes

/-- No number of turns breaks a walk that stands in the source. -/
theorem sound_after (rounds : Nat) {turn : Turn} (sound : turn.Sound source) :
    (turn.after arity source rounds).Sound source := by
  induction rounds generalizing turn with
  | zero => exact sound
  | succ rounds ih =>
    cases turn with
    | onward walk =>
      obtain ⟨position, rest, stands⟩ := sound
      exact ih (sound_turn stands)
    | ended result => trivial
    | broken => exact sound

/-- With a turn for every character ahead and one more, a walk finds what it is to find. -/
theorem after_onward {rounds : Nat} {walk : Walk} {position : Nat} {rest : List Char}
    (stands : walk.StandsAt source position rest) (enough : rest.length < rounds) :
    (onward walk).after arity source rounds = .ended (walk.result arity position rest) := by
  induction rounds generalizing walk position rest with
  | zero => exact absurd enough (Nat.not_lt_zero _)
  | succ rounds ih =>
    have goes := @Walk.goes_turn arity _ _ _ _ stands
    rw [after]
    generalize walk.turn arity source = turn at goes
    cases turn with
    | onward next =>
      obtain ⟨later, behind, further, less, same⟩ := goes.exists_onward stands
      rw [ih further (by omega), same]
    | ended result => rw [after_ended, goes.ended_eq]
    | broken => cases goes

/-- A walk that is given enough turns finds what compiling finds. -/
theorem after_start (arity : Nat) (source : String) {rounds : Nat}
    (enough : source.toList.length < rounds) :
    (onward (Walk.start source.toList)).after arity source.toList rounds =
      .ended ((Template.compile arity source).map (·.map Segment.loose)) := by
  rw [after_onward (Walk.standsAt_start source.toList) enough, Walk.result, Template.compile]
  cases Template.scan arity .text 0 source.toList <;> rfl

end Turn

end MessageContracts
