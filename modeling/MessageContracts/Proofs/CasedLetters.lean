import Mathlib.Data.List.Chain
import MessageContracts.Spelling

/-!
# Letters and their cases

What the case tables do to all characters is found out entry by entry. The entries are in ascending
order, so that for a run of code points only the few entries are looked at that reach into it. A
capital, with which every upper-case mapping begins, is in no entry of the upper-case tables, and
but for six letters a capital comes back when its small letter is mapped to upper case.
-/

namespace MessageContracts

namespace Text

namespace CaseRun

variable {run : CaseRun} {runs : List CaseRun} {code low high : Nat}

/-- One code point, which stays where it is. -/
def single (code : Nat) : CaseRun := ⟨code, code, 1, 0⟩

/-- The code points to which a run moves its own, with the move back. -/
def image (run : CaseRun) : CaseRun :=
  let landing := (run.first + run.shift).toNat
  ⟨landing, landing + (run.last - run.first), run.step, -run.shift⟩

/-- The code points of a run. -/
def codes (run : CaseRun) : List Nat :=
  (List.range ((run.last - run.first) / run.step + 1)).map (run.first + · * run.step)

/-- Whether the interval of a run holds characters only. -/
def isText (run : CaseRun) : Bool :=
  run.last < 0xD800 || (0xDFFF < run.first && run.last < 0x110000)

/-- Those of some ascending runs that reach into an interval of code points. -/
def within (low high : Nat) : List CaseRun → List CaseRun
  | [] => []
  | run :: rest =>
    bif Nat.ble low run.last then
      bif Nat.ble run.first high then run :: within low high rest else []
    else within low high rest

/-- What it means to be covered by a run. -/
theorem covers_iff : run.covers code = true ↔
    run.first ≤ code ∧ code ≤ run.last ∧ (code - run.first) % run.step = 0 := by
  simp only [covers, Bool.and_eq_true, decide_eq_true_eq, beq_iff_eq, and_assoc]

/-- A single code point covers itself and nothing else. -/
theorem covers_single_iff {other : Nat} : (single code).covers other = true ↔ other = code := by
  refine covers_iff.trans ⟨fun covered => ?_, fun same => ?_⟩
  · exact Nat.le_antisymm covered.2.1 covered.1
  · exact ⟨same.ge, same.le, Nat.mod_one _⟩

/-- What a run covers is among its code points. -/
theorem mem_codes (covered : run.covers code = true) : code ∈ run.codes := by
  obtain ⟨above, below, fits⟩ := covers_iff.mp covered
  have whole : (code - run.first) / run.step * run.step = code - run.first :=
    Nat.div_mul_cancel (Nat.dvd_of_mod_eq_zero fits)
  refine List.mem_map.mpr ⟨(code - run.first) / run.step, ?_, ?_⟩
  · have early : (code - run.first) / run.step ≤ (run.last - run.first) / run.step :=
      Nat.div_le_div_right (Nat.sub_le_sub_right below _)
    exact List.mem_range.mpr (Nat.lt_succ_of_le early)
  · rw [whole]
    omega

/-- A run moves what it covers to what its image covers. -/
theorem covers_image (positive : 0 ≤ run.first + run.shift) (covered : run.covers code = true) :
    run.image.covers (code + run.shift).toNat = true := by
  obtain ⟨above, below, fits⟩ := covers_iff.mp covered
  have moved : (code + run.shift).toNat = (run.first + run.shift).toNat + (code - run.first) := by
    omega
  refine covers_iff.mpr ⟨?_, ?_, ?_⟩
  · rw [moved]
    exact Nat.le_add_right _ _
  · rw [moved]
    exact Nat.add_le_add_left (Nat.sub_le_sub_right below _) _
  · rw [moved]
    exact (congrArg (· % run.step) (Nat.add_sub_cancel_left ..)).trans fits

/-- The characters of a run of characters have its code points. -/
theorem toNat_ofNat (text : run.isText = true) (covered : run.covers code = true) :
    (Char.ofNat code).toNat = code := by
  obtain ⟨above, below, -⟩ := covers_iff.mp covered
  simp only [isText, Bool.or_eq_true, Bool.and_eq_true, decide_eq_true_eq] at text
  have valid : code.isValidChar := by
    rcases text with low | ⟨high, inside⟩
    · exact .inl (lt_of_le_of_lt below low)
    · exact .inr ⟨lt_of_lt_of_le high above, lt_of_le_of_lt below inside⟩
  rw [Char.ofNat, dif_pos valid]
  rfl

/-- A code point of an interval is looked up among ascending runs by looking at those that reach
into the interval. -/
theorem find?_within (ascending : runs.Pairwise (·.first ≤ ·.first)) (above : low ≤ code)
    (below : code ≤ high) :
    (within low high runs).find? (·.covers code) = runs.find? (·.covers code) := by
  induction runs with
  | nil => rfl
  | cons run rest ih =>
    obtain ⟨least, ascending⟩ := List.pairwise_cons.mp ascending
    rw [within]
    cases reaches : Nat.ble low run.last with
    | false =>
      have short : run.covers code = false := by
        rw [← Bool.not_eq_true, covers_iff]
        intro covered
        rw [Nat.ble_eq_true_of_le (above.trans covered.2.1)] at reaches
        cases reaches
      rw [cond_false, ih ascending, List.find?_cons, short]
    | true =>
      cases starts : Nat.ble run.first high with
      | false =>
        -- This run begins beyond the interval, and so do all that come after it.
        symm
        rw [cond_true, cond_false, List.find?_nil, List.find?_eq_none]
        intro other listed covered
        have first : run.first ≤ other.first := by
          rcases List.mem_cons.mp listed with rfl | later
          · exact le_rfl
          · exact least other later
        have early := first.trans ((covers_iff.mp covered).1.trans below)
        rw [Nat.ble_eq_true_of_le early] at starts
        cases starts
      | true =>
        rw [cond_true, cond_true, List.find?_cons, List.find?_cons, ih ascending]

end CaseRun

/-- A character that no entry of the tables is about. -/
structure Unlisted (runs : List CaseRun) (expansions : List (Nat × List Nat)) (c : Char) :
    Prop where
  /-- No run covers it. -/
  uncovered : runs.find? (·.covers c.toNat) = none
  /-- It has no expansion. -/
  unexpanded : expansions.lookup c.toNat = none

/-- The code points that have an expansion. -/
def expanded (expansions : List (Nat × List Nat)) : List CaseRun :=
  expansions.map fun entry => .single entry.1

section Tables

variable {runs : List CaseRun} {expansions : List (Nat × List Nat)} {c : Char}

/-- A code point is looked up among the expansions as it is among their code points. -/
theorem find?_expanded_eq_none_iff {code : Nat} :
    (expanded expansions).find? (·.covers code) = none ↔ expansions.lookup code = none := by
  rw [expanded, List.find?_eq_none, List.forall_mem_map, List.lookup_eq_none_iff]
  refine forall₂_congr fun entry _ => ?_
  rw [CaseRun.covers_single_iff, bne_iff_ne]

/-- A character that is in no entry is mapped to itself. -/
theorem mapCase_of_unlisted (unlisted : Unlisted runs expansions c) :
    mapCase runs expansions c = [c] := by
  rw [mapCase, unlisted.unexpanded]
  dsimp only
  rw [unlisted.uncovered]

/-- A character that has no expansion is moved by the run that covers it. -/
theorem mapCase_of_find? {run : CaseRun} (unexpanded : expansions.lookup c.toNat = none)
    (found : runs.find? (·.covers c.toNat) = some run) :
    mapCase runs expansions c = [Char.ofNat (c.toNat + run.shift).toNat] := by
  rw [mapCase, unexpanded]
  dsimp only
  rw [found]

/-- A character has an expansion, or is moved by a run, or is in no entry. -/
theorem mapCase_cases (runs : List CaseRun) (expansions : List (Nat × List Nat)) (c : Char) :
    (∃ codes, (c.toNat, codes) ∈ expansions ∧
      mapCase runs expansions c = codes.map Char.ofNat) ∨
    (∃ run ∈ runs, run.covers c.toNat = true ∧
      mapCase runs expansions c = [Char.ofNat (c.toNat + run.shift).toNat]) ∨
    Unlisted runs expansions c := by
  cases unexpanded : expansions.lookup c.toNat with
  | some codes =>
    obtain ⟨before, after, same, -⟩ := List.lookup_eq_some_iff.mp unexpanded
    refine .inl ⟨codes, by rw [same]; simp, ?_⟩
    rw [mapCase, unexpanded]
  | none =>
    cases found : runs.find? (·.covers c.toNat) with
    | some run =>
      have covered := List.find?_some found
      exact .inr (.inl ⟨run, List.mem_of_find?_eq_some found, covered,
        mapCase_of_find? unexpanded found⟩)
    | none => exact .inr (.inr ⟨found, unexpanded⟩)

/-- A code point that is no character gives the character of code point zero. -/
theorem toNat_ofNat_eq_or (n : Nat) : (Char.ofNat n).toNat = n ∨ (Char.ofNat n).toNat = 0 := by
  by_cases valid : n.isValidChar
  · left
    rw [Char.ofNat, dif_pos valid]
    rfl
  · right
    rw [Char.ofNat, dif_neg valid]
    rfl

/-- Whether a code point, other than zero, is in no image of a run and in no expansion. -/
def isUnreached (code : Nat) (runs : List CaseRun) (expansions : List (Nat × List Nat)) : Bool :=
  decide (0 < code)
    && runs.all (fun run => decide (0 ≤ run.first + run.shift) &&
      (decide (run.image.last < code) || decide (code < run.image.first)))
    && expansions.all fun entry => !entry.2.contains code

/-- A character that the tables do not reach is what it is mapped from. -/
theorem eq_of_mem_mapCase {d : Char} (unreached : isUnreached d.toNat runs expansions = true)
    (mapped : d ∈ mapCase runs expansions c) : d = c := by
  simp only [isUnreached, Bool.and_eq_true, decide_eq_true_eq, List.all_eq_true,
    Bool.or_eq_true] at unreached
  obtain ⟨⟨positive, apart⟩, unexpanded⟩ := unreached
  have reached (n : Nat) (same : d = Char.ofNat n) : d.toNat = n := by
    rcases toNat_ofNat_eq_or n with valid | zero
    · rw [same, valid]
    · rw [same, zero] at positive
      cases positive
  rcases mapCase_cases runs expansions c with
    ⟨codes, listed, expansion⟩ | ⟨run, listed, covered, moved⟩ | unlisted
  · rw [expansion] at mapped
    obtain ⟨code, member, same⟩ := List.mem_map.mp mapped
    have absent := unexpanded _ listed
    rw [reached code same.symm, List.contains_iff_mem.mpr member] at absent
    cases absent
  · rw [moved] at mapped
    have code := reached _ (List.mem_singleton.mp mapped)
    obtain ⟨positive, beside⟩ := apart run listed
    obtain ⟨above, below, -⟩ := CaseRun.covers_iff.mp (CaseRun.covers_image positive covered)
    omega
  · rw [mapCase_of_unlisted unlisted] at mapped
    exact List.mem_singleton.mp mapped

end Tables

/-- A character that stays as it is in upper case: a capital, a digit, a letter without case. -/
def IsCapital (c : Char) : Prop := Unlisted upperRuns upperExpansions c

/-- A capital is its own upper-case mapping. -/
theorem upperCase_of_isCapital {c : Char} (capital : IsCapital c) : upperCase c = [c] :=
  mapCase_of_unlisted capital

/-- No capital is a small letter of the ASCII alphabet. -/
theorem not_isLower_of_isCapital {c : Char} (capital : IsCapital c) : c.isLower = false := by
  have listed : (⟨0x61, 0x7A, 1, -32⟩ : CaseRun) ∈ upperRuns := List.mem_cons_self
  have uncovered := List.find?_eq_none.mp capital.uncovered _ listed
  cases small : c.isLower with
  | false => rfl
  | true =>
    obtain ⟨above, below⟩ := Bool.and_eq_true_iff.mp small
    exact absurd (CaseRun.covers_iff.mpr ⟨of_decide_eq_true above, of_decide_eq_true below,
      Nat.mod_one _⟩) uncovered

/-- The runs of the upper-case mapping are in ascending order. -/
theorem upperRuns_ascending : upperRuns.Pairwise (·.first ≤ ·.first) := by
  have chain : (upperRuns.map CaseRun.first).IsChain (· ≤ ·) := by decide +kernel
  exact List.pairwise_map.mp (List.isChain_iff_pairwise.mp chain)

/-- So are the code points that have an upper-case expansion. -/
theorem upperExpansions_ascending : (expanded upperExpansions).Pairwise (·.first ≤ ·.first) := by
  have chain : ((expanded upperExpansions).map CaseRun.first).IsChain (· ≤ ·) := by decide +kernel
  exact List.pairwise_map.mp (List.isChain_iff_pairwise.mp chain)

namespace CaseRun

variable {run : CaseRun} {code : Nat}

/-- Whether a code point of a run has no upper-case mapping, when the runs and expansions are looked
at that reach into the run. -/
def keepsCase (run : CaseRun) (code : Nat) : Bool :=
  ((within run.first run.last upperRuns).find? (·.covers code)).isNone
    && ((within run.first run.last (expanded upperExpansions)).find? (·.covers code)).isNone

/-- Whether the upper-case mapping moves a code point of a run as the run does. -/
def agreesWithUpper (run : CaseRun) (code : Nat) : Bool :=
  ((within run.first run.last upperRuns).find? (·.covers code)).any (·.shift == run.shift)
    && ((within run.first run.last (expanded upperExpansions)).find? (·.covers code)).isNone

/-- Whether a run holds capitals only. -/
def isCapital (run : CaseRun) : Bool := run.isText && run.codes.all run.keepsCase

/-- Whether every code point of a run is a stray one, or no capital, or is moved back by the
upper-case mapping from where the run moves it. -/
def comesBack (run : CaseRun) (strays : List Nat) : Bool :=
  decide (0 ≤ run.first + run.shift) && run.image.isText && run.codes.all fun code =>
    run.image.agreesWithUpper (code + run.shift).toNat
      || strays.contains code || !run.keepsCase code

/-- All characters of a run of capitals are capitals. -/
theorem isCapital_ofNat (capital : run.isCapital = true) (covered : run.covers code = true) :
    IsCapital (Char.ofNat code) := by
  obtain ⟨text, kept⟩ := Bool.and_eq_true_iff.mp capital
  have keeps := List.all_eq_true.mp kept code (mem_codes covered)
  obtain ⟨above, below, -⟩ := covers_iff.mp covered
  rw [keepsCase, find?_within upperRuns_ascending above below,
    find?_within upperExpansions_ascending above below, Bool.and_eq_true, Option.isNone_iff_eq_none,
    Option.isNone_iff_eq_none] at keeps
  rw [← toNat_ofNat text covered] at keeps
  exact ⟨keeps.1, find?_expanded_eq_none_iff.mp keeps.2⟩

end CaseRun

/-- Every run of the upper-case mapping moves to capitals. -/
theorem upperRuns_image_isCapital : upperRuns.all
    (fun run => decide (0 ≤ run.first + run.shift) && run.image.isCapital) = true := by
  decide +kernel

/-- Every expansion of the upper-case mapping begins with a capital. -/
theorem upperExpansions_head_isCapital : upperExpansions.all (fun entry =>
    entry.2.head?.any fun code => (CaseRun.single code).isCapital) = true := by
  decide +kernel

/-- The upper-case mapping of a character begins with a capital. -/
theorem exists_upperCase_eq_cons (c : Char) :
    ∃ d rest, upperCase c = d :: rest ∧ IsCapital d := by
  rcases mapCase_cases upperRuns upperExpansions c with
    ⟨codes, listed, mapped⟩ | ⟨run, listed, covered, mapped⟩ | unlisted
  · have first := List.all_eq_true.mp upperExpansions_head_isCapital _ listed
    cases codes with
    | nil => cases first
    | cons code rest =>
      exact ⟨_, rest.map Char.ofNat, mapped,
        CaseRun.isCapital_ofNat first (CaseRun.covers_single_iff.mpr rfl)⟩
  · have moved := List.all_eq_true.mp upperRuns_image_isCapital run listed
    rw [Bool.and_eq_true, decide_eq_true_iff] at moved
    exact ⟨_, [], mapped, CaseRun.isCapital_ofNat moved.2 (CaseRun.covers_image moved.1 covered)⟩
  · exact ⟨c, [], mapCase_of_unlisted unlisted, unlisted⟩

/-- The capitals that do not come back when their small letter is mapped to upper case. -/
def strayCapitals : List Nat := [0x130, 0x3F4, 0x1E9E, 0x2126, 0x212A, 0x212B]

/-- Every run of the lower-case mapping comes back, but for the stray capitals. -/
theorem lowerRuns_comesBack : lowerRuns.all (·.comesBack strayCapitals) = true := by
  decide +kernel

namespace CaseRun

variable {run : CaseRun} {code : Nat}

/-- A capital keeps its case, wherever it is looked for. -/
theorem keepsCase_of_isCapital {c : Char} (capital : IsCapital c)
    (covered : run.covers c.toNat = true) : run.keepsCase c.toNat = true := by
  obtain ⟨above, below, -⟩ := covers_iff.mp covered
  rw [keepsCase, find?_within upperRuns_ascending above below,
    find?_within upperExpansions_ascending above below, capital.uncovered,
    find?_expanded_eq_none_iff.mpr capital.unexpanded]
  rfl

/-- Where the upper-case mapping agrees with a run, it moves a character as the run does. -/
theorem upperCase_ofNat (text : run.isText = true) (covered : run.covers code = true)
    (agrees : run.agreesWithUpper code = true) :
    upperCase (Char.ofNat code) = [Char.ofNat (code + run.shift).toNat] := by
  obtain ⟨above, below, -⟩ := covers_iff.mp covered
  rw [agreesWithUpper, find?_within upperRuns_ascending above below,
    find?_within upperExpansions_ascending above below, Bool.and_eq_true, Option.any_eq_true,
    Option.isNone_iff_eq_none] at agrees
  obtain ⟨⟨other, found, same⟩, unexpanded⟩ := agrees
  rw [beq_iff_eq] at same
  rw [← toNat_ofNat text covered] at found unexpanded
  rw [upperCase, mapCase_of_find? (find?_expanded_eq_none_iff.mp unexpanded) found, same,
    toNat_ofNat text covered]

end CaseRun

/-- A capital comes back when its small letter is mapped to upper case, unless it is a stray one. -/
theorem exists_lowerCase_eq {c : Char} (capital : IsCapital c)
    (straight : c.toNat ∉ strayCapitals) : ∃ d, lowerCase c = [d] ∧ upperCase d = [c] := by
  rcases mapCase_cases lowerRuns lowerExpansions c with
    ⟨codes, listed, -⟩ | ⟨run, listed, covered, moved⟩ | unlisted
  · have stray : c.toNat = 0x130 := congrArg Prod.fst (List.mem_singleton.mp listed)
    exact absurd (stray ▸ List.mem_cons_self) straight
  · have comes := List.all_eq_true.mp lowerRuns_comesBack run listed
    rw [CaseRun.comesBack, Bool.and_eq_true, Bool.and_eq_true, decide_eq_true_iff] at comes
    obtain ⟨⟨positive, text⟩, each⟩ := comes
    have back := List.all_eq_true.mp each _ (CaseRun.mem_codes covered)
    rw [CaseRun.keepsCase_of_isCapital capital covered,
      Bool.eq_false_iff.mpr (mt List.contains_iff_mem.mp straight), Bool.not_true, Bool.or_false,
      Bool.or_false] at back
    have landed := CaseRun.covers_image positive covered
    refine ⟨_, moved, ?_⟩
    rw [CaseRun.upperCase_ofNat text landed back]
    have returned : ((c.toNat + run.shift).toNat + run.image.shift).toNat = c.toNat := by
      have here : run.image.shift = -run.shift := rfl
      obtain ⟨above, -, -⟩ := CaseRun.covers_iff.mp covered
      omega
    rw [returned, Char.ofNat_toNat]
  · exact ⟨c, mapCase_of_unlisted unlisted, upperCase_of_isCapital capital⟩

end Text

end MessageContracts
