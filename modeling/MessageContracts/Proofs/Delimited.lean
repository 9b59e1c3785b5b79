/-!
# Rows that can be read back

A piece without a delimiter ends at the first delimiter behind it. What is written for an item can
be read back when it tells how the item is seen and where it ends, whatever follows. Items written
one after the other can then be read back too, up to something that no item begins with.
-/

namespace MessageContracts

section Rows

variable {ι α β : Type}

/-- Rows that agree are cut by their first delimiters into parts that agree. -/
theorem append_cons_inj {delimiter : α} {left right : List α} (leftFree : delimiter ∉ left)
    (rightFree : delimiter ∉ right) {leftRest rightRest : List α}
    (same : left ++ delimiter :: leftRest = right ++ delimiter :: rightRest) :
    left = right ∧ leftRest = rightRest := by
  induction left generalizing right with
  | nil =>
    cases right with
    | nil => exact ⟨rfl, (List.cons.inj same).2⟩
    | cons first right => exact absurd ((List.cons.inj same).1 ▸ List.mem_cons_self) rightFree
  | cons first left ih =>
    cases right with
    | nil => exact absurd ((List.cons.inj same).1 ▸ List.mem_cons_self) leftFree
    | cons other right =>
      obtain ⟨rfl, rest⟩ := List.cons.inj same
      have agree := ih (List.not_mem_of_not_mem_cons leftFree)
        (List.not_mem_of_not_mem_cons rightFree) rest
      exact ⟨congrArg _ agree.1, agree.2⟩

/-- What is written for a legible item tells how the item is seen and where the writing ends. -/
def ReadsBack (legible : ι → Prop) (write : ι → List α) (view : ι → β) : Prop :=
  ∀ ⦃item other⦄, legible item → legible other → ∀ ⦃rest otherRest⦄,
    write item ++ rest = write other ++ otherRest → view item = view other ∧ rest = otherRest

variable {legible : ι → Prop} {write : ι → List α} {view : ι → β}

/-- Items written one after the other are read back up to something that no item begins with. -/
theorem ReadsBack.flatMap (reads : ReadsBack legible write view) (stop : List α → Prop)
    (apart : ∀ item rest, legible item → ¬stop (write item ++ rest)) {items others : List ι}
    (legibles : ∀ item ∈ items, legible item) (otherLegibles : ∀ item ∈ others, legible item)
    {rest otherRest : List α} (stops : stop rest) (otherStops : stop otherRest)
    (same : items.flatMap write ++ rest = others.flatMap write ++ otherRest) :
    items.map view = others.map view ∧ rest = otherRest := by
  induction items generalizing others with
  | nil =>
    cases others with
    | nil => exact ⟨rfl, same⟩
    | cons other others =>
      rw [List.flatMap_cons, List.append_assoc, List.flatMap_nil, List.nil_append] at same
      exact absurd (same ▸ stops) (apart other _ (otherLegibles other List.mem_cons_self))
  | cons item items ih =>
    obtain ⟨here, later⟩ := List.forall_mem_cons.mp legibles
    cases others with
    | nil =>
      rw [List.flatMap_cons, List.append_assoc, List.flatMap_nil, List.nil_append] at same
      exact absurd (same ▸ otherStops) (apart item _ here)
    | cons other others =>
      obtain ⟨otherHere, otherLater⟩ := List.forall_mem_cons.mp otherLegibles
      rw [List.flatMap_cons, List.flatMap_cons, List.append_assoc, List.append_assoc] at same
      obtain ⟨first, remaining⟩ := reads here otherHere same
      obtain ⟨views, ends⟩ := ih later otherLater remaining
      exact ⟨by rw [List.map_cons, List.map_cons, first, views], ends⟩

end Rows

/-- Texts that end in a mark of which they lack the first character are read back. -/
theorem readsBack_terminated (delimiter : Char) (more : List Char) :
    ReadsBack (fun text : String => delimiter ∉ text.toList)
      (fun text => text.toList ++ delimiter :: more) id := by
  intro text other free otherFree rest otherRest same
  rw [List.append_assoc, List.append_assoc, List.cons_append, List.cons_append] at same
  obtain ⟨chars, ends⟩ := append_cons_inj free otherFree same
  exact ⟨String.toList_inj.mp chars, List.append_cancel_left ends⟩

/-- Texts that all end in such a mark, one after the other, are read back. -/
theorem flatMap_terminated_inj {delimiter : Char} {more : List Char} {texts others : List String}
    (free : ∀ text ∈ texts, delimiter ∉ text.toList)
    (otherFree : ∀ text ∈ others, delimiter ∉ text.toList)
    (same : texts.flatMap (fun text => text.toList ++ delimiter :: more) =
      others.flatMap (fun text => text.toList ++ delimiter :: more)) : texts = others := by
  have apart (text : String) (rest : List Char) (_ : delimiter ∉ text.toList) :
      ¬(text.toList ++ delimiter :: more) ++ rest = [] := by
    rw [List.append_assoc]
    exact List.append_ne_nil_of_right_ne_nil _ (List.cons_ne_nil _ _)
  have read := (readsBack_terminated delimiter more).flatMap (· = []) apart free otherFree rfl rfl
    (congrArg (· ++ []) same)
  rw [List.map_id, List.map_id] at read
  exact read.1

/-- Joined texts with one more separator behind them all end in the separator. -/
theorem toList_intercalate_append (separator : String) {texts : List String}
    (some_text : texts ≠ []) :
    (separator.intercalate texts).toList ++ separator.toList =
      texts.flatMap fun text => text.toList ++ separator.toList := by
  induction texts with
  | nil => exact absurd rfl some_text
  | cons text rest ih =>
    cases rest with
    | nil => rw [String.intercalate_singleton, List.flatMap_singleton]
    | cons second rest =>
      rw [String.intercalate_cons_cons, String.toList_append, String.toList_append,
        List.append_assoc, ih (List.cons_ne_nil _ _)]
      simp only [List.flatMap_cons]

/-- Joined texts are read back when none of them has the first character of the separator. -/
theorem intercalate_inj {separator : String} {delimiter : Char} {more : List Char}
    (begins : separator.toList = delimiter :: more) {texts others : List String}
    (some_text : texts ≠ []) (some_other : others ≠ [])
    (free : ∀ text ∈ texts, delimiter ∉ text.toList)
    (otherFree : ∀ text ∈ others, delimiter ∉ text.toList)
    (same : separator.intercalate texts = separator.intercalate others) : texts = others := by
  have ended : (separator.intercalate texts).toList ++ separator.toList =
      (separator.intercalate others).toList ++ separator.toList := by rw [same]
  rw [toList_intercalate_append separator some_text,
    toList_intercalate_append separator some_other, begins] at ended
  exact flatMap_terminated_inj free otherFree ended

/-- Texts with newlines behind them are read back when none of them has a line feed. -/
theorem join_newline_inj {texts others : List String} (free : ∀ text ∈ texts, '\n' ∉ text.toList)
    (otherFree : ∀ text ∈ others, '\n' ∉ text.toList)
    (same : String.join (texts.map (· ++ "\n")) = String.join (others.map (· ++ "\n"))) :
    texts = others := by
  have chars (texts : List String) : (String.join (texts.map (· ++ "\n"))).toList =
      texts.flatMap fun text => text.toList ++ ['\n'] := by
    rw [String.toList_join, List.flatMap_map]
    simp only [String.toList_append]
    rfl
  have rows := congrArg String.toList same
  rw [chars, chars] at rows
  exact flatMap_terminated_inj free otherFree rows

end MessageContracts
