import Mathlib.Data.String.Basic
import MessageContracts.Text.Characters

/-!
# Cuts between the parts of a text

A place in a text is named by the number of bytes before it. Where the text is put together from
parts, a cut at the sizes of the parts gives the parts back.
-/

namespace MessageContracts.Text

open String (utf8Len utf8Len_cons)

/-- The end of a text is as far behind its first character as the others are long. -/
theorem add_utf8Len_cons (position : Nat) (c : Char) (text : List Char) :
    position + utf8Len (c :: text) = position + c.utf8Size + utf8Len text := by
  rw [utf8Len_cons, Nat.add_comm (utf8Len text), Nat.add_assoc]

/-- Behind the first character, so many bytes less are left to a cut. -/
theorem cut_cons (c : Char) (count : Nat) (rest : List Char) :
    takeBytes? (c.utf8Size + count) (c :: rest) = (takeBytes? count rest).map (c :: ·) ∧
      dropBytes? (c.utf8Size + count) (c :: rest) = dropBytes? count rest := by
  have wide := c.utf8Size_pos
  obtain ⟨more, same⟩ := Nat.exists_eq_add_one.mpr (show 0 < c.utf8Size + count by omega)
  have fits : c.utf8Size ≤ more + 1 := by omega
  have left : more + 1 - c.utf8Size = count := by omega
  rw [same, takeBytes?, dropBytes?, if_pos fits, if_pos fits, left]
  exact ⟨rfl, rfl⟩

/-- A cut at the size of the first part gives the first part and the second. -/
theorem cut_append (first second : List Char) :
    takeBytes? (utf8Len first) (first ++ second) = some first ∧
      dropBytes? (utf8Len first) (first ++ second) = some second := by
  induction first with
  | nil =>
    rw [utf8Len, List.nil_append, takeBytes?, dropBytes?]
    exact ⟨rfl, rfl⟩
  | cons c first ih =>
    obtain ⟨taken, dropped⟩ := cut_cons c (utf8Len first) (first ++ second)
    rw [utf8Len_cons, Nat.add_comm, List.cons_append, taken, dropped, ih.1, ih.2]
    exact ⟨rfl, rfl⟩

/-- A part in the middle is between the bytes before it and these with its own. -/
theorem between?_append (first middle last : List Char) :
    between? (utf8Len first) (utf8Len first + utf8Len middle) (first ++ (middle ++ last)) =
      some middle := by
  rw [between?, (cut_append first _).2, Nat.add_sub_cancel_left]
  exact (cut_append middle last).1

end MessageContracts.Text
