import MessageContracts.Text.Characters

/-!
# The characters of an encoded document

A document that a text is encoded in consists of the characters of the text, in their order, and no
byte of it stays without a character.
-/

namespace MessageContracts.Text

/-- The number of bytes that one character is encoded in. -/
theorem size_utf8Encode_singleton (c : Char) : [c].utf8Encode.size = c.utf8Size := by
  rw [List.utf8Encode_singleton, List.size_toByteArray, String.length_utf8EncodeChar]

/-- From the place on where encoded characters begin, these are the characters of the document. -/
theorem scalarsFrom_append_utf8Encode (before : ByteArray) (chars : List Char) :
    scalarsFrom (before ++ chars.utf8Encode) before.size = chars.map some := by
  induction chars generalizing before with
  | nil =>
    have ended : ¬before.size < (before ++ [].utf8Encode).size := by
      rw [List.utf8Encode_nil, ByteArray.append_empty]
      exact Nat.lt_irrefl _
    rw [scalarsFrom, if_neg ended]
    rfl
  | cons c rest ih =>
    have decoded : (before ++ (c :: rest).utf8Encode).utf8DecodeChar? before.size = some c := by
      rw [ByteArray.utf8DecodeChar?_eq_utf8DecodeChar?_extract,
        ByteArray.extract_append_eq_right rfl ByteArray.size_append]
      exact List.utf8DecodeChar?_utf8Encode_cons
    have wide := c.utf8Size_pos
    have goes_on : before.size < (before ++ (c :: rest).utf8Encode).size := by
      rw [List.utf8Encode_cons, ByteArray.size_append, ByteArray.size_append,
        size_utf8Encode_singleton]
      omega
    have later := ih (before ++ [c].utf8Encode)
    rw [ByteArray.append_assoc, ← List.utf8Encode_cons, ByteArray.size_append,
      size_utf8Encode_singleton] at later
    rw [scalarsFrom, if_pos goes_on, decoded]
    exact congrArg _ later

/-- The characters of a text's document are those of the text. -/
theorem scalars_toUTF8 (text : String) : scalars text.toUTF8 = text.toList.map some := by
  have whole := scalarsFrom_append_utf8Encode .empty text.toList
  rw [ByteArray.empty_append, ByteArray.size_empty, String.utf8Encode_toList] at whole
  exact whole

end MessageContracts.Text
