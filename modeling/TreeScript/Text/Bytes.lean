/-!
Texts by their bytes in UTF-8. A position in a text is the number of bytes before it. It may lie
inside a character, and then the text cannot be cut there: what stands between two positions is a
text only if both of them lie between characters.
-/

namespace TreeScript.Text

def utf8 (chars : List Char) : List UInt8 :=
  chars.flatMap String.utf8EncodeChar

/-- The characters of a text behind so many bytes, if these are the bytes of whole characters at the
beginning of the text. -/
def behind? : Nat → List Char → Option (List Char)
  | 0, chars => some chars
  | _ + 1, [] => none
  | bytes + 1, c :: rest =>
    if c.utf8Size ≤ bytes + 1 then behind? (bytes + 1 - c.utf8Size) rest else none

/-- What stands behind some bytes and then some more is behind the latter in what is behind the
former. -/
theorem behind?_add {passed : Nat} {chars rest : List Char} (h : behind? passed chars = some rest)
    (bytes : Nat) : behind? (passed + bytes) chars = behind? bytes rest := by
  fun_induction behind? passed chars with
  | case1 chars =>
    cases h
    rw [Nat.zero_add]
  | case2 => cases h
  | case3 passed c chars hle ih =>
    have hmore : passed + 1 + bytes = passed + bytes + 1 := by omega
    have hrest : passed + bytes + 1 - c.utf8Size = passed + 1 - c.utf8Size + bytes := by omega
    rw [hmore, behind?, if_pos (by omega), hrest, ih h]
  | case4 => cases h

theorem behind?_utf8Size (c : Char) (rest : List Char) :
    behind? c.utf8Size (c :: rest) = some rest := by
  obtain ⟨more, hmore⟩ := Nat.exists_eq_add_one.2 c.utf8Size_pos
  rw [hmore, behind?, if_pos (Nat.le_of_eq hmore), hmore, Nat.sub_self, behind?]

/-- The characters in so many bytes at the beginning of a text, if these are the bytes of whole
characters. -/
def upTo? : Nat → List Char → Option (List Char)
  | 0, _ => some []
  | _ + 1, [] => none
  | bytes + 1, c :: rest =>
    if c.utf8Size ≤ bytes + 1 then (upTo? (bytes + 1 - c.utf8Size) rest).map (c :: ·) else none

/-- The characters of a text between two positions, if these lie between characters and in order. -/
def slice? (chars : List Char) (start stop : Nat) : Option (List Char) :=
  if start ≤ stop then (behind? start chars).bind (upTo? (stop - start)) else none

end TreeScript.Text
