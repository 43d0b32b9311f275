import TreeScript.Text.Bytes

/-!
Texts by their bytes. A character takes from one to four bytes in UTF-8 (`length_le_bytes`,
`bytes_le`), so positions between characters are the numbers of bytes of what stands before them,
and there a text may be cut (`behind?_bytes`, `slice?_bytes`). A character of ASCII is one byte,
and this byte is no part of any other character (`mem_utf8EncodeChar_iff`): whoever looks for such
a character may look for its byte.
-/

namespace TreeScript.Text

/-! ### Positions between characters -/

/-- The number of bytes that characters take in UTF-8. -/
def bytes : List Char → Nat
  | [] => 0
  | c :: rest => c.utf8Size + bytes rest

theorem bytes_nil : bytes [] = 0 := rfl

theorem bytes_cons (c : Char) (rest : List Char) : bytes (c :: rest) = c.utf8Size + bytes rest :=
  rfl

theorem bytes_append (chars rest : List Char) :
    bytes (chars ++ rest) = bytes chars + bytes rest := by
  induction chars with
  | nil => rw [List.nil_append, bytes_nil, Nat.zero_add]
  | cons c chars ih => rw [List.cons_append, bytes_cons, bytes_cons, ih, Nat.add_assoc]

/-- Bytes may be counted from the left. -/
theorem foldl_utf8Size (chars : List Char) (size : Nat) :
    chars.foldl (fun size c => size + c.utf8Size) size = size + bytes chars := by
  induction chars generalizing size with
  | nil => rfl
  | cons c rest ih => rw [List.foldl_cons, ih, bytes_cons, Nat.add_assoc]

/-- A character takes at least one byte. -/
theorem length_le_bytes (chars : List Char) : chars.length ≤ bytes chars := by
  induction chars with
  | nil => exact Nat.le_refl 0
  | cons c rest ih =>
    have hpos := c.utf8Size_pos
    rw [List.length_cons, bytes_cons]
    omega

/-- A character takes at most four bytes. -/
theorem bytes_le (chars : List Char) : bytes chars ≤ 4 * chars.length := by
  induction chars with
  | nil => exact Nat.le_refl 0
  | cons c rest ih =>
    have hle := c.utf8Size_le_four
    rw [List.length_cons, bytes_cons]
    omega

/-- Behind the bytes of some characters stand the characters that follow them. -/
theorem behind?_bytes (passed rest : List Char) :
    behind? (bytes passed) (passed ++ rest) = some rest := by
  induction passed with
  | nil => rw [bytes_nil, List.nil_append, behind?]
  | cons c passed ih =>
    obtain ⟨more, hmore⟩ := Nat.exists_eq_add_one.2 c.utf8Size_pos
    have hsize : bytes (c :: passed) = (more + bytes passed) + 1 := by
      rw [bytes_cons, hmore]
      omega
    have hrest : more + bytes passed + 1 - c.utf8Size = bytes passed := by omega
    rw [hsize, List.cons_append, behind?, if_pos (by omega), hrest, ih]

theorem upTo?_bytes (piece rest : List Char) :
    upTo? (bytes piece) (piece ++ rest) = some piece := by
  induction piece with
  | nil => rw [bytes_nil, upTo?]
  | cons c piece ih =>
    obtain ⟨more, hmore⟩ := Nat.exists_eq_add_one.2 c.utf8Size_pos
    have hsize : bytes (c :: piece) = (more + bytes piece) + 1 := by
      rw [bytes_cons, hmore]
      omega
    have hrest : more + bytes piece + 1 - c.utf8Size = bytes piece := by omega
    rw [hsize, List.cons_append, upTo?, if_pos (by omega), hrest, ih, Option.map_some]

/-- A piece is what stands between the position before it and the one behind it. -/
theorem slice?_bytes (before piece rest : List Char) :
    slice? (before ++ (piece ++ rest)) (bytes before) (bytes (before ++ piece)) = some piece := by
  have hsize : bytes (before ++ piece) - bytes before = bytes piece := by
    rw [bytes_append, Nat.add_sub_cancel_left]
  rw [slice?, if_pos (by rw [bytes_append]; exact Nat.le_add_right _ _), behind?_bytes,
    Option.bind_some, hsize, upTo?_bytes]

/-! ### Bytes of ASCII -/

theorem utf8_cons (c : Char) (rest : List Char) :
    utf8 (c :: rest) = String.utf8EncodeChar c ++ utf8 rest :=
  List.flatMap_cons

theorem toNat_toUInt8 {a : Char} (ha : a.toNat < 128) : a.toUInt8.toNat = a.toNat := by
  have hword : a.toUInt8.toNat = a.toNat % 256 := rfl
  rw [hword, Nat.mod_eq_of_lt (Nat.lt_trans ha (by decide))]

/-- A character of ASCII is one byte. -/
theorem utf8EncodeChar_ascii {c : Char} (h : c.toNat < 128) :
    String.utf8EncodeChar c = [c.toUInt8] := by
  have hsize : c.toNat ≤ 127 := Nat.le_of_lt_succ h
  exact if_pos hsize

/-- No byte of any other character is one of ASCII. -/
theorem le_of_mem_utf8EncodeChar {c : Char} (h : 128 ≤ c.toNat) {b : UInt8}
    (hb : b ∈ String.utf8EncodeChar c) : 128 ≤ b.toNat := by
  have hsize : ¬ c.val.toNat ≤ 127 := Nat.not_le.2 h
  have byte (n low : Nat) (hlow : 128 ≤ low) (hn : n + low < 256) :
      128 ≤ (UInt8.ofNat (n + low)).toNat := by
    rw [UInt8.toNat_ofNat', Nat.mod_eq_of_lt hn]
    omega
  -- One case for each number of bytes.
  simp only [String.utf8EncodeChar, if_neg hsize] at hb
  split at hb
  · simp only [List.mem_cons, List.not_mem_nil, or_false] at hb
    rcases hb with rfl | rfl <;> exact byte _ _ (by decide) (by omega)
  · split at hb
    · simp only [List.mem_cons, List.not_mem_nil, or_false] at hb
      rcases hb with rfl | rfl | rfl <;> exact byte _ _ (by decide) (by omega)
    · simp only [List.mem_cons, List.not_mem_nil, or_false] at hb
      rcases hb with rfl | rfl | rfl | rfl <;> exact byte _ _ (by decide) (by omega)

/-- The byte of a character of ASCII is a byte of this character only. -/
theorem mem_utf8EncodeChar_iff {a c : Char} (ha : a.toNat < 128) :
    a.toUInt8 ∈ String.utf8EncodeChar c ↔ c = a := by
  constructor
  · intro hmem
    by_cases hc : c.toNat < 128
    · rw [utf8EncodeChar_ascii hc, List.mem_singleton] at hmem
      have hnat := congrArg UInt8.toNat hmem
      rw [toNat_toUInt8 ha, toNat_toUInt8 hc] at hnat
      exact Char.toNat_inj.1 hnat.symm
    · have hle := le_of_mem_utf8EncodeChar (Nat.not_lt.1 hc) hmem
      rw [toNat_toUInt8 ha] at hle
      exact absurd ha (Nat.not_lt.2 hle)
  · rintro rfl
    rw [utf8EncodeChar_ascii ha]
    exact List.mem_singleton_self _

/-- A text begins with the byte of a character of ASCII if it begins with the character. -/
theorem head?_utf8_iff {a : Char} {text : List Char} (ha : a.toNat < 128) :
    (utf8 text).head? = some a.toUInt8 ↔ text.head? = some a := by
  cases text with
  | nil => simp [utf8]
  | cons c rest =>
    obtain ⟨b, more, hbytes⟩ :=
      List.exists_cons_of_ne_nil (String.utf8EncodeChar_ne_nil (c := c))
    rw [utf8_cons, hbytes, List.cons_append, List.head?_cons, List.head?_cons, Option.some_inj,
      Option.some_inj]
    constructor
    · rintro rfl
      exact (mem_utf8EncodeChar_iff ha).1 (by simp [hbytes])
    · rintro rfl
      rw [utf8EncodeChar_ascii ha] at hbytes
      exact (List.cons.inj hbytes).1.symm

end TreeScript.Text
