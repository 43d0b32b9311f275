import TreeScript.Proofs.Text.Bytes
import TreeScript.Text.Escape

/-!
The passes that expand a stored text. The first one goes over the bytes of the text, and a step of
it is of one byte: it looks for the bytes of a backslash and an `n`, which are no parts of other
characters, and so it never stands inside a character when it cuts the text (`scanLines_eq`). What
it does to the characters is `breakLines`. A text without a backslash has nothing to replace, so the
short way around both passes leads to the same text (`expand_eq`).
-/

namespace TreeScript.Text

/-- A backslash and an `n` that are not preceded by a backslash become a line feed. -/
def breakLines : Bool → List Char → List Char
  | _, [] => []
  | false, '\\' :: 'n' :: rest => '\n' :: breakLines false rest
  | _, c :: rest => c :: breakLines (c == '\\') rest

/-! ### Steps of the scan -/

section Steps

variable {text out piece : List Char} {before : Option UInt8} {b : UInt8} {rest passed : List UInt8}
  {start position : Nat}

/-- At a line escape the piece before it is put out. -/
theorem scanLines_escape (hbefore : before ≠ some '\\'.toUInt8)
    (hpiece : slice? text start position = some piece) :
    scanLines text before ('\\'.toUInt8 :: 'n'.toUInt8 :: rest) start position out =
      scanLines text (some 'n'.toUInt8) rest (position + 2) (position + 2)
        (out ++ piece ++ ['\n']) := by
  rw [scanLines, if_pos ⟨rfl, rfl, hbefore⟩, hpiece]
  rfl

/-- Any other byte is gone by. -/
theorem scanLines_step
    (h : b = '\\'.toUInt8 → rest.head? = some 'n'.toUInt8 → before = some '\\'.toUInt8) :
    scanLines text before (b :: rest) start position out =
      scanLines text (some b) rest start (position + 1) out := by
  cases rest with
  | nil => rfl
  | cons c rest =>
    rw [scanLines, if_neg]
    rintro ⟨hb, rfl, hbefore⟩
    exact hbefore (h hb rfl)

/-- Bytes that are no backslashes are gone by. -/
theorem scanLines_append (h : '\\'.toUInt8 ∉ passed) :
    scanLines text before (passed ++ rest) start position out =
      scanLines text (passed.getLast?.or before) rest start (position + passed.length) out := by
  induction passed generalizing before position with
  | nil => rfl
  | cons b passed ih =>
    rw [List.mem_cons, not_or] at h
    obtain ⟨hb, hpassed⟩ := h
    rw [List.cons_append, scanLines_step fun heq => absurd heq.symm hb, ih hpassed,
      List.getLast?_cons, List.length_cons, Nat.add_assoc, Nat.add_comm 1]
    cases passed.getLast? with
    | none => rfl
    | some last => rfl

/-- A character is gone by, unless it begins a line escape that no backslash precedes. -/
theorem exists_scanLines_cons {c : Char} {more : List Char}
    (h : c = '\\' → more.head? = some 'n' → before = some '\\'.toUInt8) :
    ∃ last, (last = '\\'.toUInt8 ↔ c = '\\') ∧ ∀ text start position out,
      scanLines text before (utf8 (c :: more)) start position out =
        scanLines text (some last) (utf8 more) start (position + c.utf8Size) out := by
  rw [utf8_cons]
  by_cases hc : c = '\\'
  · subst hc
    refine ⟨'\\'.toUInt8, iff_of_true rfl rfl, fun text start position out => ?_⟩
    rw [utf8EncodeChar_ascii (by decide)]
    refine scanLines_step fun _ hnext => h rfl ?_
    exact (head?_utf8_iff (by decide)).1 hnext
  · have hnot : '\\'.toUInt8 ∉ String.utf8EncodeChar c := by
      rwa [mem_utf8EncodeChar_iff (by decide)]
    obtain ⟨last, hlast⟩ : ∃ last, (String.utf8EncodeChar c).getLast? = some last :=
      ⟨_, List.getLast?_eq_some_getLast String.utf8EncodeChar_ne_nil⟩
    refine ⟨last, iff_of_false ?_ hc, fun text start position out => ?_⟩
    · rintro rfl
      exact hnot (List.mem_of_getLast? hlast)
    · rw [scanLines_append hnot, hlast, String.length_utf8EncodeChar]
      rfl

end Steps

/-! ### The whole scan -/

/-- Behind what was put out (`passed`) and what was gone by (`kept`) the scan does what there is to
do with the characters that follow. -/
theorem scanLines_eq (passed kept out : List Char) {rest : List Char} {preceded : Bool}
    {before : Option UInt8} (hbefore : before = some '\\'.toUInt8 ↔ preceded = true) :
    scanLines (passed ++ (kept ++ rest)) before (utf8 rest) (bytes passed) (bytes (passed ++ kept))
      out = some (out ++ kept ++ breakLines preceded rest) := by
  -- By the steps of `breakLines`; one step may go by several bytes.
  fun_induction breakLines preceded rest generalizing passed kept out before with
  | case1 preceded =>
    change (behind? (bytes passed) (passed ++ (kept ++ []))).map (out ++ ·) = _
    rw [behind?_bytes, Option.map_some, List.append_nil, List.append_nil]
  | case2 rest ih =>
    have hbytes : utf8 ('\\' :: 'n' :: rest) = '\\'.toUInt8 :: 'n'.toUInt8 :: utf8 rest := rfl
    have hnot : before ≠ some '\\'.toUInt8 := fun heq => absurd (hbefore.1 heq) Bool.false_ne_true
    have hsize : bytes (passed ++ (kept ++ lineEscape)) = bytes (passed ++ kept) + 2 := by
      rw [← List.append_assoc, bytes_append]
      rfl
    have hrest : passed ++ (kept ++ '\\' :: 'n' :: rest) =
        passed ++ (kept ++ lineEscape) ++ ([] ++ rest) := by simp [lineEscape]
    have hnone : some 'n'.toUInt8 = some '\\'.toUInt8 ↔ false = true := by decide
    have hnext := ih (passed ++ (kept ++ lineEscape)) [] (out ++ kept ++ ['\n']) hnone
    rw [List.append_nil, hsize, List.append_nil] at hnext
    rw [hbytes, scanLines_escape hnot (slice?_bytes passed kept _), hrest, hnext, List.append_assoc]
    rfl
  | case3 preceded c rest hplain ih =>
    have hnone : c = '\\' → rest.head? = some 'n' → before = some '\\'.toUInt8 := by
      intro hc hnext
      obtain ⟨more, hmore⟩ := List.head?_eq_some_iff.1 hnext
      exact hbefore.2 (eq_true_of_ne_false fun hfirst => hplain more hfirst hc hmore)
    have hkept : passed ++ (kept ++ c :: rest) = passed ++ (kept ++ [c] ++ rest) := by simp
    have hsize : bytes (passed ++ (kept ++ [c])) = bytes (passed ++ kept) + c.utf8Size := by
      rw [← List.append_assoc, bytes_append]
      rfl
    obtain ⟨last, hlast, hstep⟩ := exists_scanLines_cons hnone
    rw [hstep, hkept, ← hsize, ih _ _ _ (by simpa using hlast)]
    simp

/-! ### Both passes -/

/-- The first pass comes to an end, and to what it means for the characters. -/
theorem scanLines_start (stored : List Char) :
    scanLines stored none (utf8 stored) 0 0 [] = some (breakLines false stored) :=
  scanLines_eq [] [] [] (by decide)

/-- So do both passes. -/
theorem expandPasses?_eq (stored : List Char) :
    expandPasses? stored =
      some (replaceAll escapedLineEscape lineEscape (breakLines false stored)) := by
  rw [expandPasses?, scanLines_start]
  change (if occursIn escapedLineEscape (breakLines false stored) then _ else _) = _
  split
  · rfl
  · rename_i hnone
    rw [replaceAll_eq_self lineEscape fun hoccurs => hnone (occursIn_iff.2 hoccurs)]
    rfl

/-- Without a backslash there is no line escape. -/
theorem breakLines_eq_self {stored : List Char} {preceded : Bool} (h : '\\' ∉ stored) :
    breakLines preceded stored = stored := by
  fun_induction breakLines preceded stored with
  | case1 => rfl
  | case2 rest ih => exact absurd List.mem_cons_self h
  | case3 preceded c rest hplain ih => rw [ih fun hmem => h (List.mem_cons_of_mem c hmem)]

/-- The internal text is what both passes make of a stored text, with or without backslashes. -/
theorem expand_eq (stored : List Char) :
    expand stored = replaceAll escapedLineEscape lineEscape (breakLines false stored) := by
  rw [expand]
  split
  · rw [expandPasses?_eq, Option.getD_some]
  · rename_i hnone
    rw [List.contains_iff_mem] at hnone
    rw [breakLines_eq_self hnone, replaceAll_eq_self]
    intro hoccurs
    exact hnone (hoccurs.subset (by decide))

end TreeScript.Text
