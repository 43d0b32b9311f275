/-!
Replacing a piece of text wherever it occurs, from left to right, each occurrence apart from the
one before. Main statements: a text in which the piece does not occur stays as it is
(`replaceAll_eq_self`), an occurrence at the start is replaced and the rest follows
(`replaceAll_append`), and otherwise the first character is kept (`replaceAll_cons`).
-/

namespace TreeScript.Text

/-- Drops `skip` characters and replaces every occurrence of `piece` in the rest. -/
def replaceFrom (piece replacement : List Char) : Nat → List Char → List Char
  | _, [] => []
  | skip + 1, _ :: rest => replaceFrom piece replacement skip rest
  | 0, c :: rest =>
    if piece.isPrefixOf (c :: rest) then
      replacement ++ replaceFrom piece replacement (piece.length - 1) rest
    else c :: replaceFrom piece replacement 0 rest

/-- Replaces every occurrence of a piece, which must not be empty. -/
def replaceAll (piece replacement : List Char) (text : List Char) : List Char :=
  replaceFrom piece replacement 0 text

def occursIn (piece : List Char) : List Char → Bool
  | [] => piece.isEmpty
  | c :: rest => piece.isPrefixOf (c :: rest) || occursIn piece rest

/-! ### Equations -/

theorem replaceFrom_skip (piece replacement : List Char) (skip : Nat) (text : List Char) :
    replaceFrom piece replacement skip text = replaceAll piece replacement (text.drop skip) := by
  induction text generalizing skip with
  | nil => simp [replaceAll, replaceFrom]
  | cons c rest ih =>
    cases skip with
    | zero => rfl
    | succ skip => simpa [replaceFrom] using ih skip

@[simp] theorem replaceAll_nil (piece replacement : List Char) :
    replaceAll piece replacement [] = [] := rfl

/-- A character that does not start an occurrence is kept. -/
theorem replaceAll_cons {piece : List Char} (replacement : List Char) {c : Char}
    {rest : List Char} (h : ¬ piece <+: c :: rest) :
    replaceAll piece replacement (c :: rest) = c :: replaceAll piece replacement rest := by
  simp [replaceAll, replaceFrom, h]

/-- An occurrence at the start is replaced. -/
theorem replaceAll_append {piece : List Char} (replacement rest : List Char) (h : piece ≠ []) :
    replaceAll piece replacement (piece ++ rest)
      = replacement ++ replaceAll piece replacement rest := by
  cases piece with
  | nil => exact absurd rfl h
  | cons c more =>
    show replaceFrom (c :: more) replacement 0 (c :: (more ++ rest)) = _
    simp [replaceFrom, replaceFrom_skip]

/-- A text in which the piece does not occur stays as it is. -/
theorem replaceAll_eq_self {piece : List Char} (replacement : List Char) {text : List Char}
    (h : ¬ piece <:+: text) : replaceAll piece replacement text = text := by
  induction text with
  | nil => rfl
  | cons c rest ih =>
    rw [replaceAll_cons replacement (fun hp => h hp.isInfix),
      ih fun hi => h (hi.trans (List.suffix_cons c rest).isInfix)]

theorem occursIn_iff {piece text : List Char} : occursIn piece text = true ↔ piece <:+: text := by
  induction text with
  | nil => simp [occursIn]
  | cons c rest ih =>
    rw [occursIn, Bool.or_eq_true, List.isPrefixOf_iff_prefix, ih, List.infix_cons_iff]

end TreeScript.Text
