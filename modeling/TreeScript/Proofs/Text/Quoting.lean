import TreeScript.Proofs.Text.StoredText
import TreeScript.Value.Basic

/-!
Strings as people see them. A double quote gets a backslash, and all other characters stay
(`escapeQuotes_eq_flatMap`). Behind a backslash that was put in there is a double quote, and no
escaped text begins with one (`not_quote_prefix_escapeQuotes`), so the backslashes that were put in
can be told from those that were there, and taking them out gives the text back
(`removeEscapes_escapeQuotes`). What is shown of two strings is therefore equal only if their
contents are (`display_faithful`).
-/

namespace TreeScript.Text

/-! ### Escaping character by character -/

/-- A backslash is put before every double quote, and nothing else is changed. -/
theorem escapeQuotes_eq_flatMap (text : List Char) :
    escapeQuotes text = text.flatMap fun c => if c = '"' then ['\\', '"'] else [c] := by
  induction text with
  | nil => rfl
  | cons c rest ih =>
    rw [List.flatMap_cons, ← ih]
    by_cases hc : c = '"'
    · rw [if_pos hc, hc]
      exact escapeQuotes_cons_quote rest
    · rw [if_neg hc]
      exact escapeQuotes_cons hc

/-- With its quotes escaped a text begins with a backslash, or with the character that it began with
if that is no double quote. -/
theorem prefix_escapeQuotes_iff {c : Char} {text : List Char} (hc : c ≠ '\\') :
    [c] <+: escapeQuotes text ↔ c ≠ '"' ∧ [c] <+: text := by
  cases text with
  | nil => simp [escapeQuotes]
  | cons first rest =>
    by_cases hfirst : first = '"'
    · rw [hfirst, escapeQuotes_cons_quote]
      simp [hc]
    · rw [escapeQuotes_cons hfirst, List.cons_prefix_cons, List.cons_prefix_cons]
      simp only [List.nil_prefix, and_true]
      constructor
      · rintro rfl
        exact ⟨hfirst, rfl⟩
      · exact And.right

/-- No escaped text begins with a double quote. -/
theorem not_quote_prefix_escapeQuotes (text : List Char) : ¬ ['"'] <+: escapeQuotes text :=
  fun h => ((prefix_escapeQuotes_iff (by decide)).1 h).1 rfl

/-! ### Reading back -/

/-- Takes out a backslash before every double quote. -/
def removeEscapes (shown : List Char) : List Char :=
  replaceAll ['\\', '"'] ['"'] shown

/-- A text whose quotes were escaped can be read back. -/
theorem removeEscapes_escapeQuotes (text : List Char) :
    removeEscapes (escapeQuotes text) = text := by
  induction text with
  | nil => rfl
  | cons c rest ih =>
    by_cases hc : c = '"'
    · subst hc
      have hquote : escapeQuotes ('"' :: rest) = ['\\', '"'] ++ escapeQuotes rest :=
        escapeQuotes_cons_quote rest
      rw [hquote, removeEscapes, replaceAll_append ['"'] _ (by simp)]
      exact congrArg ('"' :: ·) ih
    · -- Even a backslash begins no escaped quote here, since none follows it.
      have hstart : ¬ ['\\', '"'] <+: c :: escapeQuotes rest := by
        intro h
        exact not_quote_prefix_escapeQuotes rest (List.cons_prefix_cons.1 h).2
      rw [escapeQuotes_cons hc, removeEscapes, replaceAll_cons _ hstart]
      exact congrArg (c :: ·) ih

theorem escapeQuotes_injective : Function.Injective escapeQuotes :=
  Function.LeftInverse.injective removeEscapes_escapeQuotes

/-! ### Equal contents -/

theorem internal_eq_iff {left right : Text} :
    left.internal = right.internal ↔ left.chars = right.chars :=
  String.ofList_inj

/-- Two strings look alike exactly if they have the same characters. -/
theorem quoted_eq_iff {left right : Text} :
    left.quoted = right.quoted ↔ left.chars = right.chars := by
  rw [quoted, quoted, String.ofList_inj, quote_eq, quote_eq]
  constructor
  · intro h
    have hshown := List.append_cancel_right h
    exact escapeQuotes_injective (List.cons.inj hshown).2
  · intro h
    have hexpand : expand left.raw.toList = expand right.raw.toList := h
    rw [hexpand]

/-- **Strings are shown faithfully.** Whatever backslashes and quotes a stored text mixes, it is
shown as its internal text between double quotes, with a backslash before every double quote in it,
for quotes may be escaped before the text is expanded or afterwards. So two string values are shown
alike exactly if their contents are equal. -/
theorem display_faithful [PatternEngine] (N : Type) :
    (∀ stored, expand (escapeQuotes stored) = escapeQuotes (expand stored) ∧
      quote stored =
        '"' :: ((expand stored).flatMap fun c => if c = '"' then ['\\', '"'] else [c]) ++ ['"']) ∧
    ∀ left right : Text,
      (Value.string left : Value N).display = (Value.string right : Value N).display ↔
        (Value.string left : Value N).internal = (Value.string right : Value N).internal := by
  constructor
  · intro stored
    refine ⟨expand_escapeQuotes stored, ?_⟩
    rw [quote_eq, escapeQuotes_eq_flatMap]
  · intro left right
    have hdisplay : left.quoted = right.quoted ↔ left.internal = right.internal := by
      rw [quoted_eq_iff, internal_eq_iff]
    exact hdisplay

end TreeScript.Text
