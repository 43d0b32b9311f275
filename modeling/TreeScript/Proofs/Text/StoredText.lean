import TreeScript.Proofs.Text.Runs
import TreeScript.Text.Basic

/-!
Stored and internal texts. To store an internal text and to expand what was stored gives the text
back (`expand_store`), so a computed string has the content that was computed (`chars_ofChars`). The
other way round a stored text comes back unless it holds a line escape that no backslash precedes
(`store_expand_eq_iff`): that one has become a line feed, which is stored as it is. What people see
of a string depends on its content alone (`quote_eq`).
-/

namespace TreeScript.Text

/-! ### Line escapes of a stored text -/

/-- Somewhere in a text stands a line escape that no backslash precedes. -/
def HasLineEscape (stored : List Char) : Prop :=
  ∃ before after, stored = before ++ lineEscape ++ after ∧ before.getLast? ≠ some '\\'

section LineEscapes

variable {count : Nat} {c : Char} {rest before after : List Char}

theorem not_hasLineEscape_slashes (count : Nat) : ¬ HasLineEscape (slashes count) := by
  rintro ⟨before, after, heq, -⟩
  have hn : 'n' ∈ slashes count := by simp [heq, lineEscape]
  exact absurd (eq_slash_of_mem hn) (by decide)

/-- A line escape in a text stands behind the first run, or it is the end of this run with the `n`
that ends the run. -/
theorem lineEscape_after_run (hc : c ≠ '\\')
    (h : slashes count ++ c :: rest = before ++ lineEscape ++ after) :
    (∃ more, before = slashes count ++ c :: more ∧ rest = more ++ lineEscape ++ after) ∨
      c = 'n' ∧ count = before.length + 1 ∧ before = slashes before.length := by
  induction count generalizing before with
  | zero =>
    cases before with
    | nil => exact absurd (List.cons.inj h).1 hc
    | cons first more =>
      obtain ⟨rfl, hrest⟩ := List.cons.inj h
      exact .inl ⟨more, rfl, hrest⟩
  | succ count ih =>
    cases before with
    | nil =>
      right
      have hn := (List.cons.inj h).2
      cases count with
      | zero =>
        obtain ⟨rfl, -⟩ := List.cons.inj hn
        exact ⟨rfl, rfl, rfl⟩
      | succ count => exact absurd (List.cons.inj hn).1 (by decide)
    | cons first more =>
      obtain ⟨rfl, hmore⟩ := List.cons.inj h
      rcases ih hmore with ⟨text, rfl, hrest⟩ | ⟨hn, hcount, hslashes⟩
      · exact .inl ⟨text, rfl, hrest⟩
      · right
        refine ⟨hn, ?_, ?_⟩
        · simp [hcount]
        · rw [List.length_cons, slashes_succ, ← hslashes]

/-- A text has a line escape in its first run, if that is a single backslash before an `n`, or
behind it. -/
theorem hasLineEscape_run_iff (hc : c ≠ '\\') :
    HasLineEscape (slashes count ++ c :: rest) ↔ (c = 'n' ∧ count = 1) ∨ HasLineEscape rest := by
  constructor
  · rintro ⟨before, after, heq, hlast⟩
    rcases lineEscape_after_run hc heq with ⟨more, rfl, hrest⟩ | ⟨hn, hcount, hslashes⟩
    · right
      refine ⟨more, after, hrest, fun hmore => hlast ?_⟩
      simp [List.getLast?_append, List.getLast?_cons, hmore]
    · left
      refine ⟨hn, ?_⟩
      cases hlength : before.length with
      | zero => rw [hcount, hlength]
      | succ more =>
        rw [hlength] at hslashes
        rw [hslashes, slashes, List.getLast?_replicate] at hlast
        simp at hlast
  · rintro (⟨rfl, rfl⟩ | ⟨before, after, rfl, hlast⟩)
    · exact ⟨[], rest, rfl, by simp⟩
    · refine ⟨slashes count ++ c :: before, after, by simp, ?_⟩
      rw [List.getLast?_append, List.getLast?_cons]
      cases hbefore : before.getLast? with
      | none => simpa using hc
      | some last => simpa [hbefore] using hlast

end LineEscapes

/-! ### There and back -/

/-- A text that was stored is expanded to what it was. -/
theorem expand_store (text : List Char) : expand (store text) = text := by
  induction text using run_induction with
  | last count => rw [store_slashes, expand_slashes]
  | plain count c rest hc hrun ih => rw [store_run hc hrun, expand_run hc hrun, ih]
  | lineEscape rest ih => rw [store_lineEscape, expand_escaped, ih]
  | escaped count rest ih => rw [store_lineEscape, expand_escaped, ih]

/-- A stored text that is expanded is stored again as it was, exactly if it has no line escape. -/
theorem store_expand_eq_iff (stored : List Char) :
    store (expand stored) = stored ↔ ¬ HasLineEscape stored := by
  induction stored using run_induction with
  | last count =>
    rw [expand_slashes, store_slashes]
    exact iff_of_true rfl (not_hasLineEscape_slashes count)
  | plain count c rest hc hrun ih =>
    rw [hasLineEscape_run_iff hc, expand_run hc hrun, store_run hc hrun, not_or, ← ih]
    have hplain : ¬ (c = 'n' ∧ count = 1) := by
      rintro ⟨hn, hcount⟩
      exact absurd ((hrun hn).symm.trans hcount) (by decide)
    simp [hplain]
  | lineEscape rest ih =>
    -- The line feed stays, where the stored text has a backslash.
    have hfeed : store ('\n' :: expand rest) = '\n' :: store (expand rest) :=
      replaceAll_run 1 0 (by decide) (by decide)
    rw [hasLineEscape_run_iff (by decide), expand_lineEscape, hfeed]
    refine iff_of_false (fun heq => ?_) fun h => h (.inl ⟨rfl, rfl⟩)
    exact absurd (List.cons.inj heq).1 (by decide)
  | escaped count rest ih =>
    rw [hasLineEscape_run_iff (by decide), expand_escaped, store_lineEscape, not_or, ← ih]
    simp

/-- The characters of a computed string are those that were computed. -/
@[simp]
theorem chars_ofChars (chars : List Char) : (ofChars chars).chars = chars := by
  rw [Text.chars, ofChars, String.toList_ofList, expand_store]

/-- **Stored texts.** A text is stored in such a way that it is expanded to what it was, and so a
string that was made from a text has this text as its content. A stored text comes back from its
expansion exactly if nowhere in it a line escape stands that no backslash precedes; in any case the
text that does come back is expanded to the same content. -/
theorem stored_text_codec :
    (∀ text, expand (store text) = text) ∧
    (∀ text : String, (ofChars text.toList).internal = text) ∧
    (∀ stored, store (expand stored) = stored ↔ ¬ HasLineEscape stored) ∧
    ∀ stored, expand (store (expand stored)) = expand stored := by
  refine ⟨expand_store, fun text => ?_, store_expand_eq_iff, fun stored => expand_store _⟩
  rw [internal, chars_ofChars, String.ofList_toList]

/-! ### Text for people -/

/-- Quotes may be escaped before a stored text is expanded, or afterwards. -/
theorem expand_escapeQuotes (stored : List Char) :
    expand (escapeQuotes stored) = escapeQuotes (expand stored) := by
  induction stored using run_induction with
  | last count => rw [escapeQuotes_slashes, expand_slashes, escapeQuotes_slashes]
  | plain count c rest hc hrun ih =>
    by_cases hquote : c = '"'
    · subst hquote
      have hend (n : Nat) : '"' = 'n' → n = 0 := nofun
      rw [escapeQuotes_quote, expand_run hc (hend _), expand_run hc (hend _), escapeQuotes_quote,
        ih]
    · rw [escapeQuotes_run hquote, expand_run hc hrun, expand_run hc hrun, escapeQuotes_run hquote,
        ih]
  | lineEscape rest ih =>
    rw [escapeQuotes_run (by decide), expand_lineEscape, expand_lineEscape,
      escapeQuotes_cons (by decide), ih]
  | escaped count rest ih =>
    rw [escapeQuotes_run (by decide), expand_escaped, expand_escaped, escapeQuotes_run (by decide),
      ih]

/-- A stored text is shown by its content. -/
theorem quote_eq (stored : List Char) :
    quote stored = '"' :: escapeQuotes (expand stored) ++ ['"'] := by
  rw [quote, expand_escapeQuotes]

end TreeScript.Text
