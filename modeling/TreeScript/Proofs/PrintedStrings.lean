import Mathlib.Algebra.Ring.Parity
import TreeScript.Proofs.Run.Rules
import TreeScript.Proofs.Text.Joining
import TreeScript.Proofs.Text.Quoting
import TreeScript.Regex.Engine

/-!
Strings that are printed and read again. What is shown of a string is its content between double
quotes, each of its own double quotes behind a backslash. Read as a literal, this loses a backslash
wherever a run of backslashes with an odd length stands before a quote or a line break, for then the
last one makes an escape. In a content in which these runs are even (`EvenRuns`) the only ones to go
are those that were put in, so it is reduced to what it was (`unescape_escapeQuotes`). If no line
escape stands in the content either, it is not expanded later, and the literal denotes the string
that was printed (`printed_string_read_back`).
-/

namespace TreeScript

namespace Text

/-! ### Reducing by runs -/

/-- A text begins with what is an escape behind a backslash and none by itself: a quote or a line
break. -/
def BeginsEscapable (text : List Char) : Prop :=
  ['"'] <+: text ∨ ['\''] <+: text ∨ ['\n'] <+: text ∨ ['\r', '\n'] <+: text

instance (text : List Char) : Decidable (BeginsEscapable text) :=
  inferInstanceAs (Decidable (_ ∨ _))

variable {count : Nat} {c : Char} {rest text : List Char}

/-- A backslash begins no escape, if neither another backslash follows it nor what is an escape
behind it. -/
theorem beginsPlain_slash (hc : c ≠ '\\') (h : ¬ BeginsEscapable (c :: rest)) :
    BeginsPlain ('\\' :: c :: rest) := by
  intro written stored hescape hbegins
  cases hescape with
  | lineFeed => exact h (.inr (.inr (.inl (List.cons_prefix_cons.1 hbegins).2)))
  | lineBreak => exact h (.inr (.inr (.inr (List.cons_prefix_cons.1 hbegins).2)))
  | doubleQuote => exact h (.inl (List.cons_prefix_cons.1 hbegins).2)
  | singleQuote => exact h (.inr (.inl (List.cons_prefix_cons.1 hbegins).2))
  | backslash =>
    have hnext := (List.cons_prefix_cons.1 hbegins).2
    exact hc (List.cons_prefix_cons.1 hnext).1.symm

/-- Doubled backslashes are kept. -/
theorem unescape_pairs (pairs : Nat) (rest : List Char) :
    unescape (slashes (2 * pairs) ++ rest) = slashes (2 * pairs) ++ unescape rest := by
  induction pairs with
  | zero => rfl
  | succ pairs ih => exact (unescape_escape .backslash _).trans (congrArg ('\\' :: '\\' :: ·) ih)

theorem unescape_slashes (count : Nat) : unescape (slashes count) = slashes count := by
  obtain ⟨pairs, rfl | rfl⟩ := Nat.even_or_odd' count
  · have h := unescape_pairs pairs []
    rwa [unescape, List.append_nil] at h
  · rw [slashes_add, unescape_pairs]
    rfl

/-- A run is kept, if it is even or begins no escape with its last backslash. -/
theorem unescape_run (hc : c ≠ '\\') (h : BeginsEscapable (c :: rest) → Even count) :
    unescape (slashes count ++ c :: rest) = slashes count ++ c :: unescape rest := by
  obtain ⟨pairs, rfl | rfl⟩ := Nat.even_or_odd' count
  · rw [unescape_pairs, unescape_cons (beginsPlain_cons hc)]
  · have hplain : BeginsPlain ('\\' :: c :: rest) :=
      beginsPlain_slash hc fun hbegins => absurd (h hbegins) (by simp)
    rw [slashes_succ_append, unescape_pairs, unescape_cons hplain,
      unescape_cons (beginsPlain_cons hc), slashes_succ_append]

/-- An even run with the backslash of a double quote loses this backslash. -/
theorem unescape_quote (h : Even count) (rest : List Char) :
    unescape (slashes (count + 1) ++ '"' :: rest) = slashes count ++ '"' :: unescape rest := by
  obtain ⟨pairs, rfl⟩ := h.two_dvd
  rw [slashes_succ_append, unescape_pairs]
  exact congrArg (slashes (2 * pairs) ++ ·) (unescape_escape .doubleQuote rest)

/-! ### Reading back -/

/-- In a text every run of backslashes before a quote or a line break has an even length. -/
def EvenRuns (text : List Char) : Prop :=
  ∀ before count rest, text = before ++ slashes count ++ rest → before.getLast? ≠ some '\\' →
    BeginsEscapable rest → Even count

/-- It is enough to look at the runs of a text that lie within it. -/
theorem evenRuns_iff (text : List Char) :
    (∀ before ∈ text.inits, ∀ count < text.length + 1, ∀ rest ∈ text.tails,
      text = before ++ slashes count ++ rest → before.getLast? ≠ some '\\' →
        BeginsEscapable rest → Even count) ↔ EvenRuns text := by
  constructor
  · intro h before count rest heq hlast hbegins
    have hcount : count < text.length + 1 := by
      rw [heq, List.length_append, List.length_append, slashes, List.length_replicate]
      omega
    refine h before ?_ count hcount rest ?_ heq hlast hbegins
    · exact (List.mem_inits before text).2 ⟨slashes count ++ rest, by rw [heq, List.append_assoc]⟩
    · exact (List.mem_tails rest text).2 ⟨before ++ slashes count, heq.symm⟩
  · intro h before _ count _ rest _
    exact h before count rest

instance (text : List Char) : Decidable (EvenRuns text) :=
  decidable_of_iff _ (evenRuns_iff text)

/-- What holds of the first run. -/
theorem EvenRuns.even (h : EvenRuns (slashes count ++ c :: rest))
    (hbegins : BeginsEscapable (c :: rest)) : Even count :=
  h [] count (c :: rest) rfl nofun hbegins

/-- The runs of a text behind its first run. -/
theorem EvenRuns.of_run (h : EvenRuns (slashes count ++ c :: rest)) (hc : c ≠ '\\') :
    EvenRuns rest := by
  intro before more after heq hlast
  refine h (slashes count ++ c :: before) more after ?_ ?_
  · rw [heq, List.append_assoc, List.append_assoc, List.append_assoc, List.cons_append]
  · rwa [Ne, getLast?_run hc]

/-- Escaping the quotes further on brings no line break about. -/
theorem BeginsEscapable.of_escapeQuotes (h : BeginsEscapable (c :: escapeQuotes rest)) :
    BeginsEscapable (c :: rest) := by
  have first {d : Char} (hd : [d] <+: c :: escapeQuotes rest) : [d] <+: c :: rest :=
    List.cons_prefix_cons.2 ⟨(List.cons_prefix_cons.1 hd).1, List.nil_prefix⟩
  rcases h with hdouble | hsingle | hfeed | hbreak
  · exact .inl (first hdouble)
  · exact .inr (.inl (first hsingle))
  · exact .inr (.inr (.inl (first hfeed)))
  · obtain ⟨hreturn, hfeed⟩ := List.cons_prefix_cons.1 hbreak
    have hnext := ((prefix_escapeQuotes_iff (by decide)).1 hfeed).2
    exact .inr (.inr (.inr (List.cons_prefix_cons.2 ⟨hreturn, hnext⟩)))

/-- A text with even runs is reduced to what it was before its quotes were escaped. -/
theorem unescape_escapeQuotes (h : EvenRuns text) : unescape (escapeQuotes text) = text := by
  induction text using induction_of_runs with
  | last count => rw [escapeQuotes_slashes, unescape_slashes]
  | run count c rest hc ih =>
    have hrest : unescape (escapeQuotes rest) = rest := ih (h.of_run hc)
    by_cases hquote : c = '"'
    · subst hquote
      rw [escapeQuotes_quote, unescape_quote (h.even (.inl ⟨rest, rfl⟩)), hrest]
    · rw [escapeQuotes_run hquote, unescape_run hc fun hbegins => h.even hbegins.of_escapeQuotes,
        hrest]

/-- A text without line escapes is not changed when it is expanded. -/
theorem expand_eq_self (h : ¬ lineEscape <:+: text) : expand text = text := by
  have hstore : store text = text := replaceAll_eq_self _ h
  rw [← hstore, expand_store, hstore]

/-- The literal of what is shown of a string has the content of the string. -/
theorem chars_ofLiteral_escapeQuotes (hline : ¬ lineEscape <:+: text) (hruns : EvenRuns text) :
    (ofLiteral (escapeQuotes text)).chars = text := by
  rw [ofLiteral, unescape_escapeQuotes hruns, chars, String.toList_ofList, expand_eq_self hline]

end Text

open Text

/-- What is shown of a string is a literal, with the escaped content as its body. -/
theorem Node.isStringLiteral_of_display {node : Node} {text : Text}
    (hkind : node.kind = .stringLiteral)
    (htext : node.text? .text = some (Value.string text : Value).display) :
    node.IsStringLiteral (escapeQuotes text.chars) := by
  have hdisplay : (Value.string text : Value).display =
      String.ofList ('"' :: (escapeQuotes text.chars ++ ['"'])) :=
    congrArg String.ofList (quote_eq text.raw.toList)
  exact .mk hkind (htext.trans (congrArg some hdisplay))

/-- **Printed strings are read back.** If in the content of a string no backslash is directly
followed by an `n`, and every run of backslashes that is directly followed by a quote, a line feed,
or a carriage return and a line feed has an even length, then the literal whose text is what is
shown of the string has a value that is equal to the string, and its evaluation does not change the
state. -/
theorem printed_string_read_back [PatternEngine] (mode : Mode) {node : Node} {text : Text}
    (scope : ScopeId) (state : State) (hkind : node.kind = .stringLiteral)
    (htext : node.text? .text = some (Value.string text : Value).display)
    (hline : ¬ lineEscape <:+: text.chars) (hruns : EvenRuns text.chars) :
    ∃ back : Text,
      (∀ result after, (Interpreter.standard mode).Ends (.eval node scope) state result after ↔
        result = .ok (.string back) ∧ after = state) ∧
      (Value.string back : Value).equal (.string text) = true := by
  refine ⟨ofLiteral (escapeQuotes text.chars), fun result after => ?_, ?_⟩
  · exact Interpreter.ends_stringLiteral_iff (Node.isStringLiteral_of_display hkind htext)
  · exact beq_iff_eq.2 (chars_ofLiteral_escapeQuotes hline hruns)

/-- A content with an even run before a double quote, odd ones before a lone carriage return and at
the end, and a line feed is read back as it was printed. -/
theorem printed_string_read_back_runs :
    (¬ lineEscape <:+: (⟨"\\\\\"\\\rb\\n\\"⟩ : Text).chars ∧
      EvenRuns (⟨"\\\\\"\\\rb\\n\\"⟩ : Text).chars) ∧
    ∃ back : Text,
      (∀ result after, (Interpreter.standard .unlimited).Ends
        (.eval (.leaf 1 .stringLiteral "\"\\\\\\\"\\\rb\n\\\"") .global) .initial result after ↔
        result = .ok (.string back) ∧ after = .initial) ∧
      (Value.string back : Value).equal (.string ⟨"\\\\\"\\\rb\\n\\"⟩) = true := by
  have hline : ¬ lineEscape <:+: (⟨"\\\\\"\\\rb\\n\\"⟩ : Text).chars := by decide
  have hruns : EvenRuns (⟨"\\\\\"\\\rb\\n\\"⟩ : Text).chars := by decide
  exact ⟨⟨hline, hruns⟩, printed_string_read_back .unlimited .global .initial rfl rfl hline hruns⟩

end TreeScript
