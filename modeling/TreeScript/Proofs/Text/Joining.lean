import TreeScript.Proofs.Text.Escapes
import TreeScript.Proofs.Text.StoredText

/-!
Texts that are put one after the other. Two stored texts may be expanded apart unless the first one
ends with a backslash and the second one begins with an `n`, or with a line escape: there the run of
backslashes that an `n` ends reaches over the seam (`expand_append_iff`). The bodies of two literals
may be reduced apart if the first one does not break off inside an escape (`BreaksOff`), and then
its last character stays the last one (`unescape_append`, `getLast?_unescape`). So the literal of
two bodies in a row denotes what the literals of the bodies denote, one after the other
(`chars_ofLiteral_append`), and so does the sum of these literals (`chars_append`).
-/

namespace TreeScript.Text

/-! ### Stored texts -/

/-- The run of backslashes at the end of a text goes on in the next text, or an `n` follows it
there. -/
def MeetsAtEscape (left right : List Char) : Prop :=
  left.getLast? = some '\\' ∧ (['n'] <+: right ∨ lineEscape <+: right)

section Seam

variable {count : Nat} {c : Char} {rest text : List Char}

/-- What a text ends with after its first run is what it ends with, unless that is the end of the
run. -/
theorem getLast?_run (hc : c ≠ '\\') :
    (slashes count ++ c :: rest).getLast? = some '\\' ↔ rest.getLast? = some '\\' := by
  rw [List.getLast?_append, List.getLast?_cons]
  cases rest.getLast? with
  | none => simpa using hc
  | some last => simp

theorem getLast?_slashes : (slashes count).getLast? = some '\\' ↔ count ≠ 0 := by
  rw [slashes, List.getLast?_replicate]
  by_cases h : count = 0
  · simp [h]
  · simp [h]

/-- An `n` or a line escape begins a text if the first run before an `n` is empty or a single
backslash. -/
theorem begins_run_iff (hc : c ≠ '\\') :
    (['n'] <+: slashes count ++ c :: rest ∨ lineEscape <+: slashes count ++ c :: rest) ↔
      count ≤ 1 ∧ c = 'n' := by
  have hnone : ['n'] <+: slashes count ++ c :: rest ↔ 0 = count ∧ c = 'n' :=
    slashes_prefix_iff 0 count hc
  have hone : lineEscape <+: slashes count ++ c :: rest ↔ 1 = count ∧ c = 'n' :=
    slashes_prefix_iff 1 count hc
  rw [hnone, hone]
  constructor
  · rintro (⟨rfl, hn⟩ | ⟨rfl, hn⟩)
    · exact ⟨Nat.zero_le 1, hn⟩
    · exact ⟨Nat.le_refl 1, hn⟩
  · rintro ⟨hcount, hn⟩
    by_cases hzero : count = 0
    · exact .inl ⟨hzero.symm, hn⟩
    · exact .inr ⟨by omega, hn⟩

theorem not_begins_slashes :
    ¬ (['n'] <+: slashes count ∨ lineEscape <+: slashes count) := by
  have hnot : 'n' ∉ slashes count := fun h => absurd (eq_slash_of_mem h) (by decide)
  rintro (h | h)
  · exact hnot (h.subset (by simp))
  · exact hnot (h.subset (by simp [lineEscape]))

/-- A run may be expanded apart from the text behind it, unless it is one with the backslashes
before an `n` there. -/
theorem expand_slashes_append_iff (count : Nat) (text : List Char) :
    expand (slashes count ++ text) = slashes count ++ expand text ↔
      ¬ (count ≠ 0 ∧ (['n'] <+: text ∨ lineEscape <+: text)) := by
  induction text using induction_of_runs with
  | last more =>
    rw [← slashes_add, expand_slashes, expand_slashes, slashes_add]
    exact iff_of_true rfl fun h => not_begins_slashes h.2
  | run more c rest hc _ =>
    rw [begins_run_iff hc, ← List.append_assoc, ← slashes_add]
    by_cases hn : c = 'n'
    · subst hn
      match count, more with
      | 0, more => simp
      | 1, 0 =>
        refine iff_of_false ?_ (by simp)
        rw [expand_lineEscape]
        exact fun h => absurd (List.cons.inj h).1 (by decide)
      | count + 2, 0 =>
        refine iff_of_false ?_ (by simp)
        intro h
        have hlength := congrArg List.length h
        rw [Nat.add_zero, expand_escaped, expand_run hc (fun _ => rfl)] at hlength
        simp [slashes] at hlength
      | count + 1, 1 =>
        refine iff_of_false ?_ (by simp)
        rw [expand_escaped, expand_lineEscape]
        exact fun h => absurd (List.cons.inj (List.append_cancel_left h)).1 (by decide)
      | count + 1, more + 2 =>
        refine iff_of_true ?_ (by simp)
        rw [← Nat.add_assoc, expand_escaped, expand_escaped, ← List.append_assoc, ← slashes_add,
          Nat.add_assoc]
    · have hrun (count : Nat) : c = 'n' → count = 0 := fun h => absurd h hn
      rw [expand_run hc (hrun _), expand_run hc (hrun _), slashes_add, List.append_assoc]
      exact iff_of_true rfl fun h => hn h.2.2

/-- Two stored texts may be expanded apart, exactly if no run of backslashes before an `n` reaches
from the first one into the second one. -/
theorem expand_append_iff (left right : List Char) :
    expand (left ++ right) = expand left ++ expand right ↔ ¬ MeetsAtEscape left right := by
  unfold MeetsAtEscape
  induction left using run_induction with
  | last count => rw [expand_slashes, expand_slashes_append_iff, getLast?_slashes]
  | plain count c rest hc hrun ih =>
    rw [getLast?_run hc, ← ih, List.append_assoc, List.cons_append, expand_run hc hrun,
      expand_run hc hrun, List.append_assoc, List.append_cancel_left_eq, List.cons_append,
      List.cons_inj_right]
  | lineEscape rest ih =>
    rw [getLast?_run (by decide), ← ih, List.append_assoc, List.cons_append, expand_lineEscape,
      expand_lineEscape, List.cons_append, List.cons_inj_right]
  | escaped count rest ih =>
    rw [getLast?_run (by decide), ← ih, List.append_assoc, List.cons_append, expand_escaped,
      expand_escaped, List.append_assoc, List.append_cancel_left_eq, List.cons_append,
      List.cons_inj_right]

end Seam

/-! ### Bodies of literals -/

/-- No escape begins before the end of a text and ends behind it, if the text does not break off. -/
theorem BeginsPlain.append {c : Char} {rest : List Char} (h : BeginsPlain (c :: rest))
    (hnot : ¬ BreaksOff (c :: rest)) (right : List Char) : BeginsPlain (c :: (rest ++ right)) := by
  intro written stored hescape hbegins
  rcases List.prefix_or_prefix_of_prefix hbegins (List.prefix_append (c :: rest) right) with
    hshort | hlong
  · exact h written stored hescape hshort
  · refine hnot (hescape.breaksOff hlong ?_ (List.cons_ne_nil c rest))
    rintro rfl
    exact h _ _ hescape List.prefix_rfl

/-- Two bodies may be reduced apart, if the first one does not break off. -/
theorem unescape_append {left : List Char} (h : ¬ BreaksOff left) (right : List Char) :
    unescape (left ++ right) = unescape left ++ unescape right := by
  induction left using induction_of_escapes with
  | nil => rfl
  | escape written stored rest hescape ih =>
    have hrest : ¬ BreaksOff rest := fun hoff => h (hoff.append written)
    rw [List.append_assoc, unescape_escape hescape, unescape_escape hescape, ih hrest,
      List.append_assoc]
  | plain c rest hplain ih =>
    have hrest : ¬ BreaksOff rest := fun hoff => h (hoff.append [c])
    rw [List.cons_append, unescape_cons (hplain.append h right), unescape_cons hplain, ih hrest,
      List.cons_append]

/-- What is stored of a body that does not break off ends as the body does. -/
theorem getLast?_unescape {body : List Char} (h : ¬ BreaksOff body) :
    (unescape body).getLast? = body.getLast? := by
  induction body using induction_of_escapes with
  | nil => rfl
  | escape written stored rest hescape ih =>
    have hrest : ¬ BreaksOff rest := fun hoff => h (hoff.append written)
    rw [unescape_escape hescape, List.getLast?_append, List.getLast?_append, ih hrest]
    cases hlast : rest.getLast? with
    | some last => rfl
    | none =>
      rw [List.getLast?_eq_none_iff.1 hlast, List.append_nil] at h
      exact hescape.getLast?_eq h
  | plain c rest hplain ih =>
    have hrest : ¬ BreaksOff rest := fun hoff => h (hoff.append [c])
    rw [unescape_cons hplain, List.getLast?_cons, List.getLast?_cons, ih hrest]

/-- Of two bodies in a row the first of which does not break off, what is stored of the first one
does not meet what is stored of the second one at an escape. -/
theorem not_meetsAtEscape_unescape {left : List Char} (h : ¬ BreaksOff left) (right : List Char) :
    ¬ MeetsAtEscape (unescape left) right := by
  rintro ⟨hlast, -⟩
  rw [getLast?_unescape h] at hlast
  exact h ⟨'\\', by decide, hlast⟩

/-- The literal of two bodies in a row denotes what the literals of the bodies denote, one after the
other. -/
theorem chars_ofLiteral_append {left : List Char} (h : ¬ BreaksOff left) (right : List Char) :
    (ofLiteral (left ++ right)).chars = (ofLiteral left).chars ++ (ofLiteral right).chars := by
  simp only [chars, ofLiteral, String.toList_ofList]
  rw [unescape_append h]
  exact (expand_append_iff _ _).2 (not_meetsAtEscape_unescape h _)

/-- The sum of two strings has the content of the first one and then that of the second one. -/
theorem chars_append (left right : Text) :
    (left.append right).chars = left.chars ++ right.chars :=
  chars_ofChars _

/-- The sum of the literals of two bodies is equal to the literal of the bodies in a row. -/
theorem append_ofLiteral_equal {left : List Char} (h : ¬ BreaksOff left) (right : List Char) :
    ((ofLiteral left).append (ofLiteral right)).sameContent (ofLiteral (left ++ right)) = true := by
  rw [sameContent, chars_append, chars_ofLiteral_append h]
  exact beq_self_eq_true _

end TreeScript.Text
