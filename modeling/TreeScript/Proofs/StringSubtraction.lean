import Mathlib.Data.List.Infix
import TreeScript.Proofs.Text.StoredText
import TreeScript.Value.Operations
import TreeScript.Regex.Engine

/-!
What is left of a string when another one is taken out of it. The first occurrence of the other
string is taken out, then the first one in what follows it, and so on until there is none
(`Text.Cuts`). An occurrence that overlaps one that was taken out does not count, and neither does
one that comes about where parts are joined. To replace all occurrences is to put the replacement
between the parts (`Cuts.replaceAll_eq`), and each text comes apart in this way
(`Text.exists_cuts`), so the difference of two strings is what the parts are when they are joined
(`string_subtraction`).
-/

namespace TreeScript

namespace Text

/-! ### First occurrences -/

/-- Behind `part` and before `rest` stands the first occurrence of a piece. -/
def OccursFirst (piece part rest : List Char) : Prop :=
  ∀ before after, part ++ piece ++ rest = before ++ piece ++ after → part.length ≤ before.length

variable {piece replacement part rest text : List Char} {c : Char}

theorem occursFirst_nil (piece rest : List Char) : OccursFirst piece [] rest :=
  fun _ _ _ => Nat.zero_le _

/-- A first occurrence stays the first one if a character is put in front with which no occurrence
begins. -/
theorem OccursFirst.cons (h : OccursFirst piece part rest)
    (hbegins : ¬ piece <+: c :: (part ++ piece ++ rest)) : OccursFirst piece (c :: part) rest := by
  intro before after heq
  cases before with
  | nil => exact absurd ⟨after, heq.symm⟩ hbegins
  | cons first more => exact Nat.succ_le_succ (h more after (List.cons.inj heq).2)

/-- A first occurrence that does not stand at the beginning is the first one behind it, too. -/
theorem OccursFirst.tail (h : OccursFirst piece (c :: part) rest) :
    OccursFirst piece part rest := by
  intro before after heq
  exact Nat.le_of_succ_le_succ (h (c :: before) after (congrArg (c :: ·) heq))

theorem OccursFirst.not_prefix (h : OccursFirst piece (c :: part) rest) :
    ¬ piece <+: c :: (part ++ piece ++ rest) := by
  rintro ⟨after, heq⟩
  exact absurd (h [] after heq.symm) (Nat.not_succ_le_zero _)

/-- What occurs in a text occurs somewhere first. -/
theorem exists_occursFirst (h : piece <:+: text) :
    ∃ part rest, text = part ++ piece ++ rest ∧ OccursFirst piece part rest := by
  induction text with
  | nil =>
    obtain rfl := List.infix_nil.1 h
    exact ⟨[], [], rfl, occursFirst_nil _ _⟩
  | cons c text ih =>
    by_cases hbegins : piece <+: c :: text
    · obtain ⟨rest, hrest⟩ := hbegins
      exact ⟨[], rest, hrest.symm, occursFirst_nil _ _⟩
    · obtain ⟨part, rest, rfl, hfirst⟩ := ih ((List.infix_cons_iff.1 h).resolve_left hbegins)
      exact ⟨c :: part, rest, rfl, hfirst.cons hbegins⟩

/-- Up to the first occurrence nothing is replaced. -/
theorem OccursFirst.replaceAll_eq (h : OccursFirst piece part rest) (hne : piece ≠ []) :
    replaceAll piece replacement (part ++ piece ++ rest) =
      part ++ replacement ++ replaceAll piece replacement rest := by
  induction part with
  | nil => exact replaceAll_append replacement rest hne
  | cons c part ih =>
    have hcons := replaceAll_cons replacement h.not_prefix
    exact hcons.trans (congrArg (c :: ·) (ih h.tail))

/-! ### Taking a text apart -/

/-- The parts of a text that stand between occurrences of a piece: the first occurrence, the first
one behind that, and so on. -/
inductive Cuts (piece : List Char) : List Char → List (List Char) → Prop where
  | last {text : List Char} (hnone : ¬ piece <:+: text) : Cuts piece text [text]
  | cut {part rest : List Char} {parts : List (List Char)} (hfirst : OccursFirst piece part rest)
      (hrest : Cuts piece rest parts) : Cuts piece (part ++ piece ++ rest) (part :: parts)

/-- Every text comes apart. -/
theorem exists_cuts (hne : piece ≠ []) (text : List Char) : ∃ parts, Cuts piece text parts := by
  -- The induction is on the length; an occurrence takes away at least one character.
  induction hlength : text.length using Nat.strongRecOn generalizing text with
  | ind length ih =>
    by_cases h : piece <:+: text
    · obtain ⟨part, rest, rfl, hfirst⟩ := exists_occursFirst h
      have hpos := List.length_pos_iff.2 hne
      have hlt : rest.length < length := by
        rw [← hlength, List.length_append, List.length_append]
        omega
      obtain ⟨parts, hparts⟩ := ih rest.length hlt rest rfl
      exact ⟨part :: parts, .cut hfirst hparts⟩
    · exact ⟨[text], .last h⟩

namespace Cuts

variable {parts : List (List Char)}

theorem ne_nil (h : Cuts piece text parts) : parts ≠ [] := by
  cases h with
  | last | cut => exact List.cons_ne_nil _ _

/-- A text is its parts with the piece between them. -/
theorem eq_intercalate (h : Cuts piece text parts) : text = piece.intercalate parts := by
  induction h with
  | last => exact List.intercalate_singleton.symm
  | cut _ hrest ih => rw [List.intercalate_cons_of_ne_nil hrest.ne_nil, ← ih]

/-- To replace a piece is to put the replacement between the parts. -/
theorem replaceAll_eq (h : Cuts piece text parts) (hne : piece ≠ []) :
    replaceAll piece replacement text = replacement.intercalate parts := by
  induction h with
  | last hnone => rw [replaceAll_eq_self replacement hnone, List.intercalate_singleton]
  | cut hfirst hrest ih =>
    rw [hfirst.replaceAll_eq hne, ih, List.intercalate_cons_of_ne_nil hrest.ne_nil]

end Cuts

/-- Lists with nothing between them are joined. -/
theorem intercalate_nil_left (parts : List (List Char)) : [].intercalate parts = parts.flatten := by
  induction parts with
  | nil => rfl
  | cons part parts ih =>
    cases parts with
    | nil => simp
    | cons next more =>
      rw [List.intercalate_cons_cons, ih, List.append_nil]
      rfl

/-- The length of parts with a piece between them. -/
theorem length_intercalate (piece : List Char) (parts : List (List Char)) :
    (piece.intercalate parts).length =
      parts.flatten.length + (parts.length - 1) * piece.length := by
  induction parts with
  | nil => simp
  | cons part parts ih =>
    cases parts with
    | nil => simp
    | cons next more =>
      have hcount : (part :: next :: more).length - 1 = ((next :: more).length - 1) + 1 := rfl
      rw [List.intercalate_cons_cons, List.flatten_cons, List.length_append, List.length_append,
        List.length_append, ih, hcount, Nat.add_mul, Nat.one_mul]
      omega

/-! ### Taking a string out of another one -/

section Remove

variable {text piece : Text}

/-- Nothing is taken out if the other string is empty. -/
theorem chars_remove_of_nil (h : piece.chars = []) :
    (text.remove piece).chars = text.chars := by
  rw [remove, chars_ofChars, h]
  rfl

theorem chars_remove_of_ne_nil (h : piece.chars ≠ []) :
    (text.remove piece).chars = replaceAll piece.chars [] text.chars := by
  rw [remove, chars_ofChars, if_neg]
  rwa [List.isEmpty_iff]

/-- Nothing is taken out if the other string does not occur. -/
theorem chars_remove_of_not_infix (h : ¬ piece.chars <:+: text.chars) :
    (text.remove piece).chars = text.chars := by
  have hne : piece.chars ≠ [] := fun hnil => h (hnil ▸ List.nil_infix)
  rw [chars_remove_of_ne_nil hne, replaceAll_eq_self [] h]

end Remove

end Text

/-- **Subtraction of strings.** The difference of two strings is a string. It has the content of the
first one if the second one is empty. Otherwise the content of the first one comes apart at the
occurrences of the second one, each being the first one behind those before it; the content of the
difference are the parts in a row, which are shorter by the occurrences. If the second string does
not occur in the first one, the difference is equal to the first one. All this goes by the contents
of the strings: those that have the same contents have the same difference. -/
theorem string_subtraction [PatternEngine] {N : Type} [DecidableEq N] (text piece : Text) :
    ∃ difference : Text,
      (Value.string text : Value N).binary .sub (.string piece) = .ok (.string difference) ∧
      (piece.chars = [] → difference.chars = text.chars) ∧
      (piece.chars ≠ [] → (∃ parts, Text.Cuts piece.chars text.chars parts) ∧
        ∀ parts, Text.Cuts piece.chars text.chars parts →
          text.chars = piece.chars.intercalate parts ∧
          difference.chars = parts.flatten ∧
          difference.length + (parts.length - 1) * piece.length = text.length) ∧
      (¬ piece.chars <:+: text.chars →
        (Value.string difference : Value N).equal (.string text) = true) ∧
      ∀ text' piece' : Text, text'.chars = text.chars → piece'.chars = piece.chars →
        (Value.string text' : Value N).binary .sub (.string piece') = .ok (.string difference) := by
  refine ⟨text.remove piece, rfl, Text.chars_remove_of_nil, ?_, ?_, ?_⟩
  · intro hne
    refine ⟨Text.exists_cuts hne text.chars, fun parts hparts => ?_⟩
    have hdifference : (text.remove piece).chars = parts.flatten := by
      rw [Text.chars_remove_of_ne_nil hne, hparts.replaceAll_eq hne, Text.intercalate_nil_left]
    refine ⟨hparts.eq_intercalate, hdifference, ?_⟩
    rw [Text.length, Text.length, Text.length, hdifference]
    conv_rhs => rw [hparts.eq_intercalate, Text.length_intercalate]
  · intro hnone
    exact beq_iff_eq.2 (Text.chars_remove_of_not_infix hnone)
  · intro text' piece' htext hpiece
    change Except.ok (Value.string (text'.remove piece')) = _
    rw [Text.remove, htext, hpiece]
    rfl

/-- Where `"ab"` is taken out of a string, another `"ab"` may come about, and a backslash may come
to stand before an `n`: both stay. Where `"aa"` does not occur, nothing is taken out. -/
theorem string_subtraction_seam :
    Text.Cuts ['a', 'b'] (⟨"aabb\\abn"⟩ : Text).chars [['a'], ['b', '\\'], ['n']] ∧
    (∃ difference : Text,
      (Value.string ⟨"aabb\\abn"⟩ : Value).binary .sub (.string ⟨"ab"⟩) =
        .ok (.string difference) ∧ difference.chars = ['a', 'b', '\\', 'n']) ∧
    ∃ difference : Text,
      (Value.string ⟨"aba"⟩ : Value).binary .sub (.string ⟨"aa"⟩) = .ok (.string difference) ∧
        (Value.string difference : Value).equal (.string ⟨"aba"⟩) = true := by
  have hfirst : Text.OccursFirst ['a', 'b'] ['a'] ['b', '\\', 'a', 'b', 'n'] := by
    rintro (_ | ⟨_, _⟩) after heq
    · cases heq
    · exact Nat.le_add_left 1 _
  have hsecond : Text.OccursFirst ['a', 'b'] ['b', '\\'] ['n'] := by
    rintro (_ | ⟨_, _ | ⟨_, _⟩⟩) after heq
    · cases heq
    · cases heq
    · exact Nat.le_add_left 2 _
  have hparts : Text.Cuts ['a', 'b'] (⟨"aabb\\abn"⟩ : Text).chars [['a'], ['b', '\\'], ['n']] :=
    .cut hfirst (.cut hsecond (.last (by decide)))
  refine ⟨hparts, ?_, ?_⟩
  · obtain ⟨difference, heq, -, hcuts, -⟩ := string_subtraction (N := Name) ⟨"aabb\\abn"⟩ ⟨"ab"⟩
    obtain ⟨-, hchars, -⟩ := (hcuts (by decide)).2 _ hparts
    exact ⟨difference, heq, hchars⟩
  · obtain ⟨difference, heq, -, -, hnone, -⟩ := string_subtraction (N := Name) ⟨"aba"⟩ ⟨"aa"⟩
    exact ⟨difference, heq, hnone (by decide)⟩

end TreeScript
