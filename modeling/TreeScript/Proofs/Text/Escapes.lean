import Mathlib.Data.List.Infix
import TreeScript.Text.Escape

/-!
Bodies of literals by escapes. A body is made of escapes, each written in a few characters that all
stand for something else (`Escape`), and of characters that begin no escape
(`induction_of_escapes`). To reduce a body is to put what it stands for in the place of each escape
(`unescape_escape`) and to keep everything else (`unescape_cons`). A text that breaks off inside an
escape ends with a backslash or with the first character of a line break (`Escape.breaksOff`).
-/

namespace TreeScript.Text

/-- An escape, as it is written in a literal and as it is stored: a continued line, a quote, or a
doubled backslash, which is kept. -/
inductive Escape : List Char → List Char → Prop where
  | lineFeed : Escape ['\\', '\n'] []
  | lineBreak : Escape ['\\', '\r', '\n'] []
  | doubleQuote : Escape ['\\', '"'] ['"']
  | singleQuote : Escape ['\\', '\''] ['\'']
  | backslash : Escape ['\\', '\\'] ['\\', '\\']

/-- No escape begins a text. -/
def BeginsPlain (text : List Char) : Prop :=
  ∀ written stored, Escape written stored → ¬ written <+: text

variable {written stored : List Char} {c : Char} {rest : List Char}

/-- An escape is reduced to what it stands for. -/
theorem unescape_escape (h : Escape written stored) (rest : List Char) :
    unescape (written ++ rest) = stored ++ unescape rest := by
  cases h with
  | lineFeed | lineBreak | doubleQuote | singleQuote | backslash => simp [unescape]

/-- A character that begins no escape is kept. -/
theorem unescape_cons (h : BeginsPlain (c :: rest)) :
    unescape (c :: rest) = c :: unescape rest := by
  have begins {more written stored : List Char} (hescape : Escape ('\\' :: written) stored)
      (hc : c = '\\') (hrest : rest = written ++ more) : False :=
    h _ _ hescape ⟨more, by rw [hc, hrest, List.cons_append]⟩
  rw [unescape]
  · intro _ hc hrest
    exact begins .lineFeed hc hrest
  · intro _ hc hrest
    exact begins .lineBreak hc hrest
  · intro _ hc hrest
    exact begins .doubleQuote hc hrest
  · intro _ hc hrest
    exact begins .singleQuote hc hrest
  · intro _ hc hrest
    exact begins .backslash hc hrest

/-- Every escape begins with a backslash. -/
theorem beginsPlain_cons (hc : c ≠ '\\') : BeginsPlain (c :: rest) := by
  intro written stored hescape hbegins
  cases hescape with
  | lineFeed | lineBreak | doubleQuote | singleQuote | backslash =>
    exact hc (List.cons_prefix_cons.1 hbegins).1.symm

/-- Bodies by escapes: a body is empty, or a body behind an escape or behind a character that begins
no escape. -/
@[elab_as_elim]
theorem induction_of_escapes {motive : List Char → Prop} (nil : motive [])
    (escape : ∀ written stored rest, Escape written stored → motive rest →
      motive (written ++ rest))
    (plain : ∀ c rest, BeginsPlain (c :: rest) → motive rest → motive (c :: rest))
    (body : List Char) : motive body := by
  fun_induction unescape body with
  | case1 => exact nil
  | case2 rest ih => exact escape _ _ rest .lineFeed ih
  | case3 rest ih => exact escape _ _ rest .lineBreak ih
  | case4 rest ih => exact escape _ _ rest .doubleQuote ih
  | case5 rest ih => exact escape _ _ rest .singleQuote ih
  | case6 rest ih => exact escape _ _ rest .backslash ih
  | case7 c rest hfeed hbreak hdouble hsingle hpair ih =>
    refine plain c rest ?_ ih
    rintro written stored hescape ⟨more, heq⟩
    cases hescape with
    | lineFeed => exact hfeed more (List.cons.inj heq).1.symm (List.cons.inj heq).2.symm
    | lineBreak => exact hbreak more (List.cons.inj heq).1.symm (List.cons.inj heq).2.symm
    | doubleQuote => exact hdouble more (List.cons.inj heq).1.symm (List.cons.inj heq).2.symm
    | singleQuote => exact hsingle more (List.cons.inj heq).1.symm (List.cons.inj heq).2.symm
    | backslash => exact hpair more (List.cons.inj heq).1.symm (List.cons.inj heq).2.symm

/-! ### Where a body breaks off -/

/-- A text ends with what may be a part of an escape: a backslash, or a line break or its first
character. -/
def BreaksOff (text : List Char) : Prop :=
  ∃ last ∈ ['\\', '\n', '\r'], text.getLast? = some last

theorem BreaksOff.append {text : List Char} (h : BreaksOff text) (before : List Char) :
    BreaksOff (before ++ text) := by
  obtain ⟨last, hmem, hlast⟩ := h
  refine ⟨last, hmem, ?_⟩
  rw [List.getLast?_append, hlast, Option.some_or]

/-- An escape that is not written to its end breaks off. -/
theorem Escape.breaksOff {text : List Char} (h : Escape written stored) (hbegins : text <+: written)
    (hne : text ≠ written) (hnil : text ≠ []) : BreaksOff text := by
  have hinits : ∀ text ∈ written.inits, text = written ∨ text = [] ∨ BreaksOff text := by
    cases h with
    | lineFeed | lineBreak | doubleQuote | singleQuote | backslash => simp [BreaksOff]
  rcases hinits text ((List.mem_inits text written).2 hbegins) with heq | heq | hoff
  · exact absurd heq hne
  · exact absurd heq hnil
  · exact hoff

/-- An escape that does not break off ends as what it stands for. -/
theorem Escape.getLast?_eq (h : Escape written stored) (hnot : ¬ BreaksOff written) :
    stored.getLast? = written.getLast? := by
  cases h with
  | doubleQuote | singleQuote => rfl
  | lineFeed | lineBreak | backslash => exact absurd ⟨_, by decide, rfl⟩ hnot

end TreeScript.Text
