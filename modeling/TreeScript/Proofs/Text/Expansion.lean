import Mathlib.Logic.Function.Defs
import TreeScript.Proofs.Text.Runs

/-!
What expanding a stored text does, in one pass over its runs of backslashes. A text comes apart into
the runs that another character ends, each with this character, and the run at its end; there is
one way to take it apart (`RunList.text_bijective`). Expanding it changes nothing but the runs that
an `n` ends: a single backslash becomes a line feed together with the `n`, and a longer run loses a
backslash (`Run.expanded`).

`expand` takes two passes for this, over bytes and then over what came of them. That these come to
the one pass is `expand_runs`. They do not get in each other's way because what the first one puts
in is no part of what the second one looks for (`replaceAll_append_cons`), so that the second one
works on each part of the stored text by itself (`exists_parts`).
-/

namespace TreeScript.Text

/-! ### Runs and what they become -/

/-- A run of backslashes, maybe of none, and another character that ends it. -/
structure Run where
  count : Nat
  ending : Char
  ending_ne : ending ≠ '\\'

namespace Run

def text (run : Run) : List Char :=
  slashes run.count ++ [run.ending]

def expanded (run : Run) : List Char :=
  if run.ending = 'n' then
    match run.count with
    | 0 => ['n']
    | 1 => ['\n']
    | count + 2 => slashes (count + 1) ++ ['n']
  else run.text

end Run

/-- A text by its runs. No other character ends the last one. -/
structure RunList where
  ended : List Run
  last : Nat

namespace RunList

def text (runs : RunList) : List Char :=
  runs.ended.flatMap Run.text ++ slashes runs.last

def expanded (runs : RunList) : List Char :=
  runs.ended.flatMap Run.expanded ++ slashes runs.last

end RunList

/-! ### Every text by its runs -/

section Runs

variable {c d : Char} {rest more : List Char} {m n : Nat}

/-- A run and the character that ends it are where a text begins. -/
theorem slashes_append_cons_inj (hc : c ≠ '\\') (hd : d ≠ '\\')
    (h : slashes m ++ c :: rest = slashes n ++ d :: more) : m = n ∧ c = d ∧ rest = more := by
  induction m generalizing n with
  | zero =>
    cases n with
    | zero => exact ⟨rfl, List.cons.inj h⟩
    | succ n => exact absurd (List.cons.inj h).1 hc
  | succ m ih =>
    cases n with
    | zero => exact absurd (List.cons.inj h).1.symm hd
    | succ n =>
      obtain ⟨rfl, hrest⟩ := ih (List.cons.inj h).2
      exact ⟨rfl, hrest⟩

theorem slashes_append_cons_ne (hc : c ≠ '\\') : slashes m ++ c :: rest ≠ slashes n := by
  intro h
  have hmem : c ∈ slashes n := by simp [← h]
  exact hc (eq_slash_of_mem hmem)

theorem RunList.text_cons (run : Run) (ended : List Run) (last : Nat) :
    RunList.text ⟨run :: ended, last⟩ =
      slashes run.count ++ run.ending :: RunList.text ⟨ended, last⟩ := by
  simp [RunList.text, Run.text]

theorem RunList.expanded_cons (run : Run) (ended : List Run) (last : Nat) :
    RunList.expanded ⟨run :: ended, last⟩ = run.expanded ++ RunList.expanded ⟨ended, last⟩ := by
  simp [RunList.expanded]

theorem RunList.text_injective : Function.Injective RunList.text := by
  rintro ⟨ended, last⟩ ⟨ended', last'⟩ h
  induction ended generalizing ended' with
  | nil =>
    cases ended' with
    | nil =>
      have hlength := congrArg List.length h
      simpa [RunList.text, slashes] using hlength
    | cons run ended' =>
      rw [RunList.text_cons] at h
      exact absurd h.symm (slashes_append_cons_ne run.ending_ne)
  | cons run ended ih =>
    cases ended' with
    | nil =>
      rw [RunList.text_cons] at h
      exact absurd h (slashes_append_cons_ne run.ending_ne)
    | cons run' ended' =>
      rw [RunList.text_cons, RunList.text_cons] at h
      obtain ⟨hcount, hending, hrest⟩ :=
        slashes_append_cons_inj run.ending_ne run'.ending_ne h
      obtain ⟨rfl, rfl⟩ := RunList.mk.inj (ih ended' hrest)
      obtain ⟨count, ending, hne⟩ := run
      subst hcount hending
      rfl

theorem RunList.text_surjective : Function.Surjective RunList.text := by
  intro text
  induction text using induction_of_runs with
  | last count => exact ⟨⟨[], count⟩, rfl⟩
  | run count c rest hc ih =>
    obtain ⟨⟨ended, last⟩, rfl⟩ := ih
    exact ⟨⟨⟨count, c, hc⟩ :: ended, last⟩, RunList.text_cons _ _ _⟩

/-- Every text is one list of runs. -/
theorem RunList.text_bijective : Function.Bijective RunList.text :=
  ⟨text_injective, text_surjective⟩

/-- One run more at the beginning of a stored text. -/
theorem Run.expand_append (run : Run) (rest : List Char) :
    expand (slashes run.count ++ run.ending :: rest) = run.expanded ++ expand rest := by
  obtain ⟨count, ending, hne⟩ := run
  by_cases hn : ending = 'n'
  · subst hn
    match count with
    | 0 => exact expand_run hne fun _ => rfl
    | 1 => exact expand_lineEscape rest
    | count + 2 =>
      simpa [Run.expanded] using expand_escaped count rest
  · simpa [Run.expanded, Run.text, hn] using expand_run hne fun h => absurd h hn

/-- Expanding a text expands each of its runs. -/
theorem expand_runs (runs : RunList) : expand runs.text = runs.expanded := by
  obtain ⟨ended, last⟩ := runs
  induction ended with
  | nil => exact expand_slashes last
  | cons run ended ih =>
    rw [RunList.text_cons, RunList.expanded_cons, run.expand_append, ih]

end Runs

/-! ### The two passes -/

section Passes

variable {piece : List Char} {c : Char}

/-- A piece does not reach over a character that is no part of it. -/
theorem prefix_append_cons_iff (hc : c ∉ piece) (text rest : List Char) :
    piece <+: text ++ c :: rest ↔ piece <+: text := by
  induction text generalizing piece with
  | nil =>
    cases piece with
    | nil => simp
    | cons p piece => simpa using fun heq => absurd heq (List.ne_of_not_mem_cons hc).symm
  | cons t text ih =>
    cases piece with
    | nil => simp
    | cons p piece =>
      rw [List.cons_append, List.cons_prefix_cons, List.cons_prefix_cons,
        ih (List.not_mem_of_not_mem_cons hc)]

/-- What stands before and what stands behind such a character is replaced by itself. -/
theorem replaceFrom_append_cons (replacement : List Char) (hne : piece ≠ []) (hc : c ∉ piece)
    (rest : List Char) {skip : Nat} {text : List Char} (hskip : skip ≤ text.length) :
    replaceFrom piece replacement skip (text ++ c :: rest) =
      replaceFrom piece replacement skip text ++ c :: replaceAll piece replacement rest := by
  -- What is left to skip belongs to an occurrence, and this ends before the character.
  induction text generalizing skip with
  | nil =>
    obtain rfl := Nat.le_zero.1 hskip
    refine replaceAll_cons replacement fun hp => ?_
    exact hne (List.prefix_nil.1 ((prefix_append_cons_iff hc [] rest).1 hp))
  | cons t text ih =>
    match skip with
    | skip + 1 => exact ih (Nat.le_of_succ_le_succ hskip)
    | 0 =>
      have hprefix : piece <+: t :: (text ++ c :: rest) ↔ piece <+: t :: text :=
        prefix_append_cons_iff hc (t :: text) rest
      simp only [List.cons_append, replaceFrom, List.isPrefixOf_iff_prefix, hprefix]
      split
      · rename_i hp
        have hlength := hp.length_le
        rw [List.length_cons] at hlength
        rw [ih (by omega), List.append_assoc]
      · rw [ih (Nat.zero_le _), List.cons_append]

theorem replaceAll_append_cons (replacement : List Char) (hne : piece ≠ []) (hc : c ∉ piece)
    (text rest : List Char) :
    replaceAll piece replacement (text ++ c :: rest) =
      replaceAll piece replacement text ++ c :: replaceAll piece replacement rest :=
  replaceFrom_append_cons replacement hne hc rest (Nat.zero_le _)

/-- Parts that such a character stands between are each replaced by itself. -/
theorem replaceAll_intercalate (replacement : List Char) (hne : piece ≠ []) (hc : c ∉ piece)
    (parts : List (List Char)) :
    replaceAll piece replacement ([c].intercalate parts) =
      [c].intercalate (parts.map (replaceAll piece replacement)) := by
  induction parts with
  | nil => rfl
  | cons part parts ih =>
    cases parts with
    | nil => simp
    | cons next parts =>
      rw [List.map_cons, List.map_cons, List.intercalate_cons_cons, List.intercalate_cons_cons,
        ← List.map_cons, ← ih, List.append_assoc, List.append_assoc]
      exact replaceAll_append_cons replacement hne hc part _

theorem append_intercalate (separator piece part : List Char) (parts : List (List Char)) :
    separator.intercalate ((piece ++ part) :: parts) =
      piece ++ separator.intercalate (part :: parts) := by
  cases parts with
  | nil => simp
  | cons next parts => simp [List.intercalate_cons_cons]

/-- The first pass cuts a text at line escapes, and the parts are as they were. -/
theorem exists_parts (stored : List Char) :
    ∃ part parts, stored = lineEscape.intercalate (part :: parts) ∧
      breakLines false stored = ['\n'].intercalate (part :: parts) := by
  induction stored using run_induction with
  | last count =>
    refine ⟨slashes count, [], ?_, ?_⟩
    · rw [List.intercalate_singleton]
    · rw [List.intercalate_singleton, breakLines_slashes]
  | plain count c rest hc hrun ih =>
    obtain ⟨part, parts, hrest, hbroken⟩ := ih
    have hone : c = 'n' → count ≠ 1 := fun hn => by simp [hrun hn]
    refine ⟨slashes count ++ [c] ++ part, parts, ?_, ?_⟩
    · rw [append_intercalate, ← hrest, List.append_assoc, List.singleton_append]
    · rw [append_intercalate, ← hbroken, breakLines_run hc hone, List.append_assoc,
        List.singleton_append]
  | lineEscape rest ih =>
    obtain ⟨part, parts, hrest, hbroken⟩ := ih
    refine ⟨[], part :: parts, ?_, ?_⟩
    · rw [List.intercalate_cons_cons, ← hrest]
      rfl
    · rw [List.intercalate_cons_cons, ← hbroken]
      rfl
  | escaped count rest ih =>
    obtain ⟨part, parts, hrest, hbroken⟩ := ih
    refine ⟨slashes (count + 2) ++ ['n'] ++ part, parts, ?_, ?_⟩
    · rw [append_intercalate, ← hrest, List.append_assoc, List.singleton_append]
    · rw [append_intercalate, ← hbroken, breakLines_run (by decide) (by simp), List.append_assoc,
        List.singleton_append]

/-- A stored text by what expanding does to it: the text comes apart into runs of backslashes in one
way, and `expanded` says what becomes of each run. The two passes over its bytes and over what came
of them end, without cutting a character in two, and lead to the same as the short way for texts
without a backslash. What the second pass does it does to the parts that the first one left as they
were, each by itself. -/
theorem expansion_by_runs :
    Function.Bijective RunList.text ∧
      (∀ runs : RunList, expand runs.text = runs.expanded) ∧
      (∀ stored, expandPasses? stored = some (expand stored)) ∧
      ∀ stored, ∃ parts,
        stored = lineEscape.intercalate parts ∧
        scanLines stored none (utf8 stored) 0 0 [] = some (['\n'].intercalate parts) ∧
        expand stored =
          ['\n'].intercalate (parts.map (replaceAll escapedLineEscape lineEscape)) := by
  refine ⟨RunList.text_bijective, expand_runs, fun stored => ?_, fun stored => ?_⟩
  · rw [expandPasses?_eq, expand_eq]
  · obtain ⟨part, parts, hstored, hbroken⟩ := exists_parts stored
    refine ⟨part :: parts, hstored, ?_, ?_⟩
    · rw [scanLines_start, hbroken]
    · rw [expand_eq, hbroken]
      exact replaceAll_intercalate lineEscape (by decide) (by decide) (part :: parts)

end Passes

end TreeScript.Text
