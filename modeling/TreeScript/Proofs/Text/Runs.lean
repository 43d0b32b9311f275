import TreeScript.Proofs.Text.LineBreaks

/-!
Texts by runs of backslashes. Whether a line escape stands somewhere depends on how many backslashes
stand in a row before an `n`, so a text is taken apart into runs of backslashes, each with the
character that ends it (`run_induction`). The passes over a text that expand it, store it and escape
its quotes treat one run after the other, and each has one equation for every sort of run.

* `expand_run`, `expand_lineEscape`, `expand_escaped`: a run is kept, a single backslash before an
  `n` becomes a line feed with it, and a longer run before an `n` loses a backslash.
* `store_run`, `store_lineEscape`: a run before an `n` gets one backslash more.
* `escapeQuotes_run`, `escapeQuotes_quote`: a double quote gets a backslash.
-/

namespace TreeScript.Text

/-! ### Runs -/

def slashes (count : Nat) : List Char :=
  List.replicate count '\\'

@[simp]
theorem slashes_zero : slashes 0 = [] := rfl

theorem slashes_succ (count : Nat) : slashes (count + 1) = '\\' :: slashes count := rfl

theorem slashes_succ_append (count : Nat) (rest : List Char) :
    slashes (count + 1) ++ rest = slashes count ++ '\\' :: rest := by
  induction count with
  | zero => rfl
  | succ count ih =>
    rw [slashes_succ, List.cons_append, ih, slashes_succ, List.cons_append]

theorem slashes_add (m n : Nat) : slashes (m + n) = slashes m ++ slashes n :=
  List.replicate_append_replicate.symm

theorem eq_slash_of_mem {count : Nat} {c : Char} (h : c ∈ slashes count) : c = '\\' :=
  List.eq_of_mem_replicate h

/-- Texts by runs: a text is a run at its end, or a run that some other character ends, and a
text. -/
theorem induction_of_runs {motive : List Char → Prop} (last : ∀ count, motive (slashes count))
    (run : ∀ count c rest, c ≠ '\\' → motive rest → motive (slashes count ++ c :: rest))
    (text : List Char) : motive text := by
  -- The run that has begun before the text is part of what is shown.
  have after (text : List Char) : ∀ count, motive (slashes count ++ text) := by
    induction text with
    | nil =>
      intro count
      rw [List.append_nil]
      exact last count
    | cons c rest ih =>
      intro count
      by_cases hc : c = '\\'
      · rw [hc, ← slashes_succ_append]
        exact ih (count + 1)
      · exact run count c rest hc (ih 0)
  exact after text 0

/-- Texts by what their runs mean: a text is a run at its end, or a text behind a run that means
nothing, behind a line escape, or behind an `n` with more than one backslash. -/
@[elab_as_elim]
theorem run_induction {motive : List Char → Prop} (last : ∀ count, motive (slashes count))
    (plain : ∀ count c rest, c ≠ '\\' → (c = 'n' → count = 0) → motive rest →
      motive (slashes count ++ c :: rest))
    (lineEscape : ∀ rest, motive rest → motive (slashes 1 ++ 'n' :: rest))
    (escaped : ∀ count rest, motive rest → motive (slashes (count + 2) ++ 'n' :: rest))
    (text : List Char) : motive text := by
  refine induction_of_runs last ?_ text
  intro count c rest hc ih
  by_cases hn : c = 'n'
  · subst hn
    match count with
    | 0 => exact plain 0 'n' rest hc (fun _ => rfl) ih
    | 1 => exact lineEscape rest ih
    | count + 2 => exact escaped count rest ih
  · exact plain count c rest hc (fun h => absurd h hn) ih

/-! ### Replacing what begins with a run -/

section Replace

variable {c : Char} {rest replacement : List Char}

/-- A run with an `n` begins a text exactly if the first run of the text is this one. -/
theorem slashes_prefix_iff (size count : Nat) (hc : c ≠ '\\') :
    slashes size ++ ['n'] <+: slashes count ++ c :: rest ↔ size = count ∧ c = 'n' := by
  induction size generalizing count with
  | zero =>
    cases count with
    | zero => simp [eq_comm]
    | succ count => simp [slashes_succ]
  | succ size ih =>
    cases count with
    | zero =>
      simp only [slashes_succ, slashes_zero, List.cons_append, List.nil_append,
        List.cons_prefix_cons]
      constructor
      · intro h
        exact absurd h.1.symm hc
      · intro h
        exact absurd h.1 (Nat.succ_ne_zero size)
    | succ count => simpa [slashes_succ] using ih count

/-- A run that is too short, or that another character ends, is kept. -/
theorem replaceAll_run (size count : Nat) (hc : c ≠ '\\') (h : c = 'n' → count < size) :
    replaceAll (slashes size ++ ['n']) replacement (slashes count ++ c :: rest) =
      slashes count ++ c :: replaceAll (slashes size ++ ['n']) replacement rest := by
  induction count with
  | zero =>
    refine replaceAll_cons replacement fun hp => ?_
    obtain ⟨hsize, hn⟩ := (slashes_prefix_iff size 0 hc).1 hp
    exact absurd (h hn) (by omega)
  | succ count ih =>
    have hshort : c = 'n' → count < size := fun hn => Nat.lt_of_succ_lt (h hn)
    rw [slashes_succ, List.cons_append, replaceAll_cons, ih hshort, List.cons_append]
    intro hp
    obtain ⟨hsize, hn⟩ := (slashes_prefix_iff size (count + 1) hc).1 hp
    exact absurd (h hn) (by omega)

/-- Of a run that is long enough the end is replaced, together with the `n`. -/
theorem replaceAll_long_run (size count : Nat) :
    replaceAll (slashes size ++ ['n']) replacement (slashes (count + size) ++ 'n' :: rest) =
      slashes count ++ replacement ++ replaceAll (slashes size ++ ['n']) replacement rest := by
  induction count with
  | zero =>
    have hpiece : slashes size ++ ['n'] ≠ [] := by simp
    have happend : slashes size ++ 'n' :: rest = slashes size ++ ['n'] ++ rest := by simp
    rw [Nat.zero_add, happend]
    exact replaceAll_append replacement rest hpiece
  | succ count ih =>
    rw [Nat.add_right_comm, slashes_succ, List.cons_append, replaceAll_cons, ih]
    · rfl
    · intro hp
      have hrun := (slashes_prefix_iff size (count + size + 1) (by decide)).1 hp
      omega

/-- A run at the end of a text is kept. -/
theorem replaceAll_slashes (size : Nat) (replacement : List Char) (count : Nat) :
    replaceAll (slashes size ++ ['n']) replacement (slashes count) = slashes count := by
  refine replaceAll_eq_self replacement fun h => ?_
  have hn : 'n' ∈ slashes count := h.subset (by simp)
  exact absurd (eq_slash_of_mem hn) (by decide)

end Replace

/-! ### Line feeds -/

section BreakLines

variable {count : Nat} {c : Char} {rest : List Char}

theorem breakLines_true_cons : breakLines true (c :: rest) = c :: breakLines (c == '\\') rest := by
  rw [breakLines]
  nofun

/-- A backslash that no `n` follows is kept. -/
theorem breakLines_slash (h : ∀ more, rest ≠ 'n' :: more) :
    breakLines false ('\\' :: rest) = '\\' :: breakLines true rest := by
  rw [breakLines]
  · rfl
  · intro more _ _ heq
    exact h more heq

/-- A character that is no backslash is kept. -/
theorem breakLines_cons {before : Bool} (h : c ≠ '\\') :
    breakLines before (c :: rest) = c :: breakLines false rest := by
  have hc : (c == '\\') = false := by simpa using h
  cases before with
  | false =>
    rw [breakLines, hc]
    intro more _ heq
    exact absurd heq h
  | true => rw [breakLines_true_cons, hc]

/-- After a backslash a run is kept. -/
theorem breakLines_true_run (h : c ≠ '\\') :
    breakLines true (slashes count ++ c :: rest) = slashes count ++ c :: breakLines false rest := by
  induction count with
  | zero => exact breakLines_cons h
  | succ count ih =>
    rw [slashes_succ, List.cons_append, breakLines_true_cons]
    exact congrArg ('\\' :: ·) ih

/-- A run is kept, unless it is a single backslash before an `n`. -/
theorem breakLines_run (h : c ≠ '\\') (hrun : c = 'n' → count ≠ 1) :
    breakLines false (slashes count ++ c :: rest) =
      slashes count ++ c :: breakLines false rest := by
  cases count with
  | zero => exact breakLines_cons h
  | succ count =>
    rw [slashes_succ, List.cons_append, breakLines_slash, breakLines_true_run h, List.cons_append]
    intro more heq
    cases count with
    | zero =>
      obtain ⟨hn, -⟩ := List.cons.inj heq
      exact hrun hn rfl
    | succ count => simp [slashes_succ] at heq

theorem breakLines_true_slashes (count : Nat) :
    breakLines true (slashes count) = slashes count := by
  induction count with
  | zero => rfl
  | succ count ih =>
    rw [slashes_succ, breakLines_true_cons]
    exact congrArg ('\\' :: ·) ih

theorem breakLines_slashes (count : Nat) : breakLines false (slashes count) = slashes count := by
  cases count with
  | zero => rfl
  | succ count =>
    rw [slashes_succ, breakLines_slash, breakLines_true_slashes]
    intro more heq
    have hn : 'n' ∈ slashes count := by simp [heq]
    exact absurd (eq_slash_of_mem hn) (by decide)

end BreakLines

/-! ### Expanding -/

section Equations

variable {count : Nat} {c : Char} {rest : List Char}

theorem expand_slashes (count : Nat) : expand (slashes count) = slashes count := by
  rw [expand_eq, breakLines_slashes]
  exact replaceAll_slashes 2 lineEscape count

/-- A run that no `n` ends is kept. -/
theorem expand_run (h : c ≠ '\\') (hrun : c = 'n' → count = 0) :
    expand (slashes count ++ c :: rest) = slashes count ++ c :: expand rest := by
  have hone : c = 'n' → count ≠ 1 := fun hn => by simp [hrun hn]
  have hshort : c = 'n' → count < 2 := fun hn => by simp [hrun hn]
  rw [expand_eq, breakLines_run h hone, expand_eq]
  exact replaceAll_run 2 count h hshort

/-- A single backslash before an `n` becomes a line feed. -/
theorem expand_lineEscape (rest : List Char) :
    expand (slashes 1 ++ 'n' :: rest) = '\n' :: expand rest := by
  rw [expand_eq, expand_eq]
  exact replaceAll_run 2 0 (by decide) (by decide)

/-- A longer run before an `n` loses a backslash. -/
theorem expand_escaped (count : Nat) (rest : List Char) :
    expand (slashes (count + 2) ++ 'n' :: rest) = slashes (count + 1) ++ 'n' :: expand rest := by
  rw [expand_eq, breakLines_run (by decide) (by simp), expand_eq]
  refine (replaceAll_long_run 2 count).trans ?_
  rw [slashes_succ_append count, List.append_assoc]
  rfl

/-! ### Storing -/

theorem store_slashes (count : Nat) : store (slashes count) = slashes count :=
  replaceAll_slashes 1 escapedLineEscape count

/-- A run that no `n` ends is kept. -/
theorem store_run (h : c ≠ '\\') (hrun : c = 'n' → count = 0) :
    store (slashes count ++ c :: rest) = slashes count ++ c :: store rest := by
  have hshort : c = 'n' → count < 1 := fun hn => by simp [hrun hn]
  exact replaceAll_run 1 count h hshort

/-- A run before an `n` gets a backslash. -/
theorem store_lineEscape (count : Nat) (rest : List Char) :
    store (slashes (count + 1) ++ 'n' :: rest) = slashes (count + 2) ++ 'n' :: store rest := by
  refine (replaceAll_long_run 1 count).trans ?_
  rw [slashes_add count 2, List.append_assoc, List.append_assoc]
  rfl

/-! ### Quotes -/

theorem escapeQuotes_cons (h : c ≠ '"') : escapeQuotes (c :: rest) = c :: escapeQuotes rest :=
  replaceAll_cons _ (by simpa using h.symm)

theorem escapeQuotes_slashes_append (count : Nat) (rest : List Char) :
    escapeQuotes (slashes count ++ rest) = slashes count ++ escapeQuotes rest := by
  induction count with
  | zero => rfl
  | succ count ih =>
    rw [slashes_succ, List.cons_append, escapeQuotes_cons (by decide), ih, List.cons_append]

theorem escapeQuotes_slashes (count : Nat) : escapeQuotes (slashes count) = slashes count := by
  have h := escapeQuotes_slashes_append count []
  have hnil : escapeQuotes [] = [] := rfl
  rwa [hnil, List.append_nil] at h

/-- A run that no quote ends is kept. -/
theorem escapeQuotes_run (h : c ≠ '"') :
    escapeQuotes (slashes count ++ c :: rest) = slashes count ++ c :: escapeQuotes rest := by
  rw [escapeQuotes_slashes_append, escapeQuotes_cons h]

/-- A run before a quote gets a backslash. -/
theorem escapeQuotes_quote (count : Nat) (rest : List Char) :
    escapeQuotes (slashes count ++ '"' :: rest) =
      slashes (count + 1) ++ '"' :: escapeQuotes rest := by
  rw [escapeQuotes_slashes_append, slashes_succ_append]
  rfl

/-- A quote at the beginning gets a backslash. -/
theorem escapeQuotes_cons_quote (rest : List Char) :
    escapeQuotes ('"' :: rest) = '\\' :: '"' :: escapeQuotes rest :=
  escapeQuotes_quote 0 rest

end Equations

end TreeScript.Text
