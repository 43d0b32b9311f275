import TreeScript.Proofs.Text.Escapes
import TreeScript.Proofs.Text.Runs

/-!
Reducing the escapes of a literal more than once. `unescape` goes over a body from left to right and
does not look again at what it has put out. An escape in the stored text is therefore one that the
reduction itself has put together, and there is one way only: a backslash and a carriage return are
kept, the continued lines behind them disappear, and the line feed behind those is the next thing
that is put out.

* `Unpaired`: a text ends with a rest, and the backslash at the beginning of the rest is not the
  second one of a pair; `StandsUnpaired` says this of a piece with anything behind it.
* `unpaired_escape_iff`, `unpaired_cons_iff`: such a rest begins where an escape begins, or a
  character that makes no pair with the next one.
* `standsUnpaired_unescape_iff`: what stands unpaired in a stored text, by the body.
* `reduction_again`: when a second reduction changes a stored text, and what it removes.
-/

namespace TreeScript.Text

/-! ### Backslashes that are not paired -/

/-- A text ends with a rest that an even number of backslashes stands before, so that a backslash at
the beginning of the rest is not paired with an earlier one. -/
def Unpaired (rest text : List Char) : Prop :=
  ∃ before pairs, text = before ++ (slashes (2 * pairs) ++ rest) ∧ before.getLast? ≠ some '\\'

/-- A piece stands in a text, and its first backslash is not paired with an earlier one. -/
def StandsUnpaired (piece text : List Char) : Prop :=
  ∃ behind, Unpaired (piece ++ behind) text

theorem getLast?_ne_of_cons {c b : Char} {before : List Char}
    (h : (b :: before).getLast? ≠ some c) : before.getLast? ≠ some c := by
  cases before with
  | nil => nofun
  | cons e before => rwa [List.getLast?_cons_cons] at h

section Unpaired

variable {c d : Char} {rest text written stored : List Char}

theorem unpaired_self (text : List Char) : Unpaired text text :=
  ⟨[], 0, rfl, nofun⟩

theorem Unpaired.suffix (h : Unpaired rest text) : rest <:+ text := by
  obtain ⟨before, pairs, rfl, -⟩ := h
  exact ⟨before ++ slashes (2 * pairs), by rw [List.append_assoc]⟩

/-- Pairs and other characters in front leave a rest unpaired. -/
theorem Unpaired.cons (h : Unpaired rest text) (hc : c ≠ '\\') : Unpaired rest (c :: text) := by
  obtain ⟨before, pairs, rfl, hlast⟩ := h
  refine ⟨c :: before, pairs, rfl, ?_⟩
  cases before with
  | nil => simpa using hc
  | cons b before => rwa [List.getLast?_cons_cons]

theorem Unpaired.pair (h : Unpaired rest text) : Unpaired rest ('\\' :: '\\' :: text) := by
  obtain ⟨before, pairs, rfl, hlast⟩ := h
  cases before with
  | nil => exact ⟨[], pairs + 1, rfl, nofun⟩
  | cons b before =>
    refine ⟨'\\' :: '\\' :: b :: before, pairs, rfl, ?_⟩
    rwa [List.getLast?_cons_cons, List.getLast?_cons_cons]

/-- So does a single backslash that stands before another character. -/
theorem Unpaired.slash (h : Unpaired ('\\' :: rest) (c :: text)) (hc : c ≠ '\\') :
    Unpaired ('\\' :: rest) ('\\' :: c :: text) := by
  obtain ⟨before, pairs, heq, hlast⟩ := h
  match before, pairs with
  | [], 0 => exact absurd (List.cons.inj heq).1 hc
  | [], pairs + 1 => exact absurd (List.cons.inj heq).1 hc
  | b :: before, pairs =>
    refine ⟨'\\' :: b :: before, pairs, congrArg ('\\' :: ·) heq, ?_⟩
    rwa [List.getLast?_cons_cons]

/-- Behind a pair the same rests are unpaired. -/
theorem unpaired_pair_iff (hd : d ≠ '\\') :
    Unpaired ('\\' :: d :: rest) ('\\' :: '\\' :: text) ↔ Unpaired ('\\' :: d :: rest) text := by
  refine ⟨?_, Unpaired.pair⟩
  rintro ⟨before, pairs, heq, hlast⟩
  match before, pairs with
  | [], 0 =>
    obtain ⟨hslash, -⟩ := List.cons.inj (List.cons.inj heq).2
    exact absurd hslash.symm hd
  | [], pairs + 1 => exact ⟨[], pairs, (List.cons.inj (List.cons.inj heq).2).2, nofun⟩
  | [b], pairs =>
    obtain ⟨hslash, -⟩ := List.cons.inj heq
    exact absurd (congrArg some hslash.symm) hlast
  | b :: e :: before, pairs =>
    exact ⟨before, pairs, (List.cons.inj (List.cons.inj heq).2).2,
      getLast?_ne_of_cons (getLast?_ne_of_cons hlast)⟩

/-- Behind a character that makes no pair with the next one there is one rest less. -/
theorem unpaired_cons_iff (hc : ¬ ['\\', '\\'] <+: c :: text) :
    Unpaired ('\\' :: rest) (c :: text) ↔
      '\\' :: rest = c :: text ∨ Unpaired ('\\' :: rest) text := by
  constructor
  · rintro ⟨before, pairs, heq, hlast⟩
    match before, pairs with
    | [], 0 => exact .inl heq.symm
    | [], pairs + 1 =>
      refine absurd ?_ hc
      rw [heq]
      exact ⟨slashes (2 * pairs) ++ '\\' :: rest, rfl⟩
    | b :: before, pairs =>
      exact .inr ⟨before, pairs, (List.cons.inj heq).2, getLast?_ne_of_cons hlast⟩
  · rintro (heq | h)
    · rw [heq]
      exact unpaired_self _
    · by_cases hslash : c = '\\'
      · subst hslash
        cases text with
        | nil => exact absurd (List.eq_nil_of_suffix_nil h.suffix) (List.cons_ne_nil _ _)
        | cons e text => exact h.slash fun he => hc ⟨text, by rw [he]; rfl⟩
      · exact h.cons hslash

theorem standsUnpaired_nil (piece : List Char) : ¬ StandsUnpaired ('\\' :: piece) [] := by
  rintro ⟨behind, h⟩
  exact absurd (List.eq_nil_of_suffix_nil h.suffix) (List.cons_ne_nil _ _)

/-- Behind a pair the same pieces stand unpaired. -/
theorem standsUnpaired_pair_iff (hd : d ≠ '\\') :
    StandsUnpaired ('\\' :: d :: rest) ('\\' :: '\\' :: text) ↔
      StandsUnpaired ('\\' :: d :: rest) text :=
  exists_congr fun _ => unpaired_pair_iff hd

/-- Any other character may begin a piece. -/
theorem standsUnpaired_cons_iff (hc : ¬ ['\\', '\\'] <+: c :: text) :
    StandsUnpaired ('\\' :: rest) (c :: text) ↔
      '\\' :: rest <+: c :: text ∨ StandsUnpaired ('\\' :: rest) text := by
  have heach (behind : List Char) : Unpaired ('\\' :: (rest ++ behind)) (c :: text) ↔
      '\\' :: (rest ++ behind) = c :: text ∨ Unpaired ('\\' :: (rest ++ behind)) text :=
    unpaired_cons_iff hc
  simp only [StandsUnpaired, List.cons_append, heach, exists_or]
  rfl

/-! ### Unpaired backslashes and escapes -/

/-- An unpaired rest of a text behind an escape begins with the escape or behind it. -/
theorem unpaired_escape_iff (h : Escape written stored) (hd : d ≠ '\\') :
    Unpaired ('\\' :: d :: rest) (written ++ text) ↔
      '\\' :: d :: rest = written ++ text ∨ Unpaired ('\\' :: d :: rest) text := by
  cases h with
  | backslash => simp [unpaired_pair_iff hd, hd]
  | lineFeed | lineBreak | doubleQuote | singleQuote => simp [unpaired_cons_iff]

/-- What an escape is reduced to begins no piece. -/
theorem standsUnpaired_stored_iff (h : Escape written stored) (hd : d ≠ '\\') :
    StandsUnpaired ('\\' :: d :: rest) (stored ++ text) ↔
      StandsUnpaired ('\\' :: d :: rest) text := by
  cases h with
  | backslash => exact standsUnpaired_pair_iff hd
  | lineFeed | lineBreak => rfl
  | doubleQuote | singleQuote => simp [standsUnpaired_cons_iff]

end Unpaired

/-! ### What stands unpaired in a stored text -/

section Stored

variable {c d : Char} {more body text written stored : List Char}

/-- A character behind a backslash that begins no escape is no backslash, and is kept. -/
theorem BeginsPlain.unescape_slash (h : BeginsPlain ('\\' :: c :: text)) :
    c ≠ '\\' ∧ unescape (c :: text) = c :: unescape text := by
  have hc : c ≠ '\\' := by
    rintro rfl
    exact h _ _ .backslash ⟨text, rfl⟩
  exact ⟨hc, unescape_cons (beginsPlain_cons hc)⟩

/-- What is behind a character that begins no escape is reduced to nothing that makes a pair with
it. -/
theorem BeginsPlain.not_pair (h : BeginsPlain (c :: text)) :
    ¬ ['\\', '\\'] <+: c :: unescape text := by
  intro hpair
  obtain ⟨rfl, hnext⟩ := List.cons_prefix_cons.1 hpair
  cases text with
  | nil => exact absurd hnext (by decide)
  | cons e text =>
    obtain ⟨he, heq⟩ := h.unescape_slash
    rw [heq] at hnext
    exact he (List.cons_prefix_cons.1 hnext).1.symm

/-- Of a body that begins with no escape the stored text begins with a piece exactly if the body
begins with the two characters of the piece that it keeps, and what follows them is reduced to
the rest of the piece. -/
theorem BeginsPlain.prefix_unescape_iff (h : BeginsPlain (c :: text)) :
    '\\' :: d :: more <+: c :: unescape text ↔
      ∃ behind, '\\' :: d :: behind = c :: text ∧ more <+: unescape behind := by
  constructor
  · intro hpiece
    obtain ⟨rfl, hnext⟩ := List.cons_prefix_cons.1 hpiece
    cases text with
    | nil => exact absurd (List.prefix_nil.1 hnext) (List.cons_ne_nil d more)
    | cons e text =>
      rw [h.unescape_slash.2] at hnext
      obtain ⟨rfl, hmore⟩ := List.cons_prefix_cons.1 hnext
      exact ⟨text, rfl, hmore⟩
  · rintro ⟨behind, heq, hmore⟩
    obtain ⟨rfl, rfl⟩ := List.cons.inj heq
    rw [h.unescape_slash.2]
    exact List.cons_prefix_cons.2 ⟨rfl, List.cons_prefix_cons.2 ⟨rfl, hmore⟩⟩

/-- A piece stands unpaired in a stored text exactly if its first two characters stand unpaired in
the body, where they begin no escape, and what follows them is reduced to the rest of the piece. -/
theorem standsUnpaired_unescape_iff_exists (hd : d ≠ '\\') (body : List Char) :
    StandsUnpaired ('\\' :: d :: more) (unescape body) ↔
      ∃ behind, Unpaired ('\\' :: d :: behind) body ∧ BeginsPlain ('\\' :: d :: behind) ∧
        more <+: unescape behind := by
  -- An escape leaves nothing behind that begins a piece, so a piece begins with kept characters.
  induction body using induction_of_escapes with
  | nil =>
    refine iff_of_false (standsUnpaired_nil _) ?_
    rintro ⟨behind, h, -⟩
    exact standsUnpaired_nil (d :: behind) ⟨[], by rwa [List.append_nil]⟩
  | escape written stored rest hescape ih =>
    rw [unescape_escape hescape, standsUnpaired_stored_iff hescape hd, ih]
    refine exists_congr fun behind => ?_
    rw [unpaired_escape_iff hescape hd, or_and_right, or_iff_right]
    rintro ⟨heq, hplain, -⟩
    exact hplain _ _ hescape ⟨rest, heq.symm⟩
  | plain c rest hplain ih =>
    have hpair : ¬ ['\\', '\\'] <+: c :: rest := hplain _ _ .backslash
    rw [unescape_cons hplain, standsUnpaired_cons_iff hplain.not_pair, hplain.prefix_unescape_iff,
      ih, ← exists_or]
    refine exists_congr fun behind => ?_
    rw [unpaired_cons_iff hpair, or_and_right]
    refine or_congr_left ?_
    constructor
    · rintro ⟨heq, hmore⟩
      exact ⟨heq, heq ▸ hplain, hmore⟩
    · rintro ⟨heq, -, hmore⟩
      exact ⟨heq, hmore⟩

end Stored

/-! ### Line breaks that a reduction puts together -/

/-- A text of continued lines only. -/
inductive Continuations : List Char → Prop where
  | nil : Continuations []
  | cons {written joined : List Char} : Escape written [] → Continuations joined →
      Continuations (written ++ joined)

/-- A text begins with a line feed, or with continued lines and a line feed behind them. -/
def ContinuesToLineFeed (text : List Char) : Prop :=
  ∃ joined, Continuations joined ∧ joined ++ ['\n'] <+: text

/-- In a body a backslash that is not paired with an earlier one and a carriage return stand before
continued lines with a line feed behind them. -/
def JoinsLineBreak (body : List Char) : Prop :=
  ∃ joined, Continuations joined ∧ joined ≠ [] ∧
    StandsUnpaired ('\\' :: '\r' :: (joined ++ ['\n'])) body

/-- No escape begins another one. -/
theorem Escape.eq_of_prefix {written stored written' stored' rest : List Char}
    (h : Escape written stored) (h' : Escape written' stored')
    (hbegins : written <+: written' ++ rest) : written = written' := by
  cases h <;> cases h' <;> simp_all

/-- One continued line more does not matter. -/
theorem continuesToLineFeed_continuation_iff {written rest : List Char} (h : Escape written []) :
    ContinuesToLineFeed (written ++ rest) ↔ ContinuesToLineFeed rest := by
  constructor
  · rintro ⟨joined, hjoined, hbegins⟩
    cases hjoined with
    | nil => cases h <;> simp at hbegins
    | @cons written' joined h' hjoined =>
      have hwritten : written' = written := by
        refine h'.eq_of_prefix h (List.IsPrefix.trans ⟨joined ++ ['\n'], ?_⟩ hbegins)
        rw [List.append_assoc]
      rw [hwritten, List.append_assoc, List.prefix_append_right_inj] at hbegins
      exact ⟨joined, hjoined, hbegins⟩
  · rintro ⟨joined, hjoined, hbegins⟩
    refine ⟨written ++ joined, .cons h hjoined, ?_⟩
    rwa [List.append_assoc, List.prefix_append_right_inj]

/-- Without a continued line at its beginning a text begins with the line feed. -/
theorem continuesToLineFeed_iff {text : List Char}
    (h : ∀ written, Escape written [] → ¬ written <+: text) :
    ContinuesToLineFeed text ↔ ['\n'] <+: text := by
  constructor
  · rintro ⟨joined, hjoined, hbegins⟩
    cases hjoined with
    | nil => exact hbegins
    | @cons written joined hwritten hjoined =>
      refine absurd (List.IsPrefix.trans ⟨joined ++ ['\n'], ?_⟩ hbegins) (h written hwritten)
      rw [List.append_assoc]
  · intro hbegins
    exact ⟨[], .nil, hbegins⟩

/-- A stored text begins with a line feed exactly if the body does so behind continued lines. -/
theorem lineFeed_prefix_unescape_iff (body : List Char) :
    ['\n'] <+: unescape body ↔ ContinuesToLineFeed body := by
  induction body using induction_of_escapes with
  | nil =>
    refine (continuesToLineFeed_iff ?_).symm
    intro written h
    cases h <;> simp [unescape]
  | escape written stored rest hescape ih =>
    rw [unescape_escape hescape]
    cases hescape with
    | lineFeed => exact ih.trans (continuesToLineFeed_continuation_iff .lineFeed).symm
    | lineBreak => exact ih.trans (continuesToLineFeed_continuation_iff .lineBreak).symm
    | doubleQuote | singleQuote | backslash =>
      refine iff_of_false (by simp) fun hcontinues => ?_
      have hbegins := (continuesToLineFeed_iff ?_).1 hcontinues
      · simp at hbegins
      · intro written h
        cases h <;> simp
  | plain c rest hplain ih =>
    rw [unescape_cons hplain, continuesToLineFeed_iff fun written h => hplain written [] h]
    simp only [List.cons_prefix_cons, List.nil_prefix]

/-- A backslash and a carriage return are kept, unless a line feed follows. -/
theorem beginsPlain_carriageReturn_iff {text : List Char} :
    BeginsPlain ('\\' :: '\r' :: text) ↔ ¬ ['\n'] <+: text := by
  constructor
  · rintro hplain ⟨rest, rfl⟩
    exact hplain _ _ .lineBreak ⟨rest, rfl⟩
  · intro hnot written stored h hbegins
    cases h with
    | lineBreak =>
      exact hnot (List.cons_prefix_cons.1 (List.cons_prefix_cons.1 hbegins).2).2
    | lineFeed | doubleQuote | singleQuote | backslash => simp at hbegins

/-- A line break that is put together, by what stands behind its carriage return. -/
theorem joinsLineBreak_iff {body : List Char} :
    JoinsLineBreak body ↔
      ∃ behind, Unpaired ('\\' :: '\r' :: behind) body ∧ ¬ ['\n'] <+: behind ∧
        ContinuesToLineFeed behind := by
  constructor
  · rintro ⟨joined, hjoined, hne, rest, hunpaired⟩
    refine ⟨joined ++ ['\n'] ++ rest, hunpaired, ?_, joined, hjoined, ⟨rest, rfl⟩⟩
    cases hjoined with
    | nil => exact absurd rfl hne
    | cons h hjoined => cases h <;> simp
  · rintro ⟨behind, hunpaired, hnot, joined, hjoined, rest, rfl⟩
    refine ⟨joined, hjoined, ?_, rest, hunpaired⟩
    rintro rfl
    exact hnot ⟨rest, rfl⟩

/-! ### Reducing again -/

section Again

variable {written stored : List Char}

/-- Of the escapes that are reduced to something else only a line break with its backslash can stand
unpaired in a stored text, and this one does exactly if the body puts it together. -/
theorem standsUnpaired_unescape_iff (h : Escape written stored) (hne : written ≠ stored)
    (body : List Char) :
    StandsUnpaired written (unescape body) ↔
      written = ['\\', '\r', '\n'] ∧ JoinsLineBreak body := by
  have hescape := h
  cases h with
  | backslash => exact absurd rfl hne
  | lineBreak =>
    rw [standsUnpaired_unescape_iff_exists (by decide), joinsLineBreak_iff]
    simp only [beginsPlain_carriageReturn_iff, lineFeed_prefix_unescape_iff, true_and]
  | lineFeed | doubleQuote | singleQuote =>
    rw [standsUnpaired_unescape_iff_exists (by decide)]
    refine iff_of_false ?_ (by simp)
    rintro ⟨behind, -, hplain, -⟩
    exact hplain _ _ hescape ⟨behind, rfl⟩

/-- An escape is longer than what it is reduced to, or it is this. -/
theorem Escape.eq_or_length_lt (h : Escape written stored) :
    written = stored ∨ stored.length < written.length := by
  cases h with
  | backslash => exact .inl rfl
  | lineFeed | lineBreak | doubleQuote | singleQuote => exact .inr (by decide)

/-- A reduction makes no text longer. -/
theorem length_unescape_le (body : List Char) : (unescape body).length ≤ body.length := by
  induction body using induction_of_escapes with
  | nil => exact Nat.le_refl 0
  | escape written stored rest hescape ih =>
    rw [unescape_escape hescape, List.length_append, List.length_append]
    obtain rfl | hlength := hescape.eq_or_length_lt <;> omega
  | plain c rest hplain ih =>
    rw [unescape_cons hplain]
    exact Nat.succ_le_succ ih

/-- An escape that is reduced to something else stands unpaired in a text exactly if it stands so
behind a doubled backslash, or behind a character that begins no escape. -/
theorem standsUnpaired_behind_pair_iff (h : Escape written stored) (hne : written ≠ stored)
    (text : List Char) :
    StandsUnpaired written ('\\' :: '\\' :: text) ↔ StandsUnpaired written text := by
  cases h with
  | backslash => exact absurd rfl hne
  | lineFeed | lineBreak | doubleQuote | singleQuote => exact standsUnpaired_pair_iff (by decide)

theorem standsUnpaired_behind_plain_iff (h : Escape written stored) {c : Char} {text : List Char}
    (hplain : BeginsPlain (c :: text)) :
    StandsUnpaired written (c :: text) ↔ StandsUnpaired written text := by
  have hescape := h
  cases h with
  | lineFeed | lineBreak | doubleQuote | singleQuote | backslash =>
    rw [standsUnpaired_cons_iff (hplain _ _ .backslash), or_iff_right (hplain _ _ hescape)]

/-- A text is reduced to itself exactly if no escape stands unpaired in it that is reduced to
something else. -/
theorem unescape_eq_self_iff (text : List Char) :
    unescape text = text ↔
      ∀ written stored, Escape written stored → written ≠ stored →
        ¬ StandsUnpaired written text := by
  induction text using induction_of_escapes with
  | nil =>
    refine iff_of_true rfl fun written stored h _ => ?_
    cases h <;> exact standsUnpaired_nil _
  | escape written stored rest hescape ih =>
    obtain rfl | hlength := hescape.eq_or_length_lt
    · cases hescape with
      | backslash =>
        have hrest : unescape ('\\' :: '\\' :: rest) = '\\' :: '\\' :: rest ↔
            unescape rest = rest := by simp [unescape]
        refine (hrest.trans ih).trans ?_
        refine forall₄_congr fun written stored h hne => ?_
        exact not_congr (standsUnpaired_behind_pair_iff h hne rest).symm
    · refine iff_of_false (fun heq => ?_) (fun hnone => ?_)
      · have hle := length_unescape_le rest
        have hsum := congrArg List.length heq
        rw [unescape_escape hescape, List.length_append, List.length_append] at hsum
        omega
      · refine hnone written stored hescape ?_ ⟨rest, unpaired_self _⟩
        rintro rfl
        exact absurd hlength (Nat.lt_irrefl _)
  | plain c rest hplain ih =>
    rw [unescape_cons hplain, List.cons.injEq, ih]
    refine (and_iff_right rfl).trans (forall₄_congr fun written stored h hne => ?_)
    exact not_congr (standsUnpaired_behind_plain_iff h hplain).symm

/-- A stored text is reduced once more exactly if its body puts a line break together, behind a
backslash that is not paired with an earlier one. Then this backslash and the line break stand
unpaired in the stored text. A backslash before a single line feed and an escaped quote never do. -/
theorem reduction_again (body : List Char) :
    (unescape (unescape body) = unescape body ↔ ¬ JoinsLineBreak body) ∧
      (StandsUnpaired ['\\', '\r', '\n'] (unescape body) ↔ JoinsLineBreak body) ∧
      ¬ StandsUnpaired ['\\', '\n'] (unescape body) ∧
      ¬ StandsUnpaired ['\\', '"'] (unescape body) ∧
      ¬ StandsUnpaired ['\\', '\''] (unescape body) := by
  have hstands {written stored : List Char} (h : Escape written stored) (hne : written ≠ stored) :=
    standsUnpaired_unescape_iff h hne body
  refine ⟨?_, ?_, ?_, ?_, ?_⟩
  · rw [unescape_eq_self_iff]
    constructor
    · intro hnone hjoins
      exact hnone _ _ .lineBreak (by decide) ((hstands .lineBreak (by decide)).2 ⟨rfl, hjoins⟩)
    · intro hnot written stored h hne hunpaired
      exact hnot ((hstands h hne).1 hunpaired).2
  · simp [hstands .lineBreak (by decide)]
  · simp [hstands .lineFeed (by decide)]
  · simp [hstands .doubleQuote (by decide)]
  · simp [hstands .singleQuote (by decide)]

/-- Behind a backslash and a carriage return the continued line disappears and a line feed follows,
which a second reduction removes with them. -/
theorem reduction_not_complete :
    unescape (unescape ['\\', '\r', '\\', '\n', '\n']) ≠
      unescape ['\\', '\r', '\\', '\n', '\n'] := by
  decide

end Again

end TreeScript.Text
