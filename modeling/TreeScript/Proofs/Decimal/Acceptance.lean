import Mathlib.Data.List.Chain
import TreeScript.Proofs.Decimal.Integers

/-!
What is accepted as a number literal. A literal is read by an integer reader and by a floating-point
one, which also takes words, and before both of them by its characters. The three come to one
grammar: every text that is accepted is a numeral (`numeral_of_number?`), and every numeral is
accepted (`Numeral.exists_number?`), as an integer if it is one that fits and in floating point
otherwise (`number?_eq_int_iff`, `exists_number?_eq_float_iff`). So words are refused
(`SpecialWord.not_numeral`), and so are signs in the middle (`StraySign.not_numeral`).
-/

namespace TreeScript.Decimal

variable {sign digits rest text : List Char} {c : Char}

/-! ### Decimal numbers -/

theorem exists_sign_append (text : List Char) :
    ∃ sign, OptionalSign sign ∧ text = sign ++ (splitSign text).2 := by
  obtain ⟨rest, rfl, hsplit⟩ | ⟨rest, rfl, hsplit⟩ | hsplit := splitSign_cases text
  · exact ⟨['-'], .minus, rfl⟩
  · exact ⟨['+'], .plus, rfl⟩
  · exact ⟨[], .absent, by rw [hsplit, List.nil_append]⟩

/-- What is read as an exponent with its letter, or as nothing. -/
theorem optionalExponent_of_read {exponent : Int} (h : readOptionalExponent? text = some exponent) :
    OptionalExponent text := by
  unfold readOptionalExponent? at h
  split at h
  · exact .absent
  · split at h
    · rename_i hletter
      obtain ⟨sign, digits, hsign, hdigits, hne, rfl⟩ :=
        (readExponent?_eq_some_iff.1 h).exists_digits
      exact .present (by simpa using hletter) hsign hdigits hne
    · cases h

/-- Digits behind a point are split off, if there is a point. -/
theorem splitFraction_cases (text : List Char) :
    splitFraction text = ([], text) ∨
      ∃ fraction rest, text = '.' :: (fraction ++ rest) ∧ AllDigits fraction ∧
        splitFraction text = (fraction, rest) := by
  unfold splitFraction
  split
  · rename_i rest
    refine .inr ⟨(splitDigits rest).1, (splitDigits rest).2, ?_, allDigits_splitDigits rest, rfl⟩
    rw [splitDigits_fst_append_snd]
  · exact .inl rfl

/-- What is read as a decimal number is a numeral. -/
theorem numeral_of_readScientific? {number : Scientific} (h : readScientific? text = some number) :
    Numeral text := by
  obtain ⟨sign, hsign, htext⟩ := exists_sign_append text
  have hwhole := allDigits_splitDigits (splitSign text).2
  have hunsigned := splitDigits_fst_append_snd (splitSign text).2
  rw [readScientific?_eq_stages] at h
  simp only at h
  split at h
  · cases h
  · rename_i hdigits
    rw [Bool.and_eq_true, not_and_or, List.isEmpty_iff, List.isEmpty_iff] at hdigits
    obtain ⟨exponent, hexponent, -⟩ := Option.map_eq_some_iff.1 h
    obtain hnone | ⟨fraction, rest, htail, hfraction, hsplit⟩ :=
      splitFraction_cases (splitDigits (splitSign text).2).2
    · rw [hnone] at hexponent hdigits
      rw [htext, ← hunsigned]
      have hne := hdigits.resolve_right (not_not.2 rfl)
      exact .mk hsign (.whole hwhole hne) (optionalExponent_of_read hexponent)
    · rw [hsplit] at hexponent hdigits
      have hnumeral :=
        Numeral.mk hsign (.point hwhole hfraction hdigits) (optionalExponent_of_read hexponent)
      rw [List.append_assoc, List.cons_append, ← htail, hunsigned, ← htext] at hnumeral
      exact hnumeral

/-! ### Words -/

/-- A word for a number that has no digits, in capital letters or others, maybe behind a sign. -/
inductive SpecialWord : List Char → Prop where
  | mk {sign word : List Char} (hsign : OptionalSign sign)
      (hword : String.ofList (word.map Char.toLower) ∈ ["inf", "infinity", "nan"]) :
      SpecialWord (sign ++ word)

theorem specialWord_of_readSpecial? {x : Float} (h : readSpecial? text = some x) :
    SpecialWord text := by
  obtain ⟨sign, hsign, htext⟩ := exists_sign_append text
  rw [htext]
  refine .mk hsign ?_
  unfold readSpecial? at h
  simp only at h
  split at h
  · rename_i hword
    simp [hword]
  · rename_i hword
    simp [hword]
  · rename_i hword
    simp [hword]
  · cases h

theorem toLower_of_isDigit (h : c.isDigit = true) : c.toLower = c := by
  rw [Char.isDigit, Bool.and_eq_true, decide_eq_true_iff, decide_eq_true_iff] at h
  refine dif_neg ?_
  rintro ⟨hupper, -⟩
  exact absurd (UInt32.le_trans hupper h.2) (by decide)

/-- No letter of such a word is a digit. -/
theorem SpecialWord.isDigit_eq_false (h : SpecialWord text) : ∀ c ∈ text, c.isDigit = false := by
  cases h with
  | @mk sign word hsign hword =>
    intro c hc
    refine Bool.eq_false_iff.2 fun hdigit => ?_
    obtain hc | hc := List.mem_append.1 hc
    · cases hsign with
      | absent => cases hc
      | plus | minus =>
        obtain rfl := List.mem_singleton.1 hc
        cases hdigit
    · have hmem : c ∈ word.map Char.toLower :=
        List.mem_map.2 ⟨c, hc, toLower_of_isDigit hdigit⟩
      have hletters : ∀ letters ∈ ["inf", "infinity", "nan"],
          letters.toList.all (fun letter => !letter.isDigit) = true := by decide
      have hletter := List.all_eq_true.1 (hletters _ hword) c (by rwa [String.toList_ofList])
      rw [hdigit] at hletter
      cases hletter

/-- Words are no numerals. -/
theorem SpecialWord.not_numeral (h : SpecialWord text) : ¬ Numeral text := by
  intro hnumeral
  obtain ⟨c, hc, hdigit⟩ := hnumeral.exists_isDigit
  rw [h.isDigit_eq_false c hc] at hdigit
  cases hdigit

/-! ### Signs -/

/-- A sign stands directly behind a character that is no letter of an exponent. -/
def StraySign (text : List Char) : Prop :=
  ∃ before c, (before ≠ 'e' ∧ before ≠ 'E') ∧ (c = '+' ∨ c = '-') ∧ [before, c] <:+: text

/-- A character may stand behind another one: if it is a sign, the other one is the letter of an
exponent. -/
def SignAllowed (before c : Char) : Prop :=
  c = '+' ∨ c = '-' → before = 'e' ∨ before = 'E'

theorem signAllowed_of_ne (h : c ≠ '+' ∧ c ≠ '-') (before : Char) : SignAllowed before c := by
  rintro (hc | hc)
  · exact absurd hc h.1
  · exact absurd hc h.2

theorem isChain_of_ne_sign (h : ∀ c ∈ text, c ≠ '+' ∧ c ≠ '-') : text.IsChain SignAllowed := by
  refine (List.pairwise_of_forall_mem_list ?_).isChain
  intro before _ c hc
  exact signAllowed_of_ne (h c hc) before

theorem isChain_append_of_ne_sign (h : text.IsChain SignAllowed) (hrest : rest.IsChain SignAllowed)
    (hfirst : ∀ c ∈ rest.head?, c ≠ '+' ∧ c ≠ '-') : (text ++ rest).IsChain SignAllowed := by
  refine List.isChain_append.2 ⟨h, hrest, ?_⟩
  intro before _ c hc
  exact signAllowed_of_ne (hfirst c hc) before

theorem OptionalSign.isChain (h : OptionalSign sign) : sign.IsChain SignAllowed := by
  cases h with
  | absent => exact .nil
  | plus | minus => exact .singleton _

theorem OptionalExponent.isChain (h : OptionalExponent text) : text.IsChain SignAllowed := by
  cases h with
  | absent => exact .nil
  | present hletter hsign hdigits hne =>
    have hplain := fun c hc => ne_sign_of_isDigit (hdigits c hc)
    refine List.isChain_cons.2 ⟨fun c _ _ => hletter, ?_⟩
    refine isChain_append_of_ne_sign hsign.isChain (isChain_of_ne_sign hplain) ?_
    intro c hc
    exact hplain c (List.mem_of_mem_head? hc)

theorem Significand.ne_sign (h : Significand text) : ∀ c ∈ text, c ≠ '+' ∧ c ≠ '-' := by
  intro c hc
  cases h with
  | whole hdigits _ => exact ne_sign_of_isDigit (hdigits c hc)
  | point hwhole hfraction _ =>
    rw [List.mem_append, List.mem_cons] at hc
    obtain hc | rfl | hc := hc
    · exact ne_sign_of_isDigit (hwhole c hc)
    · decide
    · exact ne_sign_of_isDigit (hfraction c hc)

theorem Numeral.isChain (h : Numeral text) : text.IsChain SignAllowed := by
  cases h with
  | @mk sign significand exponent hsign hsignificand hexponent =>
    refine isChain_append_of_ne_sign hsign.isChain ?_ ?_
    · exact isChain_append_of_ne_sign (isChain_of_ne_sign hsignificand.ne_sign) hexponent.isChain
        hexponent.ne_sign
    · intro c hc
      cases significand with
      | nil => exact hexponent.ne_sign c hc
      | cons d significand =>
        cases hc
        exact hsignificand.ne_sign c List.mem_cons_self

/-- A numeral has no sign but at its beginning and behind the letter of its exponent. -/
theorem StraySign.not_numeral (h : StraySign text) : ¬ Numeral text := by
  intro hnumeral
  obtain ⟨before, c, hbefore, hsign, front, behind, rfl⟩ := h
  have hchain := hnumeral.isChain
  rw [List.append_assoc] at hchain
  obtain ⟨-, hpair, -⟩ := List.isChain_append_cons_cons.1 hchain
  obtain rfl | rfl := hpair hsign
  · exact hbefore.1 rfl
  · exact hbefore.2 rfl

/-! ### Number literals -/

/-- What is read as a floating-point number is a numeral, if it has a digit. -/
theorem numeral_of_readFloat? {x : Float} (h : readFloat? text = some x)
    (hdigit : ∃ c ∈ text, c.isDigit = true) : Numeral text := by
  unfold readFloat? at h
  cases hread : readScientific? text with
  | some number => exact numeral_of_readScientific? hread
  | none =>
    rw [hread] at h
    obtain ⟨c, hc, hdigit⟩ := hdigit
    rw [(specialWord_of_readSpecial? h).isDigit_eq_false c hc] at hdigit
    cases hdigit

/-- What a number literal denotes is written as a numeral. -/
theorem numeral_of_number? {number : Number} (h : Rules.number? text = some number) :
    Numeral text := by
  unfold Rules.number? at h
  split at h
  · rename_i hnumeric
    cases hread : readInt? text with
    | some a =>
      obtain ⟨n, hn, -⟩ := readInt?_eq_some_iff.1 hread
      exact hn.numeral
    | none =>
      rw [hread] at h
      obtain ⟨x, hx, -⟩ := Option.map_eq_some_iff.1 h
      exact numeral_of_readFloat? hx (isNumeric_iff.1 hnumeric).1
  · cases h

/-- A number literal that is no numeral denotes nothing. -/
theorem number?_eq_none_iff : Rules.number? text = none ↔ ¬ Numeral text := by
  constructor
  · intro hnone hnumeral
    obtain ⟨number, hnumber⟩ := hnumeral.exists_number?
    rw [hnone] at hnumber
    cases hnumber
  · intro hnot
    rw [Option.eq_none_iff_forall_ne_some]
    intro number hnumber
    exact hnot (numeral_of_number? hnumber)

/-- A numeral of an integer that fits denotes the integer. -/
theorem number?_eq_int_iff {a : Int64} :
    Rules.number? text = some (.int a) ↔
      ∃ n, IntegerNumeral text n ∧ Number.Fits n ∧ a.toInt = n := by
  rw [← readInt?_eq_some_iff]
  constructor
  · intro h
    unfold Rules.number? at h
    split at h
    · cases hread : readInt? text with
      | some b =>
        rw [hread] at h
        cases h
        rfl
      | none =>
        rw [hread] at h
        obtain ⟨x, -, heq⟩ := Option.map_eq_some_iff.1 h
        cases heq
    · cases h
  · intro h
    obtain ⟨n, hn, -⟩ := readInt?_eq_some_iff.1 h
    rw [Rules.number?, if_pos hn.numeral.isNumeric, h]
    rfl

/-- Any other numeral denotes a floating-point number. -/
theorem exists_number?_eq_float_iff :
    (∃ x, Rules.number? text = some (.float x)) ↔
      Numeral text ∧ ∀ n, IntegerNumeral text n → ¬ Number.Fits n := by
  constructor
  · rintro ⟨x, hx⟩
    refine ⟨numeral_of_number? hx, fun n hn hfits => ?_⟩
    have hint := number?_eq_int_iff.2 ⟨n, hn, hfits, Number.toInt_ofInt_of_fits hfits⟩
    rw [hx] at hint
    cases hint
  · rintro ⟨hnumeral, hnone⟩
    obtain ⟨number, hnumber⟩ := hnumeral.exists_number?
    cases number with
    | int a =>
      obtain ⟨n, hn, hfits, -⟩ := number?_eq_int_iff.1 hnumber
      exact absurd hfits (hnone n hn)
    | float x => exact ⟨x, hnumber⟩

end TreeScript.Decimal
