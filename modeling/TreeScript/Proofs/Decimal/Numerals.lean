import TreeScript.Eval.Rules

/-!
The grammar of numerals: a sign, digits with or without a point, and an exponent (`Numeral`); only
the digits must be there. Reading goes in stages, one for each part (`readScientific?_of_stages`).
Every numeral is read as a decimal number (`Numeral.exists_readScientific?`), so a number literal
with such a text has a value (`Numeral.exists_number?`).
-/

namespace TreeScript.Decimal

/-! ### The grammar -/

def AllDigits (text : List Char) : Prop :=
  ∀ c ∈ text, c.isDigit = true

inductive OptionalSign : List Char → Prop where
  | absent : OptionalSign []
  | plus : OptionalSign ['+']
  | minus : OptionalSign ['-']

/-- Digits, at least one; there may be a point before, among or after them. -/
inductive Significand : List Char → Prop where
  | whole {digits : List Char} (h : AllDigits digits) (hne : digits ≠ []) : Significand digits
  | point {whole fraction : List Char} (hwhole : AllDigits whole) (hfraction : AllDigits fraction)
      (hne : whole ≠ [] ∨ fraction ≠ []) : Significand (whole ++ '.' :: fraction)

inductive OptionalExponent : List Char → Prop where
  | absent : OptionalExponent []
  | present {letter : Char} {sign digits : List Char} (hletter : letter = 'e' ∨ letter = 'E')
      (hsign : OptionalSign sign) (hdigits : AllDigits digits) (hne : digits ≠ []) :
      OptionalExponent (letter :: (sign ++ digits))

inductive Numeral : List Char → Prop where
  | mk {sign significand exponent : List Char} (hsign : OptionalSign sign)
      (hsignificand : Significand significand) (hexponent : OptionalExponent exponent) :
      Numeral (sign ++ (significand ++ exponent))

/-! ### Taking a numeral apart -/

variable {sign digits rest text : List Char}

theorem splitDigits_append (h : AllDigits digits) (hrest : ∀ c ∈ rest.head?, c.isDigit = false) :
    splitDigits (digits ++ rest) = (digits, rest) := by
  have htake : rest.takeWhile Char.isDigit = [] := by
    cases rest with
    | nil => rfl
    | cons c tail => simp [hrest c rfl]
  have hdrop : rest.dropWhile Char.isDigit = rest := by
    cases rest with
    | nil => rfl
    | cons c tail => simp [hrest c rfl]
  rw [splitDigits, List.takeWhile_append_of_pos h, List.dropWhile_append_of_pos h, htake, hdrop,
    List.append_nil]

theorem splitDigits_all (h : AllDigits digits) : splitDigits digits = (digits, []) := by
  have hsplit : splitDigits (digits ++ []) = (digits, []) := splitDigits_append h nofun
  rwa [List.append_nil] at hsplit

/-- A sign is split off whatever follows, if that has no sign. -/
theorem exists_splitSign (h : OptionalSign sign) (hrest : ∀ c ∈ rest.head?, c ≠ '+' ∧ c ≠ '-') :
    ∃ negative, splitSign (sign ++ rest) = (negative, rest) := by
  cases h with
  | absent =>
    rw [List.nil_append]
    unfold splitSign
    split
    · exact absurd rfl (hrest _ rfl).2
    · exact absurd rfl (hrest _ rfl).1
    · exact ⟨false, rfl⟩
  | plus => exact ⟨false, rfl⟩
  | minus => exact ⟨true, rfl⟩

theorem ne_sign_of_isDigit {c : Char} (h : c.isDigit = true) : c ≠ '+' ∧ c ≠ '-' := by
  constructor
  · rintro rfl
    cases h
  · rintro rfl
    cases h

/-- Digits do not begin with a sign, and neither does what follows them, if it has none. -/
theorem AllDigits.ne_sign (h : AllDigits digits) (hrest : ∀ c ∈ rest.head?, c ≠ '+' ∧ c ≠ '-') :
    ∀ c ∈ (digits ++ rest).head?, c ≠ '+' ∧ c ≠ '-' := by
  cases digits with
  | nil => exact hrest
  | cons d ds =>
    rintro c hc
    cases hc
    exact ne_sign_of_isDigit (h d List.mem_cons_self)

/-! ### The stages of reading -/

/-- The digits after a point at the start, and what follows them. -/
def splitFraction : List Char → List Char × List Char
  | '.' :: rest => splitDigits rest
  | rest => ([], rest)

/-- Reads an exponent with its letter, or nothing. -/
def readOptionalExponent? : List Char → Option Int
  | [] => some 0
  | c :: rest => if c == 'e' || c == 'E' then readExponent? rest else none

/-- A decimal number is read in stages: a sign, digits, those after a point, and an exponent. -/
theorem readScientific?_eq_stages (text : List Char) :
    readScientific? text =
      let sign := splitSign text
      let whole := splitDigits sign.2
      let fraction := splitFraction whole.2
      if whole.1.isEmpty && fraction.1.isEmpty then none
      else (readOptionalExponent? fraction.2).map fun exponent =>
        ⟨sign.1, value (whole.1 ++ fraction.1), exponent - fraction.1.length⟩ := rfl

/-- A text is read as a decimal number if the stages of reading it succeed one after another. -/
theorem readScientific?_of_stages {negative : Bool} {unsigned whole tail fraction last : List Char}
    {exponent : Int} (hsign : splitSign text = (negative, unsigned))
    (hwhole : splitDigits unsigned = (whole, tail))
    (hfraction : splitFraction tail = (fraction, last))
    (hexponent : readOptionalExponent? last = some exponent) (hne : whole ≠ [] ∨ fraction ≠ []) :
    readScientific? text =
      some ⟨negative, value (whole ++ fraction), exponent - fraction.length⟩ := by
  rw [readScientific?_eq_stages, hsign]
  simp only [hwhole, hfraction, hexponent]
  rw [if_neg]
  · rfl
  · rcases hne with hne | hne <;> simp [hne]

/-! ### Reading the parts of a numeral -/

theorem exists_readExponent? (hsign : OptionalSign sign) (hdigits : AllDigits digits)
    (hne : digits ≠ []) : ∃ exponent, readExponent? (sign ++ digits) = some exponent := by
  have hfirst : ∀ c ∈ digits.head?, c ≠ '+' ∧ c ≠ '-' := by
    intro c hc
    exact ne_sign_of_isDigit (hdigits c (List.mem_of_mem_head? hc))
  obtain ⟨negative, hsplit⟩ := exists_splitSign hsign hfirst
  refine ⟨signed negative (value digits), ?_⟩
  simp [readExponent?, hsplit, splitDigits_all hdigits, hne]

namespace OptionalExponent

/-- After the digits of a numeral comes nothing, or a letter. -/
theorem letter (h : OptionalExponent rest) : ∀ c ∈ rest.head?, c = 'e' ∨ c = 'E' := by
  cases h with
  | absent => nofun
  | present hletter =>
    intro c hc
    cases hc
    exact hletter

theorem isDigit_eq_false (h : OptionalExponent rest) : ∀ c ∈ rest.head?, c.isDigit = false := by
  intro c hc
  rcases h.letter c hc with rfl | rfl <;> rfl

theorem ne_sign (h : OptionalExponent rest) : ∀ c ∈ rest.head?, c ≠ '+' ∧ c ≠ '-' := by
  intro c hc
  rcases h.letter c hc with rfl | rfl <;> decide

theorem splitFraction_eq (h : OptionalExponent rest) : splitFraction rest = ([], rest) := by
  unfold splitFraction
  split
  · rcases h.letter _ rfl with h | h <;> cases h
  · rfl

theorem exists_read (h : OptionalExponent rest) :
    ∃ exponent, readOptionalExponent? rest = some exponent := by
  cases h with
  | absent => exact ⟨0, rfl⟩
  | present hletter hsign hdigits hne =>
    obtain ⟨exponent, hread⟩ := exists_readExponent? hsign hdigits hne
    rcases hletter with rfl | rfl
    · exact ⟨exponent, hread⟩
    · exact ⟨exponent, hread⟩

end OptionalExponent

/-- Every numeral is a decimal number. -/
theorem Numeral.exists_readScientific? (h : Numeral text) :
    ∃ number, readScientific? text = some number := by
  cases h with
  | @mk sign significand rest hsign hsignificand hexponent =>
    obtain ⟨exponent, hread⟩ := hexponent.exists_read
    cases hsignificand with
    | whole hdigits hne =>
      obtain ⟨negative, hsplit⟩ := exists_splitSign hsign (hdigits.ne_sign hexponent.ne_sign)
      exact ⟨_, readScientific?_of_stages hsplit
        (splitDigits_append hdigits hexponent.isDigit_eq_false) hexponent.splitFraction_eq hread
        (.inl hne)⟩
    | @point whole fraction hwhole hfraction hne =>
      have hpoint : ∀ c ∈ ('.' :: (fraction ++ rest)).head?,
          c.isDigit = false ∧ c ≠ '+' ∧ c ≠ '-' := by
        intro c hc
        cases hc
        decide
      obtain ⟨negative, hsplit⟩ :=
        exists_splitSign hsign (hwhole.ne_sign fun c hc => (hpoint c hc).2)
      rw [List.append_assoc, List.cons_append]
      exact ⟨_, readScientific?_of_stages hsplit
        (splitDigits_append hwhole fun c hc => (hpoint c hc).1)
        (splitDigits_append hfraction hexponent.isDigit_eq_false) hread hne⟩

/-! ### Number literals -/

/-- A character that may stand in a numeral. -/
def IsNumeralChar (c : Char) : Prop :=
  c.isDigit = true ∨ c ∈ ['.', 'e', 'E', '+', '-']

theorem OptionalSign.isNumeralChar (h : OptionalSign sign) : ∀ c ∈ sign, IsNumeralChar c := by
  intro c hc
  cases h with
  | absent => cases hc
  | plus =>
    obtain rfl := List.mem_singleton.1 hc
    exact .inr (by decide)
  | minus =>
    obtain rfl := List.mem_singleton.1 hc
    exact .inr (by decide)

theorem OptionalExponent.isNumeralChar (h : OptionalExponent rest) :
    ∀ c ∈ rest, IsNumeralChar c := by
  intro c hc
  cases h with
  | absent => cases hc
  | present hletter hsign hdigits _ =>
    rw [List.mem_cons, List.mem_append] at hc
    rcases hc with rfl | hc | hc
    · rcases hletter with rfl | rfl
      · exact .inr (by decide)
      · exact .inr (by decide)
    · exact hsign.isNumeralChar c hc
    · exact .inl (hdigits c hc)

theorem Significand.isNumeralChar (h : Significand text) : ∀ c ∈ text, IsNumeralChar c := by
  intro c hc
  cases h with
  | whole hdigits _ => exact .inl (hdigits c hc)
  | point hwhole hfraction _ =>
    rw [List.mem_append, List.mem_cons] at hc
    rcases hc with hc | rfl | hc
    · exact .inl (hwhole c hc)
    · exact .inr (by decide)
    · exact .inl (hfraction c hc)

theorem Significand.exists_isDigit (h : Significand text) : ∃ c ∈ text, c.isDigit = true := by
  have of_ne_nil {digits : List Char} (h : AllDigits digits) (hne : digits ≠ []) :
      ∃ c ∈ digits, c.isDigit = true := by
    obtain ⟨c, hc⟩ := List.exists_mem_of_ne_nil digits hne
    exact ⟨c, hc, h c hc⟩
  cases h with
  | whole hdigits hne => exact of_ne_nil hdigits hne
  | point hwhole hfraction hne =>
    rcases hne with hne | hne
    · obtain ⟨c, hc, hdigit⟩ := of_ne_nil hwhole hne
      exact ⟨c, by simp [hc], hdigit⟩
    · obtain ⟨c, hc, hdigit⟩ := of_ne_nil hfraction hne
      exact ⟨c, by simp [hc], hdigit⟩

theorem Numeral.exists_isDigit (h : Numeral text) : ∃ c ∈ text, c.isDigit = true := by
  cases h with
  | mk hsign hsignificand hexponent =>
    obtain ⟨c, hc, hdigit⟩ := hsignificand.exists_isDigit
    exact ⟨c, by simp [hc], hdigit⟩

theorem Numeral.isNumeralChar (h : Numeral text) : ∀ c ∈ text, IsNumeralChar c := by
  cases h with
  | mk hsign hsignificand hexponent =>
    intro c hc
    rw [List.mem_append, List.mem_append] at hc
    rcases hc with hc | hc | hc
    · exact hsign.isNumeralChar c hc
    · exact hsignificand.isNumeralChar c hc
    · exact hexponent.isNumeralChar c hc

theorem isNumeric_iff : Rules.isNumeric text = true ↔
    (∃ c ∈ text, c.isDigit = true) ∧ ∀ c ∈ text, IsNumeralChar c := by
  simp [Rules.isNumeric, IsNumeralChar]

theorem Numeral.isNumeric (h : Numeral text) : Rules.isNumeric text = true :=
  isNumeric_iff.2 ⟨h.exists_isDigit, h.isNumeralChar⟩

/-- A number literal that is a numeral has a value. -/
theorem Numeral.exists_number? (h : Numeral text) :
    ∃ number, Rules.number? text = some number := by
  obtain ⟨scientific, hread⟩ := h.exists_readScientific?
  unfold Rules.number? readFloat?
  rw [if_pos h.isNumeric, hread]
  cases readInt? text with
  | some n => exact ⟨.int n, rfl⟩
  | none => exact ⟨.float scientific.toFloat, rfl⟩

end TreeScript.Decimal
