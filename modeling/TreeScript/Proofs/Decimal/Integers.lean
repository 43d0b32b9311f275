import Mathlib.Data.List.Induction
import Mathlib.Data.List.TakeWhile
import Mathlib.Data.Nat.Digits.Defs
import TreeScript.Proofs.Decimal.Numerals

/-!
Integers and their numerals. A numeral of an integer is a sign, if any, and digits, and its value is
the positional one (`IntegerNumeral`). The readers of exponents and of integers accept these
numerals and nothing else: the one gives their value whatever it is (`readExponent?_eq_some_iff`),
the other one if it fits into 64 bits (`readInt?_eq_some_iff`).
-/

namespace TreeScript

/-! ### Integers of 64 bits -/

namespace Number

variable {n : Int}

/-- An integer fits into 64 bits. -/
def Fits (n : Int) : Prop :=
  -2 ^ 63 ≤ n ∧ n ≤ 2 ^ 63 - 1

instance : Decidable (Fits n) :=
  inferInstanceAs (Decidable (_ ∧ _))

theorem fits_toInt (a : Int64) : Fits a.toInt :=
  ⟨a.le_toInt, Int.le_sub_one_of_lt a.toInt_lt⟩

theorem toInt_ofInt_of_fits (h : Fits n) : (Int64.ofInt n).toInt = n :=
  Int64.toInt_ofInt_of_le h.1 (Int.lt_of_le_sub_one h.2)

theorem int64?_of_fits (h : Fits n) : Decimal.int64? n = some (Int64.ofInt n) :=
  if_pos h

theorem int64?_of_not_fits (h : ¬ Fits n) : Decimal.int64? n = none :=
  if_neg h

theorem int64?_eq_some_iff {a : Int64} : Decimal.int64? n = some a ↔ Fits n ∧ a.toInt = n := by
  by_cases h : Fits n
  · rw [int64?_of_fits h, Option.some.injEq, and_iff_right h, ← Int64.toInt_inj,
      toInt_ofInt_of_fits h, eq_comm]
  · rw [int64?_of_not_fits h]
    exact iff_of_false nofun fun hfits => h hfits.1

end Number

namespace Decimal

variable {sign digits rest text : List Char}

/-! ### Positional values -/

/-- The digits of a number in positional notation, the last one counting ones. -/
def positional (digits : List Char) : Nat :=
  Nat.ofDigits 10 (digits.reverse.map fun c => c.toNat - '0'.toNat)

/-- The value is computed from the first digit on. -/
theorem value_eq_positional (digits : List Char) : value digits = positional digits := by
  induction digits using List.reverseRecOn with
  | nil => rfl
  | append_singleton digits c ih =>
    have hvalue : value (digits ++ [c]) = 10 * value digits + (c.toNat - '0'.toNat) := by
      rw [value, List.foldl_append]
      rfl
    rw [hvalue, ih, positional, positional, List.reverse_append, List.reverse_singleton,
      List.singleton_append, List.map_cons, Nat.ofDigits_cons]
    exact Nat.add_comm _ _

/-! ### Numerals of integers -/

/-- A numeral of an integer, and the integer. -/
inductive IntegerNumeral : List Char → Int → Prop where
  | unsigned {digits : List Char} (h : AllDigits digits) (hne : digits ≠ []) :
      IntegerNumeral digits (positional digits)
  | plus {digits : List Char} (h : AllDigits digits) (hne : digits ≠ []) :
      IntegerNumeral ('+' :: digits) (positional digits)
  | minus {digits : List Char} (h : AllDigits digits) (hne : digits ≠ []) :
      IntegerNumeral ('-' :: digits) (-(positional digits : Int))

theorem IntegerNumeral.exists_digits {n : Int} (h : IntegerNumeral text n) :
    ∃ sign digits, OptionalSign sign ∧ AllDigits digits ∧ digits ≠ [] ∧ text = sign ++ digits := by
  cases h with
  | unsigned h hne => exact ⟨[], _, .absent, h, hne, rfl⟩
  | plus h hne => exact ⟨['+'], _, .plus, h, hne, rfl⟩
  | minus h hne => exact ⟨['-'], _, .minus, h, hne, rfl⟩

/-- A numeral of an integer is a numeral. -/
theorem IntegerNumeral.numeral {n : Int} (h : IntegerNumeral text n) : Numeral text := by
  obtain ⟨sign, digits, hsign, hdigits, hne, rfl⟩ := h.exists_digits
  have hnumeral := Numeral.mk hsign (.whole hdigits hne) .absent
  rwa [List.append_nil] at hnumeral

/-! ### Reading -/

/-- A sign at the start is split off; if there is none, nothing is. -/
theorem splitSign_cases (text : List Char) :
    (∃ rest, text = '-' :: rest ∧ splitSign text = (true, rest)) ∨
      (∃ rest, text = '+' :: rest ∧ splitSign text = (false, rest)) ∨
      splitSign text = (false, text) := by
  unfold splitSign
  split
  · exact .inl ⟨_, rfl, rfl⟩
  · exact .inr (.inl ⟨_, rfl, rfl⟩)
  · exact .inr (.inr rfl)

theorem splitDigits_fst_append_snd (text : List Char) :
    (splitDigits text).1 ++ (splitDigits text).2 = text :=
  List.takeWhile_append_dropWhile

theorem allDigits_splitDigits (text : List Char) : AllDigits (splitDigits text).1 := by
  intro c hc
  exact List.mem_takeWhile_imp hc

/-- What is read behind a sign are digits to the end. -/
theorem digits_of_readExponent? {n : Int} (h : readExponent? text = some n) :
    AllDigits (splitSign text).2 ∧ (splitSign text).2 ≠ [] ∧
      n = signed (splitSign text).1 (value (splitSign text).2) := by
  have hstages : readExponent? text =
      let digits := splitDigits (splitSign text).2
      if digits.1.isEmpty || !digits.2.isEmpty then none
      else some (signed (splitSign text).1 (value digits.1)) := rfl
  rw [hstages] at h
  simp only at h
  split at h
  · cases h
  · rename_i hread
    rw [Bool.or_eq_true, not_or, Bool.not_eq_true', Bool.not_eq_false, List.isEmpty_iff,
      List.isEmpty_iff] at hread
    obtain ⟨hne, hnone⟩ := hread
    have hall : (splitDigits (splitSign text).2).1 = (splitSign text).2 := by
      have happend := splitDigits_fst_append_snd (splitSign text).2
      rwa [hnone, List.append_nil] at happend
    have hdigits := allDigits_splitDigits (splitSign text).2
    rw [hall] at hne hdigits h
    exact ⟨hdigits, hne, (Option.some.inj h).symm⟩

theorem splitSign_of_allDigits (h : AllDigits digits) : splitSign digits = (false, digits) := by
  unfold splitSign
  split
  · exact absurd (h _ List.mem_cons_self) (by decide)
  · exact absurd (h _ List.mem_cons_self) (by decide)
  · rfl

/-- An exponent is read from the numeral of an integer. -/
theorem readExponent?_eq_some_iff {n : Int} :
    readExponent? text = some n ↔ IntegerNumeral text n := by
  constructor
  · intro h
    obtain ⟨hdigits, hne, rfl⟩ := digits_of_readExponent? h
    rw [value_eq_positional]
    obtain ⟨rest, rfl, hsplit⟩ | ⟨rest, rfl, hsplit⟩ | hsplit := splitSign_cases text
    · exact .minus hdigits hne
    · exact .plus hdigits hne
    · rw [hsplit] at hdigits hne ⊢
      exact .unsigned hdigits hne
  · intro h
    have hread {digits : List Char} (h : AllDigits digits) (hne : digits ≠ []) {negative : Bool}
        (hsign : splitSign text = (negative, digits)) :
        readExponent? text = some (signed negative (positional digits)) := by
      simp [readExponent?, hsign, splitDigits_all h, hne, value_eq_positional]
    cases h with
    | unsigned h hne => exact hread h hne (splitSign_of_allDigits h)
    | plus h hne => exact hread h hne rfl
    | minus h hne => exact hread h hne rfl

/-- An integer is read from its numeral, if it fits. -/
theorem readInt?_eq_some_iff {a : Int64} :
    readInt? text = some a ↔ ∃ n, IntegerNumeral text n ∧ Number.Fits n ∧ a.toInt = n := by
  have hbind : readInt? text = (readExponent? text).bind int64? := by
    unfold readInt? readExponent?
    simp only
    split
    · rfl
    · rfl
  rw [hbind, Option.bind_eq_some_iff]
  refine exists_congr fun n => ?_
  rw [readExponent?_eq_some_iff, Number.int64?_eq_some_iff]

end Decimal

end TreeScript
