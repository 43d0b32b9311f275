import TreeScript.Proofs.Values.Comparison
import TreeScript.Proofs.Values.FloatIntegers
import TreeScript.Regex.Engine

/-!
Equality through a floating-point number. Integers are compared exactly, but an integer and a
floating-point number are compared after the integer is rounded. So two integers may both equal one
floating-point number and still differ: that happens if they are rounded to the same number
(`equality_through_float`), and no integer with at most 53 bits is rounded to the same number as
another one.
-/

namespace TreeScript.Value

theorem natAbs_toInt_le (value : Int64) : value.toInt.natAbs ≤ 2 ^ 63 := by
  have := value.le_toInt
  have := value.toInt_lt
  omega

section Equality

variable [PatternEngine] {N : Type}

theorem compares_eq_iff {a b : Number} :
    Compares .eq (number a : Value N) (number b) true ↔ a.compare? b = some .eq := by
  rw [compares_number_iff rfl]
  exact beq_iff_eq

theorem compares_int_float_iff {a : Int64} {f : Float} :
    Compares .eq (int a : Value N) (float f) true ↔
      Number.compareFloat? (Float.ofInt a.toInt) f = some .eq :=
  compares_eq_iff

theorem compares_float_int_iff {b : Int64} {f : Float} :
    Compares .eq (float f : Value N) (int b) true ↔
      Number.compareFloat? f (Float.ofInt b.toInt) = some .eq :=
  compares_eq_iff

theorem compares_int_int_iff {a b : Int64} :
    Compares .eq (int a : Value N) (int b) true ↔ a = b := by
  rw [int, int, compares_eq_iff, Number.compare?, Option.some.injEq, Int.compare_eq_eq,
    Int64.toInt_inj]

/-- Two integers that equal one floating-point number are rounded to the same number. -/
theorem rounded_eq_of_compares {a b : Int64} {f : Float}
    (hleft : Compares .eq (int a : Value N) (float f) true)
    (hright : Compares .eq (float f : Value N) (int b) true) :
    Number.rounded a.toInt = Number.rounded b.toInt := by
  have ha := natAbs_toInt_le a
  have hb := natAbs_toInt_le b
  refine (Number.compareFloat?_ofInt (by omega) (by omega)).1 ?_
  exact Number.compareFloat?_trans (compares_int_float_iff.1 hleft)
    (compares_float_int_iff.1 hright)

theorem exists_compares_of_rounded_eq {a b : Int64}
    (h : Number.rounded a.toInt = Number.rounded b.toInt) :
    ∃ f, Compares .eq (int a : Value N) (float f) true ∧
      Compares .eq (float f : Value N) (int b) true := by
  have ha := natAbs_toInt_le a
  have hb := natAbs_toInt_le b
  refine ⟨Float.ofInt a.toInt, compares_int_float_iff.2 ?_, compares_float_int_iff.2 ?_⟩
  · exact (Number.compareFloat?_ofInt (by omega) (by omega)).2 rfl
  · exact (Number.compareFloat?_ofInt (by omega) (by omega)).2 h

/-- **Equality through a floating-point number.** Two integers equal one floating-point number
exactly if they are rounded to the same number. They are then equal if one of them has at most 53
bits; in any case they differ by at most 1024. -/
theorem equality_through_float (a b : Int64) :
    ((∃ f, Compares .eq (int a : Value N) (float f) true ∧
        Compares .eq (float f : Value N) (int b) true) ↔
      Number.rounded a.toInt = Number.rounded b.toInt) ∧
    ∀ f, Compares .eq (int a : Value N) (float f) true →
      Compares .eq (float f : Value N) (int b) true →
      (a.toInt.natAbs < 2 ^ 53 ∨ b.toInt.natAbs < 2 ^ 53 →
        a = b ∧ Compares .eq (int a : Value N) (int b) true) ∧
      (a.toInt - b.toInt).natAbs ≤ 1024 := by
  refine ⟨⟨?_, exists_compares_of_rounded_eq⟩, ?_⟩
  · rintro ⟨f, hleft, hright⟩
    exact rounded_eq_of_compares hleft hright
  · intro f hleft hright
    have hrounded := rounded_eq_of_compares hleft hright
    constructor
    · intro hsmall
      have heq : a = b := by
        rcases hsmall with ha | hb
        · exact Int64.toInt_inj.1 (Number.eq_of_rounded_eq ha hrounded)
        · exact Int64.toInt_inj.1 (Number.eq_of_rounded_eq hb hrounded.symm).symm
      exact ⟨heq, compares_int_int_iff.2 heq⟩
    · have ha := Number.rounded_sub (natAbs_toInt_le a)
      have hb := Number.rounded_sub (natAbs_toInt_le b)
      omega

end Equality

/-- The largest integer with 53 bits equals only one integer through a floating-point number. -/
theorem equality_through_float_of_53_bits :
    Compares .eq (int 9007199254740991 : Value) (float 9007199254740991.0) true ∧
      Compares .eq (float 9007199254740991.0 : Value) (int 9007199254740991) true ∧
      Compares .eq (int 9007199254740991 : Value) (int 9007199254740991) true := by
  have hleft : Compares .eq (int 9007199254740991 : Value) (float 9007199254740991.0) true := by
    refine compares_eq_iff.2 ?_
    decide
  have hright : Compares .eq (float 9007199254740991.0 : Value) (int 9007199254740991) true := by
    refine compares_eq_iff.2 ?_
    decide
  obtain ⟨-, hequal⟩ := equality_through_float (N := Name) 9007199254740991 9007199254740991
  exact ⟨hleft, hright, ((hequal _ hleft hright).1 (.inl (by decide))).2⟩

/-- The next integer but one is rounded to the one before it: both equal one floating-point number,
and they differ. -/
theorem unequal_through_float :
    Compares .eq (int 9007199254740993 : Value) (float 9007199254740992.0) true ∧
      Compares .eq (float 9007199254740992.0 : Value) (int 9007199254740992) true ∧
      ¬ Compares .eq (int 9007199254740993 : Value) (int 9007199254740992) true := by
  refine ⟨compares_eq_iff.2 ?_, compares_eq_iff.2 ?_, ?_⟩
  · decide
  · decide
  · rw [compares_int_int_iff]
    decide

end TreeScript.Value
