import TreeScript.Proofs.Decimal.Acceptance
import TreeScript.Proofs.Run.Rules
import TreeScript.Regex.Engine

/-!
Number literals by their texts. Which texts are accepted, and as what, is one grammar
(`number_literals`): a numeral of an integer that fits into 64 bits has this integer, any other
numeral has a floating-point number, and every other text makes the literal malformed. Nothing else
happens: no evaluation of a number literal changes the state.
-/

namespace TreeScript

open Decimal

variable {T N : Type}

namespace Interpreter

variable [PatternEngine] [DecidableEq N] [Naming N T] {mode : Mode} {node : Node} {scope : ScopeId}
  {state state' : State T N} {text : String} {number : Number}

theorem ends_number_iff (h : node.IsNumberLiteral text) :
    (standard mode T N).Ends (.eval node scope) state (.ok (.number number)) state' ↔
      Rules.number? text.toList = some number ∧ state' = state := by
  rw [ends_numberLiteral_iff h]
  cases Rules.number? text.toList with
  | none => simp
  | some other => simp [eq_comm]

theorem ends_malformedNumber_iff (h : node.IsNumberLiteral text) :
    (standard mode T N).Ends (.eval node scope) state
        (.error (.malformedNode .numberLiteral .text)) state' ↔
      ¬ Numeral text.toList ∧ state' = state := by
  rw [ends_numberLiteral_iff h, ← number?_eq_none_iff]
  cases Rules.number? text.toList with
  | none => simp
  | some other => simp

/-- The literal of a number ends in one of three ways, without a change of the state, and the
grammar of its text says in which one. It is malformed, among others, if a character stands in the
text that is in no numeral, if the text is a word for infinity or for no number, and if a sign
stands behind something else than the letter of an exponent. -/
theorem number_literals (mode : Mode) (scope : ScopeId) (state : State T N)
    (h : node.IsNumberLiteral text) :
    (∀ n : Int,
      (∃ a : Int64, a.toInt = n ∧
        (standard mode T N).Ends (.eval node scope) state (.ok (.int a)) state) ↔
      IntegerNumeral text.toList n ∧ -2 ^ 63 ≤ n ∧ n ≤ 2 ^ 63 - 1) ∧
    ((∃ x : Float, (standard mode T N).Ends (.eval node scope) state (.ok (.float x)) state) ↔
      Numeral text.toList ∧
        ∀ n, IntegerNumeral text.toList n → ¬ (-2 ^ 63 ≤ n ∧ n ≤ 2 ^ 63 - 1)) ∧
    ((standard mode T N).Ends (.eval node scope) state
        (.error (.malformedNode .numberLiteral .text)) state ↔ ¬ Numeral text.toList) ∧
    (∀ result state', (standard mode T N).Ends (.eval node scope) state result state' →
      state' = state ∧ ((∃ a, result = .ok (.int a)) ∨ (∃ x, result = .ok (.float x)) ∨
        result = .error (.malformedNode .numberLiteral .text))) ∧
    ((∃ c ∈ text.toList, ¬ IsNumeralChar c) ∨ SpecialWord text.toList ∨ StraySign text.toList →
      (standard mode T N).Ends (.eval node scope) state
        (.error (.malformedNode .numberLiteral .text)) state) := by
  have hnumber (number : Number) :
      (standard mode T N).Ends (.eval node scope) state (.ok (.number number)) state ↔
        Rules.number? text.toList = some number := by
    rw [ends_number_iff h, and_iff_left rfl]
  refine ⟨fun n => ?_, ?_, ?_, ?_, ?_⟩
  · constructor
    · rintro ⟨a, rfl, hends⟩
      obtain ⟨n, hn, hfits, rfl⟩ := number?_eq_int_iff.1 ((hnumber (.int a)).1 hends)
      exact ⟨hn, hfits⟩
    · rintro ⟨hn, hfits⟩
      have hint := Number.toInt_ofInt_of_fits hfits
      exact ⟨.ofInt n, hint, (hnumber _).2 (number?_eq_int_iff.2 ⟨n, hn, hfits, hint⟩)⟩
  · exact (exists_congr fun x => hnumber (.float x)).trans exists_number?_eq_float_iff
  · rw [ends_malformedNumber_iff h, and_iff_left rfl]
  · intro result state' hends
    obtain ⟨hresult, hstate⟩ := (ends_numberLiteral_iff h).1 hends
    refine ⟨hstate, ?_⟩
    split at hresult
    · rename_i number _
      cases number with
      | int a => exact .inl ⟨a, hresult⟩
      | float x => exact .inr (.inl ⟨x, hresult⟩)
    · exact .inr (.inr hresult)
  · intro hrefused
    refine (ends_malformedNumber_iff h).2 ⟨?_, rfl⟩
    obtain ⟨c, hc, hother⟩ | hword | hsign := hrefused
    · exact fun hnumeral => hother (hnumeral.isNumeralChar c hc)
    · exact hword.not_numeral
    · exact hsign.not_numeral

end Interpreter

/-- Zeros before the other digits and a sign before them do not matter. -/
theorem number_literals_leading_zeros :
    (Node.number "+007").IsNumberLiteral "+007" ∧
      ∃ a : Int64, a.toInt = 7 ∧ (Interpreter.standard .unlimited).Ends
        (.eval (.number "+007") .global) .initial (.ok (.int a)) .initial := by
  have hliteral : (Node.number "+007").IsNumberLiteral "+007" := ⟨rfl, rfl⟩
  obtain ⟨hint, -⟩ := Interpreter.number_literals .unlimited .global .initial hliteral
  have hdigits : AllDigits ['0', '0', '7'] := List.all_eq_true.1 rfl
  have hnumeral : IntegerNumeral "+007".toList 7 := .plus hdigits (List.cons_ne_nil _ _)
  exact ⟨hliteral, (hint 7).2 ⟨hnumeral, by decide, by decide⟩⟩

end TreeScript
