import TreeScript.Proofs.Values.Data
import TreeScript.Proofs.Values.FloatOrder
import TreeScript.Regex.Engine

/-!
The algebra of comparison. The rules for comparing values go by the kind of the left operand. Taken
either way around there are three cases (`comparability`): two numbers, which have an order; two
values that are equal or not, the same from either side; and two values that are refused from either
side. The laws of the comparison operators follow from these cases and from how numbers compare
(`comparison_laws`).
-/

namespace TreeScript

/-- The operator that says the same of operands the other way around. -/
def Operator.converse : Operator → Operator
  | lt => gt
  | le => ge
  | gt => lt
  | ge => le
  | operator => operator

theorem Operator.isComparison_converse (operator : Operator) :
    operator.converse.isComparison = operator.isComparison := by
  cases operator <;> rfl

theorem Operator.holdsFor_converse (operator : Operator) (ordering : Option Ordering) :
    operator.converse.holdsFor (ordering.map Ordering.swap) = operator.holdsFor ordering := by
  cases ordering with
  | none => cases operator <;> rfl
  | some ordering => cases operator <;> cases ordering <;> rfl

namespace Value

section Laws

variable [PatternEngine] {N : Type} {operator : Operator} {left right : Value N} {result : Bool}

/-! ### Answers and refusals -/

/-- A comparison of two values has this result. -/
def Compares (operator : Operator) (left right : Value N) (result : Bool) : Prop :=
  compare operator left right = .ok (.bool result)

/-- A comparison of two values is a type error. -/
def Refuses (operator : Operator) (left right : Value N) : Prop :=
  ∃ error, compare operator left right = .error error ∧ error.isTypeError = true

theorem compares_iff (h : operator.isComparison = true) :
    Compares operator left right result ↔ left.holds operator right = .ok result := by
  unfold Compares compare
  rw [if_pos h]
  cases left.holds operator right <;> simp [bind, Except.bind, pure, Except.pure]

/-- A comparison that has no result is a type error. -/
theorem refuses_iff (h : operator.isComparison = true) :
    Refuses operator left right ↔ ¬ ∃ result, Compares operator left right result := by
  simp only [compares_iff h]
  unfold Refuses compare
  rw [if_pos h]
  cases hholds : left.holds operator right with
  | ok result => simp [bind, Except.bind, pure, Except.pure]
  | error error => simp [bind, Except.bind, isTypeError_of_holds hholds]

/-! ### Operands either way around -/

/-- How two values compare, from the left and from the right. -/
inductive Comparability (left right : Value N) : Prop where
  | numbers {a b : Number} (hleft : left = .number a) (hright : right = .number b)
  | equality (equal : Bool)
      (forth : ∀ operator, left.holds operator right = answer operator left right equal)
      (back : ∀ operator, right.holds operator left = answer operator right left equal)
  | refused (forth : ∀ operator, ∃ error, left.holds operator right = .error error)
      (back : ∀ operator, ∃ error, right.holds operator left = .error error)

theorem Comparability.symm (h : left.Comparability right) : right.Comparability left := by
  cases h with
  | numbers hleft hright => exact .numbers hright hleft
  | equality equal forth back => exact .equality equal back forth
  | refused forth back => exact .refused back forth

theorem comparability_bool_number (a : Bool) (b : Number) :
    (bool a : Value N).Comparability (number b) := by
  refine .equality (a == !b.isZero) (fun _ => rfl) fun operator => ?_
  have hsame : (!b.isZero == a) = (a == !b.isZero) := by
    cases a <;> cases b.isZero <;> rfl
  rw [holds, hsame]

theorem comparability (left right : Value N) : left.Comparability right := by
  cases left with
  | null =>
    cases right with
    | null => exact .equality true (fun _ => rfl) fun _ => rfl
    | bool b => exact .equality (!b) (fun _ => rfl) fun _ => rfl
    | _ => exact .refused (fun _ => ⟨_, rfl⟩) fun _ => ⟨_, rfl⟩
  | bool a =>
    cases right with
    | null => exact .equality (!a) (fun _ => rfl) fun _ => rfl
    | bool b =>
      refine .equality (a == b) (fun _ => rfl) fun operator => ?_
      rw [holds, Bool.beq_comm]
    | number b => exact comparability_bool_number a b
    | _ => exact .refused (fun _ => ⟨_, rfl⟩) fun _ => ⟨_, rfl⟩
  | number a =>
    cases right with
    | bool b => exact (comparability_bool_number b a).symm
    | number b => exact .numbers rfl rfl
    | string b => exact .equality false (fun _ => rfl) fun _ => rfl
    | _ => exact .refused (fun _ => ⟨_, rfl⟩) fun _ => ⟨_, rfl⟩
  | string a =>
    cases right with
    | number b => exact .equality false (fun _ => rfl) fun _ => rfl
    | string b =>
      refine .equality (a.sameContent b) (fun _ => rfl) fun operator => ?_
      rw [holds, Text.sameContent, BEq.comm, Text.sameContent]
    | regex b => exact .equality (b.occursIn a.chars) (fun _ => rfl) fun _ => rfl
    | _ => exact .refused (fun _ => ⟨_, rfl⟩) fun _ => ⟨_, rfl⟩
  | regex a =>
    cases right with
    | string b => exact .equality (a.occursIn b.chars) (fun _ => rfl) fun _ => rfl
    | regex b =>
      refine .equality (a.source == b.source) (fun _ => rfl) fun operator => ?_
      rw [holds, BEq.comm]
    | _ => exact .refused (fun _ => ⟨_, rfl⟩) fun _ => ⟨_, rfl⟩
  | function a => cases right <;> exact .refused (fun _ => ⟨_, rfl⟩) fun _ => ⟨_, rfl⟩

theorem answer_eq_ok_iff {equal : Bool} : answer operator left right equal = .ok result ↔
    operator = .eq ∧ equal = result ∨ operator = .ne ∧ (!equal) = result := by
  cases operator <;> cases equal <;>
    simp [answer, polarity, bind, Except.bind, pure, Except.pure]

/-- The converse of a comparison from the other side has the same result. -/
theorem compares_converse (h : operator.isComparison = true) :
    Compares operator left right result ↔ Compares operator.converse right left result := by
  rw [compares_iff h, compares_iff (operator.isComparison_converse.trans h)]
  cases left.comparability right with
  | @numbers a b hleft hright =>
    subst hleft hright
    rw [holds, holds, Number.compare?_swap a b, Operator.holdsFor_converse]
  | equality equal forth back =>
    rw [forth, back, answer_eq_ok_iff, answer_eq_ok_iff]
    cases operator <;> simp [Operator.converse]
  | refused forth back =>
    obtain ⟨error, herror⟩ := forth operator
    obtain ⟨error', herror'⟩ := back operator.converse
    simp [herror, herror']

/-! ### Equality and order -/

/-- Equality has the same result from either side, or is refused from either side. -/
theorem compares_eq_or_refuses (left right : Value N) :
    (∃ result, Compares .eq left right result ∧ Compares .eq right left result) ∨
      Refuses .eq left right ∧ Refuses .eq right left := by
  by_cases h : ∃ result, Compares .eq left right result
  · obtain ⟨result, hresult⟩ := h
    exact .inl ⟨result, hresult, (compares_converse rfl).1 hresult⟩
  · refine .inr ⟨(refuses_iff rfl).2 h, (refuses_iff rfl).2 ?_⟩
    rintro ⟨result, hresult⟩
    exact h ⟨result, (compares_converse rfl).1 hresult⟩

/-- Inequality has the opposite result. -/
theorem compares_ne_iff : Compares .ne left right (!result) ↔ Compares .eq left right result := by
  rw [compares_iff rfl, compares_iff rfl]
  cases left.comparability right with
  | @numbers a b hleft hright =>
    subst hleft hright
    simp [holds, Operator.holdsFor, bne]
  | equality equal forth back =>
    rw [forth, forth, answer_eq_ok_iff, answer_eq_ok_iff]
    simp
  | refused forth back =>
    obtain ⟨error, herror⟩ := forth .ne
    obtain ⟨error', herror'⟩ := forth .eq
    simp [herror, herror']

theorem refuses_ne_iff : Refuses .ne left right ↔ Refuses .eq left right := by
  rw [refuses_iff rfl, refuses_iff rfl]
  refine not_congr ⟨?_, ?_⟩
  · rintro ⟨result, hresult⟩
    exact ⟨!result, compares_ne_iff.1 ((Bool.not_not result).symm ▸ hresult)⟩
  · rintro ⟨result, hresult⟩
    exact ⟨!result, compares_ne_iff.2 hresult⟩

/-- Only numbers are in an order. -/
theorem exists_compares_iff (h : operator.isComparison = true)
    (hordering : operator.isEquality = false) : (∃ result, Compares operator left right result) ↔
      left.kind = .number ∧ right.kind = .number := by
  simp only [compares_iff h]
  constructor
  · rintro ⟨result, hresult⟩
    cases left.comparability right with
    | numbers hleft hright =>
      subst hleft hright
      exact ⟨rfl, rfl⟩
    | equality equal forth back =>
      rw [forth, answer_eq_ok_iff] at hresult
      rcases hresult with ⟨rfl, -⟩ | ⟨rfl, -⟩
      · cases hordering
      · cases hordering
    | refused forth back =>
      obtain ⟨error, herror⟩ := forth operator
      rw [herror] at hresult
      cases hresult
  · rintro ⟨hleft, hright⟩
    cases left <;> cases hleft
    cases right <;> cases hright
    exact ⟨_, rfl⟩

/-! ### Numbers -/

theorem compares_number_iff (h : operator.isComparison = true) {a b : Number} :
    Compares operator (number a : Value N) (number b) result ↔
      operator.holdsFor (a.compare? b) = result := by
  rw [compares_iff h, holds, Except.ok.injEq]

/-- A number is at most another if it is less or equal; it is not two of less, equal and greater,
and it is one of them unless there is what is not a number. -/
theorem number_order {a b : Number} (hleft : left = .number a) (hright : right = .number b) :
    (Compares .le left right true ↔ Compares .lt left right true ∨ Compares .eq left right true) ∧
    ¬ (Compares .lt left right true ∧ Compares .eq left right true) ∧
    ¬ (Compares .lt left right true ∧ Compares .gt left right true) ∧
    ¬ (Compares .eq left right true ∧ Compares .gt left right true) ∧
    (Compares .lt left right true ∨ Compares .eq left right true ∨ Compares .gt left right true ↔
      a.isNaN = false ∧ b.isNaN = false) := by
  subst hleft hright
  have hnumbers : a.isNaN = false ∧ b.isNaN = false ↔ a.compare? b ≠ none := by
    rw [ne_eq, Number.compare?_eq_none_iff, not_or, Bool.not_eq_true, Bool.not_eq_true]
  rw [hnumbers, compares_number_iff rfl, compares_number_iff rfl, compares_number_iff rfl,
    compares_number_iff rfl]
  cases a.compare? b with
  | none => decide
  | some ordering => cases ordering <;> decide

/-- **The algebra of comparison.** Of any two values, equality has the same result from either side
or is a type error from either side. Inequality has the opposite result of equality and is a type
error where equality is. The other comparisons have a result if both values are numbers, and are
type errors otherwise; each says the same as its converse from the other side. A number is at most
another if it is less or equal; it is not two of less, equal and greater, and it is one of them
exactly if neither of the two is what is not a number. -/
theorem comparison_laws (left right : Value N) :
    ((∃ result, Compares .eq left right result ∧ Compares .eq right left result) ∨
      Refuses .eq left right ∧ Refuses .eq right left) ∧
    (∀ result, Compares .ne left right (!result) ↔ Compares .eq left right result) ∧
    (Refuses .ne left right ↔ Refuses .eq left right) ∧
    (∀ operator, operator.isComparison = true → operator.isEquality = false →
      ((∃ result, Compares operator left right result) ↔
        left.kind = .number ∧ right.kind = .number) ∧
      (Refuses operator left right ↔ ¬ (left.kind = .number ∧ right.kind = .number))) ∧
    (∀ result, (Compares .lt left right result ↔ Compares .gt right left result) ∧
      (Compares .le left right result ↔ Compares .ge right left result)) ∧
    ∀ a b, left = .number a → right = .number b →
      (Compares .le left right true ↔
        Compares .lt left right true ∨ Compares .eq left right true) ∧
      ¬ (Compares .lt left right true ∧ Compares .eq left right true) ∧
      ¬ (Compares .lt left right true ∧ Compares .gt left right true) ∧
      ¬ (Compares .eq left right true ∧ Compares .gt left right true) ∧
      (Compares .lt left right true ∨ Compares .eq left right true ∨
          Compares .gt left right true ↔
        a.isNaN = false ∧ b.isNaN = false) := by
  refine ⟨compares_eq_or_refuses left right, fun _ => compares_ne_iff, refuses_ne_iff, ?_, ?_, ?_⟩
  · intro operator h hordering
    have hexists : (∃ result, Compares operator left right result) ↔
        left.kind = .number ∧ right.kind = .number := exists_compares_iff h hordering
    exact ⟨hexists, (refuses_iff h).trans (not_congr hexists)⟩
  · intro result
    exact ⟨compares_converse rfl, compares_converse rfl⟩
  · intro a b hleft hright
    exact number_order hleft hright

end Laws

/-- An integer that no floating-point number stands for equals the nearest one; so it is at most
that one, and not less. -/
theorem comparison_laws_rounded :
    Compares .eq (int 9007199254740993 : Value) (float 9007199254740992.0) true ∧
      Compares .le (int 9007199254740993 : Value) (float 9007199254740992.0) true ∧
      ¬ Compares .lt (int 9007199254740993 : Value) (float 9007199254740992.0) true ∧
      ∃ result, Compares .ge (int 9007199254740993 : Value) (float 9007199254740992.0) result := by
  have hequal : Compares .eq (int 9007199254740993 : Value) (float 9007199254740992.0) true := by
    refine (compares_number_iff rfl).2 ?_
    decide
  obtain ⟨-, -, -, hordering, -, hnumbers⟩ :=
    comparison_laws (int 9007199254740993 : Value) (float 9007199254740992.0)
  obtain ⟨hle, hlt, -⟩ := hnumbers _ _ rfl rfl
  refine ⟨hequal, hle.2 (.inr hequal), fun h => hlt ⟨h, hequal⟩, ?_⟩
  exact (hordering .ge rfl rfl).1.2 ⟨rfl, rfl⟩

end Value

end TreeScript
