import TreeScript.Value.Iteration

/-!
What operations on values give. An operation never gives a function, and it fails only because of
its operands (`Value.Operational`); so it tells nothing about the depth of calls (`Value.Plain`).
Values that are equal up to functions are related by a relation of functions (`Value.Lift`).
-/

namespace TreeScript

/-- Whether the operands of an operation on values are to blame: they do not fit, or an index lies
outside. -/
def EvalError.blamesOperands (error : EvalError) : Bool :=
  error.isTypeError || error.isUndefinedIndex

theorem EvalError.blamesOperands_of_isTypeError {error : EvalError}
    (h : error.isTypeError = true) : error.blamesOperands = true := by
  rw [blamesOperands, h, Bool.true_or]

namespace Value

variable [PatternEngine] {N : Type}

/-! ### Plain results -/

/-- A result of an operation on values: no function, and no error about the depth of calls. -/
structure Plain (result : Except EvalError (Value N)) : Prop where
  data : ∀ value, result = .ok value → value.kind ≠ .function
  error : ∀ limit, result ≠ .error (.callDepth limit)

theorem plain_ok {value : Value N} (h : value.kind ≠ .function) : Plain (.ok value) :=
  ⟨fun _ he => by cases he; exact h, fun _ => nofun⟩

theorem plain_error {error : EvalError} (h : ∀ limit, error ≠ .callDepth limit) :
    Plain (.error error : Except EvalError (Value N)) :=
  ⟨fun _ => nofun, fun limit he => h limit (Except.error.inj he)⟩

/-! ### Results of operations -/

/-- A result of an operation on values: no function, and no error but about the operands. -/
structure Operational (result : Except EvalError (Value N)) : Prop where
  data : ∀ value, result = .ok value → value.kind ≠ .function
  error : ∀ error, result = .error error → error.blamesOperands = true

theorem Operational.plain {result : Except EvalError (Value N)} (h : Operational result) :
    Plain result where
  data := h.data
  error limit he := Bool.false_ne_true (h.error (.callDepth limit) he)

theorem operational_ok {value : Value N} (h : value.kind ≠ .function) : Operational (.ok value) :=
  ⟨fun _ he => by cases he; exact h, fun _ => nofun⟩

theorem operational_error {error : EvalError} (h : error.blamesOperands = true) :
    Operational (.error error : Except EvalError (Value N)) :=
  ⟨fun _ => nofun, fun _ he => Except.error.inj he ▸ h⟩

theorem operational_bind {α : Type} {first : Except EvalError α}
    {next : α → Except EvalError (Value N)}
    (hfirst : ∀ error, first = .error error → error.isTypeError = true)
    (hnext : ∀ a, Operational (next a)) : Operational (first >>= next) := by
  cases first with
  | ok a => exact hnext a
  | error error =>
    exact operational_error (EvalError.blamesOperands_of_isTypeError (hfirst error rfl))

theorem operational_unsupported (capability : Capability) (value : Value N) :
    Operational (value.unsupported capability : Except EvalError (Value N)) :=
  operational_error rfl

theorem operational_mismatch (symbol : String) (left right : Value N) :
    Operational (mismatch symbol left right : Except EvalError (Value N)) :=
  operational_error rfl

/-! ### Arithmetic -/

theorem operational_repeatString (text : Text) (count : Number) :
    Operational (repeatString text count : Value.Result N) := by
  unfold repeatString
  split
  · split
    · exact operational_error rfl
    · split
      · exact operational_ok nofun
      · exact operational_error rfl
  · exact operational_error rfl

theorem operational_arithmetic {operator : Operator} (h : operator.isComparison = false)
    (left right : Value N) : Operational (left.binary operator right) := by
  cases operator with
  | add | sub =>
    simp only [binary, add, sub]
    split
    all_goals
      first
      | exact operational_ok nofun
      | exact operational_mismatch ..
      | exact operational_unsupported ..
  | mul =>
    simp only [binary, mul]
    split
    · exact operational_ok nofun
    · exact operational_repeatString ..
    · exact operational_mismatch ..
    · exact operational_mismatch ..
    · exact operational_unsupported ..
  | _ => cases h

/-! ### Comparison -/

/-- What cannot be compared is of the wrong kind. -/
theorem isTypeError_of_holds {operator : Operator} {left right : Value N} {error : EvalError}
    (h : holds operator left right = .error error) : error.isTypeError = true := by
  have of_answer {equal : Bool} (h : answer operator left right equal = .error error) :
      error.isTypeError = true := by
    cases operator <;> cases h <;> rfl
  unfold holds at h
  split at h
  all_goals first | exact of_answer h | (cases h <;> rfl)

theorem operational_compare (operator : Operator) (left right : Value N) :
    Operational (compare operator left right) := by
  unfold compare
  split
  · exact operational_bind (fun _ => isTypeError_of_holds) fun _ => operational_ok nofun
  · exact operational_error rfl

theorem compare_eq_binary {operator : Operator} (h : operator.isComparison = true)
    (left right : Value N) : compare operator left right = left.binary operator right := by
  cases operator with
  | add | sub | mul => cases h
  | _ => rfl

theorem operational_binary (operator : Operator) (left right : Value N) :
    Operational (left.binary operator right) := by
  cases operator with
  | add | sub | mul => exact operational_arithmetic rfl left right
  | _ => exact operational_compare _ left right

theorem plain_binary (operator : Operator) (left right : Value N) :
    Plain (left.binary operator right) :=
  (operational_binary operator left right).plain

/-! ### Indexing and iteration -/

theorem isTypeError_of_index {value : Value N} {error : EvalError}
    (h : value.index = .error error) : error.isTypeError = true := by
  unfold index at h
  split at h <;> cases h <;> rfl

theorem isTypeError_of_piece {target value : Value N} {error : EvalError}
    (h : target.piece value = .error error) : error.isTypeError = true := by
  unfold piece at h
  split at h <;> cases h
  rfl

theorem operational_indexGet (target index : Value N) : Operational (target.indexGet index) := by
  unfold indexGet
  split
  · refine operational_bind (fun _ => isTypeError_of_index) fun position => ?_
    split
    · exact operational_ok nofun
    · exact operational_error rfl
  · exact operational_unsupported ..

theorem plain_indexGet (target index : Value N) : Plain (target.indexGet index) :=
  (operational_indexGet target index).plain

theorem operational_indexSet (target : Value N) (index : Option (Value N)) (value : Value N) :
    Operational (target.indexSet index value) := by
  cases target with
  | string text =>
    rw [indexSet_string]
    refine operational_bind (fun _ => isTypeError_of_piece) fun piece => ?_
    split
    · exact operational_ok nofun
    · refine operational_bind (fun _ => isTypeError_of_index) fun position => ?_
      split
      · exact operational_ok nofun
      · exact operational_error rfl
  | _ => exact operational_unsupported ..

theorem plain_indexSet (target : Value N) (index : Option (Value N)) (value : Value N) :
    Plain (target.indexSet index value) :=
  (operational_indexSet target index value).plain

theorem isTypeError_of_iterate {value : Value N} {error : EvalError}
    (h : value.iterate = .error error) : error.isTypeError = true := by
  cases value <;> cases h <;> rfl

theorem iterate_ne_callDepth (value : Value N) (limit : Nat) :
    value.iterate ≠ .error (.callDepth limit) :=
  fun h => Bool.false_ne_true (isTypeError_of_iterate h)

/-! ### Values that differ by functions -/

/-- Two values are the same data, or functions that stand in a relation. -/
inductive Lift (related : Closure N → Closure N → Prop) : Value N → Value N → Prop where
  | data {value : Value N} (h : value.kind ≠ .function) : Lift related value value
  | function {left right : Closure N} (h : related left right) :
      Lift related (.function left) (.function right)

theorem Lift.mono {related wider : Closure N → Closure N → Prop} {left right : Value N}
    (h : Lift related left right) (sub : ∀ left right, related left right → wider left right) :
    Lift wider left right := by
  cases h with
  | data h => exact .data h
  | function h => exact .function (sub _ _ h)

theorem Lift.refl {related : Closure N → Closure N → Prop} (h : ∀ closure, related closure closure)
    (value : Value N) : Lift related value value := by
  cases value with
  | function closure => exact .function (h closure)
  | _ => exact .data nofun

end Value

end TreeScript
