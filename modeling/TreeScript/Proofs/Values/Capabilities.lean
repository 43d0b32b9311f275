import TreeScript.Value.Iteration

/-!
What values can do, and what the operations on them say about it. The table of capabilities
(`Kind.supports`) and the operations are separate definitions. The result of an operation follows
the table (`Value.Follows`) if the operation complains of a lacking capability exactly when the kind
of the value lacks the capability of the operation, whatever the other operands are. All operations
do (`Operation.follows`), and the bits of a kind are those of its capabilities
(`Kind.mem_capabilities_iff_bits`).
-/

namespace TreeScript

/-- Whether a capability is said to be lacking. -/
def EvalError.isUnsupported : EvalError → Bool
  | unsupported .. => true
  | _ => false

/-- A kind has a capability exactly if its bits contain the bit of the capability. -/
theorem Kind.mem_capabilities_iff_bits (kind : Kind) (capability : Capability) :
    capability ∈ kind.capabilities ↔
      kind.capabilityBits &&& capability.bit = capability.bit := by
  cases kind <;> cases capability <;> decide

namespace Value

variable {N α β : Type}

/-! ### Results without complaints -/

/-- A result is not the error that a capability is lacking. -/
def Supported (result : Except EvalError α) : Prop :=
  ∀ error, result = .error error → error.isUnsupported = false

theorem supported_ok (value : α) : Supported (.ok value) :=
  fun _ => nofun

theorem supported_error {error : EvalError} (h : error.isUnsupported = false) :
    Supported (.error error : Except EvalError α) :=
  fun _ heq => Except.error.inj heq ▸ h

/-- The error of a result, if it is one. -/
def errorOf : Except EvalError α → Option EvalError
  | .ok _ => none
  | .error error => some error

theorem errorOf_eq_some_iff {result : Except EvalError α} {error : EvalError} :
    errorOf result = some error ↔ result = .error error := by
  cases result with
  | ok value => simp [errorOf]
  | error other => simp [errorOf]

theorem Supported.bind {first : Except EvalError α} {next : α → Except EvalError β}
    (h : Supported first) (hnext : ∀ a, Supported (next a)) : Supported (first >>= next) := by
  cases first with
  | ok a => exact hnext a
  | error error => exact supported_error (h error rfl)

variable [PatternEngine]

theorem supported_mismatch (symbol : String) (left right : Value N) :
    Supported (mismatch symbol left right : Except EvalError α) :=
  supported_error rfl

/-! ### Following the table -/

/-- A result complains of a lacking capability exactly if the kind of the value lacks it. -/
structure Follows (capability : Capability) (value : Value N) (result : Except EvalError α) :
    Prop where
  supported : value.kind.supports capability = true → Supported result
  unsupported : value.kind.supports capability = false → result = value.unsupported capability

/-- A complaint that a capability is lacking is about the capability of the operation, and true. -/
theorem Follows.of_eq_unsupported {capability lacking : Capability} {value : Value N}
    {result : Except EvalError α} {kind : String} (h : Follows capability value result)
    (heq : result = .error (.unsupported lacking kind)) :
    value.kind.supports capability = false ∧ lacking = capability ∧ kind = value.kindName := by
  cases hsupports : value.kind.supports capability with
  | true => exact absurd (h.supported hsupports _ heq) Bool.noConfusion
  | false =>
    have hresult := h.unsupported hsupports
    rw [heq] at hresult
    cases hresult
    exact ⟨rfl, rfl, rfl⟩

theorem Follows.errorOf_ne {capability : Capability} {value : Value N}
    {result : Except EvalError α} (h : Follows capability value result)
    (hsupports : value.kind.supports capability = true) (lacking : Capability) (kind : String) :
    errorOf result ≠ some (.unsupported lacking kind) := by
  intro heq
  have herror := h.supported hsupports _ (errorOf_eq_some_iff.1 heq)
  cases herror

theorem Follows.errorOf_eq {capability : Capability} {value : Value N}
    {result : Except EvalError α} (h : Follows capability value result)
    (hlacks : value.kind.supports capability = false) :
    errorOf result = some (.unsupported capability value.kindName) :=
  errorOf_eq_some_iff.2 (h.unsupported hlacks)

/-! ### Arithmetic -/

theorem supported_repeatString (text : Text) (count : Number) :
    Supported (repeatString text count : Result N) := by
  unfold repeatString
  split
  · split
    · exact supported_error rfl
    · split
      · exact supported_ok _
      · exact supported_error rfl
  · exact supported_error rfl

theorem follows_arithmetic (operator : Operator) (hoperator : operator.isComparison = false)
    (left right : Value N) : Follows (.ofOperator operator) left (left.binary operator right) where
  supported h := by
    cases left with
    | number _ =>
      cases operator with
      | add | sub | mul =>
        cases right
        all_goals first | exact supported_ok _ | exact supported_mismatch _ _ _
      | _ => cases hoperator
    | string text =>
      cases operator with
      | add | sub =>
        cases right
        all_goals first | exact supported_ok _ | exact supported_mismatch _ _ _
      | mul =>
        cases right with
        | number count => exact supported_repeatString text count
        | _ => exact supported_mismatch _ _ _
      | _ => cases hoperator
    | _ =>
      cases operator with
      | add | sub | mul => cases h
      | _ => cases hoperator
  unsupported h := by
    cases operator with
    | add | sub | mul =>
      cases left with
      | number _ | string _ => cases h
      | _ => rfl
    | _ => cases hoperator

/-! ### Comparison -/

theorem supported_answer (operator : Operator) (left right : Value N) (equal : Bool) :
    Supported (answer operator left right equal) := by
  cases operator
  all_goals first | exact supported_ok _ | exact supported_error rfl

theorem supported_holds (operator : Operator) {left : Value N} (right : Value N)
    (h : left.kind.supports .comparison = true) : Supported (holds operator left right) := by
  cases left with
  | function _ => cases h
  | _ =>
    cases right
    all_goals
      first
      | exact supported_answer _ _ _ _
      | exact supported_ok _
      | exact supported_mismatch _ _ _

theorem follows_compare {operator : Operator} (hoperator : operator.isComparison = true)
    (left right : Value N) : Follows .comparison left (compare operator left right) where
  supported h := by
    rw [compare, if_pos hoperator]
    exact (supported_holds operator right h).bind fun _ => supported_ok _
  unsupported h := by
    rw [compare, if_pos hoperator]
    cases left with
    | function _ => rfl
    | _ => cases h

theorem follows_binary (operator : Operator) (left right : Value N) :
    Follows (.ofOperator operator) left (left.binary operator right) := by
  cases operator with
  | add | sub | mul => exact follows_arithmetic _ rfl left right
  | _ => exact follows_compare rfl left right

/-! ### Iteration and indexing -/

theorem follows_iterate (value : Value N) : Follows .iteration value value.iterate where
  supported h := by
    cases value with
    | string _ => exact supported_ok _
    | _ => cases h
  unsupported h := by
    cases value with
    | string _ => cases h
    | _ => rfl

theorem supported_index (value : Value N) : Supported value.index := by
  unfold index
  split
  · exact supported_ok _
  · exact supported_error rfl
  · exact supported_error rfl

theorem follows_indexGet (target index : Value N) :
    Follows .indexedAccess target (target.indexGet index) where
  supported h := by
    cases target with
    | string text =>
      refine (supported_index index).bind fun i => ?_
      split
      · exact supported_ok _
      · exact supported_error rfl
    | _ => cases h
  unsupported h := by
    cases target with
    | string _ => cases h
    | _ => rfl

theorem supported_piece (target value : Value N) : Supported (target.piece value) := by
  unfold piece
  split
  · exact supported_ok _
  · exact supported_ok _
  · exact supported_mismatch _ _ _

theorem follows_indexSet (target : Value N) (index : Option (Value N)) (value : Value N) :
    Follows .indexedAccess target (target.indexSet index value) where
  supported h := by
    cases target with
    | string text =>
      rw [indexSet_string]
      refine (supported_piece (.string text) value).bind fun piece => ?_
      cases index with
      | none => exact supported_ok _
      | some index =>
        refine (supported_index index).bind fun i => ?_
        split
        · exact supported_ok _
        · exact supported_error rfl
    | _ => cases h
  unsupported h := by
    cases target with
    | string _ => cases h
    | _ => rfl

/-- A value without indexed access is left as it was by a write. -/
theorem afterWrite_of_not_supports {target : Value N}
    (h : target.kind.supports .indexedAccess = false) (index : Option (Value N))
    (value : Value N) : target.afterWrite index value = target :=
  afterWrite_of_error ((follows_indexSet target index value).unsupported h)

/-! ### Values that arithmetic gives -/

theorem kind_of_repeatString {text : Text} {count : Number} {value : Value N}
    (h : repeatString text count = .ok value) : value.kind = .string := by
  unfold repeatString at h
  split at h
  · split at h
    · cases h
    · split at h
      · cases h
        rfl
      · cases h
  · cases h

/-- A sum, difference or product is a number or a string. -/
theorem kind_of_binary {operator : Operator} {left right value : Value N}
    (hoperator : operator.isComparison = false) (h : left.binary operator right = .ok value) :
    value.kind = .number ∨ value.kind = .string := by
  cases operator with
  | add =>
    cases left with
    | number _ | string _ =>
      cases right
      all_goals cases h
      all_goals simp [kind]
    | _ => cases h
  | sub =>
    cases left with
    | number _ | string _ =>
      cases right
      all_goals cases h
      all_goals simp [kind]
    | _ => cases h
  | mul =>
    cases left with
    | number _ =>
      cases right
      all_goals cases h
      exact .inl rfl
    | string text =>
      cases right with
      | number count => exact .inr (kind_of_repeatString h)
      | _ => cases h
    | _ => cases h
  | _ => cases hoperator

/-- Numbers and strings have the capabilities of arithmetic. -/
theorem supports_arithmetic {operator : Operator} {value : Value N}
    (hoperator : operator.isComparison = false)
    (hkind : value.kind = .number ∨ value.kind = .string) :
    value.kind.supports (.ofOperator operator) = true := by
  rcases hkind with hkind | hkind
  · rw [hkind]
    cases operator with
    | add | sub | mul => rfl
    | _ => cases hoperator
  · rw [hkind]
    rfl

end Value

/-! ### All operations -/

variable [PatternEngine]

/-- An operation that works on a value, with all else that it takes. -/
inductive Operation (N : Type := Name) where
  | add (right : Value N)
  | sub (right : Value N)
  | mul (right : Value N)
  | compare (operator : Operator) (comparison : operator.isComparison = true) (right : Value N)
  | iterate
  | indexGet (index : Value N)
  | indexSet (index : Option (Value N)) (written : Value N)

namespace Operation

variable {N : Type}

def capability : Operation N → Capability
  | add _ => .addition
  | sub _ => .subtraction
  | mul _ => .multiplication
  | compare .. => .comparison
  | iterate => .iteration
  | indexGet _ | indexSet .. => .indexedAccess

/-- How an operation fails on a value, if it does. -/
def failure? (value : Value N) : Operation N → Option EvalError
  | add right => Value.errorOf (value.add right)
  | sub right => Value.errorOf (value.sub right)
  | mul right => Value.errorOf (value.mul right)
  | compare operator _ right => Value.errorOf (value.compare operator right)
  | iterate => Value.errorOf value.iterate
  | indexGet index => Value.errorOf (value.indexGet index)
  | indexSet index written => Value.errorOf (value.indexSet index written)

variable {value : Value N}

/-- An operation is one of those on values, each of which follows the table. -/
theorem follows (operation : Operation N) (value : Value N) :
    ∃ (α : Type) (result : Except EvalError α),
      operation.failure? value = Value.errorOf result ∧
        Value.Follows operation.capability value result := by
  cases operation with
  | add right => exact ⟨_, _, rfl, Value.follows_binary .add value right⟩
  | sub right => exact ⟨_, _, rfl, Value.follows_binary .sub value right⟩
  | mul right => exact ⟨_, _, rfl, Value.follows_binary .mul value right⟩
  | compare operator comparison right =>
    exact ⟨_, _, rfl, Value.follows_compare comparison value right⟩
  | iterate => exact ⟨_, _, rfl, Value.follows_iterate value⟩
  | indexGet index => exact ⟨_, _, rfl, Value.follows_indexGet value index⟩
  | indexSet index written => exact ⟨_, _, rfl, Value.follows_indexSet value index written⟩

/-- On a value that has the capability of an operation, the operation does not fail for the lack of
any. -/
theorem failure?_ne_of_supports (operation : Operation N)
    (h : value.kind.supports operation.capability = true) (lacking : Capability) (kind : String) :
    operation.failure? value ≠ some (.unsupported lacking kind) := by
  obtain ⟨α, result, heq, hfollows⟩ := operation.follows value
  rw [heq]
  exact hfollows.errorOf_ne h lacking kind

/-- On any other value the operation fails for the lack of its capability. -/
theorem failure?_of_not_supports (operation : Operation N)
    (h : value.kind.supports operation.capability = false) :
    operation.failure? value = some (.unsupported operation.capability value.kindName) := by
  obtain ⟨α, result, heq, hfollows⟩ := operation.follows value
  rw [heq]
  exact hfollows.errorOf_eq h

end Operation

end TreeScript
