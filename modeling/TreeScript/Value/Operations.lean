import TreeScript.Error
import TreeScript.Value.Basic

/-!
Operators on values. The kind of the left operand decides what an operator does; a kind that lacks
the capability is reported as such whatever the right operand is, and a right operand of a kind
that does not fit is a mismatch.
-/

namespace TreeScript.Value

variable [PatternEngine]

/-- A value, or the reason why there is none. -/
abbrev Result (N : Type := Name) := Except EvalError (Value N)

variable {N : Type}

/-! ### Errors -/

def unsupported {α : Type} (capability : Capability) (value : Value N) : Except EvalError α :=
  .error (.unsupported capability value.kindName)

/-- An operator does not take the right operand with the left one. -/
def mismatch {α : Type} (symbol : String) (left right : Value N) : Except EvalError α :=
  .error (.operandMismatch symbol left.kindName right.kindName)

/-! ### Arithmetic -/

/-- The sum of numbers, or one string after another. -/
def add : Value N → Value N → Result N
  | number a, number b => .ok (.number (a.add b))
  | string a, string b => .ok (.string (a.append b))
  | left@(number _), right => mismatch "+" left right
  | left@(string _), right => mismatch "+" left right
  | left, _ => unsupported .addition left

/-- The difference of numbers, or a string without the occurrences of another or the matches of a
pattern. -/
def sub : Value N → Value N → Result N
  | number a, number b => .ok (.number (a.sub b))
  | string a, string b => .ok (.string (a.remove b))
  | string a, regex b => .ok (.string (.ofChars (b.removeFrom a.chars)))
  | left@(number _), right => mismatch "-" left right
  | left@(string _), right => mismatch "-" left right
  | left, _ => unsupported .subtraction left

/-- A string several times over. The count must be an integer that is not negative, and the result
must not be too long. -/
def repeatString (text : Text) : Number → Result N
  | .int count =>
    if count.toInt < 0 then
      .error (.invalidOperand ("cannot repeat a string " ++ toString count.toInt ++ " times"))
    else match text.repeat? count.toInt.toNat with
      | some repeated => .ok (.string repeated)
      | none =>
        .error (.invalidOperand
          ("string repeated " ++ toString count.toInt ++ " times is too long"))
  | .float count =>
    .error (.invalidOperand
      ("string repeat count must be an integer, got " ++ Decimal.floatText count))

/-- The product of numbers, or a string several times over. -/
def mul : Value N → Value N → Result N
  | number a, number b => .ok (.number (a.mul b))
  | string a, number b => repeatString a b
  | left@(number _), right => mismatch "*" left right
  | left@(string _), right => mismatch "*" left right
  | left, _ => unsupported .multiplication left

/-! ### Comparison -/

/-- For operands that can only be equal or not: whether the operator asks for equality. Any other
operator is a mismatch with the kinds of the operands. -/
def polarity (operator : Operator) (left : String) (right : Value N) : Except EvalError Bool :=
  match operator with
  | .eq => .ok true
  | .ne => .ok false
  | _ => .error (.operandMismatch operator.symbol left right.kindName)

/-- The answer for operands of which it is known whether they are equal. -/
def answer (operator : Operator) (left right : Value N) (equal : Bool) : Except EvalError Bool := do
  return equal == (← polarity operator left.kindName right)

/-- Compares two values by the rules for the kind of the left one. Truth values, numbers and null
are compared by truth where one of them is a truth value; a string never equals a number; a string
and a pattern are equal when the pattern occurs in the string. -/
def holds (operator : Operator) (left right : Value N) : Except EvalError Bool :=
  match left, right with
  | null, null => answer operator left right true
  | null, bool b => answer operator left right (!b)
  | bool a, null => answer operator left right (!a)
  | bool a, bool b => answer operator left right (a == b)
  | bool a, number b => answer operator left right (a == !b.isZero)
  | number a, bool b => answer operator left right (!a.isZero == b)
  | number a, number b => .ok (operator.holdsFor (a.compare? b))
  | number _, string _ => answer operator left right false
  | string _, number _ => answer operator left right false
  | string a, string b => answer operator left right (a.sameContent b)
  | string a, regex b => answer operator left right (b.occursIn a.chars)
  | regex a, string b => answer operator left right (a.occursIn b.chars)
  | regex a, regex b => answer operator left right (a.source == b.source)
  | function _, _ => unsupported .comparison left
  | _, _ => mismatch operator.symbol left right

def compare (operator : Operator) (left right : Value N) : Except EvalError (Value N) :=
  if operator.isComparison then do return .bool (← left.holds operator right)
  else .error (.invalidOperand
    (EvalError.quoted operator.symbol ++ " is not a comparison operator"))

def binary (operator : Operator) (left right : Value N) : Result N :=
  match operator with
  | .add => left.add right
  | .sub => left.sub right
  | .mul => left.mul right
  | .eq | .ne | .lt | .le | .gt | .ge => compare operator left right

/-! ### Indexing -/

/-- The integer that an index is. -/
def index : Value N → Except EvalError Int64
  | number (.int i) => .ok i
  | number (.float x) =>
    .error (.invalidOperand ("index must be an integer, got " ++ Decimal.floatText x))
  | value => .error (.invalidOperand ("index must be an integer, got " ++ value.kindName))

/-- The position that an index stands for, if it is not negative. -/
def position? (i : Int64) : Option Nat :=
  if i.toInt < 0 then none else some i.toInt.toNat

/-- The character of a string at an index. -/
def indexGet (target : Value N) (i : Value N) : Except EvalError (Value N) :=
  match target with
  | string text => do
    let i ← i.index
    match (position? i).bind text.get? with
    | some c => .ok (.string c)
    | none => .error (.undefinedIndex i)
  | target => unsupported .indexedAccess target

/-- The characters that a value contributes when it is written into a string. -/
def piece (target value : Value N) : Except EvalError (List Char) :=
  match value with
  | string text => .ok text.chars
  | number n => .ok n.text.toList
  | value => mismatch "[]=" target value

/-- Writes a value into a string at an index, or at its end if there is no index. What comes out is
whether the write succeeded, and the target as the write leaves it. -/
def write (target : Value N) (i : Option (Value N)) (value : Value N) :
    Except EvalError Unit × Value N :=
  match target with
  | string text =>
    match target.piece value with
    | .error error => (.error error, target)
    | .ok piece =>
      match i with
      | none => (.ok (), string (text.push piece))
      | some i =>
        match i.index with
        | .error error => (.error error, target)
        | .ok i =>
          match (position? i).bind fun position => text.set? position piece with
          | some written => (.ok (), string written)
          | none => (.error (.undefinedIndex i), target)
  | target => (unsupported .indexedAccess target, target)

/-- What becomes of a value that is written to. -/
def afterWrite (target : Value N) (i : Option (Value N)) (value : Value N) : Value N :=
  (target.write i value).2

/-- What a value is after a write that succeeds. -/
def indexSet (target : Value N) (i : Option (Value N)) (value : Value N) :
    Except EvalError (Value N) :=
  match target.write i value with
  | (.ok (), changed) => .ok changed
  | (.error error, _) => .error error

variable {target value : Value N} {i : Option (Value N)}

/-- A write that fails leaves its target as it was, whichever of its checks has failed. -/
theorem write_snd_of_error {error : EvalError} :
    (target.write i value).1 = .error error → (target.write i value).2 = target := by
  unfold write
  split
  · split
    · exact fun _ => rfl
    · split
      · exact nofun
      · split
        · exact fun _ => rfl
        · split
          · exact nofun
          · exact fun _ => rfl
  · exact fun _ => rfl

theorem afterWrite_of_error {error : EvalError} (h : target.indexSet i value = .error error) :
    target.afterWrite i value = target := by
  unfold indexSet at h
  split at h
  · cases h
  · rename_i hwrite
    exact write_snd_of_error (congrArg Prod.fst hwrite)

theorem afterWrite_of_ok {changed : Value N} (h : target.indexSet i value = .ok changed) :
    target.afterWrite i value = changed := by
  unfold indexSet at h
  split at h
  · rename_i hwrite
    cases h
    exact congrArg Prod.snd hwrite
  · cases h

/-- A write to a string, with its checks in their order. -/
theorem indexSet_string (text : Text) (i : Option (Value N)) (value : Value N) :
    (string text).indexSet i value = (do
      let piece ← (string text).piece value
      match i with
      | none => return .string (text.push piece)
      | some i => do
        let i ← i.index
        match (position? i).bind fun position => text.set? position piece with
        | some text => .ok (.string text)
        | none => .error (.undefinedIndex i)) := by
  unfold indexSet write
  cases (string text).piece value with
  | error error => rfl
  | ok piece =>
    cases i with
    | none => rfl
    | some i =>
      dsimp only
      cases i.index with
      | error error => rfl
      | ok i =>
        dsimp only [bind, Except.bind]
        cases (position? i).bind fun position => text.set? position piece with
        | some written => rfl
        | none => rfl

end TreeScript.Value
