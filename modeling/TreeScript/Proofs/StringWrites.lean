import TreeScript.Proofs.IndexedAssignment
import TreeScript.Proofs.Run.Rules
import TreeScript.Regex.Engine

/-!
Which writes to strings succeed, and how the others fail. A write either has something to write and
a place for it (`Value.IsWritable`, `Text.Admits`), or it is refused, for the first of three reasons
that applies (`Text.Refuses`, `Text.admits_or_refuses`). A refused write leaves the string as it
was, and an assignment whose write is refused leaves all scopes as they were after its right side
was evaluated (`string_writes`).
-/

namespace TreeScript

theorem Value.position?_of_nonneg {i : Int64} (h : 0 ≤ i.toInt) :
    position? i = some i.toInt.toNat :=
  if_neg (Int.not_lt.2 h)

theorem Value.position?_of_neg {i : Int64} (h : i.toInt < 0) : position? i = none :=
  if_pos h

section Writes

variable [PatternEngine] {N : Type}

/-! ### What is written, and where -/

namespace Value

/-- A value has characters that may be written into a string. -/
def IsWritable (value : Value N) : Prop :=
  value.kind = .string ∨ value.kind = .number

/-- How a value that is no index is referred to: a number by its text, any other value by its
kind. -/
def indexText : Value N → String
  | number n => n.text
  | value => value.kindName

end Value

namespace Text

/-- There is a place for a write: the end, if there is no index, or the position of a character or
the one behind the last character. -/
inductive Admits (old : Text) : Option (Value N) → Prop where
  | append : Admits old none
  | replace {i : Int64} (hlow : 0 ≤ i.toInt) (hhigh : i.toInt ≤ old.length) :
      Admits old (some (.int i))

/-- A write is refused with an error: if what is to be written is no string and no number; else if
the index is no integer; else if there is no such position. -/
inductive Refuses (old : Text) : Option (Value N) → Value N → EvalError → Prop where
  | piece {index : Option (Value N)} {value : Value N} (hkind : ¬ value.IsWritable) :
      Refuses old index value (.operandMismatch "[]=" "string" value.kindName)
  | index {operand value : Value N} (hkind : value.IsWritable) (hindex : ∀ i, operand ≠ .int i) :
      Refuses old (some operand) value
        (.invalidOperand ("index must be an integer, got " ++ operand.indexText))
  | range {i : Int64} {value : Value N} (hkind : value.IsWritable)
      (hrange : i.toInt < 0 ∨ old.length < i.toInt) :
      Refuses old (some (.int i)) value (.undefinedIndex i)

variable {old : Text} {index : Option (Value N)} {value : Value N} {error : EvalError}

/-- There is something to write and a place for it, or the write is refused. -/
theorem admits_or_refuses (old : Text) (index : Option (Value N)) (value : Value N) :
    (value.IsWritable ∧ old.Admits index) ∨ ∃ error, old.Refuses index value error := by
  by_cases hkind : value.IsWritable
  · cases index with
    | none => exact .inl ⟨hkind, .append⟩
    | some operand =>
      by_cases hindex : ∃ i, operand = .int i
      · obtain ⟨i, rfl⟩ := hindex
        by_cases hrange : 0 ≤ i.toInt ∧ i.toInt ≤ old.length
        · exact .inl ⟨hkind, .replace hrange.1 hrange.2⟩
        · exact .inr ⟨_, .range hkind (by omega)⟩
      · exact .inr ⟨_, .index hkind (not_exists.1 hindex)⟩
  · exact .inr ⟨_, .piece hkind⟩

end Text

/-! ### Outcomes of writes -/

namespace Value

variable {target value operand : Value N} {old : Text} {index : Option (Value N)}
  {error : EvalError}

/-- Strings and numbers are written by their content. -/
theorem piece_of_isWritable (h : value.IsWritable) :
    target.piece value = .ok value.internal.toList := by
  cases value with
  | string text => exact congrArg Except.ok String.toList_ofList.symm
  | number n => rfl
  | null | bool _ | regex _ | function _ => rcases h with h | h <;> cases h

theorem piece_of_not_isWritable (h : ¬ value.IsWritable) :
    target.piece value = mismatch "[]=" target value := by
  cases value with
  | string text => exact absurd (.inl rfl) h
  | number n => exact absurd (.inr rfl) h
  | null | bool _ | regex _ | function _ => rfl

theorem index_of_forall_ne (h : ∀ i, operand ≠ .int i) :
    operand.index =
      .error (.invalidOperand ("index must be an integer, got " ++ operand.indexText)) := by
  cases operand with
  | number n =>
    cases n with
    | int i => exact absurd rfl (h i)
    | float x => rfl
  | null | bool _ | string _ | regex _ | function _ => rfl

/-- A write without an index goes to the end. -/
theorem indexSet_none (h : value.IsWritable) :
    (string old).indexSet none value = .ok (.string (old.push value.internal.toList)) := by
  rw [indexSet_string, piece_of_isWritable h]
  rfl

/-- A write at an integer goes to the position that this stands for, if there is one. -/
theorem indexSet_int (h : value.IsWritable) (i : Int64) :
    (string old).indexSet (some (.int i)) value =
      match (position? i).bind fun position => old.set? position value.internal.toList with
      | some new => .ok (.string new)
      | none => .error (.undefinedIndex i) := by
  rw [indexSet_string, piece_of_isWritable h]
  rfl

/-- A write for which there is a place succeeds. -/
theorem indexSet_of_admits (hkind : value.IsWritable) (h : old.Admits index) :
    ∃ new, (string old).indexSet index value = .ok (.string new) := by
  cases h with
  | append => exact ⟨_, indexSet_none hkind⟩
  | @replace i hlow hhigh =>
    have hle : i.toInt.toNat ≤ old.length := by omega
    rw [indexSet_int hkind, position?_of_nonneg hlow, Option.bind_some, Text.set?, if_pos hle]
    exact ⟨_, rfl⟩

/-- A write that is refused fails. -/
theorem indexSet_of_refuses (h : old.Refuses index value error) :
    (string old).indexSet index value = .error error := by
  cases h with
  | piece hkind =>
    rw [indexSet_string, piece_of_not_isWritable hkind]
    rfl
  | @index operand _ hkind hindex =>
    rw [indexSet_string, piece_of_isWritable hkind]
    change operand.index >>= _ = _
    rw [index_of_forall_ne hindex]
    rfl
  | @range i _ hkind hrange =>
    rw [indexSet_int hkind]
    rcases hrange with hlow | hhigh
    · rw [position?_of_neg hlow]
      rfl
    · have hlow : 0 ≤ i.toInt := by omega
      have hnot : ¬ i.toInt.toNat ≤ old.length := by omega
      rw [position?_of_nonneg hlow, Option.bind_some, Text.set?, if_neg hnot]

/-- A write to a string succeeds if there is something to write and a place for it, and not
otherwise. -/
theorem indexSet_isOk_iff :
    (∃ changed, (string old).indexSet index value = .ok changed) ↔
      value.IsWritable ∧ old.Admits index := by
  constructor
  · rintro ⟨changed, hchanged⟩
    rcases old.admits_or_refuses index value with h | ⟨error, h⟩
    · exact h
    · rw [indexSet_of_refuses h] at hchanged
      cases hchanged
  · rintro ⟨hkind, h⟩
    obtain ⟨new, hnew⟩ := indexSet_of_admits hkind h
    exact ⟨_, hnew⟩

/-- A write to a string fails with an error exactly if it is refused with this error. -/
theorem indexSet_eq_error_iff :
    (string old).indexSet index value = .error error ↔ old.Refuses index value error := by
  constructor
  · intro herror
    rcases old.admits_or_refuses index value with ⟨hkind, h⟩ | ⟨error', h⟩
    · obtain ⟨new, hnew⟩ := indexSet_of_admits hkind h
      rw [hnew] at herror
      cases herror
    · rw [indexSet_of_refuses h] at herror
      cases herror
      exact h
  · exact indexSet_of_refuses

/-- A refused write leaves what it was meant for as it was. -/
theorem afterWrite_of_refuses (h : old.Refuses index value error) :
    (string old).afterWrite index value = .string old :=
  afterWrite_of_error (indexSet_of_refuses h)

end Value

/-! ### Contents -/

section Contents

variable {old new : Text} {index : Option (Value N)} {value : Value N}

/-- A write at the end puts characters behind those that were there. -/
theorem Text.Written.chars_append (h : old.Written index value new)
    (hend : ∀ i, index = some (.int i) → i.toInt = old.length) :
    new.chars = old.chars ++ value.internal.toList := by
  cases h with
  | append _ hnew => exact hnew
  | @replace i _ _ _ _ _ hnew =>
    have hi : i.toInt.toNat = old.chars.length := by
      rw [hend i rfl]
      rfl
    rw [hnew, hi, List.take_length, List.drop_of_length_le (Nat.le_succ _), List.append_nil]

/-- A write in the place of a character keeps the characters before and behind it. -/
theorem Text.Written.chars_replace {i : Int64} (h : old.Written (some (.int i)) value new) :
    new.chars = old.chars.take i.toInt.toNat ++ value.internal.toList ++
      old.chars.drop (i.toInt.toNat + 1) := by
  cases h with
  | replace _ _ _ hnew => exact hnew

end Contents

/-- **Writes to strings.** A write succeeds exactly if a string or a number is written, and the
index is absent or an integer from zero up to the length of the string. Then the string becomes one
where the content of what is written stands behind the content that was there, or in place of the
character at the index. All other writes fail: first with a type error if something else is written,
then with a type error if the index is no integer, and last with the index if there is no such
position; the string stays as it was. An assignment that comes to a write which fails ends with the
error of the write, in the state after the index and the right side were evaluated. -/
theorem string_writes (mode : Mode) (old : Text) (index : Option Value) (value : Value) :
    ((∃ changed, (Value.string old).indexSet index value = .ok changed) ↔
      value.IsWritable ∧ old.Admits index) ∧
    (∀ changed, (Value.string old).indexSet index value = .ok changed →
      ∃ new, changed = .string new ∧ (Value.string old).afterWrite index value = changed ∧
        (index = none → new.chars = old.chars ++ value.internal.toList) ∧
        ∀ i, index = some (.int i) →
          (i.toInt = old.length → new.chars = old.chars ++ value.internal.toList) ∧
          (i.toInt < old.length → new.chars = old.chars.take i.toInt.toNat ++
            value.internal.toList ++ old.chars.drop (i.toInt.toNat + 1))) ∧
    (∀ error, (Value.string old).indexSet index value = .error error ↔
      old.Refuses index value error) ∧
    (∀ error, old.Refuses index value error →
      (Value.string old).afterWrite index value = .string old) ∧
    ∀ error node scope state name before, old.Refuses index value error →
      (Interpreter.standard mode).ComesToWrite node scope state name (.string old) index value
        before →
      ∀ result after, (Interpreter.standard mode).Ends (.eval node scope) state result after ↔
        result = .error error ∧ after = before := by
  refine ⟨Value.indexSet_isOk_iff, ?_, fun error => Value.indexSet_eq_error_iff,
    fun error => Value.afterWrite_of_refuses, ?_⟩
  · intro changed hchanged
    obtain ⟨_, new, ⟨⟩, rfl, hwritten⟩ := Value.indexSet_eq_ok hchanged
    refine ⟨new, rfl, Value.afterWrite_of_ok hchanged, ?_, ?_⟩
    · rintro rfl
      exact hwritten.chars_append nofun
    · rintro i rfl
      constructor
      · intro hi
        refine hwritten.chars_append ?_
        rintro _ ⟨⟩
        exact hi
      · intro _
        exact hwritten.chars_replace
  · intro error node scope state name before hrefuses hcomes result after
    rw [hcomes.ends_iff, Value.indexSet_of_refuses hrefuses]
    simp

end Writes

/-- At the seam of a written `n` no line escape comes about, and an assignment to `s[5]`, where `s`
is `"ab"`, fails with the index and changes nothing. -/
theorem string_writes_seam_and_range :
    (∃ new : Text,
      (Value.string ⟨"a\\"⟩ : Value).indexSet none (.string ⟨"n"⟩) = .ok (.string new) ∧
      new.chars = ['a', '\\', 'n']) ∧
    (⟨"ab"⟩ : Text).Refuses (some (.int 5)) (.string ⟨"X"⟩ : Value) (.undefinedIndex 5) ∧
    (Interpreter.standard .unlimited).Ends
      (.eval (.writeAt "5" (.leaf 4 .stringLiteral "\"X\"")) .global) (.spelled "ab")
      (.error (.undefinedIndex 5)) (.spelled "ab") := by
  have hrefuses : (⟨"ab"⟩ : Text).Refuses (some (.int 5)) (.string ⟨"X"⟩ : Value)
      (.undefinedIndex 5) := .range (.inl rfl) (.inr (by decide))
  have hcomes : (Interpreter.standard .unlimited).ComesToWrite
      (.writeAt "5" (.leaf 4 .stringLiteral "\"X\"")) .global (.spelled "ab") ⟨1⟩ (.string ⟨"ab"⟩)
      (some (.int 5)) (.string ⟨"X"⟩) (.spelled "ab") :=
    .mk rfl rfl rfl rfl rfl rfl (.inr ⟨_, _, rfl, rfl, 1, by rfl⟩) rfl ⟨1, by rfl⟩
  refine ⟨?_, hrefuses, ?_⟩
  · have hlaws := string_writes .unlimited ⟨"a\\"⟩ none (.string ⟨"n"⟩)
    obtain ⟨changed, hchanged⟩ := hlaws.1.2 ⟨.inl rfl, .append⟩
    obtain ⟨new, rfl, -, hnew, -⟩ := hlaws.2.1 changed hchanged
    exact ⟨new, hchanged, hnew rfl⟩
  · exact ((string_writes .unlimited _ _ _).2.2.2.2 _ _ _ _ _ _ hrefuses hcomes _ _).2 ⟨rfl, rfl⟩

end TreeScript
