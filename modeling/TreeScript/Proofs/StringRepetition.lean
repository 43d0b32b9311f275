import TreeScript.Proofs.IntegerChains
import TreeScript.Proofs.Text.Joining
import TreeScript.Proofs.Values.Iteration
import TreeScript.Regex.Engine

/-!
Strings several times over. Whether a string may be repeated so often is decided by the bytes that
the result takes, which are multiplied in a machine word; a product that does not fit is too large
anyway (`Text.repeat?_eq`), so the limit is exact however large the count is. A string is repeated
if the count is an integer within this limit (`Text.AdmitsCount`), and it is refused otherwise
(`Text.RefusesCount`). What comes out has the content of the string so many times (`Text.times`):
where one copy ends and the next one begins nothing else comes about, even if a backslash meets an
`n` there. So repetition goes with the sum and the product of counts (`string_repetition`).
-/

namespace TreeScript

namespace Text

/-! ### Sizes -/

theorem byteSize_eq (text : Text) : text.byteSize = bytes text.chars :=
  (foldl_utf8Size text.chars 0).trans (Nat.zero_add _)

/-- A text takes the bytes of its characters. -/
theorem utf8ByteSize_ofList (chars : List Char) :
    (String.ofList chars).utf8ByteSize = bytes chars := by
  induction chars with
  | nil => rfl
  | cons c rest ih =>
    rw [String.ofList_cons, String.utf8ByteSize_append, String.utf8ByteSize_singleton, ih,
      bytes_cons]

theorem utf8ByteSize_internal (text : Text) : text.internal.utf8ByteSize = text.byteSize := by
  rw [internal, utf8ByteSize_ofList, byteSize_eq]

theorem checkedProduct?_of_lt {left right : Nat} (h : left * right < wordSize) :
    checkedProduct? left right = some (left * right) :=
  if_pos h

theorem checkedProduct?_of_le {left right : Nat} (h : wordSize ≤ left * right) :
    checkedProduct? left right = none :=
  if_neg (Nat.not_lt.2 h)

/-! ### Several times over -/

def times (count : Nat) (chars : List Char) : List Char :=
  (List.replicate count chars).flatten

theorem times_nil (count : Nat) : times count [] = [] :=
  List.flatten_replicate_nil

theorem times_add (m n : Nat) (chars : List Char) :
    times (m + n) chars = times m chars ++ times n chars := by
  rw [times, ← List.replicate_append_replicate, List.flatten_append]
  rfl

theorem times_mul (m n : Nat) (chars : List Char) :
    times (m * n) chars = times n (times m chars) := by
  rw [Nat.mul_comm, times, ← List.flatten_replicate_replicate, List.flatten_flatten,
    List.map_replicate]
  rfl

/-- A string is repeated exactly if the result takes no more bytes than the limit says. -/
theorem repeat?_eq (text : Text) (count : Nat) :
    text.repeat? count =
      if text.byteSize * count ≤ maxRepeatBytes then some (ofChars (times count text.chars))
      else none := by
  have hcopies : (if text.isEmpty then [] else (List.replicate count text.chars).flatten) =
      times count text.chars := by
    by_cases hempty : text.isEmpty = true
    · have hnil : text.chars = [] := List.isEmpty_iff.1 hempty
      rw [if_pos hempty, hnil, times_nil]
    · rw [if_neg hempty, times]
  rw [repeat?, hcopies]
  rcases Nat.lt_or_ge (text.byteSize * count) wordSize with hword | hword
  · rw [checkedProduct?_of_lt hword]
  · -- What does not fit in a word is above the limit.
    have hlong : ¬ text.byteSize * count ≤ maxRepeatBytes := by
      have hlimit : maxRepeatBytes < wordSize := by decide
      omega
    rw [checkedProduct?_of_le hword, if_neg hlong]

/-! ### Counts -/

/-- A string may be repeated so often: the count is not negative, and what comes out takes no more
bytes than the limit says. -/
structure AdmitsCount (text : Text) (count : Int64) : Prop where
  nonneg : 0 ≤ count.toInt
  fits : text.internal.utf8ByteSize * count.toInt ≤ 2 ^ 30

/-- A string may not be repeated so often, since the count is negative or since what would come out
is too long. -/
inductive RefusesCount (text : Text) (count : Int64) : EvalError → Prop where
  | negative (hlow : count.toInt < 0) : RefusesCount text count
      (.invalidOperand ("cannot repeat a string " ++ toString count.toInt ++ " times"))
  | long (hlow : 0 ≤ count.toInt) (hlong : 2 ^ 30 < text.internal.utf8ByteSize * count.toInt) :
      RefusesCount text count
        (.invalidOperand ("string repeated " ++ toString count.toInt ++ " times is too long"))

variable {text : Text} {count less : Int64} {error : EvalError}

theorem admitsCount_or_refusesCount (text : Text) (count : Int64) :
    text.AdmitsCount count ∨ ∃ error, text.RefusesCount count error := by
  by_cases hlow : count.toInt < 0
  · exact .inr ⟨_, .negative hlow⟩
  · by_cases hlong : 2 ^ 30 < text.internal.utf8ByteSize * count.toInt
    · exact .inr ⟨_, .long (Int.not_lt.1 hlow) hlong⟩
    · exact .inl ⟨Int.not_lt.1 hlow, Int.not_lt.1 hlong⟩

theorem RefusesCount.isTypeError (h : text.RefusesCount count error) :
    error.isTypeError = true := by
  cases h with
  | negative | long => rfl

/-- A string that may be repeated so often may be repeated less often. -/
theorem AdmitsCount.of_le (h : text.AdmitsCount count) (hlow : 0 ≤ less.toInt)
    (hle : less.toInt ≤ count.toInt) : text.AdmitsCount less where
  nonneg := hlow
  fits := Int.le_trans (Int.mul_le_mul_of_nonneg_left hle (Int.natCast_nonneg _)) h.fits

/-- The limit on bytes, for a count that is not negative. -/
theorem fits_iff (hlow : 0 ≤ count.toInt) :
    text.byteSize * count.toInt.toNat ≤ maxRepeatBytes ↔
      text.internal.utf8ByteSize * count.toInt ≤ 2 ^ 30 := by
  have hlimit : maxRepeatBytes = 2 ^ 30 := rfl
  rw [utf8ByteSize_internal, hlimit]
  obtain ⟨n, hn⟩ := Int.eq_ofNat_of_zero_le hlow
  rw [hn, Int.toNat_natCast]
  norm_cast

theorem AdmitsCount.repeat?_eq (h : text.AdmitsCount count) :
    text.repeat? count.toInt.toNat = some (ofChars (times count.toInt.toNat text.chars)) := by
  rw [Text.repeat?_eq, if_pos ((fits_iff h.nonneg).2 h.fits)]

end Text

namespace Number

variable {operator : Operator} {a b c : Int64}

/-- Where the result of an operator is an integer, it is the exact one. -/
theorem toInt_of_apply_eq_int (h : apply operator (.int a) (.int b) = .int c) :
    c.toInt = operator.exact a.toInt b.toInt := by
  by_cases hfits : Fits (operator.exact a.toInt b.toInt)
  · obtain ⟨exact, heq, hexact⟩ := apply_int_of_fits hfits
    cases heq.symm.trans h
    exact hexact
  · rw [apply_int_of_not_fits hfits] at h
    cases h

end Number

/-- The sum or the product of two integers is exact, if it is an integer. -/
theorem Value.toInt_of_binary_eq_int [PatternEngine] {N : Type} {operator : Operator}
    {a b c : Int64}
    (kind : NodeKind) (hallowed : Rules.allowedIn kind operator = true)
    (h : (int a : Value N).binary operator (int b) = .ok (int c)) :
    c.toInt = operator.exact a.toInt b.toInt := by
  have heq := (binary_number (N := N) hallowed (.int a) (.int b)).symm.trans h
  exact Number.toInt_of_apply_eq_int (number.inj (Except.ok.inj heq))

/-! ### Products of strings and counts -/

namespace Value

variable [PatternEngine] {N : Type} {text : Text} {count : Int64} {error : EvalError}
  {value operand : Value N}

/-- A string is repeated as often as it may be. -/
theorem mul_of_admitsCount (h : text.AdmitsCount count) :
    (string text : Value N).binary .mul (.int count) =
      .ok (.string (.ofChars (Text.times count.toInt.toNat text.chars))) := by
  change repeatString text (.int count) = _
  rw [repeatString, if_neg (Int.not_lt.2 h.nonneg), h.repeat?_eq]

/-- A string is not repeated more often than it may be. -/
theorem mul_of_refusesCount (h : text.RefusesCount count error) :
    (string text : Value N).binary .mul (.int count) = .error error := by
  change repeatString text (.int count) = _
  cases h with
  | negative hlow => rw [repeatString, if_pos hlow]
  | long hlow hlong =>
    have hnot : ¬ text.byteSize * count.toInt.toNat ≤ Text.maxRepeatBytes :=
      fun hle => Int.not_le.2 hlong ((Text.fits_iff hlow).1 hle)
    rw [repeatString, if_neg (Int.not_lt.2 hlow), Text.repeat?_eq, if_neg hnot]

/-- What a string is multiplied by is a count that it admits, if the product has a value. -/
theorem mul_eq_ok (h : (string text : Value N).binary .mul operand = .ok value) :
    ∃ count : Int64, operand = .int count ∧ text.AdmitsCount count ∧
      value = .string (.ofChars (Text.times count.toInt.toNat text.chars)) := by
  cases operand with
  | number n =>
    cases n with
    | int count =>
      rcases text.admitsCount_or_refusesCount count with hadmits | ⟨error, hrefuses⟩
      · have heq := (mul_of_admitsCount hadmits).symm.trans h
        exact ⟨count, rfl, hadmits, (Except.ok.inj heq).symm⟩
      · cases (mul_of_refusesCount hrefuses).symm.trans h
    | float x => cases h
  | null | bool _ | string _ | regex _ | function _ => cases h

theorem mul_isOk_iff : (∃ value, (string text : Value N).binary .mul (.int count) = .ok value) ↔
    text.AdmitsCount count := by
  constructor
  · rintro ⟨value, h⟩
    obtain ⟨count, ⟨⟩, hadmits, -⟩ := mul_eq_ok h
    exact hadmits
  · intro h
    exact ⟨_, mul_of_admitsCount h⟩

theorem mul_eq_error_iff : (string text : Value N).binary .mul (.int count) = .error error ↔
    text.RefusesCount count error := by
  constructor
  · intro h
    rcases text.admitsCount_or_refusesCount count with hadmits | ⟨error', hrefuses⟩
    · cases (mul_of_admitsCount hadmits).symm.trans h
    · cases (mul_of_refusesCount hrefuses).symm.trans h
      exact hrefuses
  · exact mul_of_refusesCount

end Value

/-- **Repetition of strings.** The product of a string and an integer has a value exactly if the
integer is not negative and the bytes of the string, so many times, are at most 2^30, however large
the integer is; the value has the content of the string so many times. All other products fail with
a type error that says which of the two is wrong. If a string times the sum of two counts has a
value, so has the string times each of the counts, and their sum is equal to it; and a string times
a count times another one is equal to the string times the product of the counts, where both have
values. -/
theorem string_repetition [PatternEngine] {N : Type} [DecidableEq N] (text : Text) :
    (∀ n : Int64,
      ((∃ value, (Value.string text : Value N).binary .mul (.int n) = .ok value) ↔
        0 ≤ n.toInt ∧ text.internal.utf8ByteSize * n.toInt ≤ 2 ^ 30) ∧
      (∀ value, (Value.string text : Value N).binary .mul (.int n) = .ok value →
        ∃ repeated : Text, value = .string repeated ∧
          repeated.chars = (List.replicate n.toInt.toNat text.chars).flatten) ∧
      ∀ error, (Value.string text : Value N).binary .mul (.int n) = .error error ↔
        text.RefusesCount n error) ∧
    (∀ n error, text.RefusesCount n error → error.isTypeError = true) ∧
    (∀ (m n : Int64) (sum whole : Value N), 0 ≤ m.toInt → 0 ≤ n.toInt →
      (Value.int m).binary .add (.int n) = .ok sum →
      (Value.string text).binary .mul sum = .ok whole →
      ∃ left right joined : Value N,
        (Value.string text).binary .mul (.int m) = .ok left ∧
        (Value.string text).binary .mul (.int n) = .ok right ∧
        left.binary .add right = .ok joined ∧ joined.equal whole = true) ∧
    ∀ (m n : Int64) (product inner nested whole : Value N),
      (Value.string text).binary .mul (.int m) = .ok inner →
      inner.binary .mul (.int n) = .ok nested →
      (Value.int m).binary .mul (.int n) = .ok product →
      (Value.string text).binary .mul product = .ok whole → nested.equal whole = true := by
  refine ⟨fun n => ⟨?_, ?_, fun error => Value.mul_eq_error_iff⟩, fun n error => ?_, ?_, ?_⟩
  · refine Value.mul_isOk_iff.trans ?_
    exact ⟨fun h => ⟨h.nonneg, h.fits⟩, fun h => ⟨h.1, h.2⟩⟩
  · intro value h
    obtain ⟨count, ⟨⟩, -, rfl⟩ := Value.mul_eq_ok h
    exact ⟨_, rfl, Text.chars_ofChars _⟩
  · exact Text.RefusesCount.isTypeError
  · intro m n sum whole hm hn hsum hwhole
    obtain ⟨total, rfl, htotal, rfl⟩ := Value.mul_eq_ok hwhole
    have hexact : total.toInt = m.toInt + n.toInt :=
      Value.toInt_of_binary_eq_int .addition rfl hsum
    have hleft : text.AdmitsCount m := htotal.of_le hm (by omega)
    have hright : text.AdmitsCount n := htotal.of_le hn (by omega)
    refine ⟨_, _, _, Value.mul_of_admitsCount hleft, Value.mul_of_admitsCount hright, rfl, ?_⟩
    refine beq_iff_eq.2 ?_
    rw [Text.chars_append, Text.chars_ofChars, Text.chars_ofChars, Text.chars_ofChars, hexact,
      Int.toNat_add hm hn, Text.times_add]
  · intro m n product inner nested whole hinner hnested hproduct hwhole
    obtain ⟨_, ⟨⟩, hm, rfl⟩ := Value.mul_eq_ok hinner
    obtain ⟨_, ⟨⟩, hn, rfl⟩ := Value.mul_eq_ok hnested
    obtain ⟨total, rfl, -, rfl⟩ := Value.mul_eq_ok hwhole
    have hexact : total.toInt = m.toInt * n.toInt :=
      Value.toInt_of_binary_eq_int .multiplication rfl hproduct
    refine beq_iff_eq.2 ?_
    rw [Text.chars_ofChars, Text.chars_ofChars, Text.chars_ofChars, hexact,
      Int.toNat_mul hm.nonneg hn.nonneg, Text.times_mul]

/-- Four bytes 2^62 times would be 2^64 bytes, which is zero in a machine word, and they are
refused. Where copies of `n\\` meet, the backslash and the `n` stay two characters: the copies come
to three in a row as one and two, and to six as three times two. -/
theorem string_repetition_seams :
    (∃ error, (Value.string ⟨"abcd"⟩ : Value).binary .mul (.int 4611686018427387904) =
      .error error ∧ error.isTypeError = true) ∧
    (∃ left right joined : Value,
      (Value.string ⟨"n\\"⟩ : Value).binary .mul (.int 1) = .ok left ∧
      (Value.string ⟨"n\\"⟩ : Value).binary .mul (.int 2) = .ok right ∧
      left.binary .add right = .ok joined ∧
      joined.equal (.string ⟨"n\\\\n\\\\n\\"⟩) = true) ∧
    ∃ whole : Value, (Value.string ⟨"n\\"⟩ : Value).binary .mul (.int 6) = .ok whole ∧
      (Value.string ⟨"n\\\\n\\\\n\\\\n\\\\n\\\\n\\"⟩ : Value).equal whole = true := by
  obtain ⟨-, -, hsum, hproduct⟩ := string_repetition (N := Name) ⟨"n\\"⟩
  have hrefused : (⟨"abcd"⟩ : Text).RefusesCount 4611686018427387904 _ :=
    .long (by decide) (by decide)
  obtain ⟨hcounts, herrors, -, -⟩ := string_repetition (N := Name) ⟨"abcd"⟩
  refine ⟨⟨_, ((hcounts _).2.2 _).2 hrefused, herrors _ _ hrefused⟩, ?_, ?_⟩
  · exact hsum 1 2 (.int 3) (.string ⟨"n\\\\n\\\\n\\"⟩) (by decide) (by decide) rfl (by rfl)
  · refine ⟨.string ⟨"n\\\\n\\\\n\\\\n\\\\n\\\\n\\"⟩, by rfl, ?_⟩
    exact hproduct 2 3 (.int 6) (.string ⟨"n\\\\n\\"⟩) _ _ (by rfl) (by rfl) rfl (by rfl)

end TreeScript
