import Mathlib.Tactic.Positivity

/-!
To round an integer to the nearest of which only the first 53 bits may be set (`rounded`); of two
that are equally near, to the one with the even quotient. With more zeros behind it a number is
rounded the same (`roundNat_mul`). A number with at most 53 bits is kept (`rounded_of_lt`), no other
number is rounded to the same one (`eq_of_rounded_eq`), and a number that a signed word of 64 bits
holds is moved by at most 512 (`rounded_sub`).
-/

namespace TreeScript.Number

/-! ### Natural numbers -/

/-- The quotient of a division, rounded to the nearest; of two that are equally near, to the even
one. -/
def roundQuotient (quotient rest divisor : Nat) : Nat :=
  if 2 * rest < divisor then quotient
  else if 2 * rest = divisor then quotient + quotient % 2
  else quotient + 1

/-- A natural number without its last bits, rounded. -/
def dropBits (n bits : Nat) : Nat :=
  roundQuotient (n / 2 ^ bits) (n % 2 ^ bits) (2 ^ bits)

/-- The nearest natural number of which only the first 53 bits may be set. -/
def roundNat (n : Nat) : Nat :=
  dropBits n (n.log2 - 52) * 2 ^ (n.log2 - 52)

theorem roundQuotient_cases (quotient rest divisor : Nat) :
    roundQuotient quotient rest divisor = quotient ∧ 2 * rest ≤ divisor ∨
      roundQuotient quotient rest divisor = quotient + 1 ∧ divisor ≤ 2 * rest := by
  unfold roundQuotient
  split
  · omega
  · split <;> omega

theorem roundQuotient_bounds (quotient rest divisor : Nat) :
    quotient ≤ roundQuotient quotient rest divisor ∧
      roundQuotient quotient rest divisor ≤ quotient + 1 := by
  have := roundQuotient_cases quotient rest divisor
  omega

theorem roundQuotient_mul {factor : Nat} (h : 0 < factor) (quotient rest divisor : Nat) :
    roundQuotient quotient (rest * factor) (divisor * factor) =
      roundQuotient quotient rest divisor := by
  unfold roundQuotient
  simp only [← Nat.mul_assoc, Nat.mul_lt_mul_right h, Nat.mul_left_inj h.ne']

theorem dropBits_zero (n : Nat) : dropBits n 0 = n := by
  simp [dropBits, roundQuotient, Nat.mod_one]

theorem dropBits_mul (n bits more : Nat) :
    dropBits (n * 2 ^ more) (bits + more) = dropBits n bits := by
  have hpos : 0 < 2 ^ more := Nat.two_pow_pos more
  rw [dropBits, Nat.pow_add, Nat.mul_div_mul_right _ _ hpos, Nat.mul_mod_mul_right,
    roundQuotient_mul hpos, dropBits]

theorem log2_mul_pow {n : Nat} (hn : n ≠ 0) (bits : Nat) :
    (n * 2 ^ bits).log2 = n.log2 + bits := by
  induction bits with
  | zero => simp
  | succ bits ih =>
    have hne : n * 2 ^ bits ≠ 0 := by positivity
    rw [Nat.pow_succ, ← Nat.mul_assoc, Nat.mul_comm _ 2, Nat.log2_two_mul hne, ih, Nat.add_assoc]

theorem ne_zero_of_log2 {n : Nat} (h : 52 ≤ n.log2) : n ≠ 0 := by
  rintro rfl
  rw [Nat.log2_zero] at h
  omega

theorem roundNat_of_lt {n : Nat} (h : n < 2 ^ 53) : roundNat n = n := by
  have hlog : n.log2 - 52 = 0 := by
    by_cases hn : n = 0
    · simp [hn]
    · have := (Nat.log2_lt hn).2 h
      omega
  rw [roundNat, hlog, dropBits_zero, Nat.pow_zero, Nat.mul_one]

theorem roundNat_zero : roundNat 0 = 0 :=
  roundNat_of_lt (by decide)

theorem roundNat_mul (n more : Nat) : roundNat (n * 2 ^ more) = roundNat n * 2 ^ more := by
  by_cases hn : n = 0
  · simp [hn, roundNat_zero]
  by_cases hbits : 52 ≤ n.log2
  · have hlog : (n * 2 ^ more).log2 - 52 = n.log2 - 52 + more := by
      rw [log2_mul_pow hn]
      omega
    rw [roundNat, roundNat, hlog, dropBits_mul, Nat.pow_add, Nat.mul_assoc]
  · rw [roundNat_of_lt ((Nat.log2_lt hn).1 (by omega)), roundNat]
    -- Only zeros are dropped.
    have hzeros : (n * 2 ^ more).log2 - 52 ≤ more := by
      rw [log2_mul_pow hn]
      omega
    obtain ⟨rest, hrest⟩ := Nat.exists_eq_add_of_le hzeros
    have hsplit : n * 2 ^ more = n * 2 ^ rest * 2 ^ ((n * 2 ^ more).log2 - 52) := by
      rw [Nat.mul_assoc, ← Nat.pow_add, Nat.add_comm rest, ← hrest]
    have hdrop : dropBits (n * 2 ^ more) ((n * 2 ^ more).log2 - 52) = n * 2 ^ rest := by
      rw [← dropBits_zero (n * 2 ^ rest), ← dropBits_mul (n * 2 ^ rest) 0, ← hsplit, Nat.zero_add]
    rw [hdrop, ← hsplit]

section Bits

variable {n bits : Nat} (h : n.log2 = 52 + bits)
include h

theorem roundNat_eq : roundNat n = dropBits n bits * 2 ^ bits := by
  rw [roundNat, h, Nat.add_sub_cancel_left]

theorem le_dropBits : 2 ^ 52 ≤ dropBits n bits := by
  have hn : n ≠ 0 := ne_zero_of_log2 (by omega)
  refine Nat.le_trans ?_ (roundQuotient_bounds _ _ _).1
  rw [Nat.le_div_iff_mul_le (Nat.two_pow_pos bits), ← Nat.pow_add, ← h]
  exact Nat.log2_self_le hn

theorem dropBits_le : dropBits n bits ≤ 2 ^ 53 := by
  refine Nat.le_trans (roundQuotient_bounds _ _ _).2 (Nat.succ_le_of_lt ?_)
  have hbits : 53 + bits = n.log2 + 1 := by omega
  rw [Nat.div_lt_iff_lt_mul (Nat.two_pow_pos bits), ← Nat.pow_add, hbits]
  exact Nat.lt_log2_self

/-- What is left of a number with enough bits has 53 bits, up to a power of two: one bit more only
if it was rounded up. -/
theorem exists_dropBits_eq :
    ∃ m more, dropBits n bits = m * 2 ^ more ∧ m.log2 = 52 ∧ more ≤ 1 := by
  have hle := le_dropBits h
  rcases Nat.lt_or_eq_of_le (dropBits_le h) with hlt | heq
  · have hlog : (dropBits n bits).log2 = 52 := (Nat.log2_eq_iff (by omega)).2 ⟨hle, hlt⟩
    exact ⟨dropBits n bits, 0, (Nat.mul_one _).symm, hlog, Nat.zero_le 1⟩
  · exact ⟨2 ^ 52, 1, heq, Nat.log2_two_pow, Nat.le_refl 1⟩

end Bits

/-! ### How far away the nearest number is -/

/-- What is left without the last bits is at most half a unit of its own last bit away. -/
theorem dropBits_error (n bits : Nat) :
    2 * (dropBits n bits * 2 ^ bits) ≤ 2 * n + 2 ^ bits ∧
      2 * n ≤ 2 * (dropBits n bits * 2 ^ bits) + 2 ^ bits := by
  have hsplit : n / 2 ^ bits * 2 ^ bits + n % 2 ^ bits = n := Nat.div_add_mod' n _
  have hlt : n % 2 ^ bits < 2 ^ bits := Nat.mod_lt _ (Nat.two_pow_pos _)
  rw [dropBits]
  rcases roundQuotient_cases (n / 2 ^ bits) (n % 2 ^ bits) (2 ^ bits) with
    ⟨heq, hrest⟩ | ⟨heq, hrest⟩
  · rw [heq]
    omega
  · rw [heq, Nat.add_mul, Nat.one_mul]
    omega

theorem roundNat_error {n : Nat} (h : n ≤ 2 ^ 63) :
    roundNat n ≤ n + 512 ∧ n ≤ roundNat n + 512 := by
  rcases Nat.lt_or_eq_of_le h with hlt | rfl
  · have hbits : n.log2 - 52 ≤ 10 := by
      by_cases hn : n = 0
      · simp [hn]
      · have := (Nat.log2_lt hn).2 hlt
        omega
    have hunit : 2 ^ (n.log2 - 52) ≤ 2 ^ 10 := Nat.pow_le_pow_right (by decide) hbits
    have := dropBits_error n (n.log2 - 52)
    rw [roundNat]
    omega
  · decide

/-- What has more than 53 bits does not become less. -/
theorem le_roundNat {n : Nat} (h : 2 ^ 53 ≤ n) : 2 ^ 53 ≤ roundNat n := by
  have hlog : 53 ≤ n.log2 := (Nat.le_log2 (by omega)).2 h
  obtain ⟨bits, hbits⟩ := Nat.exists_eq_add_of_le (show 52 ≤ n.log2 by omega)
  rw [roundNat_eq hbits]
  calc 2 ^ 53 = 2 ^ 52 * 2 ^ 1 := by decide
    _ ≤ dropBits n bits * 2 ^ bits :=
        Nat.mul_le_mul (le_dropBits hbits) (Nat.pow_le_pow_right (by decide) (by omega))

/-! ### Integers -/

/-- The nearest integer of which only the first 53 bits may be set. -/
def rounded (n : Int) : Int :=
  n.sign * roundNat n.natAbs

theorem natAbs_rounded (n : Int) : (rounded n).natAbs = roundNat n.natAbs := by
  by_cases hn : n = 0
  · subst hn
    rfl
  · rw [rounded, Int.natAbs_mul, Int.natAbs_sign_of_ne_zero hn, Int.natAbs_natCast, Nat.one_mul]

theorem rounded_of_lt {n : Int} (h : n.natAbs < 2 ^ 53) : rounded n = n := by
  rw [rounded, roundNat_of_lt h, Int.sign_mul_natAbs]

theorem rounded_sub {n : Int} (h : n.natAbs ≤ 2 ^ 63) : (rounded n - n).natAbs ≤ 512 := by
  have hsub : rounded n - n = n.sign * (roundNat n.natAbs - n.natAbs) := by
    rw [Int.mul_sub, Int.sign_mul_natAbs, rounded]
  have herror := roundNat_error h
  by_cases hn : n = 0
  · subst hn
    decide
  · rw [hsub, Int.natAbs_mul, Int.natAbs_sign_of_ne_zero hn, Nat.one_mul]
    omega

/-- An integer of which every digit counts is rounded as no other. -/
theorem eq_of_rounded_eq {a b : Int} (ha : a.natAbs < 2 ^ 53) (h : rounded a = rounded b) :
    a = b := by
  have hb : b.natAbs < 2 ^ 53 := by
    by_contra hlarge
    have hle := le_roundNat (Nat.le_of_not_lt hlarge)
    rw [← natAbs_rounded, ← h, rounded_of_lt ha] at hle
    omega
  rw [rounded_of_lt ha, rounded_of_lt hb] at h
  exact h

end TreeScript.Number
