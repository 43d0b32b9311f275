import TreeScript.Proofs.Values.FloatOrder
import TreeScript.Proofs.Values.Rounding

/-!
Integers as floating-point numbers. An integer is read as the floating-point number that is exactly
the rounded integer (`denotes_ofInt`); so two integers are equal as floating-point numbers if they
are rounded to the same one (`compareFloat?_ofInt`).
-/

namespace TreeScript.Number

open Float.Model Float.Model.UnpackedFloat

/-! ### Rounding of unpacked numbers -/

/-- A quotient with the bits that tell how to round it. -/
def quotientMantissa (quotient rest divisor : Nat) : ExtendedMantissa :=
  ⟨quotient, decide (divisor ≤ 2 * rest), decide (rest ≠ 0 ∧ 2 * rest ≠ divisor)⟩

theorem roundedMantissa_quotientMantissa {quotient rest divisor : Nat} (h : rest < divisor) :
    (quotientMantissa quotient rest divisor).roundedMantissa =
      roundQuotient quotient rest divisor := by
  unfold quotientMantissa roundQuotient
  by_cases hround : divisor ≤ 2 * rest
  · by_cases hsticky : rest ≠ 0 ∧ 2 * rest ≠ divisor
    · rw [if_neg (by omega), if_neg (by omega), decide_eq_true hround, decide_eq_true hsticky]
      rfl
    · rw [if_neg (by omega), if_pos (by omega), decide_eq_true hround, decide_eq_false hsticky]
      rfl
  · rw [if_pos (by omega), decide_eq_false hround]
    cases decide (rest ≠ 0 ∧ 2 * rest ≠ divisor) <;> rfl

theorem shiftRightOne_quotientMantissa {quotient rest divisor : Nat} (h : rest < divisor) :
    (quotientMantissa quotient rest divisor).shiftRightOne =
      quotientMantissa (quotient / 2) (rest + divisor * (quotient % 2)) (divisor * 2) := by
  have hround : (quotient % 2 != 0) =
      decide (divisor * 2 ≤ 2 * (rest + divisor * (quotient % 2))) := by
    rcases Nat.mod_two_eq_zero_or_one quotient with hbit | hbit
    · rw [hbit]
      exact (decide_eq_false (by omega)).symm
    · rw [hbit]
      exact (decide_eq_true (by omega)).symm
  have hsticky : (decide (divisor ≤ 2 * rest) || decide (rest ≠ 0 ∧ 2 * rest ≠ divisor)) =
      decide (rest + divisor * (quotient % 2) ≠ 0 ∧
        2 * (rest + divisor * (quotient % 2)) ≠ divisor * 2) := by
    rw [← Bool.decide_or, decide_eq_decide]
    rcases Nat.mod_two_eq_zero_or_one quotient with hbit | hbit
    · rw [hbit]
      omega
    · rw [hbit]
      omega
  rw [quotientMantissa, ExtendedMantissa.shiftRightOne, hround, hsticky, quotientMantissa]

theorem shiftRight_eq (n bits : Nat) : (⟨n, false, false⟩ : ExtendedMantissa) >>> bits =
    quotientMantissa (n / 2 ^ bits) (n % 2 ^ bits) (2 ^ bits) := by
  induction bits with
  | zero =>
    change (⟨n, false, false⟩ : ExtendedMantissa) = _
    simp [quotientMantissa, Nat.mod_one]
  | succ bits ih =>
    have hlt : n % 2 ^ bits < 2 ^ bits := Nat.mod_lt _ (Nat.two_pow_pos bits)
    change ((⟨n, false, false⟩ : ExtendedMantissa) >>> bits).shiftRightOne = _
    rw [ih, shiftRightOne_quotientMantissa hlt, Nat.div_div_eq_div_mul, Nat.pow_succ, Nat.mod_mul]

theorem roundedMantissa_shiftRight (n bits : Nat) :
    ((⟨n, false, false⟩ : ExtendedMantissa) >>> bits).roundedMantissa = dropBits n bits := by
  rw [shiftRight_eq, roundedMantissa_quotientMantissa (Nat.mod_lt _ (Nat.two_pow_pos bits)),
    dropBits]

theorem mantissa_shiftRight (n bits : Nat) :
    ((⟨n, false, false⟩ : ExtendedMantissa) >>> bits).mantissa = n / 2 ^ bits := by
  rw [shiftRight_eq]
  rfl

theorem shiftToTargetExponent_eq {n bits : Nat} {e : Int} (hn : n.log2 = 52 + bits)
    (he : -1074 ≤ e + bits) : shiftToTargetExponent .binary64 n e .exact =
      ((⟨n, false, false⟩ : ExtendedMantissa) >>> bits, e + bits) := by
  have hshift : (Format.binary64.targetExponent (totalExponent n e) - e).toNat = bits := by
    simp only [Format.targetExponent, totalExponent, Format.mantissaBits, Format.minExponent]
    omega
  rw [shiftToTargetExponent, shiftToExponent, hshift]
  rfl

/-- A rounded number keeps its sign and has 53 bits; the exponent makes up for those that were
dropped. -/
theorem roundWithAccuracy_eq (sign : Sign) {n bits : Nat} {e : Int} (hn : n.log2 = 52 + bits)
    (he : -1074 ≤ e + bits) : ∃ (m more : Nat) (hm : 0 < m),
      roundWithAccuracy .binary64 sign n e .exact = .finite sign m (e + more) hm ∧ m.log2 = 52 ∧
        m * 2 ^ more = roundNat n ∧ bits ≤ more ∧ more ≤ bits + 1 := by
  obtain ⟨m, more, hdrop, hm, hmore⟩ := exists_dropBits_eq hn
  have hpos : 0 < m := Nat.pos_of_ne_zero (ne_zero_of_log2 (Nat.le_of_eq hm.symm))
  have hsecond : shiftToTargetExponent .binary64 (m * 2 ^ more) (e + bits) .exact =
      ((⟨m * 2 ^ more, false, false⟩ : ExtendedMantissa) >>> more, e + (bits + more : Nat)) := by
    have hlog : (m * 2 ^ more).log2 = 52 + more := by rw [log2_mul_pow hpos.ne', hm]
    rw [shiftToTargetExponent_eq hlog (by omega), Int.natCast_add, Int.add_assoc]
  have hmantissa : ((⟨m * 2 ^ more, false, false⟩ : ExtendedMantissa) >>> more).mantissa = m := by
    rw [mantissa_shiftRight, Nat.mul_div_cancel _ (Nat.two_pow_pos more)]
  refine ⟨m, bits + more, hpos, ?_, hm, ?_, by omega, by omega⟩
  · unfold roundWithAccuracy
    simp only [shiftToTargetExponent_eq hn he, roundedMantissa_shiftRight, hdrop, hsecond,
      hmantissa]
    rw [dif_neg hpos.ne']
  · rw [roundNat_eq hn, hdrop, Nat.mul_assoc, ← Nat.pow_add, Nat.add_comm more]

/-! ### Packing -/

/-- A number that is zero or has all its bits. -/
inductive IsNormal : UnpackedFloat → Prop where
  | zero (sign : Sign) : IsNormal (.zero sign)
  | finite (sign : Sign) {m : Nat} {e : Int} (hm : m.log2 = 52) (hlow : -1074 ≤ e) (hhigh : e ≤ 971)
      (hpos : 0 < m) : IsNormal (.finite sign m e hpos)

/-- A number in units of the least positive one, which is two to the power of -1074. -/
def units : UnpackedFloat → Int
  | .finite sign m e _ => sign.apply (m * 2 ^ (e + 1074).toNat : Nat)
  | _ => 0

theorem unpack_packComponents {sign : Sign} {exponent m : Nat} (hm : m.log2 = 52)
    (hlow : 0 < exponent) (hhigh : exponent < 2047) (hpos : 0 < m) :
    UnpackedFloat.unpack .binary64 (packComponents .binary64 sign (BitVec.ofNat 11 exponent)
      (BitVec.ofNat 52 m)) = .finite sign m (exponent - 1075) hpos := by
  obtain ⟨hle, hlt⟩ := (Nat.log2_eq_iff hpos.ne').1 hm
  have hexponent : (BitVec.ofNat 11 exponent).toNat = exponent := by
    rw [BitVec.toNat_ofNat, Nat.mod_eq_of_lt (by omega)]
  have hfield {other : BitVec 11} (h : other.toNat ≠ exponent) :
      BitVec.ofNat 11 exponent ≠ other := by
    rintro rfl
    exact h hexponent
  have hinfinite : BitVec.ofNat 11 exponent ≠ -1#11 :=
    hfield (Nat.ne_of_gt (show exponent < 2047 from hhigh))
  have hsubnormal : BitVec.ofNat 11 exponent ≠ 0#11 :=
    hfield (Nat.ne_of_lt (show 0 < exponent from hlow))
  have hmantissa : (1#1 ++ BitVec.ofNat 52 m).toNat = m := by
    rw [BitVec.toNat_append, ← Nat.shiftLeft_add_eq_or_of_lt (BitVec.isLt _), BitVec.toNat_ofNat]
    change 2 ^ 52 + m % 2 ^ 52 = m
    omega
  simp only [UnpackedFloat.unpack, unpackExponent_packComponents, unpackMantissa_packComponents,
    unpackSign_packComponents, Sign.ofBitVec_toBitVec]
  rw [if_neg hinfinite, if_neg hsubnormal]
  simp only [hmantissa, hexponent]
  rfl

theorem unpack_pack_of_isNormal {u : UnpackedFloat} (h : IsNormal u) :
    (Float.Model.pack u).unpack = u := by
  cases h with
  | zero sign => cases sign <;> rfl
  | @finite sign m e hm hlow hhigh hpos =>
    obtain ⟨exponent, hexponent⟩ := Int.eq_ofNat_of_zero_le (a := e + 1075) (by omega)
    have he : e = exponent - 1075 := by omega
    subst he
    have hpack : UnpackedFloat.pack .binary64 (.finite sign m (exponent - 1075) hpos) =
        packComponents .binary64 sign (BitVec.ofNat 11 exponent) (BitVec.ofNat 52 m) := by
      have hbiased : ((exponent : Int) - 1075 + Format.binary64.exponentBias +
          Format.binary64.mantissaBitsWithoutImplicit).toNat = exponent := by
        change ((exponent : Int) - 1075 + 1023 + 52).toNat = exponent
        omega
      simp only [UnpackedFloat.pack, hbiased]
      have hbits : m.log2 + 1 = Format.binary64.mantissaBits := by
        rw [hm]
        rfl
      rw [if_neg (by omega), if_pos hbits]
    change UnpackedFloat.unpack .binary64 (UnpackedFloat.pack .binary64 _) = _
    rw [hpack, unpack_packComponents hm (by omega) (by omega) hpos]

theorem units_finite_inj {m m' : Nat} {e e' : Int} (hm : m.log2 = 52) (hm' : m'.log2 = 52)
    (he : -1074 ≤ e) (he' : -1074 ≤ e')
    (h : m * 2 ^ (e + 1074).toNat = m' * 2 ^ (e' + 1074).toNat) : e = e' ∧ m = m' := by
  have hlog := congrArg Nat.log2 h
  rw [log2_mul_pow (ne_zero_of_log2 (Nat.le_of_eq hm.symm)),
    log2_mul_pow (ne_zero_of_log2 (Nat.le_of_eq hm'.symm))] at hlog
  obtain rfl : e = e' := by omega
  exact ⟨rfl, Nat.eq_of_mul_eq_mul_right (Nat.two_pow_pos _) h⟩

theorem units_positive {m : Nat} {e : Int} (hpos : 0 < m) :
    0 < units (.finite .positive m e hpos) :=
  Int.natCast_pos.2 (Nat.mul_pos hpos (Nat.two_pow_pos _))

theorem units_negative {m : Nat} {e : Int} (hpos : 0 < m) :
    units (.finite .negative m e hpos) < 0 :=
  Int.neg_neg_of_pos (units_positive (e := e) hpos)

theorem units_ne_zero {sign : Sign} {m : Nat} {e : Int} (hpos : 0 < m) :
    units (.finite sign m e hpos) ≠ 0 := by
  cases sign with
  | negative => exact (units_negative hpos).ne
  | positive => exact (units_positive hpos).ne'

theorem compare_finite_iff {sign : Sign} {m m' : Nat} {e e' : Int} {hm : 0 < m} {hm' : 0 < m'} :
    (UnpackedFloat.finite sign m e hm).compare (.finite sign m' e' hm') = some .eq ↔
      e = e' ∧ m = m' := by
  cases sign <;> simp [UnpackedFloat.compare, Ordering.then_eq_eq]

/-- Normal numbers of one sign are equal if their sizes are. -/
theorem compare_finite_eq_iff {sign : Sign} {m m' : Nat} {e e' : Int} (hm : m.log2 = 52)
    (hm' : m'.log2 = 52) (he : -1074 ≤ e) (he' : -1074 ≤ e') (hpos : 0 < m) (hpos' : 0 < m') :
    (UnpackedFloat.finite sign m e hpos).compare (.finite sign m' e' hpos') = some .eq ↔
      units (.finite sign m e hpos) = units (.finite sign m' e' hpos') := by
  rw [compare_finite_iff]
  constructor
  · rintro ⟨rfl, rfl⟩
    rfl
  · intro h
    refine units_finite_inj hm hm' he he' ?_
    cases sign with
    | negative => exact Int.ofNat.inj (Int.neg_inj.1 h)
    | positive => exact Int.ofNat.inj h

/-- Normal numbers are equal if they have the same size; a zero has no sign then. -/
theorem compare_eq_iff {u v : UnpackedFloat} (hu : IsNormal u) (hv : IsNormal v) :
    u.compare v = some .eq ↔ units u = units v := by
  cases hu with
  | zero s =>
    cases hv with
    | zero t => exact iff_of_true rfl rfl
    | finite t hm hlow hhigh hpos =>
      refine iff_of_false ?_ (units_ne_zero hpos).symm
      cases t <;> exact nofun
  | finite s hm hlow hhigh hpos =>
    cases hv with
    | zero t =>
      refine iff_of_false ?_ (units_ne_zero hpos)
      cases s <;> exact nofun
    | finite t hm' hlow' hhigh' hpos' =>
      cases s with
      | negative =>
        cases t with
        | negative => exact compare_finite_eq_iff hm hm' hlow hlow' hpos hpos'
        | positive =>
          exact iff_of_false nofun ((units_negative hpos).trans (units_positive hpos')).ne
      | positive =>
        cases t with
        | negative =>
          exact iff_of_false nofun ((units_negative hpos').trans (units_positive hpos)).ne'
        | positive => exact compare_finite_eq_iff hm hm' hlow hlow' hpos hpos'

/-! ### Integers as floating-point numbers -/

def unitsOfOne : Nat :=
  2 ^ 1074

theorem unitsOfOne_pos : 0 < unitsOfOne :=
  pow_pos two_pos 1074

theorem unitsOfOne_eq {zeros : Nat} (h : zeros ≤ 1074) :
    unitsOfOne = 2 ^ zeros * 2 ^ (1074 - zeros) := by
  have hexponent : 1074 = zeros + (1074 - zeros) := (Nat.add_sub_cancel' h).symm
  exact (congrArg (2 ^ ·) hexponent).trans (Nat.pow_add 2 zeros (1074 - zeros))

/-- A normal number is exactly an integer. -/
structure Denotes (u : UnpackedFloat) (n : Int) : Prop where
  normal : IsNormal u
  units : units u = n * unitsOfOne

theorem denotes_roundWithAccuracy {n bits : Nat} {e : Int} {value : Nat} (hn : n.log2 = 52 + bits)
    (hlow : -1074 ≤ e) (hhigh : e + bits < 971)
    (hvalue : roundNat n * 2 ^ (e + 1074).toNat = value * unitsOfOne) :
    Denotes (roundWithAccuracy .binary64 .positive n e .exact) value := by
  obtain ⟨m, more, hpos, heq, hm, hmul, hle, hge⟩ :=
    roundWithAccuracy_eq .positive (e := e) hn (by omega)
  rw [heq]
  refine ⟨.finite _ hm (by omega) (by omega) hpos, ?_⟩
  have hshift : (e + more + 1074).toNat = more + (e + 1074).toNat := by omega
  rw [← Int.natCast_mul, ← hvalue, ← hmul, Number.units, hshift, Nat.pow_add, Nat.mul_assoc]
  rfl

/-- To multiply with one changes nothing. -/
theorem mul_one_eq {u : UnpackedFloat} (h : IsNormal u) :
    UnpackedFloat.mul .binary64 u (.finite .positive (2 ^ 52) (-52) (by decide)) = u := by
  cases h with
  | zero sign => cases sign <;> rfl
  | @finite sign m e hm hlow hhigh hpos =>
    have hlog : (m * 2 ^ 52).log2 = 52 + 52 := by rw [log2_mul_pow hpos.ne', hm]
    obtain ⟨m', more, hpos', heq, hm', hmul, -⟩ :=
      roundWithAccuracy_eq (sign * .positive) (e := e + -52) hlog (by omega)
    rw [roundNat_mul, roundNat_of_lt ((Nat.log2_lt hpos.ne').1 (by omega))] at hmul
    have hlogs := congrArg Nat.log2 hmul
    rw [log2_mul_pow hpos'.ne', log2_mul_pow hpos.ne', hm, hm'] at hlogs
    obtain rfl : more = 52 := by omega
    obtain rfl := Nat.eq_of_mul_eq_mul_right (by decide) hmul
    have hexponent : e + -52 + (52 : Nat) = e := by omega
    have hsign : sign * .positive = sign := by cases sign <;> rfl
    rw [UnpackedFloat.mul, heq]
    simp only [hexponent, hsign]

/-- A natural number is rounded the same with more zeros behind it. -/
theorem denotes_roundWithAccuracy_mul {n : Nat} (zeros : Nat) (hn : n ≠ 0)
    (hbits : 52 ≤ n.log2 + zeros) (hzeros : zeros ≤ 53) (hsmall : n.log2 < 64) :
    Denotes (roundWithAccuracy .binary64 .positive (n * 2 ^ zeros) (-zeros) .exact)
      (roundNat n) := by
  obtain ⟨bits, hlog⟩ := Nat.exists_eq_add_of_le hbits
  have hlong : (n * 2 ^ zeros).log2 = 52 + bits := by rw [log2_mul_pow hn, hlog]
  refine denotes_roundWithAccuracy hlong (by omega) (by omega) ?_
  have hshift : (-(zeros : Int) + 1074).toNat = 1074 - zeros := by omega
  rw [hshift, roundNat_mul, Nat.mul_assoc, ← unitsOfOne_eq (by omega)]

theorem denotes_round {n : Nat} (hn : n ≠ 0) (hsmall : n.log2 < 53) :
    Denotes (UnpackedFloat.round .binary64 .positive n 0) (roundNat n) := by
  have hshift : (0 - Format.binary64.targetExponent (totalExponent n 0)).toNat = 52 - n.log2 := by
    simp only [Format.targetExponent, totalExponent, Format.mantissaBits, Format.minExponent]
    omega
  have h := denotes_roundWithAccuracy_mul (52 - n.log2) hn (by omega) (by omega) (by omega)
  rw [UnpackedFloat.round, decreaseExponent, hshift]
  simpa only [Nat.shiftLeft_eq, Int.zero_sub] using h

theorem denotes_normalize {n : Nat} (hn : n < 2 ^ 53) :
    Denotes (UnpackedFloat.normalize .binary64 n 0 .positive) (roundNat n) := by
  by_cases h : n = 0
  · subst h
    exact ⟨.zero _, by rw [roundNat_zero, Int.natCast_zero, Int.zero_mul]; rfl⟩
  · have hcompare : compare (n : Int) 0 = .gt := by
      rw [Int.compare_eq_gt]
      omega
    rw [UnpackedFloat.normalize, hcompare]
    exact denotes_round h ((Nat.log2_lt h).2 hn)

/-- A natural number with at most 53 bits is converted, and multiplied with a power of ten that is
one. -/
theorem denotes_ofNat_of_lt {n : Nat} (hn : n < 2 ^ 53) :
    Denotes (Float.ofNat n).toModel.unpack (roundNat n) := by
  have hone : Float.exactlyRepresentablePowersOfTen[0].toModel.unpack =
      .finite .positive (2 ^ 52) (-52) (by decide) := by rfl
  have hword : n.toUInt64.toNat = n := Nat.mod_eq_of_lt (by omega)
  have h := denotes_normalize hn
  change Denotes (Float.ofScientific n false 0).toModel.unpack _
  rw [Float.ofScientific, dif_pos ⟨hn, Nat.zero_le 22⟩]
  change Denotes (Float.Model.pack (UnpackedFloat.mul .binary64
    (Float.Model.pack (UnpackedFloat.normalize .binary64 n.toUInt64.toNat 0 .positive)).unpack
    Float.exactlyRepresentablePowersOfTen[0].toModel.unpack)).unpack _
  rw [hword, unpack_pack_of_isNormal h.normal, hone, mul_one_eq h.normal,
    unpack_pack_of_isNormal h.normal]
  exact h

/-- A longer one is rounded, with zeros behind it. -/
theorem denotes_ofNat_of_le {n : Nat} (hle : 2 ^ 53 ≤ n) (hn : n < 2 ^ 64) :
    Denotes (Float.ofNat n).toModel.unpack (roundNat n) := by
  have hne : n ≠ 0 := by omega
  have hlow : 53 ≤ n.log2 := (Nat.le_log2 hne).2 hle
  have h := denotes_roundWithAccuracy_mul 53 hne (by omega) (Nat.le_refl _) ((Nat.log2_lt hne).2 hn)
  have hfinite : ¬ (0 : Int) < -((2 ^ Format.binary64.exponentBits : Int) + n.log2) := by
    have : (0 : Int) ≤ 2 ^ Format.binary64.exponentBits := by decide
    omega
  have heq : UnpackedFloat.ofScientific .binary64 n 0 =
      roundWithAccuracy .binary64 .positive (n * 2 ^ 53) (-(53 : Nat)) .exact := by
    rw [UnpackedFloat.ofScientific, dif_neg hne, if_neg (by decide), if_neg hfinite,
      if_pos (Int.le_refl 0)]
    simp only [UnpackedFloat.mul, Nat.shiftLeft_eq, Int.toNat_zero, Nat.pow_zero, Nat.mul_one,
      Int.add_zero]
    rfl
  change Denotes (Float.ofScientific n false 0).toModel.unpack _
  rw [Float.ofScientific, dif_neg (by omega)]
  change Denotes (Float.Model.pack (UnpackedFloat.ofScientific .binary64 n 0)).unpack _
  rw [heq, unpack_pack_of_isNormal h.normal]
  exact h

/-- A natural number is read as the nearest floating-point number. -/
theorem denotes_ofNat {n : Nat} (hn : n < 2 ^ 64) :
    Denotes (Float.ofNat n).toModel.unpack (roundNat n) := by
  rcases Nat.lt_or_ge n (2 ^ 53) with hlt | hge
  · exact denotes_ofNat_of_lt hlt
  · exact denotes_ofNat_of_le hge hn

theorem Denotes.neg {u : UnpackedFloat} {n : Int} (h : Denotes u n) : Denotes u.neg (-n) := by
  obtain ⟨hnormal, hunits⟩ := h
  cases hnormal with
  | zero sign =>
    refine ⟨.zero _, ?_⟩
    rw [Int.neg_mul, ← hunits]
    rfl
  | finite sign hm hlow hhigh hpos =>
    refine ⟨.finite _ hm hlow hhigh hpos, ?_⟩
    rw [Int.neg_mul, ← hunits]
    cases sign with
    | negative => exact (Int.neg_neg _).symm
    | positive => rfl

/-- An integer is read as the nearest floating-point number. -/
theorem denotes_ofInt {n : Int} (hn : n.natAbs < 2 ^ 64) :
    Denotes (Float.ofInt n).toModel.unpack (rounded n) := by
  cases n with
  | ofNat n =>
    have hrounded : rounded (Int.ofNat n) = roundNat n := by
      by_cases h : n = 0
      · subst h
        rfl
      · rw [rounded, Int.ofNat_eq_natCast, Int.sign_natCast_of_ne_zero h, Int.one_mul,
          Int.natAbs_natCast]
    rw [hrounded]
    exact denotes_ofNat hn
  | negSucc n =>
    have hrounded : rounded (Int.negSucc n) = -(roundNat (n + 1) : Int) := Int.neg_one_mul _
    have h := (denotes_ofNat (n := n + 1) hn).neg
    rw [hrounded]
    change Denotes (Float.Model.pack (Float.ofNat (n + 1)).toModel.unpack.neg).unpack _
    rw [unpack_pack_of_isNormal h.normal]
    exact h

/-- Integers are equal as floating-point numbers if they are rounded to the same one. -/
theorem compareFloat?_ofInt {a b : Int} (ha : a.natAbs < 2 ^ 64) (hb : b.natAbs < 2 ^ 64) :
    compareFloat? (Float.ofInt a) (Float.ofInt b) = some .eq ↔ rounded a = rounded b := by
  have hleft := denotes_ofInt ha
  have hright := denotes_ofInt hb
  have hpos : (unitsOfOne : Int) ≠ 0 := Int.natCast_ne_zero.2 unitsOfOne_pos.ne'
  rw [compareFloat?_eq, compare_eq_iff hleft.normal hright.normal, hleft.units, hright.units,
    Int.mul_eq_mul_right_iff hpos]

theorem compareFloat?_eq_some_eq_iff (left right : Float) :
    compareFloat? left right = some .eq ↔ (left == right) = true := by
  rw [compareFloat?_eq]
  exact beq_iff_eq.symm

theorem compareFloat?_trans {x y z : Float} (hxy : compareFloat? x y = some .eq)
    (hyz : compareFloat? y z = some .eq) : compareFloat? x z = some .eq := by
  rw [compareFloat?_eq_some_eq_iff] at *
  exact BEq.trans hxy hyz

end TreeScript.Number
