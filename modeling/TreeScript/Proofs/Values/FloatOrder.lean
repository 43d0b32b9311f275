import Mathlib
import TreeScript.Number

/-!
How numbers compare. To compare two floating-point numbers the other way around gives the opposite
(`compareFloat?_swap`), and there is no result exactly where one of them is not a number
(`compareFloat?_eq_none_iff`). No integer is read as what is not a number (`isNaN_ofInt`), so the
same is true of numbers of both variants (`compare?_swap`, `compare?_eq_none_iff`).
-/

namespace TreeScript.Number

open Float.Model Float.Model.UnpackedFloat

/-! ### Floating-point numbers by their parts -/

theorem compare_unpacked_swap (left right : UnpackedFloat) :
    right.compare left = (left.compare right).map Ordering.swap := by
  cases left with
  | notANumber => cases right <;> rfl
  | infinity s =>
    cases right with
    | infinity t => cases s <;> cases t <;> rfl
    | _ => cases s <;> rfl
  | zero s =>
    cases right with
    | infinity t | finite t => cases t <;> rfl
    | _ => rfl
  | finite s m e =>
    cases right with
    | infinity t => cases s <;> cases t <;> rfl
    | finite t n d =>
      cases s <;> cases t <;>
        simp [UnpackedFloat.compare, Ordering.swap_then, Int.compare_swap, Nat.compare_swap]
    | _ => cases s <;> rfl

theorem compare_unpacked_eq_none_iff (left right : UnpackedFloat) :
    left.compare right = none ↔ left.isNaN = true ∨ right.isNaN = true := by
  cases left with
  | notANumber => cases right <;> simp [UnpackedFloat.compare, UnpackedFloat.isNaN]
  | infinity s | finite s | zero s =>
    cases right with
    | notANumber => cases s <;> simp [UnpackedFloat.compare, UnpackedFloat.isNaN]
    | infinity t | finite t | zero t =>
      cases s <;> cases t <;> simp [UnpackedFloat.compare, UnpackedFloat.isNaN]

theorem compareFloat?_eq (left right : Float) :
    compareFloat? left right = left.toModel.unpack.compare right.toModel.unpack := by
  have lt_iff (x y : Float) : x < y ↔ x.toModel.unpack.compare y.toModel.unpack = some .lt := by
    change decide ((x.toModel.unpack.compare y.toModel.unpack == some .lt) = true) = true ↔ _
    rw [decide_eq_true_eq, beq_iff_eq]
  have beq_iff : (left == right) = true ↔
      left.toModel.unpack.compare right.toModel.unpack = some .eq := by
    change (left.toModel.unpack.compare right.toModel.unpack == some .eq) = true ↔ _
    rw [beq_iff_eq]
  unfold compareFloat?
  simp only [lt_iff, beq_iff]
  rw [compare_unpacked_swap left.toModel.unpack]
  cases left.toModel.unpack.compare right.toModel.unpack with
  | none => rfl
  | some ordering => cases ordering <;> rfl

theorem compareFloat?_swap (left right : Float) :
    compareFloat? right left = (compareFloat? left right).map Ordering.swap := by
  rw [compareFloat?_eq, compareFloat?_eq, compare_unpacked_swap]

theorem compareFloat?_eq_none_iff (left right : Float) :
    compareFloat? left right = none ↔ left.isNaN = true ∨ right.isNaN = true := by
  rw [compareFloat?_eq, compare_unpacked_eq_none_iff]
  rfl

/-! ### Integers as floating-point numbers -/

theorem isNaN_unpack_packComponents {sign : Sign} {exponent : BitVec 11} {mantissa : BitVec 52}
    (h : exponent = -1#11 → mantissa = 0#52) :
    (UnpackedFloat.unpack .binary64
      (packComponents .binary64 sign exponent mantissa)).isNaN = false := by
  simp only [UnpackedFloat.unpack, unpackExponent_packComponents, unpackMantissa_packComponents]
  split
  · rename_i hexponent
    rw [if_pos (h hexponent)]
    rfl
  · split
    · split <;> rfl
    · rfl

/-- To be packed makes no number of what is none, nor the other way around. -/
theorem isNaN_pack (unpacked : UnpackedFloat) :
    (Float.Model.pack unpacked).isNaN = unpacked.isNaN := by
  cases unpacked with
  | notANumber => decide
  | infinity s => exact isNaN_unpack_packComponents fun _ => rfl
  | zero s => exact isNaN_unpack_packComponents fun h => absurd h (by decide)
  | finite s m e hpos =>
    change (UnpackedFloat.unpack .binary64
      (UnpackedFloat.pack .binary64 (.finite s m e hpos))).isNaN = false
    simp only [UnpackedFloat.pack]
    split
    · exact isNaN_unpack_packComponents fun _ => rfl
    · rename_i hsmall
      split
      -- The exponent of a number that is not too large is not the one of infinity.
      · refine isNaN_unpack_packComponents fun hexponent => ?_
        have hbits := congrArg BitVec.toNat hexponent
        simp only [BitVec.toNat_ofNat, BitVec.reduceNeg, Nat.not_le] at hbits hsmall
        rw [Nat.mod_eq_of_lt (by omega)] at hbits
        omega
      · exact isNaN_unpack_packComponents fun h => absurd h (by decide)

theorem isNaN_roundWithAccuracy {sign : Sign} {mantissa : Nat} {exponent : Int}
    {accuracy : Accuracy} :
    (roundWithAccuracy .binary64 sign mantissa exponent accuracy).isNaN = false := by
  unfold roundWithAccuracy
  simp only
  split <;> rfl

theorem isNaN_normalize (mantissa exponent : Int) (zeroSign : Sign) :
    (UnpackedFloat.normalize .binary64 mantissa exponent zeroSign).isNaN = false := by
  unfold UnpackedFloat.normalize
  split
  · exact isNaN_roundWithAccuracy
  · rfl
  · exact isNaN_roundWithAccuracy

/-- To be multiplied with what is finite makes nothing that is not a number. -/
theorem isNaN_mul_finite {unpacked : UnpackedFloat} (h : unpacked.isNaN = false) {sign : Sign}
    {mantissa : Nat} {exponent : Int} (hpos : 0 < mantissa) :
    (UnpackedFloat.mul .binary64 unpacked (.finite sign mantissa exponent hpos)).isNaN = false := by
  cases unpacked with
  | notANumber => cases h
  | infinity | zero => rfl
  | finite => exact isNaN_roundWithAccuracy

theorem isNaN_ofNat (n : Nat) : (Float.ofNat n).isNaN = false := by
  change (Float.ofScientific n false 0).isNaN = false
  unfold Float.ofScientific
  split
  · have hone : Float.exactlyRepresentablePowersOfTen[0].toModel.unpack =
        .finite .positive (2 ^ 52) (-52) (by decide) := by rfl
    change (Float.Model.pack (UnpackedFloat.mul .binary64 n.toUInt64.toFloat.toModel.unpack
      Float.exactlyRepresentablePowersOfTen[0].toModel.unpack)).isNaN = false
    rw [isNaN_pack, hone]
    exact isNaN_mul_finite ((isNaN_pack _).trans (isNaN_normalize _ _ _)) _
  · change (Float.Model.pack (UnpackedFloat.ofScientific .binary64 n 0)).isNaN = false
    rw [isNaN_pack]
    simp only [UnpackedFloat.ofScientific]
    split
    · rfl
    · split
      · rfl
      · split
        · rfl
        · rw [if_pos (Int.le_refl 0)]
          exact isNaN_mul_finite rfl _

theorem isNaN_neg (x : Float) : (-x).isNaN = x.isNaN := by
  change (Float.Model.pack x.toModel.unpack.neg).isNaN = x.toModel.unpack.isNaN
  rw [isNaN_pack]
  cases x.toModel.unpack <;> rfl

/-- An integer is always a number. -/
theorem isNaN_ofInt (n : Int) : (Float.ofInt n).isNaN = false := by
  cases n with
  | ofNat n => exact isNaN_ofNat n
  | negSucc n => exact (isNaN_neg _).trans (isNaN_ofNat _)

/-! ### Numbers of both variants -/

def isNaN : Number → Bool
  | int _ => false
  | float value => value.isNaN

theorem isNaN_toFloat (number : Number) : number.toFloat.isNaN = number.isNaN := by
  cases number with
  | int value => exact isNaN_ofInt value.toInt
  | float value => rfl

theorem compare?_swap (left right : Number) :
    right.compare? left = (left.compare? right).map Ordering.swap := by
  cases left with
  | int a =>
    cases right with
    | int b => simp [compare?, Int.compare_swap]
    | float y => exact compareFloat?_swap _ _
  | float x => cases right <;> exact compareFloat?_swap _ _

theorem compare?_eq_none_iff (left right : Number) :
    left.compare? right = none ↔ left.isNaN = true ∨ right.isNaN = true := by
  have hfloat := compareFloat?_eq_none_iff left.toFloat right.toFloat
  rw [isNaN_toFloat, isNaN_toFloat] at hfloat
  cases left with
  | int a =>
    cases right with
    | int b => simp [compare?, isNaN]
    | float y => exact hfloat
  | float x => cases right <;> exact hfloat

end TreeScript.Number
