import TreeScript.Decimal.Reading
import TreeScript.Decimal.Shortest
import TreeScript.Operator

/-!
Numbers: 64-bit integers and floating-point numbers. Arithmetic on integers is exact; a result that
does not fit is computed in floating point instead, as is whatever involves a floating-point number.
-/

namespace TreeScript

inductive Number where
  | int (value : Int64)
  | float (value : Float)

namespace Number

/-- The nearest floating-point number. -/
def toFloat : Number → Float
  | int value => Float.ofInt value.toInt
  | float value => value

/-- Whether a number is zero, of either sign. -/
def isZero : Number → Bool
  | int value => value == 0
  | float value => value == 0.0

/-- The text of a number: decimal digits, and for a floating-point number the fewest that read back
as the same number. -/
def text : Number → String
  | int value => toString value.toInt
  | float value => Decimal.floatText value

/-! ### Arithmetic -/

/-- An operation on exact integers, and in floating point where a result does not fit or an operand
is not an integer. -/
def combine (exact : Int → Int → Int) (approximate : Float → Float → Float) (left right : Number) :
    Number :=
  match left, right with
  | int a, int b =>
    match Decimal.int64? (exact a.toInt b.toInt) with
    | some result => int result
    | none => float (approximate left.toFloat right.toFloat)
  | _, _ => float (approximate left.toFloat right.toFloat)

def add : Number → Number → Number :=
  combine (· + ·) (· + ·)

def sub : Number → Number → Number :=
  combine (· - ·) (· - ·)

def mul : Number → Number → Number :=
  combine (· * ·) (· * ·)

/-! ### Order -/

/-- How floating-point numbers compare. What is not a number compares with nothing. -/
def compareFloat? (left right : Float) : Option Ordering :=
  if left < right then some .lt
  else if left == right then some .eq
  else if right < left then some .gt
  else none

/-- How numbers compare: integers exactly, others as floating-point numbers. -/
def compare? (left right : Number) : Option Ordering :=
  match left, right with
  | int a, int b => some (compare a.toInt b.toInt)
  | _, _ => compareFloat? left.toFloat right.toFloat

/-- Whether two numbers are of one variant and equal. -/
def sameVariantEqual : Number → Number → Bool
  | int a, int b => a == b
  | float a, float b => a == b
  | _, _ => false

end Number

/-- Whether a result of comparing satisfies an operator; without a result only inequality holds.
Arithmetic operators hold of nothing. -/
def Operator.holdsFor : Operator → Option Ordering → Bool
  | .eq, ordering => ordering == some .eq
  | .ne, ordering => ordering != some .eq
  | .lt, ordering => ordering == some .lt
  | .le, ordering => ordering == some .lt || ordering == some .eq
  | .gt, ordering => ordering == some .gt
  | .ge, ordering => ordering == some .gt || ordering == some .eq
  | .add, _ | .sub, _ | .mul, _ => false

end TreeScript
