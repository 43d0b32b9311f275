/-!
The shortest decimal form of a floating-point number: the fewest digits that read back as the same
number, and of those the nearest to it.

A finite number is `m` times a power of two with at least -1074 as its exponent. Counted in units of
`10 ^ -1076` it is a whole number, and so are the two ends of the interval of numbers that round to
it; so the search below is exact.
-/

namespace TreeScript.Decimal

/-! ### The parts of a floating-point number -/

/-- A finite number other than zero, without its sign: `mantissa` times two to the power
`exponent - 1074`. The mantissa is below `2 ^ 53`. -/
structure Binary where
  mantissa : Nat
  exponent : Nat
  deriving DecidableEq, Repr

/-- What a floating-point number is. -/
inductive FloatForm where
  | notANumber
  | infinite (negative : Bool)
  | zero (negative : Bool)
  | finite (negative : Bool) (magnitude : Binary)
  deriving DecidableEq, Repr

/-- Takes a floating-point number apart by its bits. -/
def FloatForm.ofBits (bits : UInt64) : FloatForm :=
  let n := bits.toNat
  let negative := (1 <<< 63) ≤ n
  let exponent := (n >>> 52) % (1 <<< 11)
  let fraction := n % (1 <<< 52)
  if exponent = (1 <<< 11) - 1 then
    if fraction = 0 then .infinite negative else .notANumber
  else if exponent = 0 then
    if fraction = 0 then .zero negative else .finite negative ⟨fraction, 0⟩
  else .finite negative ⟨(1 <<< 52) + fraction, exponent - 1⟩

/-! ### The interval of numbers that round to one -/

namespace Binary

/-- A quarter of the unit in the last place, counted in units of `10 ^ -1076`. -/
def quarter (x : Binary) : Nat :=
  Nat.pow 5 1076 <<< x.exponent

/-- The number itself, counted in units of `10 ^ -1076`. -/
def scaled (x : Binary) : Nat :=
  4 * x.mantissa * x.quarter

/-- The lower end of the interval: half the way to the number below, which is nearer if the number
is a power of two. -/
def lower (x : Binary) : Nat :=
  x.scaled - (if x.mantissa = 1 <<< 52 then 1 else 2) * x.quarter

/-- The upper end of the interval: half the way to the number above. -/
def upper (x : Binary) : Nat :=
  x.scaled + 2 * x.quarter

/-- Whether a count of units rounds to the number. The ends do if the mantissa is even. -/
def roundsTo (x : Binary) (n : Nat) : Bool :=
  if x.mantissa % 2 = 0 then x.lower ≤ n && n ≤ x.upper else x.lower < n && n < x.upper

end Binary

/-! ### The search for the shortest form -/

/-- Decimal digits, first digit first, and the power of ten that the last of them counts. -/
structure Digits where
  digits : List Char
  exponent : Int
  deriving DecidableEq, Repr

/-- The form that counts `count` units of `10 ^ exponent`, without zeros at its end. -/
def Digits.ofCount (count : Nat) (exponent : Int) : Digits :=
  let all := (Nat.toDigits 10 count).reverse
  let kept := all.dropWhile (· == '0')
  ⟨kept.reverse, exponent + (all.length - kept.length : Nat)⟩

/-- The number of decimal places of the unit in which numbers are counted here. -/
def unitPlaces : Nat := 1076

/-- The multiple of `10 ^ dropped` units nearest to the number, if it reads back as the number. Of
the multiples below and above, where both read back, the nearer one is taken, and the one above if
they are equally near. -/
def nearestCount? (x : Binary) (dropped : Nat) : Option Nat :=
  let unit := Nat.pow 10 dropped
  let below := x.scaled / unit
  let fitsBelow := x.roundsTo (below * unit)
  let fitsAbove := x.roundsTo ((below + 1) * unit)
  let aboveIsNear := (below + 1) * unit - x.scaled ≤ x.scaled - below * unit
  if fitsAbove && (aboveIsNear || !fitsBelow) then some (below + 1)
  else if fitsBelow then some below
  else none

/-- The greatest number of digits that is needed. -/
def maxDigits : Nat := 17

def shortest (x : Binary) : Digits :=
  let places := (Nat.toDigits 10 x.scaled).length
  let found := (List.range maxDigits).findSome? fun i =>
    let dropped := places - (i + 1)
    (nearestCount? x dropped).map fun count => Digits.ofCount count ((dropped : Int) - unitPlaces)
  found.getD (.ofCount x.scaled (-(unitPlaces : Int)))

/-! ### Writing -/

namespace Digits

/-- Digits in positional notation: without a point if there are no decimal places, and with a zero
before the point if there is no digit there. -/
def positional (form : Digits) : String :=
  let places := form.exponent.natAbs
  if 0 ≤ form.exponent then String.ofList (form.digits ++ List.replicate places '0')
  else
    let padded := List.replicate (places + 1 - form.digits.length) '0' ++ form.digits
    String.ofList (padded.take (padded.length - places) ++ '.' ::
      padded.drop (padded.length - places))

/-- The power of ten that the first digit counts. -/
def leading (form : Digits) : Int :=
  form.exponent + form.digits.length - 1

/-- Digits with a point after the first and the power of ten that the first counts. -/
def exponential (form : Digits) : String :=
  let mantissa := match form.digits with
    | first :: [] => [first]
    | first :: rest => first :: '.' :: rest
    | [] => []
  String.ofList mantissa ++ "e" ++ toString form.leading

end Digits

/-- The sign before a number. -/
def signText (negative : Bool) : String :=
  if negative then "-" else ""

/-- A floating-point number in positional notation with the fewest digits: whole numbers have no
point, and no number has an exponent. -/
def floatText (x : Float) : String :=
  match FloatForm.ofBits x.toBits with
  | .notANumber => "NaN"
  | .infinite negative => signText negative ++ "inf"
  | .zero negative => signText negative ++ "0"
  | .finite negative magnitude => signText negative ++ (shortest magnitude).positional

/-- A floating-point number as it is shown for inspection: whole numbers have one decimal place,
and numbers from `10 ^ 16` on and below `10 ^ -4` have an exponent. -/
def floatInspection (x : Float) : String :=
  match FloatForm.ofBits x.toBits with
  | .notANumber => "NaN"
  | .infinite negative => signText negative ++ "inf"
  | .zero negative => signText negative ++ "0.0"
  | .finite negative magnitude =>
    let form := shortest magnitude
    signText negative ++
      if form.leading < -4 || 16 ≤ form.leading then form.exponential
      else if 0 ≤ form.exponent then form.positional ++ ".0"
      else form.positional

end TreeScript.Decimal
