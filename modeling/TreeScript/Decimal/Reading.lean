/-!
Reading numerals. An integer is a sign, if any, and decimal digits; a floating-point number may
also have a point among its digits and an exponent, or be one of the words for infinity and for no
number. The nearest floating-point number is taken; the exponent may be as large as it likes.
-/

namespace TreeScript.Decimal

/-! ### Parts of a numeral -/

/-- Whether a sign at the start is negative, and what follows it. -/
def splitSign : List Char → Bool × List Char
  | '-' :: rest => (true, rest)
  | '+' :: rest => (false, rest)
  | rest => (false, rest)

/-- The digits at the start, and what follows them. -/
def splitDigits (text : List Char) : List Char × List Char :=
  (text.takeWhile Char.isDigit, text.dropWhile Char.isDigit)

def value (digits : List Char) : Nat :=
  digits.foldl (fun n c => 10 * n + (c.toNat - '0'.toNat)) 0

def signed (negative : Bool) (n : Nat) : Int :=
  if negative then -n else n

/-! ### Integers -/

/-- The 64-bit integer with a value, if there is one. -/
def int64? (n : Int) : Option Int64 :=
  if Int64.minValue.toInt ≤ n ∧ n ≤ Int64.maxValue.toInt then some (Int64.ofInt n) else none

def readInt? (text : List Char) : Option Int64 :=
  let (negative, rest) := splitSign text
  let (digits, rest) := splitDigits rest
  if digits.isEmpty || !rest.isEmpty then none else int64? (signed negative (value digits))

/-! ### Floating-point numbers -/

/-- A decimal number: its value is `digits` times ten to the power `exponent`. -/
structure Scientific where
  negative : Bool
  digits : Nat
  exponent : Int
  deriving DecidableEq, Repr

def readExponent? (text : List Char) : Option Int :=
  let (negative, rest) := splitSign text
  let (digits, rest) := splitDigits rest
  if digits.isEmpty || !rest.isEmpty then none else some (signed negative (value digits))

/-- Reads a decimal number: digits with a point before, among or after them, or without one, and
then an exponent, if any. -/
def readScientific? (text : List Char) : Option Scientific :=
  let (negative, rest) := splitSign text
  let (whole, rest) := splitDigits rest
  let (fraction, rest) := match rest with
    | '.' :: rest => splitDigits rest
    | rest => ([], rest)
  let exponent? := match rest with
    | [] => some 0
    | c :: rest => if c == 'e' || c == 'E' then readExponent? rest else none
  if whole.isEmpty && fraction.isEmpty then none
  else exponent?.map fun exponent =>
    ⟨negative, value (whole ++ fraction), exponent - fraction.length⟩

def infinity : Float := 1.0 / 0.0

def notANumber : Float := 0.0 / 0.0

/-- The floating-point number nearest to a decimal number without its sign. Numbers of more than
400 places before the point are infinite, and numbers below the four-hundredth place after it are
zero, so no power of ten beyond these is computed. -/
def magnitude (digits : Nat) (exponent : Int) : Float :=
  let places := (Nat.toDigits 10 digits).length + exponent
  if digits = 0 ∨ places < -400 then 0.0
  else if 400 < places then infinity
  else if exponent < 0 then Float.ofScientific digits true exponent.natAbs
  else Float.ofScientific digits false exponent.natAbs

def withSign (negative : Bool) (x : Float) : Float :=
  if negative then -x else x

def Scientific.toFloat (number : Scientific) : Float :=
  withSign number.negative (magnitude number.digits number.exponent)

/-- Reads a word for a number that has no digits. -/
def readSpecial? (text : List Char) : Option Float :=
  let (negative, rest) := splitSign text
  match String.ofList (rest.map Char.toLower) with
  | "inf" | "infinity" => some (withSign negative infinity)
  | "nan" => some (withSign negative notANumber)
  | _ => none

def readFloat? (text : List Char) : Option Float :=
  (readScientific? text).map Scientific.toFloat <|> readSpecial? text

end TreeScript.Decimal
