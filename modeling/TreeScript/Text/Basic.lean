import TreeScript.Text.Escape

/-!
Strings of the language. A string keeps its stored text; everything that depends on its content
(length, equality, operators, iteration) goes by its characters, the code points of the internal
text, so a computed string equals a literal that spells the same content.
-/

namespace TreeScript

/-- A string of the language, given by its stored text. -/
structure Text where
  raw : String
  deriving DecidableEq, Repr

namespace Text

def chars (text : Text) : List Char :=
  expand text.raw.toList

/-- The content of a string. -/
def internal (text : Text) : String :=
  String.ofList text.chars

/-- The string with some characters. -/
def ofChars (chars : List Char) : Text :=
  ⟨String.ofList (store chars)⟩

/-- The string that a literal with the given body denotes. -/
def ofLiteral (body : List Char) : Text :=
  ⟨String.ofList (unescape body)⟩

def singleton (c : Char) : Text :=
  ofChars [c]

/-- The number of characters. -/
def length (text : Text) : Nat :=
  text.chars.length

def isEmpty (text : Text) : Bool :=
  text.chars.isEmpty

def sameContent (left right : Text) : Bool :=
  left.chars == right.chars

/-- A string in double quotes, as people see it. -/
def quoted (text : Text) : String :=
  String.ofList (quote text.raw.toList)

/-! ### Operations -/

/-- One string after the other. -/
def append (left right : Text) : Text :=
  ofChars (left.chars ++ right.chars)

/-- The string without the occurrences of another, from left to right and apart from each other.
Removing the empty string removes nothing. -/
def remove (text piece : Text) : Text :=
  ofChars (if piece.chars.isEmpty then text.chars else replaceAll piece.chars [] text.chars)

/-- The number of bytes that the content takes in UTF-8. -/
def byteSize (text : Text) : Nat :=
  text.chars.foldl (fun size c => size + c.utf8Size) 0

/-- The greatest number of bytes of a repeated string. -/
def maxRepeatBytes : Nat := 1 <<< 30

/-- The number of values of a machine word. -/
def wordSize : Nat := 1 <<< 64

/-- The product of two sizes, if it fits in a machine word. -/
def checkedProduct? (left right : Nat) : Option Nat :=
  if left * right < wordSize then some (left * right) else none

/-- The string several times over, unless that is longer than `maxRepeatBytes` or its length does
not even fit in a word. -/
def repeat? (text : Text) (count : Nat) : Option Text :=
  match checkedProduct? text.byteSize count with
  | some size =>
    if size ≤ maxRepeatBytes then
      some (ofChars (if text.isEmpty then [] else (List.replicate count text.chars).flatten))
    else none
  | none => none

/-- The character at a position, as a string. -/
def get? (text : Text) (position : Nat) : Option Text :=
  text.chars[position]?.map singleton

/-- The string with the character at a position replaced by some characters. The position after
the last character stands for the end, where they are added. -/
def set? (text : Text) (position : Nat) (piece : List Char) : Option Text :=
  if position ≤ text.length then
    some (ofChars (text.chars.take position ++ piece ++ text.chars.drop (position + 1)))
  else none

/-- The string with some characters added at its end. -/
def push (text : Text) (piece : List Char) : Text :=
  ofChars (text.chars ++ piece)

end Text

end TreeScript
