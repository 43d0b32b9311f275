import TreeScript.Text.Bytes
import TreeScript.Text.Replace

/-!
Escape sequences in strings. The text of a string goes through three forms:

* the *body* of a literal, as it is written between its quotes;
* the *stored* text, after `unescape` has reduced line continuations and escaped quotes;
* the *internal* text, which `expand` makes of the stored text and which operators work on.

`store` goes back from internal to stored text, so that a computed text is not expanded twice, and
`quote` shows a stored text to people.
-/

namespace TreeScript.Text

/-! ### From the body of a literal to stored text -/

/-- Reduces the escapes of a literal. A backslash before a line break, which is a line feed or a
carriage return and a line feed, disappears with it; an escaped quote becomes the quote; a doubled
backslash is kept as it is, and so is every other sequence. -/
def unescape : List Char → List Char
  | [] => []
  | '\\' :: '\n' :: rest => unescape rest
  | '\\' :: '\r' :: '\n' :: rest => unescape rest
  | '\\' :: '"' :: rest => '"' :: unescape rest
  | '\\' :: '\'' :: rest => '\'' :: unescape rest
  | '\\' :: '\\' :: rest => '\\' :: '\\' :: unescape rest
  | c :: rest => c :: unescape rest

/-! ### From stored to internal text -/

/-- The two characters that stand for a line break. -/
def lineEscape : List Char := ['\\', 'n']

/-- The three characters that stand for the two characters of a line escape. -/
def escapedLineEscape : List Char := ['\\', '\\', 'n']

/-- Goes over the bytes of a text from a position on, given the byte before it, and puts out the
text with a line feed for every line escape that no backslash precedes. What stands from `start` on
was gone by and not put out yet; it is cut out of the text in one piece, and nothing comes of the
whole if a piece would begin or end inside a character. -/
def scanLines (text : List Char) : Option UInt8 → List UInt8 → (start position : Nat) →
    List Char → Option (List Char)
  | before, b :: c :: rest, start, position, out =>
    if b = '\\'.toUInt8 ∧ c = 'n'.toUInt8 ∧ before ≠ some '\\'.toUInt8 then do
      let piece ← slice? text start position
      scanLines text (some c) rest (position + 2) (position + 2) (out ++ piece ++ ['\n'])
    else scanLines text (some b) (c :: rest) start (position + 1) out
  | _, _, start, _, out => (behind? start text).map (out ++ ·)

/-- Both passes over a stored text: line escapes become line feeds, and then escaped line escapes,
if there are any, become line escapes. -/
def expandPasses? (stored : List Char) : Option (List Char) := do
  let broken ← scanLines stored none (utf8 stored) 0 0 []
  if occursIn escapedLineEscape broken then
    return replaceAll escapedLineEscape lineEscape broken
  else return broken

/-- The internal text of a stored text. A text without a backslash is its own. -/
def expand (stored : List Char) : List Char :=
  if stored.contains '\\' then (expandPasses? stored).getD [] else stored

/-! ### From internal to stored text -/

/-- The stored text of an internal text. -/
def store (internal : List Char) : List Char :=
  replaceAll lineEscape escapedLineEscape internal

/-! ### Text for people -/

def escapeQuotes (text : List Char) : List Char :=
  replaceAll ['"'] ['\\', '"'] text

/-- A stored text between double quotes, with its own double quotes escaped and its line escapes
expanded. -/
def quote (stored : List Char) : List Char :=
  '"' :: expand (escapeQuotes stored) ++ ['"']

end TreeScript.Text
