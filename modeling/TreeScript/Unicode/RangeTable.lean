/-!
Tables of code points. A range table lists the code points of a property as ranges in increasing
order. It is written down compactly: each range is the distance from the end of the range before
it, followed, where the range holds more than one code point, by a plus sign and the number of
further code points. Both numbers are in base 36.
-/

namespace TreeScript.Unicode

/-! ### Numbers in base 36 -/

def digit36 (c : Char) : Nat :=
  if c.isDigit then c.toNat - '0'.toNat else c.toNat - 'a'.toNat + 10

def number36 (digits : List Char) : Nat :=
  digits.foldl (fun n c => 36 * n + digit36 c) 0

/-- The words of some lines of text, which are separated by single blanks. -/
def words (lines : List String) : List (List Char) :=
  lines.flatMap fun line => (line.splitOn " ").map String.toList

/-! ### Sorted search -/

/-- The least index from `lo` to `hi` at which `holds` is true, or `hi`; `holds` must not become
false again once it is true. -/
def leastIndex (holds : Nat → Bool) (lo hi : Nat) : Nat :=
  if h : lo < hi then
    let mid := (lo + hi) / 2
    if holds mid then leastIndex holds lo mid else leastIndex holds (mid + 1) hi
  else hi
termination_by hi - lo

/-! ### Range tables -/

/-- Ranges of code points, first and last included, in increasing order and apart. -/
structure RangeTable where
  ranges : Array (Nat × Nat)

namespace RangeTable

/-- Reads one written range; `next` is the code point after the range before. -/
def readRange (next : Nat) (word : List Char) : Nat × Nat :=
  let first := next + number36 (word.takeWhile (· != '+'))
  (first, first + number36 ((word.dropWhile (· != '+')).drop 1))

def ofLines (lines : List String) : RangeTable :=
  ⟨((words lines).foldl
    (fun (table, next) word =>
      let range := readRange next word
      (table.push range, range.2 + 1))
    (#[], 0)).1⟩

def contains (table : RangeTable) (code : Nat) : Bool :=
  let i := leastIndex (fun i => match table.ranges[i]? with
    | some range => code ≤ range.2
    | none => true) 0 table.ranges.size
  match table.ranges[i]? with
  | some range => range.1 ≤ code && code ≤ range.2
  | none => false

end RangeTable

end TreeScript.Unicode
