import TreeScript.Unicode.CaseFolding
import TreeScript.Unicode.Property

/-!
Sets of characters, as a pattern describes them: ranges and properties, joined by the operations
on sets and closed under a change of case. `CharClass.mem` says which characters a class holds.
-/

namespace TreeScript.Regex

inductive CharClass where
  | empty
  /-- The characters from `first` to `last`, both included. -/
  | range (first last : Char)
  /-- The characters whose code points have a property, which makes up so many ranges. -/
  | having (property : Nat → Bool) (ranges : Nat)
  | union (left right : CharClass)
  | inter (left right : CharClass)
  | diff (left right : CharClass)
  | symmDiff (left right : CharClass)
  | compl (inner : CharClass)
  /-- The characters with a case variant in the class. -/
  | anyCase (inner : CharClass)
  /-- The characters that are in the class up to the case of the letters `a` to `z`. -/
  | anyAsciiCase (inner : CharClass)

namespace CharClass

def single (c : Char) : CharClass :=
  .range c c

def unions (classes : List CharClass) : CharClass :=
  classes.foldl .union .empty

def mem : CharClass → Char → Bool
  | empty, _ => false
  | range first last, c => first ≤ c && c ≤ last
  | having property _, c => property c.toNat
  | union left right, c => left.mem c || right.mem c
  | inter left right, c => left.mem c && right.mem c
  | diff left right, c => left.mem c && !right.mem c
  | symmDiff left right, c => left.mem c != right.mem c
  | compl inner, c => !inner.mem c
  | anyCase inner, c =>
    inner.mem c || (Unicode.caseVariants c.toNat).any fun code => inner.mem (Char.ofNat code)
  | anyAsciiCase inner, c => inner.mem c || inner.mem c.toLower || inner.mem c.toUpper

/-- An estimate of the memory in bytes that a matcher of bytes needs for a class: a range takes one
instruction for each byte of its characters, and more where it is cut at the bounds of the
encoding. -/
def cost : CharClass → Nat
  | empty => 32
  | range _ last => if last.toNat < 128 then 32 else 192
  | having _ ranges => 60 * ranges
  | union left right => left.cost + right.cost
  | inter left right => left.cost + right.cost
  | diff left right => left.cost + right.cost
  | symmDiff left right => left.cost + right.cost
  | compl inner => inner.cost + 480
  | anyCase inner => 2 * inner.cost
  | anyAsciiCase inner => 2 * inner.cost

end CharClass

end TreeScript.Regex
