import TreeScript.Regex.Ast
import TreeScript.Regex.CharClass
import TreeScript.Unicode.Script

/-!
What a pattern means: an expression over character classes and conditions on places, in which flags
have been applied. `Ast.toExpr` gives the meaning of a pattern as it is written. Choices are
ordered: of two ways to match, the one that comes first is preferred.
-/

namespace TreeScript.Regex

/-! ### Places in a text -/

/-- How far the letters and digits of words go. -/
inductive WordChars where
  | ascii
  | unicode
  deriving DecidableEq, Repr

/-- A condition on a place in the text. -/
inductive Look where
  | textStart
  | textEnd
  | lineStart
  | lineEnd
  | crlfLineStart
  | crlfLineEnd
  | word (edge : WordEdge) (chars : WordChars)
  deriving DecidableEq, Repr

/-- Whether a character belongs to words. -/
def WordChars.holds : WordChars → Char → Bool
  | ascii, c => c.isAlphanum || c == '_'
  | unicode, c => Unicode.isWord c.toNat

/-- Whether an edge of a word lies between two places, given whether words reach to them. -/
def WordEdge.holds : WordEdge → Bool → Bool → Bool
  | boundary, before, after => before != after
  | noBoundary, before, after => before == after
  | start, before, after => !before && after
  | stop, before, after => before && !after
  | startHalf, before, _ => !before
  | stopHalf, _, after => !after

/-- Whether the condition holds between two characters, which are missing at the ends of the
text. -/
def Look.holds (before after : Option Char) : Look → Bool
  | textStart => before.isNone
  | textEnd => after.isNone
  | lineStart => before.all (· == '\n')
  | lineEnd => after.all (· == '\n')
  | crlfLineStart =>
    before.all (· == '\n') || (before == some '\r' && after != some '\n')
  | crlfLineEnd =>
    after.all (· == '\r') || (after == some '\n' && before != some '\r')
  | word edge chars => edge.holds (before.any chars.holds) (after.any chars.holds)

/-! ### Expressions -/

/-- A pattern with its flags applied. -/
inductive Expr where
  | empty
  | char (set : CharClass)
  | look (l : Look)
  | seq (first second : Expr)
  /-- The first expression or, only if that leads to no match, the second. -/
  | choice (first second : Expr)
  /-- At least `least` and, if there is a `most`, at most so many times the body; the more the
  better if it is greedy, the fewer the better if it is not. -/
  | repetition (body : Expr) (least : Nat) (most : Option Nat) (greedy : Bool)

namespace Expr

/-- Whether every match holds at least one character. -/
def isNonempty : Expr → Bool
  | empty => false
  | char _ => true
  | look _ => false
  | seq first second => first.isNonempty || second.isNonempty
  | choice first second => first.isNonempty && second.isNonempty
  | repetition body least _ _ => least != 0 && body.isNonempty

/-- Whether no match holds a character. -/
def isEmptyOnly : Expr → Bool
  | empty => true
  | char _ => false
  | look _ => true
  | seq first second => first.isEmptyOnly && second.isEmptyOnly
  | choice first second => first.isEmptyOnly && second.isEmptyOnly
  | repetition body _ most _ => most == some 0 || body.isEmptyOnly

/-- A repetition. Repeating what holds no character is the same as having it at most once. -/
def repeating (body : Expr) (least : Nat) (most : Option Nat) (greedy : Bool) : Expr :=
  let (least, most) :=
    if body.isEmptyOnly then (min least 1, some (min (most.getD 1) 1)) else (least, most)
  if least == 0 && most == some 0 then .empty
  else if least == 1 && most == some 1 then body
  else .repetition body least most greedy

end Expr

/-! ### Classes by name -/

/-- The name of a property as it is looked up: without case, blanks, hyphens, underscores and a
leading `is`. The one name that would lose its meaning keeps that start. -/
def propertyName (text : String) : String :=
  let chars := text.toList
  let start := (chars.take 2).map Char.toLower == ['i', 's']
  let rest := (if start then chars.drop 2 else chars).filter fun c =>
    c != ' ' && c != '_' && c != '-' && c.toNat < 128
  let name := String.ofList (rest.map Char.toLower)
  if start && name == "c" then "isc" else name

def categoryClass (categories : List Unicode.Category) : CharClass :=
  .having (Unicode.inCategories categories) (Unicode.categoryRanges categories)

/-- The class of a general category, or of a group of them. -/
def categoryClass? (name : String) : Option CharClass :=
  match name with
  | "any" => some (.compl .empty)
  | "assigned" => some (.compl (categoryClass [.unassigned]))
  | "ascii" => some (.range '\x00' '\x7f')
  | name => (Unicode.categoriesNamed? name).map categoryClass

def scriptClass? (name : String) : Option CharClass :=
  (Unicode.scriptNamed? name).map fun script =>
    let table := script.table
    .having table.contains table.ranges.size

/-- The class of the characters that are used in a script. -/
def scriptExtensionClass? (name : String) : Option CharClass :=
  (Unicode.scriptNamed? name).map fun script =>
    let table := script.table
    .having (Unicode.usedIn script.names table) table.ranges.size

/-- A typical number of ranges of a property. -/
def propertyRanges : Nat := 256

def propertyClass? (name : String) : Option CharClass :=
  (Unicode.propertyNamed? name).map fun property => .having property propertyRanges

/-- Names that mean a general category although a property has the same short name. -/
def categoryOnlyNames : List String := ["cf", "sc", "lc"]

def PropertyQuery.toClass : PropertyQuery → Except PatternError CharClass
  | .name text =>
    let name := propertyName text
    let property := if categoryOnlyNames.contains name then none
      else propertyClass? name
    match property <|> categoryClass? name <|> scriptClass? name with
    | some set => .ok set
    | none => .error .unknownProperty
  | .value key text =>
    let set := match propertyName key with
      | "generalcategory" | "gc" => categoryClass? (propertyName text)
      | "script" | "sc" => scriptClass? (propertyName text)
      | "scriptextensions" | "scx" => scriptExtensionClass? (propertyName text)
      | _ => none
    match set with
    | some set => .ok set
    | none => .error .unknownProperty

/-- The characters of a named class, all of them ASCII. -/
def PosixClass.toClass : PosixClass → CharClass
  | alnum => .unions [.range '0' '9', .range 'A' 'Z', .range 'a' 'z']
  | alpha => .unions [.range 'A' 'Z', .range 'a' 'z']
  | ascii => .range '\x00' '\x7f'
  | blank => .unions [.single '\t', .single ' ']
  | cntrl => .unions [.range '\x00' '\x1f', .single '\x7f']
  | digit => .range '0' '9'
  | graph => .range '!' '~'
  | lower => .range 'a' 'z'
  | print => .range ' ' '~'
  | punct =>
    .unions [.range '!' '/', .range ':' '@', .range '[' (Char.ofNat 96), .range '\x7b' '~']
  | space => .unions [.range '\t' '\r', .single ' ']
  | upper => .range 'A' 'Z'
  | word => .unions [.range '0' '9', .range 'A' 'Z', .single '_', .range 'a' 'z']
  | xdigit => .unions [.range '0' '9', .range 'A' 'F', .range 'a' 'f']

/-- The number of ranges that the characters of words make up. -/
def wordRanges : Nat := 771

def ShortClass.toClass (kind : ShortClass) (unicode : Bool) : CharClass :=
  if unicode then
    match kind with
    | digit => categoryClass [.decimalNumber]
    | space => .having Unicode.isSpace Unicode.whiteSpace.ranges.size
    | word => .having Unicode.isWord wordRanges
  else
    match kind with
    | digit => PosixClass.digit.toClass
    | space => PosixClass.space.toClass
    | word => PosixClass.word.toClass

/-! ### Flags in force -/

/-- The flags in force at a place of the pattern. -/
structure Flags where
  ignoreCase : Bool := false
  multiLine : Bool := false
  dotAll : Bool := false
  swapGreed : Bool := false
  unicode : Bool := true
  crlf : Bool := false
  deriving DecidableEq, Repr

namespace Flags

def switch (flags : Flags) (change : Flag × Bool) : Flags :=
  match change.1 with
  | .ignoreCase => { flags with ignoreCase := change.2 }
  | .multiLine => { flags with multiLine := change.2 }
  | .dotAll => { flags with dotAll := change.2 }
  | .swapGreed => { flags with swapGreed := change.2 }
  | .unicode => { flags with unicode := change.2 }
  | .crlf => { flags with crlf := change.2 }
  | .verbose => flags

def switchAll (flags : Flags) (changes : FlagChanges) : Flags :=
  changes.foldl switch flags

/-- Closes a class under a change of case if case is ignored. -/
def closeCase (flags : Flags) (set : CharClass) : CharClass :=
  if flags.ignoreCase then if flags.unicode then .anyCase set else .anyAsciiCase set else set

/-- Closes a class under a change of case and then negates it. A negated class of bytes would hold
bytes that are no text. -/
def finish (flags : Flags) (negated : Bool) (set : CharClass) : Except PatternError CharClass :=
  if negated then
    if flags.unicode then .ok (.compl (flags.closeCase set)) else .error .notText
  else .ok (flags.closeCase set)

/-- The character of a literal. A byte beyond ASCII is no text by itself. -/
def literal (flags : Flags) (l : Literal) : Except PatternError Char :=
  if !flags.unicode && l.byteForm && 127 < l.char.toNat then .error .notText else .ok l.char

/-- The character of a literal in a class, which must be ASCII in a class of bytes. -/
def classLiteral (flags : Flags) (l : Literal) : Except PatternError Char := do
  let c ← flags.literal l
  if !flags.unicode && 127 < c.toNat then .error .unicodeOnly else .ok c

/-- The class of `\d`, `\s` or `\w`, negated or not; ignoring case does not change it. -/
def short (flags : Flags) (kind : ShortClass) (negated : Bool) : Except PatternError CharClass :=
  let set := kind.toClass flags.unicode
  if negated then if flags.unicode then .ok (.compl set) else .error .notText else .ok set

def property (flags : Flags) (query : PropertyQuery) (negated : Bool) :
    Except PatternError CharClass :=
  if flags.unicode then do flags.finish negated (← query.toClass) else .error .unicodeOnly

def look (flags : Flags) : Assertion → Look
  | .lineStart =>
    if flags.multiLine then if flags.crlf then .crlfLineStart else .lineStart else .textStart
  | .lineEnd => if flags.multiLine then if flags.crlf then .crlfLineEnd else .lineEnd else .textEnd
  | .textStart => .textStart
  | .textEnd => .textEnd
  | .word edge => .word edge (if flags.unicode then .unicode else .ascii)

def dot (flags : Flags) : Except PatternError CharClass :=
  if !flags.unicode then .error .notText
  else if flags.dotAll then .ok (.compl .empty)
  else if flags.crlf then .ok (.compl (.union (.single '\r') (.single '\n')))
  else .ok (.compl (.single '\n'))

end Flags

/-! ### The meaning of a written pattern -/

def ClassOperator.apply : ClassOperator → CharClass → CharClass → CharClass
  | inter => .inter
  | diff => .diff
  | symmDiff => .symmDiff

mutual

def ClassAst.toClass (flags : Flags) : ClassAst → Except PatternError CharClass
  | .empty => .ok .empty
  | .literal l => do return .single (← flags.classLiteral l)
  | .range first last => do
    return .range (← flags.classLiteral first) (← flags.classLiteral last)
  | .posix kind negated => flags.finish negated kind.toClass
  | .short kind negated => flags.short kind negated
  | .property query negated => flags.property query negated
  | .bracket negated inner => do flags.finish negated (← inner.toClass flags)
  | .union members => ClassAst.toClasses flags members
  | .combine operator left right => do
    let left ← left.toClass flags
    let right ← right.toClass flags
    return operator.apply (flags.closeCase left) (flags.closeCase right)

def ClassAst.toClasses (flags : Flags) : List ClassAst → Except PatternError CharClass
  | [] => .ok .empty
  | member :: rest => do return .union (← member.toClass flags) (← ClassAst.toClasses flags rest)

end

def Atom.toExpr (flags : Flags) : Atom → Except PatternError Expr
  | .literal l => do return .char (flags.closeCase (.single (← flags.literal l)))
  | .dot => do return .char (← flags.dot)
  | .assertion a => .ok (.look (flags.look a))
  | .short kind negated => do return .char (← flags.short kind negated)
  | .property query negated => do return .char (← flags.property query negated)

mutual

/-- The meaning of a pattern under the flags in force before it, and the flags after it. -/
def Ast.toExpr (flags : Flags) : Ast → Except PatternError (Expr × Flags)
  | .empty => .ok (.empty, flags)
  | .flags changes => .ok (.empty, flags.switchAll changes)
  | .atom a => do return (← a.toExpr flags, flags)
  | .bracket negated inner => do
    return (.char (← flags.finish negated (← inner.toClass flags)), flags)
  | .repetition body least most greedy => do
    let (expr, after) ← body.toExpr flags
    return (expr.repeating least most (greedy != after.swapGreed), after)
  | .group changes body => do
    let (expr, _) ← body.toExpr (flags.switchAll changes)
    return (expr, flags)
  | .concatenation parts => Ast.toSeq flags parts
  | .alternation choices => Ast.toChoice flags choices

def Ast.toSeq (flags : Flags) : List Ast → Except PatternError (Expr × Flags)
  | [] => .ok (.empty, flags)
  | part :: rest => do
    let (first, flags) ← part.toExpr flags
    let (second, flags) ← Ast.toSeq flags rest
    return (.seq first second, flags)

/-- The meaning of patterns to choose from, of which there is at least one. -/
def Ast.toChoice (flags : Flags) : List Ast → Except PatternError (Expr × Flags)
  | [] => .ok (.empty, flags)
  | [choice] => choice.toExpr flags
  | choice :: rest => do
    let (first, flags) ← choice.toExpr flags
    let (second, flags) ← Ast.toChoice flags rest
    return (.choice first second, flags)

end

end TreeScript.Regex
