/-!
The surface form of a pattern: what its text says before flags are applied. `Ast.height` measures
how deeply the parts of a pattern are nested.
-/

namespace TreeScript.Regex

/-! ### Why a text is no pattern -/

inductive PatternError where
  | unclosedGroup
  | unopenedGroup
  | unclosedClass
  | nothingToRepeat
  | badCount
  | emptyCountRange
  | badEscape
  | badCodePoint
  | backReference
  | lookAround
  | badGroupName
  | duplicateGroupName
  | badFlags
  | badClassRange
  | badClassMember
  | badWordBoundary
  | unknownProperty
  | unicodeOnly
  | notText
  | tooDeep
  | tooLarge
  deriving DecidableEq, Repr

namespace PatternError

def message : PatternError → String
  | unclosedGroup => "unclosed group"
  | unopenedGroup => "unopened group"
  | unclosedClass => "unclosed character class"
  | nothingToRepeat => "repetition operator missing expression"
  | badCount => "malformed repetition count"
  | emptyCountRange => "invalid repetition count range, the start must be at most the end"
  | badEscape => "unrecognized escape sequence"
  | badCodePoint => "not a Unicode scalar value"
  | backReference => "backreferences are not supported"
  | lookAround => "look-around is not supported"
  | badGroupName => "invalid capture group name"
  | duplicateGroupName => "duplicate capture group name"
  | badFlags => "malformed flags"
  | badClassRange => "invalid character class range"
  | badClassMember => "escape sequence not allowed in a character class"
  | badWordBoundary => "malformed word boundary"
  | unknownProperty => "Unicode property not found"
  | unicodeOnly => "Unicode not allowed here"
  | notText => "pattern can match text that is not Unicode"
  | tooDeep => "pattern is nested too deeply"
  | tooLarge => "compiled pattern exceeds the size limit"

end PatternError

/-! ### Flags -/

/-- A switch that a pattern can turn on or off. -/
inductive Flag where
  /-- Letters match in any case (`i`). -/
  | ignoreCase
  /-- The signs `^` and `$` match at every line (`m`). -/
  | multiLine
  /-- A dot matches a line break too (`s`). -/
  | dotAll
  /-- Repetitions are lazy unless marked greedy (`U`). -/
  | swapGreed
  /-- Classes and case follow Unicode (`u`). -/
  | unicode
  /-- Lines end with a carriage return, a line feed, or both (`R`). -/
  | crlf
  /-- Blanks and comments are skipped (`x`). -/
  | verbose
  deriving DecidableEq, Repr

def Flag.ofChar? : Char → Option Flag
  | 'i' => some .ignoreCase
  | 'm' => some .multiLine
  | 's' => some .dotAll
  | 'U' => some .swapGreed
  | 'u' => some .unicode
  | 'R' => some .crlf
  | 'x' => some .verbose
  | _ => none

/-- Flags with the state that they are switched to. -/
abbrev FlagChanges := List (Flag × Bool)

/-! ### Atoms -/

/-- A character of a pattern. `byteForm` marks one that is written as a byte, `\x` with two
digits. -/
structure Literal where
  char : Char
  byteForm : Bool
  deriving DecidableEq, Repr

/-- Where a word boundary is looked for. -/
inductive WordEdge where
  | boundary
  | noBoundary
  | start
  | stop
  | startHalf
  | stopHalf
  deriving DecidableEq, Repr

inductive Assertion where
  | lineStart
  | lineEnd
  | textStart
  | textEnd
  | word (edge : WordEdge)
  deriving DecidableEq, Repr

/-- The classes `\d`, `\s` and `\w`. -/
inductive ShortClass where
  | digit
  | space
  | word
  deriving DecidableEq, Repr

/-- What stands in `\p`: a letter or a name, or a property and its value. -/
inductive PropertyQuery where
  | name (text : String)
  | value (property value : String)
  deriving DecidableEq, Repr

/-- A part of a pattern that has no parts of its own. -/
inductive Atom where
  | literal (l : Literal)
  | dot
  | assertion (a : Assertion)
  | short (kind : ShortClass) (negated : Bool)
  | property (query : PropertyQuery) (negated : Bool)
  deriving DecidableEq, Repr

/-! ### Character classes in brackets -/

/-- The named classes that are written between colons inside brackets. -/
inductive PosixClass where
  | alnum
  | alpha
  | ascii
  | blank
  | cntrl
  | digit
  | graph
  | lower
  | print
  | punct
  | space
  | upper
  | word
  | xdigit
  deriving DecidableEq, Repr

def PosixClass.ofName? : String → Option PosixClass
  | "alnum" => some .alnum
  | "alpha" => some .alpha
  | "ascii" => some .ascii
  | "blank" => some .blank
  | "cntrl" => some .cntrl
  | "digit" => some .digit
  | "graph" => some .graph
  | "lower" => some .lower
  | "print" => some .print
  | "punct" => some .punct
  | "space" => some .space
  | "upper" => some .upper
  | "word" => some .word
  | "xdigit" => some .xdigit
  | _ => none

/-- The operators between the members of a class: `&&`, `--` and `~~`. -/
inductive ClassOperator where
  | inter
  | diff
  | symmDiff
  deriving DecidableEq, Repr

/-- The contents of brackets. -/
inductive ClassAst where
  | empty
  | literal (l : Literal)
  | range (first last : Literal)
  | posix (kind : PosixClass) (negated : Bool)
  | short (kind : ShortClass) (negated : Bool)
  | property (query : PropertyQuery) (negated : Bool)
  | bracket (negated : Bool) (inner : ClassAst)
  | union (members : List ClassAst)
  | combine (operator : ClassOperator) (left right : ClassAst)

mutual

/-- How deeply the contents of brackets are nested. -/
def ClassAst.height : ClassAst → Nat
  | .bracket _ inner => inner.height + 1
  | .union members => ClassAst.heights members + 1
  | .combine _ left right => max left.height right.height + 1
  | _ => 0

def ClassAst.heights : List ClassAst → Nat
  | [] => 0
  | member :: rest => max member.height (ClassAst.heights rest)

end

/-- The members of a class as one: a single member stands for itself. -/
def ClassAst.ofMembers : List ClassAst → ClassAst
  | [] => .empty
  | [member] => member
  | members => .union members

/-! ### Patterns -/

/-- A pattern as it is written. -/
inductive Ast where
  | empty
  /-- Flags that hold for the rest of the enclosing group. -/
  | flags (changes : FlagChanges)
  | atom (a : Atom)
  | bracket (negated : Bool) (inner : ClassAst)
  /-- At least `least` and, if there is a `most`, at most so many times the body. -/
  | repetition (body : Ast) (least : Nat) (most : Option Nat) (greedy : Bool)
  /-- A group and the flags that hold in it. -/
  | group (changes : FlagChanges) (body : Ast)
  | concatenation (parts : List Ast)
  | alternation (choices : List Ast)

mutual

/-- How deeply a pattern is nested. -/
def Ast.height : Ast → Nat
  | .empty => 0
  | .flags _ => 0
  | .atom _ => 0
  | .bracket _ inner => inner.height + 1
  | .repetition body _ _ _ => body.height + 1
  | .group _ body => body.height + 1
  | .concatenation parts => Ast.heights parts + 1
  | .alternation choices => Ast.heights choices + 1

def Ast.heights : List Ast → Nat
  | [] => 0
  | part :: rest => max part.height (Ast.heights rest)

end

/-- Patterns one after the other: a single one stands for itself. -/
def Ast.ofParts : List Ast → Ast
  | [] => .empty
  | [part] => part
  | parts => .concatenation parts

/-- Patterns to choose from: a single one stands for itself. -/
def Ast.ofChoices : List Ast → Ast
  | [] => .empty
  | [choice] => choice
  | choices => .alternation choices

end TreeScript.Regex
