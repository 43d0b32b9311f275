import TreeScript.Unicode.Category

/-!
Yes-or-no properties of code points. Most of the large ones are some general categories and a table
of further code points; the others are plain tables. `\w` stands for `isWord`, `\d` for the
decimal numbers and `\s` for `isSpace`.
-/

namespace TreeScript.Unicode

def inCategories (categories : List Category) (code : Nat) : Bool :=
  categories.contains (category code)

/-- The five categories of letters. -/
def letterCategories : List Category :=
  [.uppercaseLetter, .lowercaseLetter, .titlecaseLetter, .modifierLetter, .otherLetter]

/-! ### Properties that extend categories -/

/-- The alphabetic code points that are neither letters nor letter numbers. -/
def otherAlphabetic : RangeTable :=
  .ofLines
    ["n9 h6+d 1 1+1 1+1 1 20+a 1c+c 1+6 g 2t+6 4+3 2+1 4 z u+f 2u+a 2t+1 3+8 1+2 1+3 4n+b",
     "3+6 6+j 1i+1 2+e 1+1 5+2 a+1 t+2 1m+6 2+1 2+1 a a+1 t+2 1m+4 4+1 2+1 4 u+1 3 b+2",
     "1m+7 1+2 1+1 l+1 m+2 4+2 1m+6 2+1 2+1 9+1 a+1 u 1n+4 3+2 1+2 a 14+4 1l+6 1+2 1+2 8+1",
     "b+1 t+2 1m+6 1+2 1+2 8+1 b+1 f c+3 1m+6 1+2 1+2 a a+1 t+2 23+5 1 1+7 i+1 1p 2+6 i 2r",
     "2+5 1+1 g 4j+i 9+a 1+z 32+b 1 2+3 n+3 4+2 1+2 2+6 3+3 d+b 1 a+3 19w+1 u+1 u+1 u+1",
     "1u+i 58+1 y 3a+b 4+8 66+4 1l+9 2+j 22+1 b+2 1d+4 1c+e 1o+2 u+8 2+1 1l+a 1e+i c0+d",
     "1c1+1f 1rq+v nsk+7 y+1 9u 8 n+4 2g+1 1e+f 1 1l 12+4 s+b 19+3 1c+b 11 1v+d c 8+1 19+2",
     "1e 1+2 2+1 5 18+4 5 6l+7 fn7 1nb+4 1ae+2 1+1 5+3 lw+3 ar+1 9f+2 1h+d 19+1 b+2 19+8 9",
     "1p+2 10+b i+1 1l+2 1c+c e+1 2k+8 2 6 2 4d+9 n+3 1m+6 2+1 2+1 a a+1 5t+c 1+2 2y+h",
     "6l+6 2+6 t+1 2a+e 1 2y+a 2v+d 75+c 6v+5 1+1 2+1 3 1 3y+6 2+5 4 s+9 16+4 1+3 i+a 1a+d",
     "bb+7 1+6 2b+l 1+d 3e+5 3 1+1 1+2 1 3 1u+4 1+1 1+3 9o+3 9+1 1 1c+6 3+2 fta 1+1i 7+3",
     "2l+1 f58 6zl+6 1+g 2+6 1+1 1+4 2s 1pz 1k8+p 6+p 6+p"]

/-- The lowercase code points that are not lowercase letters. -/
def otherLowercase : RangeTable :=
  .ofLines
    ["4q f dx+8 7+1 u+4 2o 1g 2o1 2en+1q d y+10 j5 d g+c 5v+f nk+p 1hu+1 o4e+1 5u 3l+2 3+1",
     "o2+3 9 i6u 2+2 1+15 1+8 16r9+1p"]

/-- The uppercase code points that are not uppercase letters. -/
def otherUppercase : RangeTable :=
  .ofLines
    ["6lc+f na+p 2ixs+p 6+p 6+p"]

/-- The mathematical code points that are not mathematical symbols. -/
def otherMath : RangeTable :=
  .ofLines
    ["2m oh+2 2 q+1 2+1 5k0 r+2 b w+3 o+1 e+1 1t+c 4 3+1 4+4 i 4 2+9 1 3+4 6 3+1 2+1 1+2",
     "1+5 3+3 5+4 23+4 2+3 1+1 1+1 1 1+4 2+1 4+1 4+h 2+1 1 1+6 1 6+1 82+3 4o+1 1 o h cd+1",
     "c+8 5+4 5+1 2+1 3+4 e 1 2+5 o+1 1l 1 t+3 9+1 9i+1 v+9 b7+l 1r+3 w+1 15yb 1 4 5v 1",
     "160x+2c 1+1y 1+1 2 2+1 2+3 1+b 1 1+6 1+1s 1+3 2+7 1+6 1+r 1+3 1+4 1 3+6 1+9f 2+o 1+o",
     "1+u 1+o 1+u 1+o 1+u 1+o 1+u 1+o 1+7 2+1d 4cg+3 1+q 1+1 1 2 1+9 1+3 1 1 6 4 1 1 1+2",
     "1+1 1 2 1 1 1 1 1+1 1 2+3 1+6 1+3 1+3 1 1+9 1+g 5+2 1+4 1+g"]

/-- The code points that extend a grapheme without being nonspacing or enclosing marks. -/
def otherGraphemeExtend : RangeTable :=
  .ofLines
    ["1xa o 9y o 2u o 6i i+1 2v o 3b f 2mt ye 36p+1 14z2+1 3vi o 9k c 6p ow 10dw 8+4",
     "h419+2n"]

/-- The code points that start an identifier without being letters or letter numbers. -/
def otherIdentifierStart : RangeTable :=
  .ofLines
    ["4ud+1 1ox l 31o+1"]

/-- The further code points that continue an identifier. -/
def otherIdentifierPart : RangeTable :=
  .ofLines
    ["53 jz 34x+8 19k"]

def otherDash : RangeTable :=
  .ofLines
    ["6dv 13 f au"]

/-- The code points that start an identifier, but not after a compatibility normalisation. -/
def closedStartExceptions : RangeTable :=
  .ofLines
    ["oq 248 3j 6p3+1 148x+5 ba+1 38 1 1 1 1 1 1 1 7z+1"]

/-- The code points that continue an identifier, but not after a compatibility normalisation. -/
def closedPartExceptions : RangeTable :=
  .ofLines
    ["oq 8ww+1 148x+5 ba+1 38 1 1 1 1 1 1 1"]

/-- Letters, letter numbers and what else is written like letters. -/
def isAlphabetic (code : Nat) : Bool :=
  inCategories (.letterNumber :: letterCategories) code || otherAlphabetic.contains code

/-- Lowercase letters and what else looks lowercase. -/
def isLowercase (code : Nat) : Bool :=
  inCategories [.lowercaseLetter] code || otherLowercase.contains code

/-- Uppercase letters and what else looks uppercase. -/
def isUppercase (code : Nat) : Bool :=
  inCategories [.uppercaseLetter] code || otherUppercase.contains code

/-- Whatever is lowercase, uppercase or titlecase. -/
def isCased (code : Nat) : Bool :=
  isLowercase code || isUppercase code || inCategories [.titlecaseLetter] code

def isMath (code : Nat) : Bool :=
  inCategories [.mathSymbol] code || otherMath.contains code

def isDash (code : Nat) : Bool :=
  inCategories [.dashPunctuation] code || otherDash.contains code

/-- Code points that join the character before them. -/
def isGraphemeExtend (code : Nat) : Bool :=
  inCategories [.nonspacingMark, .enclosingMark] code || otherGraphemeExtend.contains code

/-- Code points that a grapheme can be built on. -/
def isGraphemeBase (code : Nat) : Bool :=
  !inCategories [.control, .format, .surrogate, .privateUse, .unassigned, .lineSeparator,
    .paragraphSeparator] code && !isGraphemeExtend code

/-- Code points that start an identifier; one letter is reserved for patterns. -/
def isIdentifierStart (code : Nat) : Bool :=
  (inCategories (.letterNumber :: letterCategories) code || otherIdentifierStart.contains code) &&
    code != 0x2e2f

/-- Code points that continue an identifier. -/
def isIdentifierPart (code : Nat) : Bool :=
  isIdentifierStart code ||
    inCategories [.nonspacingMark, .spacingMark, .decimalNumber, .connectorPunctuation] code ||
    otherIdentifierPart.contains code

/-! ### Properties given by tables -/

def asciiHexDigit : RangeTable :=
  .ofLines
    ["1c+9 7+5 q+5"]

def bidiControl : RangeTable :=
  .ofLines
    ["17g 54h+1 q+4 1j+3"]

def bidiMirrored : RangeTable :=
  .ofLines
    ["14+1 i 1 s 1 t 1 19 f 2v2+3 1gd+1 1wc+1 a+1 1i+1 e+1 4x 5c+3 3+5 3 3+1 3+3 1+3 1 1",
     "4+8 5 1+h 5+3 9+1 1 1+7 2+u 2+3 5 9+1 2+i 5+1 9+4 2+1 4+n 2+f 8+3 k+1 7+1 u5+d 22",
     "2+3 1+1 1+2 5+3 5+2 3+d b7+l 2+5 1+d 8 7+5 3 4+4 1+1 2+4 4 1+2 2+1 a+5 2+1 c+i 1+3 2",
     "1 2 1+3 5+1 6+2 o+1 b+1 4+3 1+1 2+1 4+16 2+7 1+13 5 1 3+4 5+2 4 3+4 1 74 eb+3 3+1",
     "1+1 e+1 2+9 17+7 bv+9 2+7 14ql+5 5+1 4i+1 i 1 s 1 t 1 1+1 1+1 16k7 1l 1l 1l 1l"]

def caseIgnorable : RangeTable :=
  .ofLines
    ["13 6 b z 1 1z 4 1 4 2+1 dz+5b 4+1 4 9+1 1 6z+6 5r 5 1d+18 1 1+1 1+1 1 18 b+5 a+a 1 z",
     "a+k g 2t+7 1+9 1+3 x 1 u+q 2j+a 1m+a 4 2 o+n 17+2 18 7+1 6+7 15+1l 1j 1 4+7 4 3+6",
     "a+1 d f 1m 4+3 8 k+1 q 2+1 1l 4+1 4+1 2+2 3 u+1 3 b+1 1l 4+4 1+1 4 k+1 m+5 1 1m 2",
     "1+3 8 7+1 b+1 u 1p c 1e 3 1j 1+2 5+2 1+3 7+1 b+1 t 1m 2 6 5+1 k+1 s+1 1l+1 4+3 8 k+1",
     "t 20 7+2 1 2i 2+6 b+8 2q 2+8 9 1+6 21+1 r 1 1 1j+d 1+4 1+1 5+a 1+z 9 2u+3 1+5 1+1",
     "2+1 p+1 4+2 g+3 d 2+1 6 f 2m gw+2 qa+2 t+1 u+1 u+1 1s+1 1+6 8 2+a 3 5 19+4 1f 1t+1 y",
     "3a+2 4+1 9 6+2 63+1 2 1m 1+6 1 1 2+7 6+9 2 13 8+u 1d+3 1c 1+4 1 5 14+8 c+1 w+3 2+1",
     "1+2 1k 1+1 3 1+2 1m+7 2+1 1s+5 2a+2 1+c 1+6 4 6 3+1 1e+1q d y+2s cd 1+2 b+2 d+2 d+2",
     "d+1 c+4 8+1 a 2 2+4 1d+4 1+9 1 d g+c 1f+w 2a3+1 35+2 3h f 2o+v 1b d1 10+3 3+4 5 2l+5",
     "2l+2 lxy yq+5 7i 2q+3 1+9 1 s+3 28+1 e+x 26 n+2 2v+2 3+1 8 3 4 p+1 5 47+1 q+h d 12+7",
     "p+a 1a+2 1c 2+3 2+1 h l+1 1u+5 2+1 2+1 c 8 z b 1f 1+2 2+1 5+1 1 r e+1 5+1 1 2s+4 9+2",
     "3d 2 4 fn4 43+g fx+f 3 c+f y 2 4p 7 6 b z 1 1b 19+1 1v l+2 e9 6a 45+4 sl+5 1+15 1+8",
     "g6+2 1+1 5+3 14+2 4 4l+1 fx+3 ar+1 28+2 1y+a 1d+3 3f 1i+e 15 2+1 a+2 1d+3 2+1 2 4 a",
     "1e+2 10+4 1+7 1q c+1 1g+8 a+3 2 2n+2 2 1+1 6 2 4d 3+7 l+1 1l+1 3 11+6 3+4 5f+7 2+2 1",
     "n 2c+5 1 4+1 1+1 6m+3 6+1 1+1 r+1 2d+7 2 1+1 2y 1 2+5 1 2t+2 2+3 1+4 77+8 1+1 74+1 1",
     "4 40+3 2+1 4 w+9 14+5 2+3 8 9+5 2+2 1a+c 1+1 ba+6 1+5 1 2a+l 2+6 1+1 1+1 3e+5 3 1+1",
     "1+6 1 20+1 3 1 9n+1 b+1 1g+4 5 1 44t+g 6+e asa+4 1n+6 9+3 sr 1r+g 1s+1 1+1 cnf+3 1+6",
     "1+1 2hq+1 1+3 3mk+19 2+m f4+2 9+f 2+6 u+3 44+2 1iz+1i 4+1d 8 e m+4 1+e 11s+6 1+g 2+6",
     "1+1 1+4 5+1p x 4g+d a8 1p+3 e3+4 rk+6 31+7 23z+4 gx6p u+2n 3k+6n"]

def defaultIgnorable : RangeTable :=
  .ofLines
    ["4t ip jw 282+1 18z+1 2d+4 1kr+4 q+4 1d+f 3ck 14ez+f 6n 4g 27+8 119j+3 43z+7 h405+35r"]

def deprecated : RangeTable :=
  .ofLines
    ["95 10p 1s3 1 1m1+1 1qd+5 jd+1 jh06"]

def diacritic : RangeTable :=
  .ofLines
    ["2m 1 1z 6 4 2+1 dz+4e 1+7 5+5 h+1 4 9+1 71+4 5t 1j+g 1+q 1 1+1 1 3q+7 4+1 3q+1 4+1",
     "3+2 1v+q 2j+a 1m+a y+1 3i+7 15+9 g+r 1p g 3+3 s 22 g 32 g 32 g 1b+2 1o g 7 3b 32 g",
     "32 g 31+1 g 3g 3g+5 1 2z d+4 23+1 r 1 1 4+1 1u+2 1+1 1q 34 1+1 14+1 4+4 p+6 1 a+1",
     "jl+2 qc+1 4z+a 9 9n+2 8p+7 2 1c+e 2+a 2w f 12+8 1i+1 3u+1 1s+5 2a+o 4 6 2+2 1e+1q",
     "2h+b 11+a cd 1+2 b+2 d+2 d+2 d+1 2k0+2 8t e2+5 2x+3 2n n76 c+1 1 s+1 2a+1 e+x 2u+2",
     "31+1 5m r+h 1l+3 10 2n c 10 45+2 1t+3 1f 2s+4 9+2 3k+1 fn4 ld+f 7i 1 1b 19+1 1v l8",
     "wv+5 1+15 1+8 mi+1 fv+5 d1+2 1y+a 1d+3 5c 15 20+1 3c+1 1q 24 9+2 2w+1 4y+1 29 g o+6",
     "3+4 5p 3 3f+1 6z+1 3i 3a+1 37 7h+1 76+1 4 4c 2b i 29 bp 76 1+1 29 4hb+e asa+4 1n+6",
     "uw+g 28+1 cn2+3 1+6 1+1 64h+19 2+m f4+2 3+5 8+7 2+6 u+3 2v6+1p 5e+6 af 1p+3 15s+6",
     "31+2 1+2"]

def emoji : RangeTable :=
  .ofLines
    ["z 6 5+9 33 4 68d c 60 m 2i+5 f+1 a7+1 c 4m p+a 4+2 5j 6f+1 a 9 1m+3 1+4 9 2 2+1 2 4",
     "2 1+1 2 3 3+1 8+2 5 1 5+b b+1 2 1+1 1 i 2+1 i+5 1 1+1 3+1 5 2+1 4+1 b+1 5+1 2 5+1 1",
     "1+1 k+1 5+5 1+3 2 4 2 2+5 1 2 1 1 6 3 6 a+1 f 2 4 1 4+2 1 b+1 1c+2 9 e e ac+1 cv+2",
     "j+1 1f 4 yi c gp 1 2fze 5m 4g+1 c+1 e 2+9 23+p 1+1 n k 2+8 l+1 4u+x 2+33 2+1 1+2",
     "2+2a 2+2 1+7a 1+1q b+5 1+n 7+1 2+7 c 2+3 2 4+1 d+1 2 8+1 9 5+2 c+2 8+2 2 1 4 6 3",
     "6+2d 1c+1x 5+7 2+2 4+9 3 1+1 3 2+9 6b+b 4 7v+1a 1+9 1+54 34+c 3+8 7+19 1+6 8+d 4+8",
     "7+8"]

def emojiComponent : RangeTable :=
  .ofLines
    ["z 6 5+9 6ab 5x 17or 1c5y+p e3+4 14g+3 gw30+2n"]

def emojiModifier : RangeTable :=
  .ofLines
    ["2qrf+4"]

def emojiModifierBase : RangeTable :=
  .ofLines
    ["7j1 63 g+3 2iyf 1o+2 2 2+2 39+1 2+a l+i 3 4+2 1+2 7 1 o 5l+1 4 l 4+1 4u+2 3+4 2b g+2",
     "9 b fz 2 8+7 6 9+9 2+2 1k 1p+1 1+1 1 h+2 1+c 6d+2 16+8"]

def emojiPresentation : RangeTable :=
  .ofLines
    ["6xm+1 5p+3 3 2 eh+1 l+1 1e+b 17 j d 8+1 h+1 5+1 8 5 l 7+1 1 4 2 7 4+1 s z 1 4+2 1",
     "1p+2 o e nv+1 1f 4 2hf2 5m 5a 2+9 23+p 1 o k 2+4 1+2 l+1 4u+w c+8 1+1x 1+l c+16 4+4",
     "c+g 3 3+1y 1 1+56 2+1q d+3 1+n i q+1 d 2e+2c 1c+1x 6 3+2 2+2 4+3 b+1 7+8 6b+b 4",
     "7v+1a 1+9 1+54 34+c 3+8 7+19 1+6 8+d 4+8 7+8"]

def extendedPictographic : RangeTable :=
  .ofLines
    ["4p 4 68d c 60 m 2i+5 f+1 a7+1 c 2n 1y p+a 4+2 5j 6f+1 a 9 1m+3 1+5 1+b 1+35 a+39 2+a",
     "1 1 6 3 6 a+1 f 2 4 1 4+2 1 b+4 19+2 9 e e ac+1 cv+2 j+1 1f 4 yi c gp 1 2fza+73 d+2",
     "v 1o+5 c+1 e 2+9 i+1k r+e a k 2+8 1+3 9+c1 5+8t 8+7d 1c+3j 38+b 2d+16 c+3 1k+7 a+5",
     "14+7 u+29 c+1a 1+9 1+c8 74+sd"]

def extender : RangeTable :=
  .ofLines
    ["53 ew+1 oe c9 nu kw 3j 1tv 1k gz b2 1w 3ux 17+4 2v+1 2l+2 lxy 16e qq m 3t 30 l+1 gor",
     "1lc+1 2ca h4+2 y7 fxl+1 ws+1 1 me0+1 1l2+2"]

def hexDigit : RangeTable :=
  .ofLines
    ["1c+9 7+5 q+5 1eax+9 7+5 q+5"]

def hyphen : RangeTable :=
  .ofLines
    ["19 3j yk 3nf 1l5+1 2rp kj 14kn 4p 2f"]

def idsBinaryOperator : RangeTable :=
  .ofLines
    ["9gw+1 2+7"]

def idsTrinaryOperator : RangeTable :=
  .ofLines
    ["9gy+1"]

def ideographic : RangeTable :=
  .ofLines
    ["9hi+1 p+8 e+2 qt+533 1s+g73 hkw+a5 2+2x n4a r+4qf 8+yd 16+8 76v+az f7o+wyn w+37d",
     "6+65 2+4g1 e+5rk 2e7+f1 15u+3t6 5+38f"]

def joinControl : RangeTable :=
  .ofLines
    ["6bw+1"]

def logicalOrderException : RangeTable :=
  .ofLines
    ["2tc+4 3f+4 25s+2 2 smy+1 2 1+1"]

def noncharacter : RangeTable :=
  .ofLines
    ["1e4w+v em+1 1eke+1 1eke+1 1eke+1 1eke+1 1eke+1 1eke+1 1eke+1 1eke+1 1eke+1 1eke+1",
     "1eke+1 1eke+1 1eke+1 1eke+1 1eke+1 1eke+1"]

def patternSyntax : RangeTable :=
  .ofLines
    ["x+e a+6 q+3 1 q+3 y+6 1 1+1 1 1+1 4 4 3 n v 654+n 8+e 2+i 1+9 8h+jz 4g+hh u+vf e8+3j",
     "ap+2 4+o f 14i5+1 79+1"]

def patternWhiteSpace : RangeTable :=
  .ofLines
    ["9+4 i 2s 688+1 o+1"]

def prependedConcatenationMark : RangeTable :=
  .ofLines
    ["16o+5 5z 1d ao+1 28 1g4a f"]

def quotationMark : RangeTable :=
  .ofLines
    ["y 4 3n f 670+7 p+1 2rr cp+3 d+2 14pt+3 59 4 2i+1"]

def radical : RangeTable :=
  .ofLines
    ["96o+p 1+2g c+5x"]

def regionalIndicator : RangeTable :=
  .ofLines
    ["2qcm+p"]

def sentenceTerminal : RangeTable :=
  .ofLines
    ["x c g 11l 43+2 50 17+2 6u 1p 1 3+1 85+1 1d0+1 ly 4+1 lh 5i+1 5o 5 8q+1 9u+3 4u+1 2+1",
     "t+1 58+1 1t+1 qk+1 9+2 2qs d m+1 bx n3w 7i+1 6b 3 am+1 2e+1 2n 48+1 43+2 40+1 6x g9y",
     "3+1 4p c g 1t 25w+1 zh+4 18+3 59+1 39+3 3j+2 3l+1 6 g+1 2g+1 1+1 30 bl+1 ad+1 5+e",
     "2x+1 6x+2 ed 1 6z+1 2f+1 bo+1 j8+1 22+1 euh+1 3p 1t+1 b nn feu 5wo"]

def softDotted : RangeTable :=
  .ofLines
    ["2x+1 5g 7t u 1g k 8w 2q 1 4y1 1f d 3 3o 4d bp 5y+1 27m 2bol+1 1e+1 1e+1 1e+1 1e+1",
     "1e+1 1e+1 1e+1 1e+1 1e+1 1e+1 1e+1 1e+1 1om 8h+1 q"]

def terminalPunctuation : RangeTable :=
  .ofLines
    ["x a 1 b+1 3 n2 8 e9 1l 20 e 1+2 50 17+a 1 6j+1 1i+e v 79+1 z8+1 4s 4+5 8n+1 lx+7 lh",
     "3g+2 1z+1 4d+2 3 13+3 2+1 8q+1 9u+3 4u+1 1+2 t+1 58+4 1q+1 qk+1 9+2 2qs d 4 a 1+1",
     "3+1 bw+1 n3v+1 7h+2 6b+4 am+1 2e+1 2n 47+2 43+2 3j g+1 6x g9w+2 1+3 4p a 1 b+1 3 1t",
     "2 u2 1c w6 5j 8m+1 48+5 1w+5 2h+3 qg+4 18+3 59+6 34+3 3j+2 3l+1 6 g+1 2g+4 30 bl+2",
     "c+1 9y+3 3+e 2x+1 6x+2 ed 1 6z+1 2f+1 4+1 bi+2 19 hx+1 22+1 10r+4 dtl+1 3p 1t+2 a",
     "nm+1 feu 5wn+3"]

def unifiedIdeograph : RangeTable :=
  .ofLines
    ["a9s+533 1s+g73 hse+1 1 1+1 a 1 1+1 2+2 1fpy+wyn w+37d 6+65 2+4g1 e+5rk 3z3+3t6 5+38f"]

def variationSelector : RangeTable :=
  .ofLines
    ["4qz+2 1 19f4+f i9yo+6n"]

def whiteSpace : RangeTable :=
  .ofLines
    ["9+4 i 2s q 4bj 1vj+a t+1 5 1b 334"]

/-! ### The classes behind the short escapes -/

/-- White space: blanks, tabs, line and page breaks of every kind. -/
def isSpace (code : Nat) : Bool :=
  whiteSpace.contains code

/-- Characters of words: letters, marks, decimal numbers, connecting punctuation and joiners. -/
def isWord (code : Nat) : Bool :=
  isAlphabetic code ||
    inCategories [.nonspacingMark, .spacingMark, .enclosingMark, .decimalNumber,
      .connectorPunctuation] code ||
    joinControl.contains code

/-- Letters and numbers of every script. -/
def isAlphanumeric (code : Nat) : Bool :=
  isAlphabetic code || inCategories [.decimalNumber, .letterNumber, .otherNumber] code

/-- Code points that a printed text can show as themselves: all but controls, formats, separators
other than the blank, and code points without a character. -/
def isPrintable (code : Nat) : Bool :=
  code == 0x20 ||
    !inCategories [.control, .format, .surrogate, .privateUse, .unassigned, .lineSeparator,
      .paragraphSeparator, .spaceSeparator] code

/-! ### Properties by name -/

/-- The spellings of a property, without case, blanks or underscores, and the property. -/
def properties : List (List String × (Nat → Bool)) :=
  [(["asciihexdigit", "ahex"], asciiHexDigit.contains),
   (["alphabetic", "alpha"], isAlphabetic),
   (["bidicontrol", "bidic"], bidiControl.contains),
   (["bidimirrored", "bidim"], bidiMirrored.contains),
   (["caseignorable", "ci"], caseIgnorable.contains),
   (["cased"], isCased),
   (["dash"], isDash),
   (["defaultignorablecodepoint", "di"], defaultIgnorable.contains),
   (["deprecated", "dep"], deprecated.contains),
   (["diacritic", "dia"], diacritic.contains),
   (["emoji"], emoji.contains),
   (["emojicomponent", "ecomp"], emojiComponent.contains),
   (["emojimodifier", "emod"], emojiModifier.contains),
   (["emojimodifierbase", "ebase"], emojiModifierBase.contains),
   (["emojipresentation", "epres"], emojiPresentation.contains),
   (["extendedpictographic", "extpict"], extendedPictographic.contains),
   (["extender", "ext"], extender.contains),
   (["graphemebase", "grbase"], isGraphemeBase),
   (["graphemeextend", "grext"], isGraphemeExtend),
   (["hexdigit", "hex"], hexDigit.contains),
   (["hyphen"], hyphen.contains),
   (["idsbinaryoperator", "idsb"], idsBinaryOperator.contains),
   (["idstrinaryoperator", "idst"], idsTrinaryOperator.contains),
   (["idcontinue", "idc"], isIdentifierPart),
   (["idstart", "ids"], isIdentifierStart),
   (["ideographic", "ideo"], ideographic.contains),
   (["joincontrol", "joinc"], joinControl.contains),
   (["logicalorderexception", "loe"], logicalOrderException.contains),
   (["lowercase", "lower"], isLowercase),
   (["math"], isMath),
   (["noncharactercodepoint", "nchar"], noncharacter.contains),
   (["patternsyntax", "patsyn"], patternSyntax.contains),
   (["patternwhitespace", "patws"], patternWhiteSpace.contains),
   (["prependedconcatenationmark", "pcm"], prependedConcatenationMark.contains),
   (["quotationmark", "qmark"], quotationMark.contains),
   (["radical"], radical.contains),
   (["regionalindicator", "ri"], regionalIndicator.contains),
   (["sentenceterminal", "sterm"], sentenceTerminal.contains),
   (["softdotted", "sd"], softDotted.contains),
   (["terminalpunctuation", "term"], terminalPunctuation.contains),
   (["unifiedideograph", "uideo"], unifiedIdeograph.contains),
   (["uppercase", "upper"], isUppercase),
   (["variationselector", "vs"], variationSelector.contains),
   (["whitespace", "wspace", "space"], whiteSpace.contains),
   (["xidcontinue", "xidc"],
     fun code => isIdentifierPart code && !closedPartExceptions.contains code),
   (["xidstart", "xids"],
     fun code => isIdentifierStart code && !closedStartExceptions.contains code)]

/-- The property with a normalised name. -/
def propertyNamed? (name : String) : Option (Nat → Bool) :=
  (properties.find? fun row => row.1.contains name).map (·.2)

end TreeScript.Unicode
