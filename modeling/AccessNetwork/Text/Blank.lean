/-!
Blank characters: white space and line ends, 25 code points in ten ranges, and the cut that takes
them off both ends of a text. U+0085, U+180E and U+200B are not blank, U+FEFF is.
-/

namespace AccessNetwork.Text

set_option autoImplicit false

def blankRanges : List (Nat × Nat) :=
  [(0x09, 0x0D), (0x20, 0x20), (0xA0, 0xA0), (0x1680, 0x1680), (0x2000, 0x200A),
   (0x2028, 0x2029), (0x202F, 0x202F), (0x205F, 0x205F), (0x3000, 0x3000), (0xFEFF, 0xFEFF)]

def isBlank (char : Char) : Bool :=
  blankRanges.any fun range => range.1 ≤ char.toNat && char.toNat ≤ range.2

def stripLeft (chars : List Char) : List Char := chars.dropWhile isBlank

def stripRight (chars : List Char) : List Char := (stripLeft chars.reverse).reverse

def strip (chars : List Char) : List Char := stripRight (stripLeft chars)

end AccessNetwork.Text
