import Storefront.Text.Ranges

/-!
# White space

Classes of blanks: the characters of the Unicode property White_Space, those of them that are in
ASCII, and all of them with the four information separators. Stripping removes a class of characters
from both ends of a text.

* `isWhite`, `isAsciiWhite`, `isBlank`: the classes.
* `stripWhile`: a text without the characters of a class at its ends.
-/

namespace Storefront.Text

/-- The ranges of the Unicode property White_Space. -/
def whiteRanges : List (Nat × Nat) :=
  [(0x9, 0xD), (0x20, 0x20), (0x85, 0x85), (0xA0, 0xA0), (0x1680, 0x1680), (0x2000, 0x200A),
   (0x2028, 0x2029), (0x202F, 0x202F), (0x205F, 0x205F), (0x3000, 0x3000)]

/-- White space in the sense of the Unicode property. -/
def isWhite (p : CodePoint) : Bool := inRanges whiteRanges p

/-- White space, or one of the information separators U+001C to U+001F. -/
def isBlank (p : CodePoint) : Bool := isWhite p || (0x1C ≤ p.toNat && p.toNat ≤ 0x1F)

/-- White space among the characters of ASCII. -/
def isAsciiWhite (p : CodePoint) : Bool := p.toNat < 0x80 && isWhite p

/-- A text, or any list, without the items at its ends that satisfy `p`. -/
def stripWhile {α : Type} (p : α → Bool) (t : List α) : List α :=
  ((t.dropWhile p).reverse.dropWhile p).reverse

end Storefront.Text
