import Storefront.Number.Numeral
import Storefront.Text.Blank
import Storefront.Text.DecimalDigit

/-!
# Numbers in loosely written text

Stored prices and settings may hold numbers as text or as bytes. White space around a number and
single underscores between its digits are accepted; in texts also the white space and the digits of
all scripts.

* `Binary64.readLoose?`, `Binary64.readLooseBytes?`: the double in a text, or in bytes.
-/

namespace Storefront

namespace Text

/-- A digit of any script as the ASCII digit of the same value; other characters stay. -/
def asciiDigit? (p : CodePoint) : Option Char :=
  match digitValue? p with
  | some d => some (Nat.digitChar d)
  | none => p.char?

/-- The characters of a text without the white space around it and with ASCII digits for all
digits. -/
def looseChars? (t : Text) : Option (List Char) := (stripWhile isWhite t).mapM asciiDigit?

/-- The text without the underscores that stand between two digits; `previous` tells whether a
digit stands in front. There is none where an underscore stands anywhere else. -/
def joinDigitGroups? (previous : Bool) : List Char → Option (List Char)
  | [] => some []
  | c :: rest =>
    if c = '_' then
      match rest with
      | d :: _ => if previous && d.isDigit then joinDigitGroups? false rest else none
      | [] => none
    else (joinDigitGroups? c.isDigit rest).map (c :: ·)

end Text

namespace Binary64

/-- Reads a number in which underscores may stand between digits. -/
def readGrouped? (cs : List Char) : Option Binary64 :=
  (Text.joinDigitGroups? false cs).bind Binary64.read?

/-- Reads a loosely written number. -/
def readLoose? (t : Text) : Option Binary64 := (Text.looseChars? t).bind readGrouped?

/-- Reads a loosely written number of bytes, where only ASCII characters count. -/
def readLooseBytes? (bytes : List UInt8) : Option Binary64 :=
  let cs := bytes.map fun b => Char.ofNat b.toNat
  readGrouped? (Text.stripWhile (fun c => Text.isAsciiWhite c) cs)

end Binary64

end Storefront
