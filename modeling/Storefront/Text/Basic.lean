/-!
# Texts

A text is a sequence of code points. Escapes in JSON may name a half of a surrogate pair that stands
alone, and such a half is kept, so a text is more than a string of characters.

* `CodePoint.ofNat?`: the code point with a number, below `0x110000`.
* `Text.chars?`: the characters of a text without halves.
* `Text.ofUnits`: a sequence of 16 bit units as a text.
-/

namespace Storefront

/-- A character, or a half of a surrogate pair that stands alone, by its distance from U+D800. -/
inductive CodePoint where
  | char (c : Char)
  | half (h : Fin 0x800)
deriving DecidableEq

/-- A sequence of code points. -/
abbrev Text := List CodePoint

namespace CodePoint

instance : Coe Char CodePoint := ⟨.char⟩

instance : Inhabited CodePoint := ⟨.char 'A'⟩

def toNat : CodePoint → Nat
  | .char c => c.toNat
  | .half h => 0xD800 + h.val

/-- The code point with a number; there is none from `0x110000` on. -/
def ofNat? (n : Nat) : Option CodePoint :=
  if n.isValidChar then some (.char (Char.ofNat n))
  else if h : 0xD800 ≤ n ∧ n < 0xE000 then some (.half ⟨n - 0xD800, by omega⟩)
  else none

def char? : CodePoint → Option Char
  | .char c => some c
  | .half _ => none

/-- The character, or the replacement character in the place of a half. -/
def toChar (p : CodePoint) : Char := p.char?.getD '\uFFFD'

/-- The decimal digits of ASCII. -/
def isDigit : CodePoint → Bool
  | .char c => c.isDigit
  | .half _ => false

/-- Whether a number belongs to the first or to the second half of a surrogate pair. -/
def isHigh (n : Nat) : Bool := 0xD800 ≤ n && n < 0xDC00

def isLow (n : Nat) : Bool := 0xDC00 ≤ n && n < 0xE000

/-- The number of the character that two halves make. -/
def joinHalves (high low : Nat) : Nat := 0x10000 + (high - 0xD800) * 0x400 + (low - 0xDC00)

end CodePoint

namespace Text

def ofChars (cs : List Char) : Text := cs.map .char

def ofString (s : String) : Text := ofChars s.toList

theorem ofString_inj {s t : String} : ofString s = ofString t ↔ s = t := by
  constructor
  · intro h
    have hChars : s.toList = t.toList := (List.map_inj_right fun _ _ => CodePoint.char.inj).1 h
    exact String.toList_inj.1 hChars
  · rintro rfl
    rfl

instance : Coe String Text := ⟨ofString⟩

/-- The characters of a text, if no half stands alone in it. -/
def chars? (t : Text) : Option (List Char) := t.mapM CodePoint.char?

/-- The text as a string, with replacement characters for halves. -/
def toString (t : Text) : String := String.ofList (t.map CodePoint.toChar)

/-- Parts with a separator between them. -/
def join (separator : Text) (parts : List Text) : Text := (parts.intersperse separator).flatten

/-- Code points from numbers; halves that follow each other make one character. -/
def ofUnits : List Nat → Option Text
  | [] => some []
  | [n] => (CodePoint.ofNat? n).map ([·])
  | m :: n :: rest =>
    if CodePoint.isHigh m ∧ CodePoint.isLow n then
      match CodePoint.ofNat? (CodePoint.joinHalves m n), ofUnits rest with
      | some p, some more => some (p :: more)
      | _, _ => none
    else
      match CodePoint.ofNat? m, ofUnits (n :: rest) with
      | some p, some more => some (p :: more)
      | _, _ => none

end Text

end Storefront
