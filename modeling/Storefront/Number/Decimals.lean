import Storefront.Number.Shortest

/-!
# Decimals of a given length

A double with a given number of decimals or of significant digits, for messages that ask for one.
The digits are those of the exact value, a half going to the even digit.

* `Magnitude.fixed`: a given number of digits behind the point.
* `Magnitude.scientific`: one digit before the point, and a power of ten.
* `Magnitude.general`: whichever of the two is short, with a given number of significant digits.
-/

namespace Storefront

/-- How a magnitude is laid out. A forced point stands even where no digit follows it, and then
zeros at the end are kept as well. -/
structure DecimalStyle where
  precision : Nat
  forcePoint : Bool

namespace DecimalStyle

/-- Digits with a point in front of the last `places` of them. -/
def withPoint (s : DecimalStyle) (ds : List Char) (places : Nat) : List Char :=
  let padded := List.replicate (places + 1 - ds.length) '0' ++ ds
  let whole := padded.take (padded.length - places)
  let part := padded.drop (padded.length - places)
  whole ++ (if part.isEmpty && !s.forcePoint then [] else '.' :: part)

/-- A power of ten, with a sign and two digits or more. -/
def powerText (power : Int) : List Char :=
  let ds := Nat.toDigits 10 power.natAbs
  'e' :: (if power < 0 then '-' else '+') :: (List.replicate (2 - ds.length) '0' ++ ds)

end DecimalStyle

namespace Magnitude

/-- The significant digits of the value, `count` of them, and the power of ten of the first one. A
value that rounds up to the next power of ten has one digit more and loses the last. -/
def significant (m : Magnitude) (count : Nat) : List Char × Int :=
  if m.significand = 0 then (List.replicate count '0', 0)
  else
    let point := m.pointOf
    let shift := (count : Int) - point
    let rounded := roundDiv (m.units * Nat.pow 10 shift.toNat)
      (Binary64.unitsPerOne * Nat.pow 10 (-shift).toNat)
    let ds := Nat.toDigits 10 rounded
    if ds.length ≤ count then (ds, point - 1) else (ds.take count, point)

def fixed (m : Magnitude) (s : DecimalStyle) : List Char :=
  let rounded := roundDiv (m.units * Nat.pow 10 s.precision) Binary64.unitsPerOne
  s.withPoint (Nat.toDigits 10 rounded) s.precision

/-- Significant digits behind one digit before the point. -/
def scientificDigits (s : DecimalStyle) (ds : List Char) (power : Int) : List Char :=
  s.withPoint ds (ds.length - 1) ++ DecimalStyle.powerText power

def scientific (m : Magnitude) (s : DecimalStyle) : List Char :=
  let (ds, power) := m.significant (s.precision + 1)
  scientificDigits s ds power

/-- No double has more significant digits. -/
def mostSignificant : Nat := 767

/-- The precision counts significant digits, at least one. Zeros behind the point are dropped
unless the point is forced, and a far away point becomes a power of ten. -/
def general (m : Magnitude) (s : DecimalStyle) : List Char :=
  let count := max 1 (if s.forcePoint then s.precision else min s.precision mostSignificant)
  let (ds, power) := m.significant count
  let kept (places : Nat) : List Char :=
    if s.forcePoint then ds
    else
      let zeros := (ds.reverse.takeWhile (· == '0')).length
      ds.take (ds.length - min places zeros)
  if -4 ≤ power ∧ power < count then
    let places := (count - 1 - power).toNat
    let short := kept places
    s.withPoint short (places - (ds.length - short.length))
  else scientificDigits s (kept (count - 1)) power

end Magnitude

end Storefront
