import Storefront.Number.Numeral

/-!
# Shortest decimals

The text of a double has the fewest digits that read back to it; of two such decimals the nearer
one is written, and of two equally near ones the even one. Which digits these are
(`Magnitude.shortest`) is a matter of exact integer arithmetic; where the point or the power of
ten goes (`Binary64.layout`) is a decision of the format: positional from `1e-4` up to below
`1e16`, with `.0` after whole numbers, and otherwise a signed power of ten of two digits or more.
-/

namespace Storefront

/-- The number `digits * 10 ^ exponent`. -/
structure Decimal where
  digits : Nat
  exponent : Int
deriving DecidableEq

namespace Decimal

def toNumeral (d : Decimal) (negative : Bool) : Numeral := ⟨negative, d.digits, d.exponent⟩

end Decimal

namespace Magnitude

/-- Whether a decimal reads back to this magnitude. -/
def readsBack (m : Magnitude) (d : Decimal) : Bool :=
  decide ((d.toNumeral false).toBinary64 = .finite false m)

/-- Whether the magnitude is below `10 ^ k`. -/
def belowPower (m : Magnitude) (k : Int) : Bool :=
  decide (m.units * Nat.pow 10 (-k).toNat < Binary64.unitsPerOne * Nat.pow 10 k.toNat)

/-- The number of digits before the point: the least `k` with the value below `10 ^ k`. It is
estimated from the binary logarithm and settled by comparisons. -/
def pointOf (m : Magnitude) : Int :=
  let estimate := ((m.units.log2 : Int) - 1074) * 30103 / 100000
  if m.belowPower estimate then estimate
  else if m.belowPower (estimate + 1) then estimate + 1
  else estimate + 2

/-- The two neighbours of the value on the grid of multiples of `10 ^ k`, the nearer one first,
and the even one first where both are equally near. -/
def neighbours (m : Magnitude) (k : Int) : List Decimal :=
  let num := m.units * Nat.pow 10 (-k).toNat
  let den := Binary64.unitsPerOne * Nat.pow 10 k.toNat
  let below := num / den
  let lower : Decimal := ⟨below, k⟩
  let upper : Decimal := ⟨below + 1, k⟩
  if roundDiv num den = below then [lower, upper] else [upper, lower]

/-- The exact decimal value. -/
def exact (m : Magnitude) : Decimal := ⟨m.units * Nat.pow 5 1074, -1074⟩

/-- The neighbours on the grids of one, two, up to seventeen digits, in this order. -/
def candidates (m : Magnitude) : List Decimal :=
  (List.range 17).flatMap fun (n : Nat) => m.neighbours (m.pointOf - (n + 1 : Nat))

/-- The decimal with the fewest digits that reads back to the magnitude, the nearest of these. -/
def shortest (m : Magnitude) : Decimal :=
  (m.candidates.find? m.readsBack).getD m.exact

end Magnitude

namespace Binary64

/-- Where the point goes in front of, inside or behind the digits `ds` of `0.ds * 10 ^ point`, or
the power of ten where the point would be far away. -/
def layout (ds : List Char) (point : Int) : List Char :=
  if -4 < point ∧ point ≤ 16 then
    if point ≤ 0 then '0' :: '.' :: (List.replicate (-point).toNat '0' ++ ds)
    else
      let whole := ds.take point.toNat ++ List.replicate (point.toNat - ds.length) '0'
      let part := ds.drop point.toNat
      whole ++ '.' :: (if part.isEmpty then ['0'] else part)
  else
    let power := point - 1
    let powerDigits := Nat.toDigits 10 power.natAbs
    let tail := if ds.length ≤ 1 then [] else '.' :: ds.drop 1
    ds.take 1 ++ tail ++ 'e' :: (if power < 0 then '-' else '+')
      :: (List.replicate (2 - powerDigits.length) '0' ++ powerDigits)

/-- A list of digits without the zeros at its end. -/
def dropTrailingZeros (ds : List Char) : List Char :=
  (ds.reverse.dropWhile (· == '0')).reverse

/-- The text of a positive magnitude. -/
def magnitudeText (m : Magnitude) : List Char :=
  let d := m.shortest
  let ds := Nat.toDigits 10 d.digits
  layout (dropTrailingZeros ds) (ds.length + d.exponent)

/-- The shortest text that reads back to the same double. -/
def chars : Binary64 → List Char
  | .nan => ['n', 'a', 'n']
  | .infinity negative => (if negative then ['-'] else []) ++ ['i', 'n', 'f']
  | .finite negative m =>
    (if negative then ['-'] else [])
      ++ (if m.significand = 0 then ['0', '.', '0'] else magnitudeText m)

def text (x : Binary64) : String := String.ofList x.chars

end Binary64

end Storefront
