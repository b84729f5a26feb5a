/-!
# Double precision numbers

A double is NaN, an infinity, or a sign with a magnitude `significand * 2 ^ scale`, counted in
units of `2 ^ -1074`. Every finite double is a whole number of these units, so comparisons and
exact conversions are statements about integers.

* `Binary64.units`: the signed number of units of a finite double.
* `Binary64.nearest`: the double nearest to a quotient of naturals, a half going to the even
  significand, and the infinity of that sign from `2 ^ 1024 - 2 ^ 970` on.
* `Binary64.lt`, `Binary64.le`: the numeric order, in which NaN is related to nothing.
-/

namespace Storefront

/-! ## Rounding quotients -/

/-- `num / den` rounded to the nearest natural number, a half going to the even neighbour. -/
def roundDiv (num den : Nat) : Nat :=
  let q := num / den
  let r := num % den
  if 2 * r < den then q
  else if den < 2 * r then q + 1
  else if q % 2 = 0 then q
  else q + 1

/-! ## Magnitudes -/

/-- The magnitude of a finite double: `significand * 2 ^ scale` units of `2 ^ -1074`. The
significand has 53 bits, so it lies between `2 ^ 52 = 4503599627370496` and
`2 ^ 53 = 9007199254740992`, unless the scale is zero; each magnitude has one form. -/
structure Magnitude where
  significand : Nat
  scale : Nat
  significand_lt : significand < 9007199254740992
  scale_le : scale ≤ 2045
  canonical : scale = 0 ∨ 4503599627370496 ≤ significand
deriving DecidableEq

namespace Magnitude

def units (m : Magnitude) : Nat := m.significand * Nat.pow 2 m.scale

def zero : Magnitude := ⟨0, 0, by decide, by decide, Or.inl rfl⟩

instance : Inhabited Magnitude := ⟨zero⟩

theorem zero_units_le (m : Magnitude) : zero.units ≤ m.units :=
  Nat.le_trans (Nat.le_of_eq (Nat.zero_mul (Nat.pow 2 0))) (Nat.zero_le _)

/-- The magnitude with this significand and scale; a significand that was rounded up to `2 ^ 53`
moves to the next scale. There is none beyond the largest scale. -/
def ofParts? (significand scale : Nat) : Option Magnitude :=
  if h : significand < 9007199254740992 ∧ scale ≤ 2045
      ∧ (scale = 0 ∨ 4503599627370496 ≤ significand) then
    some ⟨significand, scale, h.1, h.2.1, h.2.2⟩
  else if h : significand = 9007199254740992 ∧ scale + 1 ≤ 2045 then
    some ⟨4503599627370496, scale + 1, by decide, h.2, Or.inr (Nat.le_refl _)⟩
  else none

/-- The scale at which `num / den` units take 53 bits, or zero for fewer. -/
def scaleOf (num den : Nat) : Nat := (num / den).log2 - 52

/-- The magnitude nearest to `num / den` units, a half going to the even significand. There is
none where the nearest would lie beyond the largest magnitude. -/
def nearest? (num den : Nat) : Option Magnitude :=
  let scale := scaleOf num den
  ofParts? (roundDiv num (den * Nat.pow 2 scale)) scale

end Magnitude

/-! ## Doubles -/

/-- A double precision number; zero has two signs, and there is one NaN. -/
inductive Binary64 where
  | nan
  | infinity (negative : Bool)
  | finite (negative : Bool) (magnitude : Magnitude)
deriving DecidableEq

namespace Binary64

/-- The number of units in one: `1 = 2 ^ 1074` units. -/
def unitsPerOne : Nat := Nat.pow 2 1074

/-- `n` with a minus sign where `negative`. -/
def signed (negative : Bool) (n : Nat) : Int := if negative then -(n : Int) else n

def zero : Binary64 := .finite false .zero

/-- The number one: `2 ^ 52` times `2 ^ 1022` units. -/
def one : Binary64 :=
  .finite false ⟨4503599627370496, 1022, by decide, by decide, Or.inr (Nat.le_refl _)⟩

instance : Inhabited Binary64 := ⟨zero⟩

def isFinite : Binary64 → Bool
  | .finite _ _ => true
  | _ => false

def isNaN : Binary64 → Bool
  | .nan => true
  | _ => false

/-- The signed number of units of a finite double, and zero for the others. -/
def units : Binary64 → Int
  | .finite negative m => signed negative m.units
  | _ => 0

/-- Whether the value is zero, of either sign. -/
def isZero : Binary64 → Bool
  | .finite _ m => m.significand == 0
  | _ => false

/-- The double nearest to `num / den`, a half going to the even significand. -/
def nearest (negative : Bool) (num den : Nat) : Binary64 :=
  (Magnitude.nearest? (num * unitsPerOne) den).elim (.infinity negative) (.finite negative)

/-- The double nearest to an integer; there is none for integers that round beyond the largest
double. -/
def ofInt? (n : Int) : Option Binary64 :=
  (Magnitude.nearest? (n.natAbs * unitsPerOne) 1).map (.finite (decide (n < 0)))

theorem isFinite_of_ofInt? {n : Int} {x : Binary64} (h : ofInt? n = some x) :
    x.isFinite = true := by
  obtain ⟨m, -, rfl⟩ := Option.map_eq_some_iff.1 h
  rfl

/-- The integer that a finite double with an integral value is equal to. -/
def toInt? : Binary64 → Option Int
  | .finite negative m =>
    if m.units % unitsPerOne = 0 then some (signed negative (m.units / unitsPerOne)) else none
  | _ => none

/-! ## Order -/

/-- The numeric order; NaN is related to nothing and the two zeros are equal. -/
def lt : Binary64 → Binary64 → Bool
  | .nan, _ => false
  | _, .nan => false
  | .infinity a, .infinity b => a && !b
  | .infinity a, .finite _ _ => a
  | .finite _ _, .infinity b => !b
  | .finite a m, .finite b n => decide (signed a m.units < signed b n.units)

/-- `x` is below or numerically equal to `y`. -/
def le : Binary64 → Binary64 → Bool
  | .nan, _ => false
  | _, .nan => false
  | .infinity a, .infinity b => a || !b
  | .infinity a, .finite _ _ => a
  | .finite _ _, .infinity b => !b
  | .finite a m, .finite b n => decide (signed a m.units ≤ signed b n.units)

theorem zero_le_finite (m : Magnitude) : zero.le (.finite false m) = true :=
  decide_eq_true (Int.ofNat_le.2 (Magnitude.zero_units_le m))

theorem zero_le_ofMagnitude? (m : Option Magnitude) :
    zero.le (m.elim (.infinity false) (.finite false)) = true := by
  cases m with
  | none => rfl
  | some m => exact zero_le_finite m

theorem zero_le_nearest (num den : Nat) : zero.le (nearest false num den) = true :=
  zero_le_ofMagnitude? (Magnitude.nearest? (num * unitsPerOne) den)

/-- Numeric equality: the two zeros are equal, and NaN equals nothing. -/
def numEq (x y : Binary64) : Bool := x.le y && y.le x

end Binary64

end Storefront
