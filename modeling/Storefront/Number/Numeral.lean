import Storefront.Number.Binary64

/-!
# Decimal numerals

A numeral is an optional sign, digits with an optional point, and an optional power of ten:
`25`, `-0.5`, `.5`, `5.`, `1e-07`. Reading is exact: the digits and the power of ten are kept as
integers, and `Numeral.toBinary64` rounds once.

* `Numeral.read?`: the grammar.
* `Binary64.read?`: a numeral or one of the words `inf`, `infinity`, `nan`.
-/

namespace Storefront

/-- The number `± digits * 10 ^ exponent`. -/
structure Numeral where
  negative : Bool
  digits : Nat
  exponent : Int
deriving DecidableEq

namespace Numeral

/-- An optional sign in front of a text, as "is negative" and the rest. -/
def splitSign : List Char → Bool × List Char
  | '-' :: rest => (true, rest)
  | '+' :: rest => (false, rest)
  | cs => (false, cs)

/-- The power of ten that ends a numeral: nothing, or `e`, an optional sign and digits. -/
def readExponent? : List Char → Option Int
  | [] => some 0
  | c :: rest =>
    if c = 'e' ∨ c = 'E' then
      let (negative, ds) := splitSign rest
      if ds.isEmpty ∨ !ds.all Char.isDigit then none
      else
        let n : Int := Nat.ofDigitChars 10 ds 0
        some (if negative then -n else n)
    else none

/-- Digits with an optional point among or around them, then an optional power of ten. -/
def readUnsigned? (negative : Bool) (cs : List Char) : Option Numeral :=
  let whole := cs.takeWhile Char.isDigit
  let afterWhole := cs.dropWhile Char.isDigit
  let (part, rest) :=
    match afterWhole with
    | '.' :: r => (r.takeWhile Char.isDigit, r.dropWhile Char.isDigit)
    | r => ([], r)
  if whole.isEmpty ∧ part.isEmpty then none
  else
    (readExponent? rest).map fun e =>
      ⟨negative, Nat.ofDigitChars 10 (whole ++ part) 0, e - part.length⟩

/-- Reads a whole text as a numeral. -/
def read? (cs : List Char) : Option Numeral :=
  let (negative, rest) := splitSign cs
  readUnsigned? negative rest

/-- The double nearest to a numeral. Powers of ten that no number of digits can bring back into
range are settled without computing them. -/
def toBinary64 (n : Numeral) : Binary64 :=
  if n.digits = 0 then .finite n.negative .zero
  else if 400 < n.exponent then .infinity n.negative
  else if n.exponent + n.digits.log2 + 1 < -400 then .finite n.negative .zero
  else Binary64.nearest n.negative (n.digits * Nat.pow 10 n.exponent.toNat)
    (Nat.pow 10 (-n.exponent).toNat)

end Numeral

namespace Binary64

/-- The words for the values that no numeral denotes, in any case of letters. -/
def readWord? (negative : Bool) (cs : List Char) : Option Binary64 :=
  let word := cs.map Char.toLower
  if word = ['i', 'n', 'f'] ∨ word = ['i', 'n', 'f', 'i', 'n', 'i', 't', 'y'] then
    some (.infinity negative)
  else if word = ['n', 'a', 'n'] then some .nan
  else none

/-- Reads a whole text as a double: a numeral or a word, with an optional sign. -/
def read? (cs : List Char) : Option Binary64 :=
  let (negative, rest) := Numeral.splitSign cs
  (readWord? negative rest).or ((Numeral.readUnsigned? negative rest).map Numeral.toBinary64)

end Binary64

end Storefront
