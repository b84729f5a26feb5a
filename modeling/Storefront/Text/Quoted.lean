import Storefront.Text.Printable

/-!
# Quoted text

Texts and byte strings are quoted in messages and log entries so that every code point can be told:
single quotes, or double quotes around a text with single quotes and no double ones; a backslash
before the quote in use and before backslashes; letters for newline, return and tab; and
hexadecimal escapes for whatever is not printable.
-/

namespace Storefront.Text

/-- `n` in hexadecimal, padded with zeros to `width` digits. -/
def hex (width n : Nat) : List Char :=
  let ds := Nat.toDigits 16 n
  List.replicate (width - ds.length) '0' ++ ds

/-- The escape of a code point by its number, as short as its size allows. -/
def hexEscape (n : Nat) : List Char :=
  if n < 0x100 then '\\' :: 'x' :: hex 2 n
  else if n < 0x10000 then '\\' :: 'u' :: hex 4 n
  else '\\' :: 'U' :: hex 8 n

/-- One code point inside quotes; `shown` says which of them stand for themselves. -/
def quotePoint (quote : Char) (shown : CodePoint → Bool) (p : CodePoint) : Text :=
  if p = quote ∨ p = '\\' then ['\\', p]
  else if p = '\n' then ['\\', 'n']
  else if p = '\r' then ['\\', 'r']
  else if p = '\t' then ['\\', 't']
  else if shown p then [p]
  else ofChars (hexEscape p.toNat)

/-- Double quotes go around a text with single quotes and no double ones. -/
def quoteFor (t : Text) : Char :=
  if t.contains '\'' ∧ !t.contains '"' then '"' else '\''

/-- A text in quotes, with escapes for what cannot be shown. -/
def quoted (t : Text) : Text :=
  let quote := quoteFor t
  .char quote :: (t.flatMap (quotePoint quote isPrintable) ++ [.char quote])

/-- A byte string in quotes, behind the letter `b`: bytes are shown as the ASCII characters they
stand for. -/
def quotedBytes (bytes : List UInt8) : Text :=
  let t := ofChars (bytes.map fun b => Char.ofNat b.toNat)
  let quote := quoteFor t
  let shown (p : CodePoint) : Bool := 0x20 ≤ p.toNat && p.toNat < 0x7F
  .char 'b' :: .char quote :: (t.flatMap (quotePoint quote shown) ++ [.char quote])

end Storefront.Text
