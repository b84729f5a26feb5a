import Storefront.Text.Utf8

/-!
# Encodings of JSON texts

A JSON text begins with two ASCII characters unless it has a single one, so zeros among its first
bytes tell how wide its units are and in which order their bytes come. Halves of surrogate pairs may
stand alone in units of any width.

* `Json.Encoding.detect`: the encoding of a byte string.
* `Json.decode`: the text of a byte string, if there is one.
-/

namespace Storefront.Json

/-- The order of the bytes of a unit. -/
inductive ByteOrder where
  | bigEndian
  | littleEndian
deriving DecidableEq

inductive Encoding where
  | utf8
  | utf16 (order : ByteOrder)
  | utf32 (order : ByteOrder)
deriving DecidableEq

namespace Encoding

/-- The encoding that the zeros among the first bytes tell. -/
def detect : List UInt8 → Encoding
  | [a, b] =>
    if a = 0 then .utf16 .bigEndian else if b = 0 then .utf16 .littleEndian else .utf8
  | a :: b :: c :: d :: _ =>
    if a = 0 then if b = 0 then .utf32 .bigEndian else .utf16 .bigEndian
    else if b = 0 then if c = 0 ∧ d = 0 then .utf32 .littleEndian else .utf16 .littleEndian
    else .utf8
  | _ => .utf8

end Encoding

/-- The number that the bytes of a unit make. -/
def unitOf (order : ByteOrder) (bytes : List UInt8) : Nat :=
  let ordered := match order with
    | .bigEndian => bytes
    | .littleEndian => bytes.reverse
  ordered.foldl (fun n b => n * 256 + b.toNat) 0

/-- Units of two bytes; there are none where a byte is left over. -/
def units16? (order : ByteOrder) : List UInt8 → Option (List Nat)
  | [] => some []
  | a :: b :: rest => (units16? order rest).map (unitOf order [a, b] :: ·)
  | _ => none

/-- Units of four bytes; there are none where bytes are left over. -/
def units32? (order : ByteOrder) : List UInt8 → Option (List Nat)
  | [] => some []
  | a :: b :: c :: d :: rest => (units32? order rest).map (unitOf order [a, b, c, d] :: ·)
  | _ => none

/-- A text without a byte order mark at its beginning. -/
def dropMark : Text → Text
  | .char '\uFEFF' :: rest => rest
  | t => t

/-- The text of a byte string. Only in units of one byte a mark at the beginning is no part of it. -/
def decode (bytes : List UInt8) : Option Text :=
  match Encoding.detect bytes with
  | .utf8 => (Text.utf8? bytes).map dropMark
  | .utf16 order => (units16? order bytes).bind Text.ofUnits
  | .utf32 order => (units32? order bytes).bind fun ns => ns.mapM CodePoint.ofNat?

end Storefront.Json
