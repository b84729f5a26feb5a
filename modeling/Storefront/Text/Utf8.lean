import Storefront.Text.Basic

/-!
# UTF-8

Byte strings as texts and texts as byte strings. A byte string falls into pieces: characters, and
longest beginnings of characters that are not completed.

* `decodeUtf8`: every piece that is no character stands for one replacement character.
* `readUtf8`: the text of a byte string that is UTF-8, or where it is not.
* `encodeUtf8`: the bytes of a text; a half of a surrogate pair takes three bytes as its number asks.
-/

namespace Storefront.Text

/-! ## Pieces -/

/-- A character whose first bytes were read: how many were read and are missing, the bits so far, and
the range that the next byte has to lie in. -/
structure Partial where
  read : Nat
  missing : Nat
  bits : Nat
  low : Nat
  high : Nat

/-- What a byte begins: a whole character, a longer one, or nothing. -/
inductive Lead where
  | whole (c : Char)
  | opening (p : Partial)
  | invalid

/-- A piece of a byte string: a character, or a number of bytes that are none, either because of what
follows them or because nothing does. -/
inductive Piece where
  | char (c : Char)
  | broken (length : Nat)
  | cut (length : Nat)

def Piece.length : Piece → Nat
  | .char c => c.utf8Size
  | .broken n | .cut n => n

/-- The character that a first byte belongs to. The second byte is restricted where the shortest
form, the surrogates or the end of the code space ask for it. -/
def lead (n : Nat) : Lead :=
  if n < 0x80 then .whole (Char.ofNat n)
  else if n < 0xC2 then .invalid
  else if n < 0xE0 then .opening ⟨1, 1, n - 0xC0, 0x80, 0xBF⟩
  else if n = 0xE0 then .opening ⟨1, 2, 0, 0xA0, 0xBF⟩
  else if n = 0xED then .opening ⟨1, 2, 0xD, 0x80, 0x9F⟩
  else if n < 0xF0 then .opening ⟨1, 2, n - 0xE0, 0x80, 0xBF⟩
  else if n = 0xF0 then .opening ⟨1, 3, 0, 0x90, 0xBF⟩
  else if n < 0xF4 then .opening ⟨1, 3, n - 0xF0, 0x80, 0xBF⟩
  else if n = 0xF4 then .opening ⟨1, 3, 4, 0x80, 0x8F⟩
  else .invalid

/-- The pieces of a byte string behind the beginning of a character. -/
def piecesAfter (pending : Option Partial) : List UInt8 → List Piece
  | [] =>
    match pending with
    | some p => [.cut p.read]
    | none => []
  | b :: rest =>
    let n := b.toNat
    let fresh : List Piece :=
      match lead n with
      | .whole c => .char c :: piecesAfter none rest
      | .opening p => piecesAfter (some p) rest
      | .invalid => .broken 1 :: piecesAfter none rest
    match pending with
    | none => fresh
    | some p =>
      if p.low ≤ n ∧ n ≤ p.high then
        let bits := p.bits * 64 + (n - 0x80)
        if p.missing ≤ 1 then .char (Char.ofNat bits) :: piecesAfter none rest
        else piecesAfter (some ⟨p.read + 1, p.missing - 1, bits, 0x80, 0xBF⟩) rest
      else .broken p.read :: fresh

def pieces (bytes : List UInt8) : List Piece := piecesAfter none bytes

/-! ## Reading -/

/-- Where a byte string is not UTF-8: behind how many bytes, and how many bytes are no character, or
none of a number where the byte string ends inside of a character. -/
structure Utf8Fault where
  position : Nat
  length : Option Nat
deriving DecidableEq

def Utf8Fault.message (f : Utf8Fault) : String :=
  match f.length with
  | some n =>
    "invalid utf-8 sequence of " ++ Nat.repr n ++ " bytes from index " ++ Nat.repr f.position
  | none => "incomplete utf-8 byte sequence from index " ++ Nat.repr f.position

/-- The characters of pieces, of which the first begins at a position. -/
def readPieces (position : Nat) : List Piece → Except Utf8Fault Text
  | [] => .ok []
  | .char c :: rest => (readPieces (position + c.utf8Size) rest).map (.char c :: ·)
  | .broken n :: _ => .error ⟨position, some n⟩
  | .cut _ :: _ => .error ⟨position, none⟩

/-- The text of a byte string that is UTF-8. -/
def readUtf8 (bytes : List UInt8) : Except Utf8Fault Text := readPieces 0 (pieces bytes)

def utf8? (bytes : List UInt8) : Option Text := (readUtf8 bytes).toOption

/-- The text of a byte string, with replacement characters for what is not UTF-8. -/
def decodeUtf8 (bytes : List UInt8) : Text :=
  (pieces bytes).map fun
    | .char c => .char c
    | .broken _ | .cut _ => .char '\uFFFD'

/-! ## Writing -/

/-- The bytes of a code point. -/
def pointBytes : CodePoint → List UInt8
  | .char c => String.utf8EncodeChar c
  | .half h =>
    let n := 0xD800 + h.val
    [0xED, UInt8.ofNat (0x80 + n / 64 % 64), UInt8.ofNat (0x80 + n % 64)]

def encodeUtf8 (t : Text) : List UInt8 := t.flatMap pointBytes

end Storefront.Text
