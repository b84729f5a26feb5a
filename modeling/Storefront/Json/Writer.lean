import Storefront.Value.Basic

/-!
# Writing JSON

Values as JSON texts on one line. Only ASCII characters stand for themselves, and integers keep all
their digits; numbers that are not finite are written as the words that the reader knows, and byte
strings as texts that show them.
-/

namespace Storefront.Json

/-- The escape of one unit of sixteen bits. -/
def escapeUnit (n : Nat) : List Char := '\\' :: 'u' :: Text.hex 4 n

/-- The code points that are escaped with a letter, and their letters. -/
def letterEscapes : List (Char × Char) :=
  [('"', '"'), ('\\', '\\'), ('\n', 'n'), ('\r', 'r'), ('\t', 't'), ('\x08', 'b'), ('\x0c', 'f')]

def letterOf? (p : CodePoint) : Option Char :=
  (letterEscapes.find? fun e => p = .char e.1).map Prod.snd

/-- A code point inside a text; those beyond sixteen bits are written as two units. -/
def writePoint (p : CodePoint) : List Char :=
  let n := p.toNat
  match letterOf? p with
  | some l => ['\\', l]
  | none =>
    if 0x20 ≤ n ∧ n < 0x7F then [p.toChar]
    else if n < 0x10000 then escapeUnit n
    else
      let m := n - 0x10000
      escapeUnit (0xD800 + m / 0x400) ++ escapeUnit (0xDC00 + m % 0x400)

def writeText (t : Text) : String :=
  String.ofList ('"' :: (t.flatMap writePoint ++ ['"']))

/-- A double as JSON readers of this library take it. -/
def writeDouble : Binary64 → String
  | .nan => "NaN"
  | .infinity negative => if negative then "-Infinity" else "Infinity"
  | x => x.text

mutual

/-- The JSON text of a value. -/
def write : Value → String
  | .null => "null"
  | .bool b => if b then "true" else "false"
  | .int n => toString n
  | .float x => writeDouble x
  | .text s => writeText s
  | .bytes b => writeText (Text.quotedBytes b)
  | .list vs => "[" ++ String.intercalate ", " (writeItems vs) ++ "]"
  | .object fields => "\x7b" ++ String.intercalate ", " (writeFields fields) ++ "\x7d"

def writeItems : List Value → List String
  | [] => []
  | v :: rest => write v :: writeItems rest

def writeFields : List (Text × Value) → List String
  | [] => []
  | (k, v) :: rest => (writeText k ++ ": " ++ write v) :: writeFields rest

end

end Storefront.Json
