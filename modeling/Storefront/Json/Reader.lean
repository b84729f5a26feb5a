import Storefront.Value.Basic

/-!
# Reading JSON

JSON texts as payload values. Integers keep all their digits and numbers with a point or a power
of ten are doubles; the words `NaN`, `Infinity` and `-Infinity` are read as well; of several
fields with one name the last value stands at the place of the first. Lists and objects may be nested
up to a limit.

* `Json.read`: the value of a whole text, or the first defect with its place.
* `Json.Defect.message`: the wording of a defect.
-/

namespace Storefront.Json

/-- What can be wrong at one place of a text. -/
inductive Problem where
  | expectingValue
  | expectingName
  | expectingColon
  | expectingComma
  | extraData
  | unterminatedText
  | controlCharacter
  | unknownEscape
  | brokenUnicodeEscape
deriving DecidableEq

def Problem.message : Problem → String
  | .expectingValue => "Expecting value"
  | .expectingName => "Expecting property name enclosed in double quotes"
  | .expectingColon => "Expecting ':' delimiter"
  | .expectingComma => "Expecting ',' delimiter"
  | .extraData => "Extra data"
  | .unterminatedText => "Unterminated string starting at"
  | .controlCharacter => "Invalid control character at"
  | .unknownEscape => "Invalid \\escape"
  | .brokenUnicodeEscape => "Invalid \\uXXXX escape"

/-- The two kinds of values that contain others. -/
inductive Container where
  | list
  | object
deriving DecidableEq

def Container.name : Container → String
  | .list => "array"
  | .object => "object"

/-- Why a text was not read: a defect in front of its last `remaining` code points, an integer with
more digits than are read, or a list or object inside of too many others. -/
inductive Failure where
  | defect (problem : Problem) (remaining : Nat)
  | integerTooLong
  | tooDeep (c : Container)

def fail {α : Type} (problem : Problem) (atRest : Text) : Except Failure α :=
  .error (.defect problem atRest.length)

def isSpace (p : CodePoint) : Bool := p == ' ' || p == '\t' || p == '\n' || p == '\r'

def skipSpace (t : Text) : Text := t.dropWhile isSpace

/-! ## Texts -/

def hexValue? (c : Char) : Option Nat :=
  if '0' ≤ c ∧ c ≤ '9' then some (c.toNat - '0'.toNat)
  else if 'a' ≤ c ∧ c ≤ 'f' then some (c.toNat - 'a'.toNat + 10)
  else if 'A' ≤ c ∧ c ≤ 'F' then some (c.toNat - 'A'.toNat + 10)
  else none

/-- The number written by four hexadecimal digits. -/
def hexUnit? (a b c d : Char) : Option Nat := do
  let a ← hexValue? a
  let b ← hexValue? b
  let c ← hexValue? c
  let d ← hexValue? d
  pure (((a * 16 + b) * 16 + c) * 16 + d)

/-- The number written by four hexadecimal digits; `t` begins with them. -/
def leadingUnit? : Text → Option Nat
  | .char a :: .char b :: .char c :: .char d :: _ => hexUnit? a b c d
  | _ => none

/-- Four hexadecimal digits with at least one code point behind them; `u` is the rest of the text
from the letter `u` on. -/
def readUnit (u : Text) : Except Failure (Nat × Text) :=
  let rest := u.drop 5
  match leadingUnit? (u.drop 1) with
  | some n => if rest.isEmpty then fail .brokenUnicodeEscape u else .ok (n, rest)
  | none => fail .brokenUnicodeEscape u

/-- The code point of a number of four hexadecimal digits or of a surrogate pair; all of these have
one. -/
def pointOf (n : Nat) : CodePoint := (CodePoint.ofNat? n).getD '\uFFFD'

/-- The code point of an escape that begins with the letter `u`: two halves in a row make one
character. -/
def readUnicode (u : Text) : Except Failure (CodePoint × Text) := do
  let (n, rest) ← readUnit u
  match rest with
  | .char '\\' :: .char 'u' :: more =>
    if CodePoint.isHigh n ∧ 5 ≤ more.length then
      let (low, rest') ← readUnit (.char 'u' :: more)
      if CodePoint.isLow low then pure (pointOf (CodePoint.joinHalves n low), rest')
      else pure (pointOf n, rest)
    else pure (pointOf n, rest)
  | _ => pure (pointOf n, rest)

/-- The characters that a single letter behind a backslash stands for. -/
def letterEscape? : CodePoint → Option Char
  | .char '"' => some '"'
  | .char '\\' => some '\\'
  | .char '/' => some '/'
  | .char 'b' => some '\x08'
  | .char 'f' => some '\x0c'
  | .char 'n' => some '\n'
  | .char 'r' => some '\r'
  | .char 't' => some '\t'
  | _ => none

/-- The code points up to the closing quote; `opened` is the rest of the text from the opening
quote on. -/
def readPoints (opened : Text) : Nat → Text → Text → Except Failure (Text × Text)
  | 0, _, _ => fail .unterminatedText opened
  | fuel + 1, read, t =>
    match t with
    | [] => fail .unterminatedText opened
    | .char '"' :: rest => .ok (read.reverse, rest)
    | .char '\\' :: rest =>
      match rest with
      | [] => fail .unterminatedText opened
      | .char 'u' :: _ => do
        let (p, rest') ← readUnicode rest
        readPoints opened fuel (p :: read) rest'
      | p :: rest' =>
        match letterEscape? p with
        | some c => readPoints opened fuel (.char c :: read) rest'
        | none => fail .unknownEscape t
    | p :: rest =>
      if p.toNat < 0x20 then fail .controlCharacter t
      else readPoints opened fuel (p :: read) rest

/-- A text, where `t` begins behind the opening quote. -/
def readText (t : Text) : Except Failure (Text × Text) :=
  readPoints (.char '"' :: t) (t.length + 1) [] t

/-! ## Numbers -/

/-- The digits at the beginning of a text, and the rest. -/
def readDigits : Text → List Char × Text
  | .char c :: rest =>
    if c.isDigit then
      let (ds, rest') := readDigits rest
      (c :: ds, rest')
    else ([], .char c :: rest)
  | t => ([], t)

/-- The digits in front of the point, which do not begin with a zero unless it stands alone. -/
def readWhole (t : Text) : Option (List Char × Text) :=
  match t with
  | .char '0' :: rest => some (['0'], rest)
  | _ =>
    let (ds, rest) := readDigits t
    if ds.isEmpty then none else some (ds, rest)

/-- A point with digits behind it, or nothing. -/
def readPart (t : Text) : List Char × Text :=
  match t with
  | .char '.' :: rest =>
    let (ds, rest') := readDigits rest
    if ds.isEmpty then ([], t) else (ds, rest')
  | _ => ([], t)

/-- An optional sign in front of a text, as "is negative" and the rest. -/
def readSign : Text → Bool × Text
  | .char '-' :: rest => (true, rest)
  | .char '+' :: rest => (false, rest)
  | t => (false, t)

/-- A power of ten with digits, or nothing. -/
def readPower (t : Text) : Option Int × Text :=
  match t with
  | p :: rest =>
    if p = 'e' ∨ p = 'E' then
      let (negative, rest') := readSign rest
      let (ds, rest'') := readDigits rest'
      if ds.isEmpty then (none, t)
      else
        let n : Int := Nat.ofDigitChars 10 ds 0
        (some (if negative then -n else n), rest'')
    else (none, t)
  | [] => (none, t)

/-- A number: an integer unless a point or a power of ten is written. -/
def readNumber (t : Text) : Except Failure (Value × Text) :=
  let (negative, unsigned) : Bool × Text :=
    match t with
    | .char '-' :: rest => (true, rest)
    | _ => (false, t)
  match readWhole unsigned with
  | none => fail .expectingValue t
  | some (whole, afterWhole) =>
    let (part, afterPart) := readPart afterWhole
    let (power, rest) := readPower afterPart
    if part.isEmpty ∧ power.isNone then
      if Value.maxDigits < whole.length then .error .integerTooLong
      else
        let n : Int := Nat.ofDigitChars 10 whole 0
        .ok (.int (if negative then -n else n), rest)
    else
      let n : Numeral :=
        ⟨negative, Nat.ofDigitChars 10 (whole ++ part) 0, power.getD 0 - part.length⟩
      .ok (.float n.toBinary64, rest)

/-! ## Values -/

/-- The values that are written as a word. -/
def words : List (Text × Value) :=
  [("null", .null), ("true", .bool true), ("false", .bool false), ("NaN", .float .nan),
   ("Infinity", .float (.infinity false)), ("-Infinity", .float (.infinity true))]

def readWord? (t : Text) : Option (Value × Text) :=
  (words.find? fun w => w.1.isPrefixOf t).map fun w => (w.2, t.drop w.1.length)

mutual

/-- One value at the beginning of a text; `depth` is how many lists and objects may contain each
other in it. -/
def readValue : Nat → Nat → Text → Except Failure (Value × Text)
  | 0, _, t => fail .expectingValue t
  | fuel + 1, depth, t =>
    match t with
    | .char '"' :: rest => do
      let (s, rest') ← readText rest
      pure (.text s, rest')
    | .char '[' :: rest =>
      if depth = 0 then .error (.tooDeep .list)
      else
        match skipSpace rest with
        | .char ']' :: rest' => .ok (.list [], rest')
        | rest' => readItems fuel (depth - 1) [] rest'
    | .char '\x7b' :: rest =>
      if depth = 0 then .error (.tooDeep .object)
      else
        match skipSpace rest with
        | .char '\x7d' :: rest' => .ok (.object [], rest')
        | rest' => readFields fuel (depth - 1) [] rest'
    | _ =>
      match readWord? t with
      | some r => .ok r
      | none => readNumber t

/-- The items of a list from here to its closing bracket, behind the items already read. -/
def readItems : Nat → Nat → List Value → Text → Except Failure (Value × Text)
  | 0, _, _, t => fail .expectingValue t
  | fuel + 1, depth, read, t => do
    let (v, rest) ← readValue fuel depth t
    match skipSpace rest with
    | .char ']' :: rest' => pure (.list (v :: read).reverse, rest')
    | .char ',' :: rest' => readItems fuel depth (v :: read) (skipSpace rest')
    | rest' => fail .expectingComma rest'

/-- The fields of an object from here to its closing brace, behind the fields already read. -/
def readFields : Nat → Nat → Fields → Text → Except Failure (Value × Text)
  | 0, _, _, t => fail .expectingValue t
  | fuel + 1, depth, read, t =>
    match t with
    | .char '"' :: rest => do
      let (name, rest') ← readText rest
      match skipSpace rest' with
      | .char ':' :: afterColon =>
        let (v, afterValue) ← readValue fuel depth (skipSpace afterColon)
        let fields := Value.setField read name v
        match skipSpace afterValue with
        | .char '\x7d' :: rest'' => pure (.object fields, rest'')
        | .char ',' :: rest'' => readFields fuel depth fields (skipSpace rest'')
        | rest'' => fail .expectingComma rest''
      | rest'' => fail .expectingColon rest''
    | _ => fail .expectingName t

end

/-! ## Whole texts -/

/-- A defect of a text: what is wrong, and how many code points stand in front of it. -/
structure Defect where
  problem : Problem
  position : Nat

/-- A place in a text by its line and column, counted from one, and the number of code points in
front of it. -/
def place (t : Text) (position : Nat) : String :=
  let before := t.take position
  let line := before.count (.char '\n') + 1
  let lineStart := before.length - (before.reverse.takeWhile (· != .char '\n')).length
  ": line " ++ toString line ++ " column " ++ toString (position - lineStart + 1)
    ++ " (char " ++ toString position ++ ")"

/-- The wording of a defect of a text. -/
def Defect.message (d : Defect) (t : Text) : String :=
  d.problem.message ++ place t d.position

/-- Why a text is not read. -/
inductive ReadError where
  | malformed (d : Defect)
  | integerTooLong
  | tooDeep (c : Container)

/-- A list or an object that lies too deep is reported as a misuse of its own. -/
structure Overflow where
  label : String
  message : String

/-- How the depth of a text is refused, by the kind of what is too deep in it. -/
def Container.overflow (c : Container) : Overflow where
  label := "RecursionError"
  message :=
    "maximum recursion depth exceeded while decoding a JSON " ++ c.name ++ " from a unicode string"

/-- How many lists and objects may contain each other. -/
def maxNesting : Nat := 970

/-- The value of a whole text with lists and objects nested up to a limit. Each value takes at least
one code point, so the length of the text bounds the depth of the recursion. -/
def readWithin (limit : Nat) (t : Text) : Except ReadError Value :=
  let outcome := do
    let (v, rest) ← readValue (2 * t.length + 2) limit (skipSpace t)
    match skipSpace rest with
    | [] => pure v
    | rest' => fail .extraData rest'
  match outcome with
  | .ok v => .ok v
  | .error (.defect problem remaining) => .error (.malformed ⟨problem, t.length - remaining⟩)
  | .error .integerTooLong => .error .integerTooLong
  | .error (.tooDeep c) => .error (.tooDeep c)

/-- The value of a whole text. -/
def read (t : Text) : Except ReadError Value := readWithin maxNesting t

end Storefront.Json
