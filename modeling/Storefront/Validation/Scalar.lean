import Storefront.Validation.Issue
import Storefront.Number.Loose
import Storefront.Text.Utf8

/-!
# Checking scalars

Settings come from texts and stored matches from elsewhere, so a value of a related kind is
accepted where its meaning is plain: integral doubles as integers, numbers in texts, byte strings
as the texts they encode.
-/

namespace Storefront.Validation

/-- The integers of 64 bits, from `-2 ^ 63` up to below `2 ^ 63`. -/
def fits64 (n : Int) : Bool := -9223372036854775808 ≤ n && n < 9223372036854775808

/-- The integers between the ends of that range; doubles at its ends are not taken for integers. -/
def isInside64 (n : Int) : Bool := -9223372036854775808 < n && n < 9223372036854775808

/-- The characters of a text; numbers and names are not read from halves of surrogate pairs. -/
def characters (t : Text) : Except Flaw (List Char) :=
  match t.chars? with
  | some cs => .ok cs
  | none => .error .textUnicode

/-- The characters of a byte string that is UTF-8. -/
def characters? (bytes : List UInt8) : Option (List Char) := (Text.utf8? bytes).bind Text.chars?

/-- A number in a text without the white space around it. -/
def trim (cs : List Char) : List Char := Text.stripWhile (fun c => Text.isWhite c) cs

/-! ## Truth values -/

def falseWords : List String := ["0", "off", "f", "false", "n", "no"]

def trueWords : List String := ["1", "on", "t", "true", "y", "yes"]

/-- Zero is false and one is true; other integers mean nothing. -/
def truthOfInt (n : Int) : Except Flaw Bool :=
  if n = 0 then .ok false
  else if n = 1 then .ok true
  else .error .boolParsing

/-- A word for a truth value, in any case of ASCII letters. -/
def truthOfText (cs : List Char) : Except Flaw Bool :=
  let word := String.ofList (cs.map Char.toLower)
  if falseWords.contains word then .ok false
  else if trueWords.contains word then .ok true
  else .error .boolParsing

/-- A truth value, or a number or a word for one. Numbers beyond 64 bits are none to choose by. -/
def truthValue (v : Value) : Except Flaw Bool :=
  match v with
  | .bool b => .ok b
  | .int n => if fits64 n then truthOfInt n else .error .boolType
  | .float x =>
    match x.toInt? with
    | some n => if isInside64 n then truthOfInt n else .error .boolType
    | none => .error .boolType
  | .text t => characters t >>= truthOfText
  | .bytes b =>
    match characters? b with
    | some cs => truthOfText cs
    | none => .error .boolParsing
  | _ => .error .boolType

/-! ## Numbers in texts -/

/-- The text without underscores; there is none where an underscore stands at an end or beside
another one, or where there is no underscore. -/
def dropUnderscores? (cs : List Char) : Option (List Char) :=
  let doubled := (cs.zip (cs.drop 1)).any fun (a, b) => a == '_' && b == '_'
  if !cs.contains '_' ∨ cs.head? = some '_' ∨ cs.getLast? = some '_' ∨ doubled then none
  else some (cs.filter (· != '_'))

/-- A text that begins with a digit, without the zeros at its beginning and the underscores among
them. One zero stays in front of a point or at the end of the text. -/
def dropLeadingZeros? (cs : List Char) : Option (List Char) :=
  match cs with
  | '0' :: rest =>
    match rest.dropWhile fun c => c == '0' || c == '_' with
    | [] => some (cs.drop (cs.length - 1))
    | c :: more => some (if c = '.' then cs.drop (cs.length - (more.length + 2)) else c :: more)
  | c :: _ => if c.isDigit then some cs else none
  | [] => none

/-- The text in front of a point that zeros follow, and nothing else. -/
def dropZeroPart (cs : List Char) : List Char :=
  let whole := cs.takeWhile (· != '.')
  match cs.drop whole.length with
  | _ :: zeros => if !zeros.isEmpty && zeros.all (· == '0') then whole else cs
  | [] => cs

/-- The text of an integer in its plain form: white space around it, a plus sign, zeros in front,
a point with zeros behind it and single underscores are dropped. A minus sign stands in front of all
digits, or behind zeros that are dropped. -/
def plainForm? (cs : List Char) : Option (List Char) := do
  let trimmed := trim cs
  let (sign, unsigned) ←
    match trimmed with
    | '+' :: '-' :: _ => none
    | '+' :: rest => some ([], rest)
    | '-' :: rest => some (['-'], rest)
    | _ => some ([], trimmed)
  let digits ← dropLeadingZeros? unsigned
  let whole := dropZeroPart digits
  pure (sign ++ (dropUnderscores? whole).getD whole)

/-- An integer in its plain form: a minus sign or none, and digits of which the first is no zero
unless it stands alone. Too many digits are noticed before anything behind them. -/
def plainInteger (cs : List Char) : Except Flaw Int :=
  let (negative, unsigned) :=
    match cs with
    | '-' :: rest => (true, rest)
    | _ => (false, cs)
  let digits := unsigned.takeWhile Char.isDigit
  let isPlain := digits == ['0'] || (!digits.isEmpty && digits.head? != some '0')
  if !isPlain then .error .intParsing
  else if Value.maxDigits < digits.length then .error .intParsingSize
  else if digits.length < unsigned.length then .error .intParsing
  else
    let n : Int := Nat.ofDigitChars 10 digits 0
    .ok (if negative then -n else n)

/-- The integer that a text stands for. -/
def integerOfText (cs : List Char) : Except Flaw Int :=
  match plainForm? cs with
  | some plain => plainInteger plain
  | none => .error .intParsing

/-- A double in a text, with white space around it; single underscores inside are dropped. -/
def doubleInText? (cs : List Char) : Option Binary64 :=
  (Binary64.read? (trim cs)).or
    ((dropUnderscores? cs).bind Binary64.read?)

def doubleOfText (cs : List Char) : Except Flaw Binary64 :=
  match doubleInText? cs with
  | some x => .ok x
  | none => .error .floatParsing

/-! ## Numbers -/

def integer (v : Value) : Except Flaw Int :=
  match v with
  | .int n => .ok n
  | .bool b => .ok (if b then 1 else 0)
  | .float x =>
    if !x.isFinite then .error .finiteNumber
    else
      match x.toInt? with
      | some n => if isInside64 n then .ok n else .error .intParsingSize
      | none => .error .intFromFloat
  | .text t => characters t >>= integerOfText
  | .bytes b =>
    match characters? b with
    | some cs => integerOfText cs
    | none => .error .intParsing
  | _ => .error .intType

def double (v : Value) : Except Flaw Binary64 :=
  match v with
  | .float x => .ok x
  | .int n =>
    match Binary64.ofInt? n with
    | some x => .ok x
    | none => .error .floatType
  | .bool b => .ok (if b then .one else .zero)
  | .text t => characters t >>= doubleOfText
  | .bytes b =>
    match characters? b with
    | some cs => doubleOfText cs
    | none => .error .floatParsing
  | _ => .error .floatType

/-! ## Texts and names -/

def text (v : Value) : Except Flaw Text :=
  match v with
  | .text t => .ok t
  | .bytes b =>
    match Text.utf8? b with
    | some t => .ok t
    | none => .error .textUnicode
  | _ => .error .textType

/-- The member of a closed set that a value names. -/
def member {α : Type} (all : List α) (name : α → String) (v : Value) : Except Flaw α :=
  let find (cs : Option (List Char)) : Except Flaw α :=
    match all.find? fun a => cs == some (name a).toList with
    | some a => .ok a
    | none => .error (.notAmong (all.map name))
  match v with
  | .text t => characters t >>= fun cs => find (some cs)
  | .bytes b => find (characters? b)
  | _ => find none

/-! ## Bounds -/

def intAtLeast (bound : Nat) (n : Int) : Except Flaw Int :=
  if (bound : Int) ≤ n then .ok n else .error (.below bound)

def intAtMost (bound : Nat) (n : Int) : Except Flaw Int :=
  if n ≤ (bound : Int) then .ok n else .error (.above bound)

/-- A natural number as a double; bounds are small enough to be one. -/
def boundOf (bound : Nat) : Binary64 := Binary64.nearest false bound 1

def doubleAtLeast (bound : Nat) (x : Binary64) : Except Flaw Binary64 :=
  if (boundOf bound).le x then .ok x else .error (.below bound)

def doubleAbove (bound : Nat) (x : Binary64) : Except Flaw Binary64 :=
  if (boundOf bound).lt x then .ok x else .error (.notAbove bound)

def doubleAtMost (bound : Nat) (x : Binary64) : Except Flaw Binary64 :=
  if x.le (boundOf bound) then .ok x else .error (.above bound)

end Storefront.Validation
