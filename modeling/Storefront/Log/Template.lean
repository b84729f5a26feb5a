import Storefront.Number.Decimals
import Storefront.Value.Access

/-!
# Message templates

The text of a log entry may hold conversions, which are filled in from arguments: a percent sign,
an optional field name in parentheses, flags, a width, a precision, and a letter that says how the
argument is written. The arguments are taken one after the other, or by name from one object.

* `Template.pieces`: the characters and conversions of a template.
* `Template.fill`: the text that a template and its arguments make, or the first mistake.

A template is read as far as possible before an argument is looked at, but mistakes are reported in
the order in which they stand in the template.
-/

namespace Storefront.Log.Template

/-! ## Mistakes -/

/-- What is wrong with a template or with an argument. -/
inductive Mistake where
  | objectNeeded
  | unfinishedName
  | unfinished
  | tooFewArguments
  | unusedArguments
  | sizeNotWhole
  | widthTooBig
  | precisionTooBig
  | widthArgumentTooBig
  | precisionArgumentTooBig
  | tooManyDigits
  | tooWide
  | notReal (letter : Char) (v : Value)
  | notWhole (letter : Char) (v : Value)
  | notDouble (v : Value)
  | nanToInteger
  | infinityToInteger
  | notCharacter
  | beyondCharacters
  | unknownLetter (letter : CodePoint) (position : Nat)
  | misuse (m : Misuse)

namespace Mistake

def label : Mistake → String
  | .unfinishedName | .unfinished | .widthTooBig | .precisionTooBig | .nanToInteger
  | .unknownLetter _ _ => "ValueError"
  | .widthArgumentTooBig | .precisionArgumentTooBig | .infinityToInteger
  | .tooManyDigits | .beyondCharacters => "OverflowError"
  | .tooWide => "MemoryError"
  | .objectNeeded | .tooFewArguments | .unusedArguments | .sizeNotWhole | .notReal _ _
  | .notWhole _ _ | .notDouble _ | .notCharacter => "TypeError"
  | .misuse m => m.label

/-- The letter of an unknown conversion, where it can be shown. -/
def shownLetter (p : CodePoint) : CodePoint := if 31 ≤ p.toNat ∧ p.toNat < 127 then p else '?'

def message : Mistake → Text
  | .objectNeeded => "format requires a mapping"
  | .unfinishedName => "incomplete format key"
  | .unfinished => "incomplete format"
  | .tooFewArguments => "not enough arguments for format string"
  | .unusedArguments => "not all arguments converted during string formatting"
  | .sizeNotWhole => "* wants int"
  | .widthTooBig => "width too big"
  | .precisionTooBig => "precision too big"
  | .widthArgumentTooBig => "Python int too large to convert to C ssize_t"
  | .precisionArgumentTooBig => "Python int too large to convert to C int"
  | .tooManyDigits => "precision too large"
  | .tooWide => ""
  | .notReal letter v =>
    "%" ++ String.singleton letter ++ " format: a real number is required, not " ++ v.kindName
  | .notWhole letter v =>
    "%" ++ String.singleton letter ++ " format: an integer is required, not " ++ v.kindName
  | .notDouble v => "must be real number, not " ++ v.kindName
  | .nanToInteger => "cannot convert float NaN to integer"
  | .infinityToInteger => "cannot convert float infinity to integer"
  | .notCharacter => "%c requires int or char"
  | .beyondCharacters => "%c arg not in range(0x110000)"
  | .unknownLetter letter position =>
    "unsupported format character '" ++ [shownLetter letter] ++ "' (0x"
      ++ Text.ofChars (Nat.toDigits 16 letter.toNat) ++ ") at index " ++ toString position
  | .misuse m => m.message

end Mistake

/-! ## Conversions -/

/-- The flags of a conversion. -/
structure Flags where
  left : Bool
  plus : Bool
  blank : Bool
  alternate : Bool
  zeros : Bool

/-- A width or a precision. -/
inductive Amount where
  | absent
  | given (n : Nat)
  | argument

/-- The name of a field in a conversion. -/
inductive FieldName where
  | absent
  | given (name : Text)
  | unfinished

/-- A conversion as it stands in the template. The letter is missing where the template ends too
early; its position counts the characters in front of it. -/
structure Conversion where
  name : FieldName
  flags : Flags
  width : Amount
  precision : Amount
  letter : Option CodePoint
  position : Nat

inductive Piece where
  | literal (p : CodePoint)
  | conversion (c : Conversion)

/-- The name up to the parenthesis that closes it; parentheses inside are balanced. -/
def readName (depth : Nat) (name : Text) : Text → FieldName × Text
  | [] => (.unfinished, [])
  | p :: rest =>
    if p = ')' ∧ depth = 0 then (.given name.reverse, rest)
    else readName (if p = '(' then depth + 1 else if p = ')' then depth - 1 else depth)
      (p :: name) rest

def readFlags (f : Flags) : Text → Flags × Text
  | [] => (f, [])
  | p :: rest =>
    if p = '-' then readFlags { f with left := true } rest
    else if p = '+' then readFlags { f with plus := true } rest
    else if p = ' ' then readFlags { f with blank := true } rest
    else if p = '#' then readFlags { f with alternate := true } rest
    else if p = '0' then readFlags { f with zeros := true } rest
    else (f, p :: rest)

def readDigits (n : Nat) : Text → Nat × Text
  | [] => (n, [])
  | p :: rest =>
    if p.isDigit then readDigits (n * 10 + (p.toNat - '0'.toNat)) rest else (n, p :: rest)

/-- A star or digits; `otherwise` is the amount where there is neither. -/
def readAmount (otherwise : Amount) (t : Text) : Amount × Text :=
  match t with
  | .char '*' :: rest => (.argument, rest)
  | p :: rest =>
    if p.isDigit then
      let (n, rest') := readDigits 0 (p :: rest)
      (.given n, rest')
    else (otherwise, p :: rest)
  | [] => (otherwise, [])

/-- A point with a precision behind it; a point alone is a precision of zero. -/
def readPrecision (t : Text) : Amount × Text :=
  match t with
  | .char '.' :: rest => readAmount (.given 0) rest
  | _ => (.absent, t)

/-- A letter for the size of a number says nothing. -/
def skipSize (t : Text) : Text :=
  match t with
  | p :: rest => if p = 'h' ∨ p = 'l' ∨ p = 'L' then rest else t
  | [] => []

/-- The conversion behind a percent sign, and what is left; `total` is the length of the whole
template. -/
def readConversion (total : Nat) (t : Text) : Conversion × Text :=
  let (name, t) : FieldName × Text :=
    match t with
    | .char '(' :: rest => readName 0 [] rest
    | _ => (.absent, t)
  let (flags, t) := readFlags ⟨false, false, false, false, false⟩ t
  let (width, t) := readAmount .absent t
  let (precision, t) := readPrecision t
  match skipSize t with
  | [] => (⟨name, flags, width, precision, none, total⟩, [])
  | p :: rest => (⟨name, flags, width, precision, some p, total - (rest.length + 1)⟩, rest)

/-- The pieces of a template; every piece takes a character at least, so the length of the template
is fuel enough. -/
def piecesAux (total : Nat) : Nat → Text → List Piece
  | 0, _ => []
  | _ + 1, [] => []
  | fuel + 1, p :: rest =>
    if p = '%' then
      match rest with
      | .char '%' :: rest' => .literal (.char '%') :: piecesAux total fuel rest'
      | _ =>
        let (conversion, rest') := readConversion total rest
        .conversion conversion :: piecesAux total fuel rest'
    else .literal p :: piecesAux total fuel rest

def pieces (template : Text) : List Piece :=
  piecesAux template.length template.length template

/-! ## Arguments -/

/-- The arguments that are left: the value that names are looked up in, and the values that are
taken one after the other. -/
structure Arguments where
  container : Option Value
  rest : List Value

namespace Arguments

/-- One object that is not empty is looked into by name; it also serves as a single argument. -/
def ofList (vs : List Value) : Arguments :=
  match vs with
  | [.object (f :: fs)] => ⟨some (.object (f :: fs)), vs⟩
  | _ => ⟨none, vs⟩

/-- A single argument that is not in a list. Whatever has parts other than characters is looked into
by name. -/
def ofValue (v : Value) : Arguments :=
  match v with
  | .object _ | .list _ | .bytes _ => ⟨some v, [v]⟩
  | _ => ⟨none, [v]⟩

def take (a : Arguments) : Except Mistake (Value × Arguments) :=
  match a.rest with
  | v :: rest => .ok (v, { a with rest := rest })
  | [] => .error .tooFewArguments

/-- Makes the field that a conversion names the only argument. -/
def select (a : Arguments) (name : FieldName) : Except Mistake Arguments :=
  match name, a.container with
  | .absent, _ => .ok a
  | _, none => .error .objectNeeded
  | .unfinished, some _ => .error .unfinishedName
  | .given name, some container =>
    ((container.get name).mapError .misuse).map fun v => { a with rest := [v] }

end Arguments

/-- The integer of an argument that stands for a width or a precision. -/
def wholeArgument (v : Value) : Except Mistake Int :=
  match v with
  | .int n => .ok n
  | .bool b => .ok (if b then 1 else 0)
  | _ => .error .sizeNotWhole

/-- The width of a conversion, and whether it asks for alignment to the left. Widths have 64 bits with
their sign. -/
def takeWidth (a : Arguments) : Amount → Except Mistake (Nat × Bool × Arguments)
  | .absent => .ok (0, false, a)
  | .given n => if n < 9223372036854775808 then .ok (n, false, a) else .error .widthTooBig
  | .argument => do
    let (v, a) ← a.take
    let n ← wholeArgument v
    if -9223372036854775808 ≤ n ∧ n < 9223372036854775808 then pure (n.natAbs, decide (n < 0), a)
    else throw .widthArgumentTooBig

/-- The precision of a conversion, if there is one; a negative one counts as zero. Precisions have 32
bits with their sign. -/
def takePrecision (a : Arguments) : Amount → Except Mistake (Option Nat × Arguments)
  | .absent => .ok (none, a)
  | .given n => if n < 2147483648 then .ok (some n, a) else .error .precisionTooBig
  | .argument => do
    let (v, a) ← a.take
    let n ← wholeArgument v
    if -2147483648 ≤ n ∧ n < 2147483648 then pure (some n.toNat, a)
    else throw .precisionArgumentTooBig

/-! ## Writing arguments -/

/-- A text that was made from an argument, before it is padded. Numbers have a sign and a base mark
in front, and zeros may be put behind these. -/
inductive Body where
  | plain (t : Text)
  | number (negative : Bool) (mark : List Char) (digits : List Char)

/-- A text with only ASCII characters, the others escaped. -/
def asciiText (t : Text) : Text :=
  t.flatMap fun p => if p.toNat < 128 then [p] else Text.ofChars (Text.hexEscape p.toNat)

/-- A text, cut off behind the precision. -/
def cut (precision : Option Nat) (t : Text) : Body :=
  .plain (match precision with
    | some n => t.take n
    | none => t)

/-- The integer of an argument; doubles lose their fraction. -/
def toWhole (letter : Char) (v : Value) : Except Mistake Int :=
  match v with
  | .int n => .ok n
  | .bool b => .ok (if b then 1 else 0)
  | .float .nan => .error .nanToInteger
  | .float (.infinity _) => .error .infinityToInteger
  | .float (.finite negative m) =>
    .ok (Binary64.signed negative (m.units / Binary64.unitsPerOne))
  | _ => .error (.notReal letter v)

/-- The integer of an argument that has to be one. -/
def toExactWhole (letter : Char) (v : Value) : Except Mistake Int :=
  match v with
  | .int n => .ok n
  | .bool b => .ok (if b then 1 else 0)
  | _ => .error (.notWhole letter v)

/-- The most digits that an integer can be given. -/
def mostDigits : Nat := 2147483644

/-- The digits of an integer in some base, with zeros in front up to the precision. -/
def whole (base : Nat) (mark : List Char) (precision : Option Nat) (n : Int) :
    Except Mistake Body :=
  if mostDigits < precision.getD 0 then .error .tooManyDigits
  else if base = 10 ∧ Value.isLong n then .error (.misuse .integerTooLong)
  else
    let ds := Nat.toDigits base n.natAbs
    .ok (.number (n < 0) mark (List.replicate (precision.getD 0 - ds.length) '0' ++ ds))

/-- The double of an argument. -/
def toDouble (v : Value) : Except Mistake Binary64 :=
  match v with
  | .bool _ | .int _ | .float _ => v.toBinary64.mapError .misuse
  | _ => .error (.notDouble v)

/-- The digits of a double by one of the three styles; six decimals where no precision is given. -/
def double (style : Magnitude → DecimalStyle → List Char) (f : Flags) (precision : Option Nat)
    (x : Binary64) : Body :=
  match x with
  | .nan => .number false [] ['n', 'a', 'n']
  | .infinity negative => .number negative [] ['i', 'n', 'f']
  | .finite negative m => .number negative [] (style m ⟨precision.getD 6, f.alternate⟩)

def toCharacter (v : Value) : Except Mistake CodePoint :=
  match v with
  | .text [p] => .ok p
  | .int n => ofCode n
  | .bool b => ofCode (if b then 1 else 0)
  | _ => .error .notCharacter
where
  ofCode (n : Int) : Except Mistake CodePoint :=
    match if n < 0 then none else CodePoint.ofNat? n.toNat with
    | some p => .ok p
    | none => .error .beyondCharacters

def upperBody : Body → Body
  | .plain t => .plain t
  | .number negative mark ds => .number negative (mark.map Char.toUpper) (ds.map Char.toUpper)

/-- The text of an argument by the letter of the conversion; `none` for an unknown letter. -/
def body? (letter : Char) (f : Flags) (precision : Option Nat) (v : Value) :
    Option (Except Mistake Body) :=
  let mark (c : Char) : List Char := if f.alternate then ['0', c] else []
  match letter with
  | 's' => some ((v.render?.mapError .misuse).map fun s => cut precision s)
  | 'r' => some ((v.repr?.mapError .misuse).map fun s => cut precision s)
  | 'a' => some ((v.repr?.mapError .misuse).map fun s => cut precision (asciiText s))
  | 'd' | 'i' | 'u' => some (toWhole letter v >>= whole 10 [] precision)
  | 'o' => some (toExactWhole letter v >>= whole 8 (mark 'o') precision)
  | 'x' => some (toExactWhole letter v >>= whole 16 (mark 'x') precision)
  | 'X' => some ((toExactWhole letter v >>= whole 16 (mark 'x') precision).map upperBody)
  | 'e' => some ((toDouble v).map (double Magnitude.scientific f precision))
  | 'E' => some ((toDouble v).map (upperBody ∘ double Magnitude.scientific f precision))
  | 'f' => some ((toDouble v).map (double Magnitude.fixed f precision))
  | 'F' => some ((toDouble v).map (upperBody ∘ double Magnitude.fixed f precision))
  | 'g' => some ((toDouble v).map (double Magnitude.general f precision))
  | 'G' => some ((toDouble v).map (upperBody ∘ double Magnitude.general f precision))
  | 'c' => some ((toCharacter v).map fun p => .plain [p])
  | _ => none

/-- A body with its sign, padded to the width: with blanks in front, or with blanks behind it, or
for numbers with zeros behind the sign and the base mark. -/
def pad (f : Flags) (width : Nat) : Body → Text
  | .plain t => blanks t
  | .number negative mark ds =>
    let sign := if negative then ['-'] else if f.plus then ['+'] else if f.blank then [' '] else []
    let front : List Char := sign ++ mark
    if f.zeros && !f.left then
      Text.ofChars (front ++ List.replicate (width - (front.length + ds.length)) '0' ++ ds)
    else blanks (Text.ofChars (front ++ ds))
where
  blanks (t : Text) : Text :=
    let gap : Text := List.replicate (width - t.length) (.char ' ')
    if f.left then t ++ gap else gap ++ t

/-! ## Filling in -/

/-- The width up from which there is no memory for a text. -/
def widest : Nat := 1099511627776

/-- Carries out one conversion. An unknown letter takes its argument before it is found to be
unknown. -/
def convert (c : Conversion) (a : Arguments) : Except Mistake (Text × Arguments) := do
  let a ← a.select c.name
  let (width, left, a) ← takeWidth a c.width
  let (precision, a) ← takePrecision a c.precision
  let flags := { c.flags with left := c.flags.left || left }
  match c.letter with
  | none => throw .unfinished
  | some letter =>
    let (v, a) ← a.take
    match letter.char?.bind fun c => body? c flags precision v with
    | some result =>
      let body ← result
      if widest ≤ width then throw .tooWide
      pure (pad flags width body, a)
    | none => throw (.unknownLetter letter c.position)

/-- Goes through the pieces. Unless arguments are looked up by name, all of them have to be taken in
the end. -/
def fillPieces (a : Arguments) : List Piece → Except Mistake Text
  | [] => if a.container.isNone && !a.rest.isEmpty then .error .unusedArguments else .ok []
  | .literal p :: rest => (fillPieces a rest).map (p :: ·)
  | .conversion c :: rest => do
    let (t, a) ← convert c a
    let more ← fillPieces a rest
    pure (t ++ more)

/-- The text that a template and some arguments make. -/
def fillWith (template : Text) (a : Arguments) : Except Mistake Text := fillPieces a (pieces template)

/-- The text that a template and a list of arguments make. Without arguments it is the template
itself, percent signs included. -/
def fill (template : Text) (arguments : List Value) : Except Mistake Text :=
  if arguments.isEmpty then .ok template else fillWith template (.ofList arguments)

end Storefront.Log.Template
