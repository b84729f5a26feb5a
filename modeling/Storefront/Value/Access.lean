import Storefront.Value.Basic
import Storefront.Number.Loose

/-!
# Using a value of unknown shape

Looking up a field, going through the items, or reading a number can fail when the value does not
have the shape for it. `Misuse` lists the ways, and each operation says when which one arises.
-/

namespace Storefront

/-- A use that the shape of a value does not allow. -/
inductive Misuse where
  | missingField (name : Text)
  | notIndexedByName (v : Value)
  | noMember (owner : String) (name : String)
  | notIterable (v : Value)
  | notHashable (v : Value)
  | notNumeric (v : Value)
  | unreadableNumber (v : Value)
  | numberTooLarge
  | integerTooLong

namespace Misuse

/-- The class of a misuse in logs and answers. -/
def label : Misuse → String
  | .missingField _ => "KeyError"
  | .noMember _ _ => "AttributeError"
  | .numberTooLarge => "OverflowError"
  | .unreadableNumber _ | .integerTooLong => "ValueError"
  | .notIndexedByName _ | .notIterable _ | .notHashable _ | .notNumeric _ => "TypeError"

def message : Misuse → Text
  | .missingField name => name.quoted
  | .notIndexedByName (.list _) => "list indices must be integers or slices, not str"
  | .notIndexedByName (.text _) => "string indices must be integers, not 'str'"
  | .notIndexedByName (.bytes _) => "byte indices must be integers or slices, not str"
  | .notIndexedByName v => "'" ++ v.kindName ++ "' object is not subscriptable"
  | .noMember owner name => "'" ++ owner ++ "' object has no attribute '" ++ name ++ "'"
  | .notIterable v => "'" ++ v.kindName ++ "' object is not iterable"
  | .notHashable v => "unhashable type: '" ++ v.kindName ++ "'"
  | .notNumeric v => "float() argument must be a string or a real number, not '" ++ v.kindName ++ "'"
  | .unreadableNumber v => "could not convert string to float: " ++ v.repr
  | .numberTooLarge => "int too large to convert to float"
  | .integerTooLong =>
    "Exceeds the limit (" ++ toString Value.maxDigits ++ " digits) for integer string conversion; "
      ++ "use sys.set_int_max_str_digits() to increase the limit"

end Misuse

namespace Value

/-- The field of an object that has to be there. -/
def get (v : Value) (name : Text) : Except Misuse Value :=
  match v with
  | .object fields =>
    match Fields.get? fields name with
    | some w => .ok w
    | none => .error (.missingField name)
  | _ => .error (.notIndexedByName v)

/-- The field of an object, with a default where it is missing. -/
def getD (v : Value) (name : Text) (default : Value) : Except Misuse Value :=
  match v with
  | .object fields => .ok ((Fields.get? fields name).getD default)
  | _ => .error (.noMember v.kindName "get")

/-- What there is to go through in a value: items, characters, byte values or field names. -/
def items : Value → Except Misuse (List Value)
  | .list vs => .ok vs
  | .text s => .ok (s.map fun p => .text [p])
  | .bytes b => .ok (b.map fun x => .int x.toNat)
  | .object fields => .ok (fields.map fun (k, _) => .text k)
  | v => .error (.notIterable v)

/-- The text of a value, unless it needs an integer that is too long to be written. -/
def render? (v : Value) : Except Misuse Text :=
  if v.hasLongInt then .error .integerTooLong else .ok v.render

/-- The text that shows what a value is, with the same limit. -/
def repr? (v : Value) : Except Misuse Text :=
  if v.hasLongInt then .error .integerTooLong else .ok v.repr

/-- The integer that a number or a truth value equals. -/
def whole? : Value → Option Int
  | .bool b => some (if b then 1 else 0)
  | .int n => some n
  | .float x => x.toInt?
  | _ => none

/-- The double that a value stands for: numbers, truth values, and numbers in text. -/
def toBinary64 (v : Value) : Except Misuse Binary64 :=
  match v with
  | .bool b => .ok (if b then Binary64.one else .zero)
  | .float x => .ok x
  | .int n => (Binary64.ofInt? n).elim (.error .numberTooLarge) .ok
  | .text s => orUnreadable (Binary64.readLoose? s)
  | .bytes b => orUnreadable (Binary64.readLooseBytes? b)
  | _ => .error (.notNumeric v)
where
  orUnreadable (x : Option Binary64) : Except Misuse Binary64 :=
    match x with
    | some x => .ok x
    | none => .error (.unreadableNumber v)

end Value

end Storefront
