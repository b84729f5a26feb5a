import Storefront.Number.Shortest
import Storefront.Text.Quoted

/-!
# Payload values

What arrives in a request body, a setting, a stored record or a log field before it has been
validated: null, truth values, integers of any size, doubles, texts, byte strings, lists, and
objects whose fields keep their order.

* `Value.render`: the text of a value inside messages and filters.
* `Value.hasLongInt`: whether the text would need an integer too long to write.
-/

namespace Storefront

/-- A value of unknown shape. -/
inductive Value where
  | null
  | bool (b : Bool)
  | int (n : Int)
  | float (x : Binary64)
  | text (s : Text)
  | bytes (b : List UInt8)
  | list (items : List Value)
  | object (fields : List (Text × Value))

/-- The fields of an object, in their order. -/
abbrev Fields := List (Text × Value)

/-- The first field with this name. -/
def Fields.get? (fields : Fields) (name : Text) : Option Value := List.lookup name fields

namespace Value

instance : Inhabited Value := ⟨.null⟩

/-- The kinds of value, by the words that messages use for them. -/
def kindName : Value → String
  | .null => "NoneType"
  | .bool _ => "bool"
  | .int _ => "int"
  | .float _ => "float"
  | .text _ => "str"
  | .bytes _ => "bytes"
  | .list _ => "list"
  | .object _ => "dict"

/-- Whether a value counts as present where only that matters: null, false, zeros and everything
empty do not. -/
def truthy : Value → Bool
  | .null => false
  | .bool b => b
  | .int n => n != 0
  | .float x => !x.isZero
  | .text s => !s.isEmpty
  | .bytes b => !b.isEmpty
  | .list items => !items.isEmpty
  | .object fields => !fields.isEmpty

def text? : Value → Option Text
  | .text t => some t
  | _ => none

/-- The field of an object with this name. -/
def field? (name : Text) : Value → Option Value
  | .object fields => Fields.get? fields name
  | _ => none

def ofTexts (ss : List Text) : Value := .list (ss.map .text)

/-- Sets a field of an object: a new name goes to the end, a present one keeps its place. -/
def setField (fields : Fields) (name : Text) (v : Value) : Fields :=
  match fields with
  | [] => [(name, v)]
  | (k, w) :: rest => if k = name then (k, v) :: rest else (k, w) :: setField rest name v

/-- The fields without the one of a name. -/
def dropField (fields : Fields) (name : Text) : Fields := fields.filter fun f => f.1 != name

/-- Sets several fields, one after the other. -/
def setFields (fields changes : Fields) : Fields :=
  changes.foldl (fun fs c => setField fs c.1 c.2) fields

/-! ## Rendering -/

/-- The longest integer, in decimal digits, that has a text. -/
def maxDigits : Nat := 4300

/-- Whether an integer is too long to be written. -/
def isLong (n : Int) : Bool := Nat.pow 10 maxDigits ≤ n.natAbs

mutual

/-- The text of a value inside a list or an object: texts are quoted there. -/
def repr : Value → Text
  | .null => "None"
  | .bool b => if b then "True" else "False"
  | .int n => toString n
  | .float x => x.text
  | .text s => s.quoted
  | .bytes b => Text.quotedBytes b
  | .list items => "[" ++ Text.join ", " (reprItems items) ++ "]"
  | .object fields => "\x7b" ++ Text.join ", " (reprFields fields) ++ "\x7d"

def reprItems : List Value → List Text
  | [] => []
  | v :: rest => v.repr :: reprItems rest

def reprFields : List (Text × Value) → List Text
  | [] => []
  | (k, v) :: rest => (k.quoted ++ ": " ++ v.repr) :: reprFields rest

end

/-- The text of a value: a text is itself, and anything else is written as inside a list. -/
def render : Value → Text
  | .text s => s
  | v => v.repr

mutual

/-- Whether an integer that is too long to be written occurs in a value. -/
def hasLongInt : Value → Bool
  | .int n => isLong n
  | .list items => anyLongInt items
  | .object fields => anyFieldLongInt fields
  | _ => false

def anyLongInt : List Value → Bool
  | [] => false
  | v :: rest => v.hasLongInt || anyLongInt rest

def anyFieldLongInt : List (Text × Value) → Bool
  | [] => false
  | (_, v) :: rest => v.hasLongInt || anyFieldLongInt rest

end

end Value

end Storefront
