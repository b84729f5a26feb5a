import Storefront.Value.Access

/-!
# Product attributes

Colors and sizes are closed sets. Each name has a code, and stored vectors and filters both use the
codes, so they are never renumbered.

* `Color.code`, `Size.code`: the codes.
* `Attribute.encode`: the code of a name given as a value of unknown shape.
-/

namespace Storefront

inductive Color where
  | white
  | beige
  | blue
  | green
  | purple
deriving DecidableEq

namespace Color

def all : List Color := [.white, .beige, .blue, .green, .purple]

def name : Color → String
  | .white => "white"
  | .beige => "beige"
  | .blue => "blue"
  | .green => "green"
  | .purple => "purple"

/-- The name with a capital letter, as in the names of products. -/
def title : Color → String
  | .white => "White"
  | .beige => "Beige"
  | .blue => "Blue"
  | .green => "Green"
  | .purple => "Purple"

def code : Color → Nat
  | .white => 0
  | .beige => 1
  | .blue => 2
  | .green => 3
  | .purple => 4

def ofName? (t : Text) : Option Color := all.find? fun c => t == c.name

end Color

inductive Size where
  | small
  | medium
  | large
deriving DecidableEq

namespace Size

def all : List Size := [.small, .medium, .large]

def name : Size → String
  | .small => "S"
  | .medium => "M"
  | .large => "L"

def code : Size → Nat
  | .small => 0
  | .medium => 1
  | .large => 2

def ofName? (t : Text) : Option Size := all.find? fun s => t == s.name

end Size

/-- The attributes with closed sets of names. -/
inductive Attribute where
  | color
  | size
deriving DecidableEq

/-- A value that names no color or no size. -/
structure UnknownName where
  family : Attribute
  value : Value

namespace Attribute

def name : Attribute → String
  | .color => "color"
  | .size => "size"

/-- The code of a name of the attribute. -/
def codeOf? : Attribute → Text → Option Nat
  | .color, s => (Color.ofName? s).map Color.code
  | .size, s => (Size.ofName? s).map Size.code

end Attribute

def UnknownName.message (u : UnknownName) : Text :=
  "Unknown " ++ u.family.name ++ " value: " ++ u.value.repr

/-- Why a value has no code. -/
inductive EncodingError where
  | unknown (u : UnknownName)
  | misuse (m : Misuse)

namespace Attribute

/-- The code of a value that names a color or a size. The message about any other value quotes it,
which an integer too long to be written prevents. -/
def encode (a : Attribute) (v : Value) : Except EncodingError Nat :=
  let unknown : EncodingError := if v.hasLongInt then .misuse .integerTooLong else .unknown ⟨a, v⟩
  match v with
  | .text s =>
    match a.codeOf? s with
    | some n => .ok n
    | none => .error unknown
  | _ => .error unknown

end Attribute

/-! ## Product vectors -/

/-- The vector of a product record: the codes of its color and size, and its price. -/
structure ProductVector where
  color : Nat
  size : Nat
  price : Binary64
deriving DecidableEq

namespace ProductVector

def toValue (v : ProductVector) : Value := .list [.int v.color, .int v.size, .float v.price]

/-- Looks up color, size and price of a record and encodes them, each before the next is looked
up. -/
def ofRecord (record : Value) : Except EncodingError ProductVector := do
  let color ← (record.get Attribute.color.name).mapError .misuse
  let colorCode ← Attribute.color.encode color
  let size ← (record.get Attribute.size.name).mapError .misuse
  let sizeCode ← Attribute.size.encode size
  let price ← (record.get "price").mapError .misuse
  let amount ← price.toBinary64.mapError .misuse
  pure ⟨colorCode, sizeCode, amount⟩

end ProductVector

end Storefront
