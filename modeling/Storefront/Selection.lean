import Storefront.Product
import Storefront.SortMode

/-!
# Filter selections

A selection says which colors, sizes and prices a product may have and in which order results are
wanted. `Selection.parse` reads one from a payload of unknown shape.

Names that are no color or size are looked for first and reported on their own; all other defects
of the payload are reported together. Colors and sizes keep the order of the payload without
repetitions, and an empty list selects no product.
-/

namespace Storefront

open Validation (Step Flaw Issue Checked)

/-- The prices from `low` to `high`, both included. -/
structure PriceRange where
  low : Price
  high : Binary64
  low_le_high : low.amount.le high = true
  high_finite : high.isFinite = true
deriving DecidableEq

/-- Whether a price lies in the range. -/
def PriceRange.contains (r : PriceRange) (x : Binary64) : Bool := r.low.amount.le x && x.le r.high

/-- One request's filter. -/
structure Selection where
  colors : List Color
  sizes : List Size
  price : PriceRange
  sort : SortMode
deriving DecidableEq

/-- Why a payload is not a selection. The last case is not about the payload's form: an integer
price beyond the largest double stops the check of the price range. -/
inductive SelectionError where
  | notAnObject
  | unknownName (u : UnknownName)
  | invalid (issues : List Issue)
  | priceTooLarge

namespace SelectionError

def label : SelectionError → String
  | .notAnObject | .invalid _ => "InvalidFilterPayload"
  | .unknownName _ => "UnknownAttributeValue"
  | .priceTooLarge => Misuse.numberTooLarge.label

def message : SelectionError → Text
  | .notAnObject => "Filter payload must be a JSON object"
  | .unknownName u => u.message
  | .invalid issues => Text.join "; " (issues.map fun i => i.describe "payload")
  | .priceTooLarge => Misuse.numberTooLarge.message

/-- Whether the payload is rejected as a fault of the client. -/
def isRejection : SelectionError → Bool
  | .priceTooLarge => false
  | _ => true

end SelectionError

namespace Selection

/-! ## Unknown names -/

/-- The first text among the items of a field that names no value of the attribute. -/
def firstUnknown? (a : Attribute) (payload : Value) : Option UnknownName :=
  match payload.field? a.name with
  | some (.list items) =>
    items.findSome? fun
      | .text s => if (a.codeOf? s).isNone then some ⟨a, .text s⟩ else none
      | _ => none
  | _ => none

/-! ## Fields -/

/-- The first occurrences of the items of a list. -/
def firstOccurrences {α : Type} [DecidableEq α] : List α → List α
  | [] => []
  | a :: rest => a :: (firstOccurrences rest).filter (· ≠ a)

/-- A list of names of a closed set, without repetitions. -/
def names {α : Type} [DecidableEq α] (all : List α) (name : α → String) (v : Value) :
    Checked (List α) :=
  match v with
  | .list items =>
    (Checked.items (fun item => Checked.ofFlaw (Validation.member all name item)) items).map
      firstOccurrences
  | _ => .error [⟨[], .refused "must be a list of strings"⟩]

/-- The outcome of checking a part of the price range, which an integer beyond the largest double
cuts short. -/
inductive PriceCheck (α : Type) where
  | accepted (a : α)
  | flawed (reason : Text)
  | tooLarge

/-- A finite double. -/
abbrev Bound := { x : Binary64 // x.isFinite = true }

/-- A double as a bound, where it is finite. -/
def finiteBound? (x : Binary64) : Option Bound :=
  if h : x.isFinite = true then some ⟨x, h⟩ else none

/-- One bound of the price range: a number that is finite as a double. -/
def checkBound : Value → PriceCheck Bound
  | .int n => ((Binary64.ofInt? n).bind finiteBound?).elim .tooLarge .accepted
  | .float x => (finiteBound? x).elim (.flawed "price bounds must be finite") .accepted
  | _ => .flawed "price bounds must be numbers"

/-- Two bounds, the lower one checked first. -/
def checkBounds : Value → PriceCheck (Bound × Bound)
  | .list [a, b] =>
    match checkBound a with
    | .flawed reason => .flawed reason
    | .tooLarge => .tooLarge
    | .accepted low =>
      match checkBound b with
      | .flawed reason => .flawed reason
      | .tooLarge => .tooLarge
      | .accepted high => .accepted (low, high)
  | _ => .flawed "must be a [low, high] pair"

/-- The bounds in the price field of a payload; `none` where the check is cut short. -/
def priceField (fields : Fields) : Option (Checked (Bound × Bound)) :=
  let issue (flaw : Flaw) : Checked (Bound × Bound) := .error [⟨[.field "price"], flaw⟩]
  match fields.get? "price" with
  | none => some (issue .missing)
  | some v =>
    match checkBounds v with
    | .accepted bounds => some (.ok bounds)
    | .flawed reason => some (issue (.refused reason))
    | .tooLarge => none

/-- The range between two bounds, which has to begin at zero or above and must not be reversed. -/
def rangeOf (low high : Bound) : Except Text PriceRange :=
  if hl : Binary64.zero.le low.val = true then
    if hh : low.val.le high.val = true then .ok ⟨⟨low.val, hl⟩, high.val, hh, high.property⟩
    else
      .error ("price low (" ++ low.val.text ++ ") must be <= high (" ++ high.val.text ++ ")")
  else .error ("price low (" ++ low.val.text ++ ") must be >= 0")

/-! ## The whole payload -/

/-- Reads the fields of a payload; the order of the bounds is looked at when all fields are
right. -/
def ofFields (fields : Fields) : Except SelectionError Selection :=
  match priceField fields with
  | none => .error .priceTooLarge
  | some bounds =>
    let parts : Checked (List Color × List Size × (Bound × Bound) × SortMode) :=
      Checked.ap (Checked.ap (Checked.ap (Checked.ap
        (.ok fun colors sizes bounds sort => (colors, sizes, bounds, sort))
        (Checked.required fields Attribute.color.name (names Color.all Color.name)))
        (Checked.required fields Attribute.size.name (names Size.all Size.name)))
        bounds)
        (Checked.required fields "sort" fun v =>
          Checked.ofFlaw (Validation.member SortMode.all SortMode.name v))
    match parts with
    | .error issues => .error (.invalid issues)
    | .ok (colors, sizes, (low, high), sort) =>
      match rangeOf low high with
      | .ok price => .ok ⟨colors, sizes, price, sort⟩
      | .error reason => .error (.invalid [⟨[], .refused reason⟩])

/-- Reads a selection from a payload. -/
def parse (payload : Value) : Except SelectionError Selection :=
  match payload with
  | .object fields =>
    match (firstUnknown? .color payload).or (firstUnknown? .size payload) with
    | some u => .error (.unknownName u)
    | none => ofFields fields
  | _ => .error .notAnObject

/-- The payload that a selection is the parse of. -/
def toValue (s : Selection) : Value :=
  .object
    [("color", .list (s.colors.map fun c => .text c.name)),
     ("size", .list (s.sizes.map fun x => .text x.name)),
     ("price", .list [.float s.price.low.amount, .float s.price.high]),
     ("sort", .text s.sort.name)]

end Selection

end Storefront
