import Storefront.Product

/-!
# The demo catalog

One product for every color, size and price, in this order, with ids that depend on nothing but the
color, the size and the place of the price, so that storing the catalog again overwrites it.

* `Catalog.products`: the products for a list of prices.
* `Catalog.batches`: a list cut into pieces of a given size.
* `Catalog.cut`: the same for a size and a value of unknown shape.
-/

namespace Storefront.Catalog

open Validation (Issue Checked)

/-- Every color with every size. -/
def variants : List (Color × Size) :=
  Color.all.flatMap fun color => Size.all.map fun size => (color, size)

def productId (color : Color) (size : Size) (position : Nat) : Text :=
  color.name ++ "-" ++ size.name ++ "-" ++ toString position

def product (color : Color) (size : Size) (position : Nat) (price : Price) : Product where
  id := productId color size position
  name := color.title ++ " shirt (" ++ size.name ++ ")"
  imageId := "/" ++ color.name ++ "_" ++ size.name ++ ".png"
  color := color
  size := size
  price := price

/-- The products for a list of prices. -/
def products (prices : List Price) : List Product :=
  variants.flatMap fun (color, size) =>
    prices.zipIdx.map fun (price, position) => product color size position price

/-- The prices of the catalog that is stored by default. -/
def defaultPrices : List Price := [999, 1999, 2999, 3999, 4999].map Price.ofCents

/-- Prices that were checked one by one; the first that is no price is reported. -/
def checkPrices (prices : List Value) : Checked (List Price) :=
  prices.mapM fun v => Checked.under (.field "price") (Checked.ofFlaw (Price.check v))

/-- The catalog for prices of unknown shape. -/
def generate (prices : List Value) : Checked (List Product) := (checkPrices prices).map products

/-! ## Batches -/

/-- A list cut into pieces of `size` items, the last one perhaps shorter; `size` is at least one. -/
def batches {α : Type} (size : Nat) : List α → List (List α)
  | [] => []
  | a :: rest => (a :: rest.take (size - 1)) :: batches size (rest.drop (size - 1))
termination_by xs => xs.length
decreasing_by simp only [List.length_drop, List.length_cons]; omega

/-- Why a value is not cut: the size of its pieces is none, or the value has no length or no
pieces. -/
inductive BatchError where
  | tooSmall
  | notComparable (size : Value)
  | notWhole
  | noLength (v : Value)
  | noPieces

namespace BatchError

def label : BatchError → String
  | .tooSmall => "ValueError"
  | .notComparable _ | .notWhole | .noLength _ | .noPieces => "TypeError"

def message : BatchError → Text
  | .tooSmall => "batch_size must be >= 1"
  | .notComparable v => "'<' not supported between instances of '" ++ v.kindName ++ "' and 'int'"
  | .notWhole => "'float' object cannot be interpreted as an integer"
  | .noLength v => "object of type '" ++ v.kindName ++ "' has no len()"
  | .noPieces => "unhashable type: 'slice'"

end BatchError

/-- A batch size: an integer from one on. -/
def checkBatchSize (n : Int) : Except BatchError Nat :=
  if n < 1 then .error .tooSmall else .ok n.toNat

/-- A batch size of unknown shape. -/
def readBatchSize (v : Value) : Except BatchError Nat :=
  match v with
  | .int n => checkBatchSize n
  | .bool b => checkBatchSize (if b then 1 else 0)
  | .float x => .error (if x.lt .one then .tooSmall else .notWhole)
  | _ => .error (.notComparable v)

/-- Whether a value consists of parts that can be counted. -/
def hasLength : Value → Bool
  | .list _ | .text _ | .bytes _ | .object _ => true
  | _ => false

/-- The parts that a value is cut between: items, characters or byte values. An object has none
unless it is empty. -/
def parts (v : Value) : Except BatchError (List Value) :=
  match v with
  | .object [] => .ok []
  | .object _ => .error .noPieces
  | _ => v.items.mapError fun _ => .noLength v

/-- A value of unknown shape cut into pieces. Whether the size is large enough is looked at before
the value, and whether it is whole after the value was seen to have a length. -/
def cut (size v : Value) : Except BatchError (List (List Value)) :=
  match readBatchSize size with
  | .ok n => (parts v).map (batches n)
  | .error .notWhole => .error (if hasLength v then .notWhole else .noLength v)
  | .error e => .error e

end Storefront.Catalog
