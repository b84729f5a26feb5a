import Storefront.Text.Basic

/-!
# Sort modes

The orders in which results can be asked for.
-/

namespace Storefront

inductive SortMode where
  | unordered
  | priceAscending
  | priceDescending
deriving DecidableEq

namespace SortMode

def all : List SortMode := [.unordered, .priceAscending, .priceDescending]

def name : SortMode → String
  | .unordered => "none"
  | .priceAscending => "price-asc"
  | .priceDescending => "price-desc"

def ofName? (t : Text) : Option SortMode := all.find? fun m => t == m.name

end SortMode

end Storefront
