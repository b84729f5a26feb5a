import Storefront.Filter.Expression
import Storefront.Selection

/-!
# The filter of a selection

Groups for color, size and price. A selection without colors, or without sizes, selects nothing,
so its group then holds a clause that no product satisfies.
-/

namespace Storefront.Selection

open Storefront.Filter (Expression)

/-- One alternative for each code, or no alternative that holds. -/
def codeClauses (a : Attribute) (codes : List Nat) : List Text :=
  if codes.isEmpty then [Filter.matchNothing a.name]
  else codes.map fun n => Expression.clause a.name .eq (toString n)

/-- The price range, both ends included. -/
def priceClause (r : PriceRange) : Text :=
  Expression.clause "price" .ge (Filter.doubleLiteral r.low.amount) ++ " AND "
    ++ Expression.clause "price" .le (Filter.doubleLiteral r.high)

/-- The filter that a product of the selection satisfies. -/
def filter (s : Selection) : Expression where
  groups :=
    [(Attribute.color.name, codeClauses .color (s.colors.map Color.code)),
     (Attribute.size.name, codeClauses .size (s.sizes.map Size.code)),
     ("price", [priceClause s.price])]

end Storefront.Selection
