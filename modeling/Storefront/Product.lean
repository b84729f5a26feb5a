import Storefront.Attribute
import Storefront.Validation.Scalar

/-!
# Products

A product of the catalog, and the record under which it is stored: its id, its vector of color
code, size code and price, and all its fields as metadata.
-/

namespace Storefront

open Validation (Flaw Issue Checked)

/-- A price: a double that is neither below zero nor NaN. -/
structure Price where
  amount : Binary64
  nonneg : Binary64.zero.le amount = true
deriving DecidableEq

structure Product where
  id : Text
  name : Text
  imageId : Text
  color : Color
  size : Size
  price : Price
deriving DecidableEq

/-- A record of the vector index; its parts are what callers put there. -/
structure VectorRecord where
  id : Value
  vector : Value
  metadata : Value

namespace Price

/-- A number that is no less than zero. -/
def check (v : Value) : Except Flaw Price := do
  let x ← Validation.double v
  if h : Binary64.zero.le x = true then .ok ⟨x, h⟩ else .error (.below 0)

/-- The price of a number of cents. -/
def ofCents (cents : Nat) : Price :=
  ⟨Binary64.nearest false cents 100, Binary64.zero_le_nearest cents 100⟩

end Price

namespace Product

/-- The fields of a product, all of them required. -/
def check (v : Value) : Checked Product :=
  match v with
  | .object fields =>
    let field {α : Type} (name : String) (rule : Value → Except Flaw α) : Checked α :=
      Checked.required fields name fun w => Checked.ofFlaw (rule w)
    Checked.ap (Checked.ap (Checked.ap (Checked.ap (Checked.ap (Checked.ap (.ok Product.mk)
      (field "id" Validation.text))
      (field "name" Validation.text))
      (field "imageId" Validation.text))
      (field "color" (Validation.member Color.all Color.name)))
      (field "size" (Validation.member Size.all Size.name)))
      (field "price" Price.check)
  | _ => .error [⟨[], .modelType "Product"⟩]

/-- All fields of a product. -/
def metadata (p : Product) : Value :=
  .object
    [("id", .text p.id),
     ("name", .text p.name),
     ("imageId", .text p.imageId),
     ("color", .text p.color.name),
     ("size", .text p.size.name),
     ("price", .float p.price.amount)]

def vector (p : Product) : ProductVector := ⟨p.color.code, p.size.code, p.price.amount⟩

/-- The record under which a product is stored. -/
def toRecord (p : Product) : VectorRecord := ⟨.text p.id, p.vector.toValue, p.metadata⟩

end Product

end Storefront
