import Storefront.Value.Access

/-!
# Filter literals

How values are written inside a filter: numbers as plain numerals, texts in double quotes.
-/

namespace Storefront.Filter

/-- Why a clause cannot be added to a filter. -/
inductive Error where
  | unsupportedOperator (operator : Value)
  | truthValue
  | unsupportedValue (v : Value)
  | misuse (m : Misuse)

namespace Error

def label : Error → String
  | .unsupportedOperator _ => "ValueError"
  | .truthValue | .unsupportedValue _ => "TypeError"
  | .misuse m => m.label

def message : Error → Text
  | .unsupportedOperator operator => "Unsupported filter operator: " ++ operator.repr
  | .truthValue => "Boolean filter values are not supported"
  | .unsupportedValue v => "Unsupported filter value type: " ++ v.kindName
  | .misuse m => m.message

end Error

/-- A double as a numeral: whole numbers without point or power of ten, whatever their size. -/
def doubleLiteral (x : Binary64) : Text :=
  match x.toInt? with
  | some n => toString n
  | none => x.text

/-- A number as a numeral; the text of any other value. -/
def numberLiteral (v : Value) : Except Misuse Text :=
  match v with
  | .float x => .ok (doubleLiteral x)
  | _ => v.render?

/-- A backslash goes in front of quotes and backslashes. -/
def escape : Text → Text
  | [] => []
  | p :: rest => if p = '\\' ∨ p = '"' then .char '\\' :: p :: escape rest else p :: escape rest

def textLiteral (t : Text) : Text := .char '"' :: (escape t ++ [.char '"'])

/-- The value of a clause: numbers and texts have a literal. -/
def literal (v : Value) : Except Error Text :=
  match v with
  | .bool _ => .error .truthValue
  | .int _ | .float _ => (numberLiteral v).mapError .misuse
  | .text s => .ok (textLiteral s)
  | _ => .error (.unsupportedValue v)

/-- A clause that holds of no product: the field has a number, which never equals a text. -/
def matchNothing (field : Text) : Text := field ++ " = \"\""

end Storefront.Filter
