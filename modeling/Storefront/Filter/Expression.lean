import Storefront.Filter.Literal

/-!
# Filter expressions

A filter is a list of groups, each under a key. The clauses of a group are alternatives, the groups
are requirements, and groups stand in the order in which their keys first came up.

* `Expression.addClause`, `Expression.setRaw`: one more alternative; a whole group replaced.
* `Expression.render`: the text that the vector index evaluates.
-/

namespace Storefront.Filter

/-- The comparisons that the index supports. -/
inductive Operator where
  | eq
  | ne
  | lt
  | le
  | gt
  | ge
deriving DecidableEq

namespace Operator

def all : List Operator := [.eq, .ne, .lt, .le, .gt, .ge]

def symbol : Operator → String
  | .eq => "="
  | .ne => "!="
  | .lt => "<"
  | .le => "<="
  | .gt => ">"
  | .ge => ">="

def ofSymbol? (t : Text) : Option Operator := all.find? fun o => t == o.symbol

/-- The operator that a value names. Lists and objects cannot even be looked up. -/
def read (v : Value) : Except Error Operator :=
  match v with
  | .list _ | .object _ => .error (.misuse (.notHashable v))
  | _ =>
    match v.text?.bind ofSymbol? with
    | some o => .ok o
    | none => .error (.unsupportedOperator v)

end Operator

/-- Groups of clauses under their keys, in the order of first use. -/
structure Expression where
  groups : List (Text × List Text)

namespace Expression

def empty : Expression := ⟨[]⟩

/-- Changes the clauses of a key; a key without a group gets one at the end. -/
def update (groups : List (Text × List Text)) (key : Text) (change : List Text → List Text) :
    List (Text × List Text) :=
  match groups with
  | [] => [(key, change [])]
  | (k, clauses) :: rest =>
    if k = key then (k, change clauses) :: rest else (k, clauses) :: update rest key change

/-- The text of one comparison. -/
def clause (key : Text) (operator : Operator) (literal : Text) : Text :=
  key ++ " " ++ operator.symbol ++ " " ++ literal

/-- Adds the comparison of a key with a value as one more alternative of the key's group. -/
def addClause (e : Expression) (key : Text) (operator v : Value) : Except Error Expression := do
  let op ← Operator.read operator
  let l ← literal v
  pure ⟨update e.groups key (· ++ [clause key op l])⟩

/-- Puts one literal expression in the place of a key's clauses. -/
def setRaw (e : Expression) (key expression : Text) : Expression :=
  ⟨update e.groups key fun _ => [expression]⟩

def isEmpty (e : Expression) : Bool := e.groups.isEmpty

/-- One group in parentheses. -/
def renderGroup (clauses : List Text) : Text := "(" ++ Text.join " OR " clauses ++ ")"

/-- The filter as the index reads it; nothing where there is no group. -/
def render (e : Expression) : Text :=
  Text.join " AND " (e.groups.map fun g => renderGroup g.2)

/-- The filter as it is shown to people. -/
def describe (e : Expression) : Text := "FilterExpressionBuilder(" ++ e.render.quoted ++ ")"

end Expression

end Storefront.Filter
