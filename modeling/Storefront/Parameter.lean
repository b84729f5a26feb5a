import Storefront.Value.Basic

/-!
# Parameters

Operations that are asked for by name take arguments in order, by name, or both. Each parameter gets
the argument at its place, the one with its name, or its default.

* `Parameter.bind`: the arguments of all parameters, or why they do not fit.
-/

namespace Storefront

/-- A parameter of an operation; without a default it needs an argument. -/
structure Parameter where
  name : Text
  default : Option Value

/-- Why arguments do not fit the parameters of an operation. -/
inductive ArgumentMistake where
  | unexpected (operation name : Text)
  | givenTwice (operation name : Text)
  | namedTwice (operation name : Text)
  | tooMany (operation : Text) (least most given : Nat)
  | missing (operation : Text) (names : List Text)

namespace ArgumentMistake

def label : ArgumentMistake → String := fun _ => "TypeError"

/-- Quoted names as they are listed in a sentence. -/
def enumerate : List Text → Text
  | [] => ""
  | [a] => quote a
  | [a, b] => quote a ++ " and " ++ quote b
  | names =>
    Text.join ", " (names.dropLast.map quote) ++ ", and " ++ quote (names.getLast?.getD [])
where
  quote (name : Text) : Text := "'" ++ name ++ "'"

def message : ArgumentMistake → Text
  | .unexpected operation name =>
    operation ++ "() got an unexpected keyword argument '" ++ name ++ "'"
  | .givenTwice operation name =>
    operation ++ "() got multiple values for argument '" ++ name ++ "'"
  | .namedTwice operation name =>
    operation ++ "() got multiple values for keyword argument '" ++ name ++ "'"
  | .tooMany operation least most given =>
    let count : Text :=
      if least = most then toString most else "from " ++ toString least ++ " to " ++ toString most
    operation ++ "() takes " ++ count ++ " positional argument"
      ++ (if least = 1 ∧ most = 1 then "" else "s") ++ " but " ++ toString given
      ++ (if given = 1 then " was" else " were") ++ " given"
  | .missing operation names =>
    operation ++ "() missing " ++ toString names.length ++ " required positional argument"
      ++ (if names.length = 1 then "" else "s") ++ ": " ++ enumerate names

end ArgumentMistake

namespace Parameter

/-- Looks for an argument by name that fits no parameter, or fits one that has an argument from its
place; `placed` counts the latter. -/
def checkNames (operation : Text) (ps : List Parameter) (placed : Nat) :
    Fields → Except ArgumentMistake Unit
  | [] => .ok ()
  | (name, _) :: rest =>
    if (ps.take placed).any fun p => p.name == name then .error (.givenTwice operation name)
    else if ps.any fun p => p.name == name then checkNames operation ps placed rest
    else .error (.unexpected operation name)

/-- The argument of a parameter: the one at its place, the one with its name, or its default. -/
def argument (p : Parameter) (placed : Option Value) (named : Fields) : Option Value :=
  placed.or ((Fields.get? named p.name).or p.default)

/-- The arguments of all parameters under their names. Names that were given are looked at first,
then the number of arguments without names, and last what is missing. -/
def bind (operation : Text) (ps : List Parameter) (placed : List Value) (named : Fields) :
    Except ArgumentMistake Fields := do
  checkNames operation ps placed.length named
  let needed := ps.filter (·.default.isNone)
  if ps.length < placed.length then
    throw (.tooMany operation needed.length ps.length placed.length)
  let found := ps.zipIdx.map fun (p, i) => (p.name, p.argument placed[i]? named)
  let missing := (found.filter fun f => f.2.isNone).map (·.1)
  if missing.isEmpty then pure (found.filterMap fun (name, v) => v.map fun v => (name, v))
  else throw (.missing operation missing)

end Parameter

end Storefront
