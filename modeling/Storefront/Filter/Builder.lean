import Storefront.Filter.Expression

/-!
# Filters that are built call by call

A caller puts a filter together by one call after the other. A call changes the filter, shows it, or
fails; what a call has changed before it fails stays changed, and the calls behind it go on with
the filter as it was left.

* `Builder.addGrouped`, `Builder.addRaw`, `Builder.describe`: the calls, as actions on the filter.
* `Builder.step`, `Builder.after`: one call on a filter, and the filter after a history of calls.
-/

namespace Storefront.Filter.Builder

/-- An action on the filter that is being built. -/
abbrev Action (α : Type) := ExceptT Error (StateM Expression) α

/-- Adds the comparison of a key with a value as one more alternative of the key's group. -/
def addGrouped (key : Text) (operator v : Value) : Action Unit := do
  let op ← Operator.read operator
  let l ← literal v
  modify fun e => ⟨Expression.update e.groups key (· ++ [Expression.clause key op l])⟩

/-- Puts one literal expression in the place of a key's clauses. -/
def addRaw (key expression : Text) : Action Unit := modify fun e => e.setRaw key expression

/-- Shows the filter. -/
def describe : Action Text := do
  return (← get).describe

/-- A call on a filter that is being built. -/
inductive Call where
  | grouped (key : Text) (operator v : Value)
  | raw (key expression : Text)
  | describe

/-- What a call does, and the text that it returns if it returns one. -/
def Call.perform : Call → Action (Option Text)
  | .grouped key operator v => do
    addGrouped key operator v
    return none
  | .raw key expression => do
    addRaw key expression
    return none
  | .describe => do
    return some (← Builder.describe)

/-- The outcome of a call on a filter, and the filter behind it. -/
def step (e : Expression) (c : Call) : Except Error (Option Text) × Expression :=
  c.perform.run.run e

/-- The filter after a history of calls, those that failed included. -/
def after (history : List Call) : Expression :=
  history.foldl (fun e c => (step e c).2) .empty

end Storefront.Filter.Builder
