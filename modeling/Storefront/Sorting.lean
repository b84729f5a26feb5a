import Storefront.Sorting.Merge
import Storefront.Sorting.Run

/-!
# Stable sorting

A list is cut into runs, and runs that stand beside each other are merged until one is left. The
borders between runs form a tree by the places where they lie, and deep borders vanish first. Items
that compare equal keep their order. The procedure is fixed to the last comparison, because with a
relation that is no order (numbers that may be NaN) the result depends on it.

* `sortBy`: the list sorted by a strict relation.
-/

namespace Storefront.Sorting

variable {α : Type}

/-- A run that waits for its neighbours: where it begins, and how deep the border behind it lies. -/
structure Waiting (α : Type) where
  start : Nat
  depth : Nat
  items : List α

/-- How many binary digits `a / n` and `b / n` share behind the point, and one more; both numbers are
below `2 * n` and `b` is the larger one. -/
def sharedDigits (n : Nat) : Nat → Nat → Nat → Nat
  | 0, _, _ => 1
  | fuel + 1, a, b =>
    if n ≤ a then 1 + sharedDigits n fuel (2 * (a - n)) (2 * (b - n))
    else if n ≤ b then 1
    else 1 + sharedDigits n fuel (2 * a) (2 * b)

/-- The depth of the border between two runs in a list of length `total`: the number of binary digits
that tell the middles of the runs apart. -/
def borderDepth (total start first second : Nat) : Nat :=
  let a := 2 * start + first
  sharedDigits total total a (a + first + second)

/-- The runs that wait, the last one first, and the patience of the merges so far. -/
structure State (α : Type) where
  waiting : List (Waiting α)
  patience : Patience

namespace State

/-- Merges the last runs while the border between them lies deeper than a new one. -/
def mergeDeeper (lt : α → α → Bool) (depth : Nat) :
    Patience → Waiting α → List (Waiting α) → State α
  | patience, last, [] => ⟨[{ last with depth := depth }], patience⟩
  | patience, last, previous :: rest =>
    if depth < previous.depth then
      let (patience, items) := joinRuns lt patience previous.items last.items
      mergeDeeper lt depth patience ⟨previous.start, previous.depth, items⟩ rest
    else ⟨{ last with depth := depth } :: previous :: rest, patience⟩

/-- Puts a run behind those that wait. -/
def push (lt : α → α → Bool) (total : Nat) (s : State α) (run : List α) : State α :=
  match s.waiting with
  | [] => ⟨[⟨0, 0, run⟩], s.patience⟩
  | last :: rest =>
    let depth := borderDepth total last.start last.items.length run.length
    let merged := mergeDeeper lt depth s.patience last rest
    { merged with waiting := ⟨last.start + last.items.length, 0, run⟩ :: merged.waiting }

/-- Merges the last two runs, or the two in front of the last one where the first of them is shorter
than the last, until one is left. -/
def collapse (lt : α → α → Bool) : Nat → Patience → List (Waiting α) → List α
  | 0, _, waiting => waiting.reverse.flatMap (·.items)
  | fuel + 1, patience, waiting =>
    match waiting with
    | z :: y :: x :: rest =>
      if x.items.length < z.items.length then
        let (patience, items) := joinRuns lt patience x.items y.items
        collapse lt fuel patience (z :: { x with items := items } :: rest)
      else
        let (patience, items) := joinRuns lt patience y.items z.items
        collapse lt fuel patience ({ y with items := items } :: x :: rest)
    | [z, y] => (joinRuns lt patience y.items z.items).2
    | [z] => z.items
    | [] => []

end State

/-- The list sorted by a strict relation. -/
def sortBy (lt : α → α → Bool) (xs : List α) : List α :=
  let s := (cutRuns lt xs).foldl (State.push lt xs.length) ⟨[], 7⟩
  State.collapse lt s.waiting.length s.patience s.waiting

end Storefront.Sorting
