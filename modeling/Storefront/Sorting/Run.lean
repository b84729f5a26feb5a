/-!
# Runs

A run is a list in which no item is below the one in front of it. A list is cut into the runs that it
already holds, and a run that is too short takes up the items behind it by binary insertion. Items
that compare equal keep their order.

* `Sorting.cutRuns`: a list as runs, one behind the other.
-/

namespace Storefront.Sorting

variable {α : Type}

/-- Where `x` goes among the items from position `lo` up to `hi`: behind everything that it is not
below, found by halving. -/
def position (lt : α → α → Bool) (sorted : List α) (x : α) (lo hi : Nat) : Nat :=
  if lo < hi then
    let middle := lo + (hi - lo) / 2
    match sorted[middle]? with
    | some y =>
      if lt x y then position lt sorted x lo middle else position lt sorted x (middle + 1) hi
    | none => lo
  else lo
termination_by hi - lo

/-- Inserts an item into a sorted list, behind its equals. -/
def insert (lt : α → α → Bool) (sorted : List α) (x : α) : List α :=
  let n := position lt sorted x 0 sorted.length
  sorted.take n ++ x :: sorted.drop n

/-- The longest beginning of a list in which each item is related to the one before it, the first
to `previous`, and the rest. -/
def chain (related : α → α → Bool) (previous : α) : List α → List α × List α
  | [] => ([], [])
  | x :: rest =>
    if related previous x then
      let (taken, left) := chain related x rest
      (x :: taken, left)
    else ([], x :: rest)

/-- The run at the beginning of a list, in ascending order, and the rest: a run that does not
descend, or one that strictly descends and is turned around. -/
def firstRun (lt : α → α → Bool) : List α → List α × List α
  | [] => ([], [])
  | [x] => ([x], [])
  | x :: y :: rest =>
    if lt y x then
      let (taken, left) := chain (fun a b => lt b a) y rest
      ((x :: y :: taken).reverse, left)
    else
      let (taken, left) := chain (fun a b => !lt b a) y rest
      (x :: y :: taken, left)

/-- The run at the beginning of a list with at least `least` items, or with all of them. -/
def longRun (lt : α → α → Bool) (least : Nat) (xs : List α) : List α × List α :=
  let (ascending, rest) := firstRun lt xs
  let missing := least - ascending.length
  ((rest.take missing).foldl (insert lt) ascending, rest.drop missing)

/-- The least length of a run in a list of length `n`: below 64, `n` itself, and otherwise half of
the least length for half of the list, rounded up as often as it has to be. -/
def leastRun (n : Nat) : Nat := go 0 n
where
  go (odd n : Nat) : Nat :=
    if n < 64 then n + odd else go (max odd (n % 2)) (n / 2)
  termination_by n

/-- A list as runs of at least `least` items, only the last one perhaps shorter. Every run takes an
item at least, so the length of the list is fuel enough. -/
def runsOf (lt : α → α → Bool) (least : Nat) : Nat → List α → List (List α)
  | 0, _ => []
  | _ + 1, [] => []
  | fuel + 1, x :: rest =>
    let (run, left) := longRun lt least (x :: rest)
    run :: runsOf lt least fuel left

/-- A list as runs, one behind the other. -/
def cutRuns (lt : α → α → Bool) (xs : List α) : List (List α) :=
  runsOf lt (leastRun xs.length) xs.length xs

end Storefront.Sorting
