/-!
# Merging two runs

Two runs that follow each other become one. The items of the first run that stay in front, and those
of the second that stay behind, are found first; what lies between is merged from the side on which
the shorter run is. Merging compares head by head until one run has won several times in a row, and
then looks by leaps for the place up to which it goes on winning. How often it has to win is a number
that all merges of one sort share: it falls while leaping pays and rises when it does not.

* `Sorting.leap`: how many items of a list come before some item, found by leaps.
* `Sorting.joinRuns`: one run of two.
-/

namespace Storefront.Sorting

variable {α : Type}

/-! ## Leaps -/

/-- The number of items that satisfy `goes`, which is known of those in front of `lo` and refuted at
`hi`. `half` says where between them to look. -/
def bisect (half : Nat → Nat) (goes : α → Bool) (xs : List α) : Nat → Nat → Nat → Nat
  | 0, lo, _ => lo
  | fuel + 1, lo, hi =>
    if lo < hi then
      let middle := lo + half (hi - lo)
      if xs[middle]?.any goes then bisect half goes xs fuel (middle + 1) hi
      else bisect half goes xs fuel lo middle
    else lo

/-- Leaps of growing width over a list, as long as they land on items that satisfy `goes`: the last
place that was reached, and the first that was not. -/
def bounds (goes : α → Bool) (xs : List α) : Nat → Nat → Nat → Nat × Nat
  | 0, last, next => (last, min next xs.length)
  | fuel + 1, last, next =>
    if xs[next]?.any goes then bounds goes xs fuel next (2 * next + 1)
    else (last, min next xs.length)

/-- How many items at the beginning of a list satisfy `goes`, found by leaps and then by halving. -/
def leap (half : Nat → Nat) (goes : α → Bool) (xs : List α) : Nat :=
  if xs.head?.any goes then
    let (last, next) := bounds goes xs xs.length 0 1
    bisect half goes xs xs.length (last + 1) next
  else 0

/-! ## Sides -/

/-- The side from which two runs are merged. -/
inductive Side where
  | front
  | back
deriving DecidableEq

namespace Side

/-- Halves of a length. From the back, the middle is the same place in the list. -/
def half : Side → Nat → Nat
  | .front, n => n / 2
  | .back, n => (n - 1) / 2

/-- A run, seen from the side. -/
def view : Side → List α → List α
  | .front, xs => xs
  | .back, xs => xs.reverse

end Side

/-- What is left of two runs, seen from a side, and what is merged already, nearest first. -/
structure Pending (α : Type) where
  first : List α
  second : List α
  merged : List α

namespace Pending

def takeFirst (p : Pending α) (n : Nat) : Pending α :=
  ⟨p.first.drop n, p.second, (p.first.take n).reverse ++ p.merged⟩

def takeSecond (p : Pending α) (n : Nat) : Pending α :=
  ⟨p.first, p.second.drop n, (p.second.take n).reverse ++ p.merged⟩

/-- Whether the rest needs no comparison. From the front, the last item of the first run goes behind
all of the second; from the back, the first of the second goes in front of all of the first. -/
def isSettled (side : Side) (p : Pending α) : Bool :=
  match side with
  | .front => p.first.length ≤ 1 || p.second.isEmpty
  | .back => p.second.length ≤ 1 || p.first.isEmpty

/-- The merged run, once the rest is settled. -/
def finish (side : Side) (p : Pending α) : List α :=
  match side with
  | .front => p.merged.reverse ++ p.second ++ p.first
  | .back => p.second.reverse ++ p.first.reverse ++ p.merged

/-- Whether the head of the second run goes before that of the first, seen from a side: from the
front a smaller item, from the back one that is not smaller. -/
def prefersSecond (side : Side) (lt : α → α → Bool) (a b : α) : Bool :=
  match side with
  | .front => lt b a
  | .back => !lt b a

/-- Takes from the first run what goes before the head of the second; how many these are. -/
def leapFirst (side : Side) (lt : α → α → Bool) (p : Pending α) : Nat × Pending α :=
  match p.second with
  | b :: _ =>
    let n := leap side.half (fun a => !prefersSecond side lt a b) p.first
    (n, p.takeFirst n)
  | [] => (0, p)

/-- Takes from the second run what goes before the head of the first; how many these are. -/
def leapSecond (side : Side) (lt : α → α → Bool) (p : Pending α) : Nat × Pending α :=
  match p.first with
  | a :: _ =>
    let n := leap side.half (fun b => prefersSecond side lt a b) p.second
    (n, p.takeSecond n)
  | [] => (0, p)

/-- One round of leaps: in the first run and over the head of the second, then in the second run and
over the head of the first. The round ends early when the rest is settled. It leaped well if one of
the leaps was long. -/
def leapRound (side : Side) (lt : α → α → Bool) (p : Pending α) : Bool × Pending α :=
  let (m, p) := p.leapFirst side lt
  if p.isSettled side then (false, p)
  else
    let p := p.takeSecond 1
    if p.isSettled side then (false, p)
    else
      let (n, p) := p.leapSecond side lt
      if p.isSettled side then (false, p)
      else (7 ≤ m || 7 ≤ n, p.takeFirst 1)

end Pending

/-- How a merge goes on: head by head, where the first or the second run has won some times in a
row, or by leaps. -/
inductive Pace where
  | steps (first second : Nat)
  | leaps

/-- How often in a row a run has to win before leaps are tried. -/
abbrev Patience := Nat

namespace Pending

/-- Merges until the rest is settled; the patience goes along. Every step and every round takes an
item, so the number of items is fuel enough. -/
def merge (side : Side) (lt : α → α → Bool) :
    Nat → Pace → Patience → Pending α → Patience × Pending α
  | 0, _, patience, p => (patience, p)
  | fuel + 1, pace, patience, p =>
    if p.isSettled side then (patience, p)
    else
      match pace, p.first, p.second with
      | .steps m n, a :: _, b :: _ =>
        let (q, won, next) : Pending α × Nat × Pace :=
          if prefersSecond side lt a b then (p.takeSecond 1, n + 1, .steps 0 (n + 1))
          else (p.takeFirst 1, m + 1, .steps (m + 1) 0)
        if q.isSettled side then (patience, q)
        else if patience ≤ won then merge side lt fuel .leaps (patience + 1) q
        else merge side lt fuel next patience q
      | _, _, _ =>
        let patience := max 1 (patience - 1)
        let (well, q) := p.leapRound side lt
        if q.isSettled side then (patience, q)
        else if well then merge side lt fuel .leaps patience q
        else merge side lt fuel (.steps 0 0) (patience + 1) q

end Pending

/-- Two runs merged from the side of the shorter one, of which the first item is already known. -/
def mergeFrom (side : Side) (lt : α → α → Bool) (patience : Patience) (first second : List α) :
    Patience × List α :=
  let whole : Pending α := ⟨side.view first, side.view second, []⟩
  let begun := match side with
    | .front => whole.takeSecond 1
    | .back => whole.takeFirst 1
  let (patience, p) :=
    begun.merge side lt (first.length + second.length) (.steps 0 0) patience
  (patience, p.finish side)

/-- One run of two that follow each other. -/
def joinRuns (lt : α → α → Bool) (patience : Patience) (first second : List α) :
    Patience × List α :=
  match second with
  | [] => (patience, first)
  | b :: _ =>
    let stays := leap Side.front.half (fun a => !lt b a) first
    match (first.drop stays).getLast? with
    | none => (patience, first ++ second)
    | some a =>
      let follows := leap Side.back.half (fun b => !lt b a) second.reverse
      let left := first.drop stays
      let right := second.take (second.length - follows)
      let (patience, merged) : Patience × List α :=
        if right.isEmpty then (patience, left)
        else if left.length ≤ right.length then mergeFrom .front lt patience left right
        else mergeFrom .back lt patience left right
      (patience, first.take stays ++ merged ++ second.drop (second.length - follows))

end Storefront.Sorting
