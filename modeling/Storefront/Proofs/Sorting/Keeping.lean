import Mathlib
import Storefront.Sorting

/-!
# Sorting keeps the items

Cutting a list into runs and merging the runs only moves items: none is lost and none appears twice,
whatever the items are compared by. Leaps and halving say where to cut, and where a list is cut does
not matter here.

* `Sorting.cutRuns_perm`: the runs of a list hold its items.
* `Sorting.joinRuns_perm`: a merged run holds the items of both runs.
* `Sorting.sortBy_perm`: a sorted list holds the items of the list.
-/

namespace Storefront.Sorting

open scoped List

variable {α : Type} (lt : α → α → Bool)

/-! ## Runs -/

theorem insert_perm (sorted : List α) (x : α) : insert lt sorted x ~ x :: sorted := by
  rw [insert]
  generalize position lt sorted x 0 sorted.length = n
  calc sorted.take n ++ x :: sorted.drop n
    _ ~ x :: (sorted.take n ++ sorted.drop n) := List.perm_middle
    _ = x :: sorted := by rw [List.take_append_drop]

theorem foldl_insert_perm (sorted xs : List α) : xs.foldl (insert lt) sorted ~ sorted ++ xs := by
  induction xs generalizing sorted with
  | nil => simp
  | cons x xs ih =>
    calc xs.foldl (insert lt) (insert lt sorted x)
      _ ~ insert lt sorted x ++ xs := ih _
      _ ~ x :: sorted ++ xs := (insert_perm lt sorted x).append_right xs
      _ ~ sorted ++ x :: xs := List.perm_middle.symm

theorem chain_append (related : α → α → Bool) (previous : α) (xs : List α) :
    (chain related previous xs).1 ++ (chain related previous xs).2 = xs := by
  induction xs generalizing previous with
  | nil => rfl
  | cons x xs ih =>
    rw [chain]
    split
    · exact congrArg (x :: ·) (ih x)
    · rfl

/-- The first run takes one item at least, and keeps all. -/
theorem firstRun_spec (x : α) (xs : List α) :
    (firstRun lt (x :: xs)).1 ≠ [] ∧
      (firstRun lt (x :: xs)).1 ++ (firstRun lt (x :: xs)).2 ~ x :: xs := by
  cases xs with
  | nil => exact ⟨List.cons_ne_nil _ _, .refl _⟩
  | cons y rest =>
    rw [firstRun]
    split
    · have hChain := chain_append (fun a b => lt b a) y rest
      refine ⟨by simp, ?_⟩
      refine ((List.reverse_perm _).append_right _).trans (.of_eq ?_)
      rw [List.cons_append, List.cons_append, hChain]
    · have hChain := chain_append (fun a b => !lt b a) y rest
      refine ⟨List.cons_ne_nil _ _, .of_eq ?_⟩
      rw [List.cons_append, List.cons_append, hChain]

/-- A long run keeps all items, and leaves fewer than there were. -/
theorem longRun_spec (least : Nat) (x : α) (xs : List α) :
    (longRun lt least (x :: xs)).1 ++ (longRun lt least (x :: xs)).2 ~ x :: xs ∧
      (longRun lt least (x :: xs)).2.length ≤ xs.length := by
  obtain ⟨hSome, hPerm⟩ := firstRun_spec lt x xs
  rw [longRun]
  generalize firstRun lt (x :: xs) = cut at hSome hPerm ⊢
  obtain ⟨ascending, rest⟩ := cut
  dsimp only at hSome hPerm ⊢
  constructor
  · calc (rest.take (least - ascending.length)).foldl (insert lt) ascending ++
          rest.drop (least - ascending.length)
      _ ~ ascending ++ rest.take (least - ascending.length) ++
          rest.drop (least - ascending.length) := (foldl_insert_perm lt _ _).append_right _
      _ = ascending ++ rest := by rw [List.append_assoc, List.take_append_drop]
      _ ~ x :: xs := hPerm
  · have hLength := hPerm.length_eq
    have hPositive := List.length_pos_iff.2 hSome
    simp only [List.length_append, List.length_cons, List.length_drop] at hLength ⊢
    omega

theorem runsOf_perm (least fuel : Nat) (xs : List α) (hFuel : xs.length ≤ fuel) :
    (runsOf lt least fuel xs).flatten ~ xs := by
  induction fuel generalizing xs with
  | zero =>
    rw [List.length_eq_zero_iff.1 (Nat.le_zero.1 hFuel)]
    exact .refl _
  | succ fuel ih =>
    cases xs with
    | nil => exact .refl _
    | cons x rest =>
      obtain ⟨hPerm, hFewer⟩ := longRun_spec lt least x rest
      rw [runsOf, List.flatten_cons]
      have hRest := ih (longRun lt least (x :: rest)).2
        (hFewer.trans (Nat.le_of_succ_le_succ hFuel))
      exact (hRest.append_left _).trans hPerm

theorem cutRuns_perm (xs : List α) : (cutRuns lt xs).flatten ~ xs :=
  runsOf_perm lt _ _ xs le_rfl

/-! ## Merges -/

namespace Pending

/-- What is left of both runs, and what is merged. -/
def items (p : Pending α) : List α := p.first ++ p.second ++ p.merged

theorem takeFirst_items (p : Pending α) (n : Nat) : (p.takeFirst n).items ~ p.items := by
  have hCut : p.first.take n ++ p.first.drop n = p.first := List.take_append_drop n p.first
  calc p.first.drop n ++ p.second ++ ((p.first.take n).reverse ++ p.merged)
    _ ~ (p.first.take n).reverse ++ (p.first.drop n ++ p.second ++ p.merged) :=
          List.perm_append_comm_assoc _ _ _
    _ ~ p.first.take n ++ (p.first.drop n ++ p.second ++ p.merged) :=
          (List.reverse_perm _).append_right _
    _ = p.items := by rw [items, ← List.append_assoc, ← List.append_assoc, hCut]

theorem takeSecond_items (p : Pending α) (n : Nat) : (p.takeSecond n).items ~ p.items := by
  have hCut : p.second.take n ++ p.second.drop n = p.second := List.take_append_drop n p.second
  calc p.first ++ p.second.drop n ++ ((p.second.take n).reverse ++ p.merged)
    _ ~ (p.second.take n).reverse ++ (p.first ++ p.second.drop n ++ p.merged) :=
          List.perm_append_comm_assoc _ _ _
    _ ~ p.second.take n ++ (p.first ++ p.second.drop n ++ p.merged) :=
          (List.reverse_perm _).append_right _
    _ = p.second.take n ++ (p.first ++ (p.second.drop n ++ p.merged)) := by
          rw [List.append_assoc p.first]
    _ ~ p.first ++ (p.second.take n ++ (p.second.drop n ++ p.merged)) :=
          List.perm_append_comm_assoc _ _ _
    _ = p.items := by rw [items, ← List.append_assoc (p.second.take n), hCut, List.append_assoc]

theorem leapFirst_items (side : Side) (p : Pending α) :
    (p.leapFirst side lt).2.items ~ p.items := by
  rw [leapFirst.eq_def]
  split
  · exact p.takeFirst_items _
  · exact .refl _

theorem leapSecond_items (side : Side) (p : Pending α) :
    (p.leapSecond side lt).2.items ~ p.items := by
  rw [leapSecond.eq_def]
  split
  · exact p.takeSecond_items _
  · exact .refl _

theorem leapRound_items (side : Side) (p : Pending α) :
    (p.leapRound side lt).2.items ~ p.items := by
  have hFirst := p.leapFirst_items lt side
  rw [leapRound]
  generalize p.leapFirst side lt = leaped at hFirst ⊢
  obtain ⟨m, q⟩ := leaped
  dsimp only at hFirst ⊢
  have hOver := (q.takeSecond_items 1).trans hFirst
  have hSecond := ((q.takeSecond 1).leapSecond_items lt side).trans hOver
  generalize (q.takeSecond 1).leapSecond side lt = leaped at hSecond ⊢
  obtain ⟨n, r⟩ := leaped
  dsimp only at hSecond ⊢
  split
  · exact hFirst
  · split
    · exact hOver
    · split
      · exact hSecond
      · exact (r.takeFirst_items 1).trans hSecond

/-- Merging keeps the items at every pace, however long it goes on. -/
theorem merge_items (side : Side) (fuel : Nat) (pace : Pace) (patience : Patience)
    (p : Pending α) : (p.merge side lt fuel pace patience).2.items ~ p.items := by
  induction fuel generalizing pace patience p with
  | zero => exact .refl _
  | succ fuel ih =>
    rw [merge.eq_def]
    dsimp only
    split
    · exact .refl _
    · split
      · -- One item is taken, from the run whose head goes first.
        rename_i m n a _ b _ _ _
        have hSecond := p.takeSecond_items 1
        have hFirst := p.takeFirst_items 1
        cases Pending.prefersSecond side lt a b with
        | true =>
          simp only [if_true]
          split
          · exact hSecond
          · split
            · exact (ih _ _ _).trans hSecond
            · exact (ih _ _ _).trans hSecond
        | false =>
          simp only [Bool.false_eq_true, if_false]
          split
          · exact hFirst
          · split
            · exact (ih _ _ _).trans hFirst
            · exact (ih _ _ _).trans hFirst
      · have hRound := p.leapRound_items lt side
        generalize p.leapRound side lt = round at hRound ⊢
        obtain ⟨well, q⟩ := round
        dsimp only at hRound ⊢
        split
        · exact hRound
        · split
          · exact (ih _ _ q).trans hRound
          · exact (ih _ _ q).trans hRound

theorem finish_items (side : Side) (p : Pending α) : p.finish side ~ p.items := by
  cases side with
  | front =>
    calc p.merged.reverse ++ p.second ++ p.first
      _ ~ p.first ++ (p.merged.reverse ++ p.second) := List.perm_append_comm
      _ ~ p.first ++ (p.second ++ p.merged.reverse) := List.perm_append_comm.append_left _
      _ ~ p.first ++ (p.second ++ p.merged) :=
            ((List.reverse_perm p.merged).append_left _).append_left _
      _ = p.items := by rw [items, List.append_assoc]
  | back =>
    calc p.second.reverse ++ p.first.reverse ++ p.merged
      _ ~ p.first.reverse ++ p.second.reverse ++ p.merged := List.perm_append_comm.append_right _
      _ ~ p.items :=
            ((List.reverse_perm p.first).append (List.reverse_perm p.second)).append_right _

end Pending

theorem mergeFrom_perm (side : Side) (patience : Patience) (first second : List α) :
    (mergeFrom side lt patience first second).2 ~ first ++ second := by
  have hView (xs : List α) : side.view xs ~ xs := by
    cases side with
    | front => exact .refl _
    | back => exact List.reverse_perm xs
  have hWhole : Pending.items ⟨side.view first, side.view second, []⟩ ~ first ++ second := by
    rw [Pending.items, List.append_nil]
    exact (hView first).append (hView second)
  rw [mergeFrom.eq_def]
  refine (Pending.finish_items side _).trans ((Pending.merge_items lt side _ _ _ _).trans ?_)
  cases side with
  | front => exact (Pending.takeSecond_items _ 1).trans hWhole
  | back => exact (Pending.takeFirst_items _ 1).trans hWhole

theorem joinRuns_perm (patience : Patience) (first second : List α) :
    (joinRuns lt patience first second).2 ~ first ++ second := by
  rw [joinRuns.eq_def]
  cases second with
  | nil => simp
  | cons b rest =>
    dsimp only
    generalize leap Side.front.half (fun a => !lt b a) first = stays
    split
    · exact .refl _
    · rename_i a _
      generalize b :: rest = second
      generalize second.length - leap Side.back.half (fun b => !lt b a) second.reverse = reach
      -- Whichever way the middle is merged, it keeps what lies there.
      have hMerged : (if (second.take reach).isEmpty then (patience, first.drop stays)
          else if (first.drop stays).length ≤ (second.take reach).length then
            mergeFrom .front lt patience (first.drop stays) (second.take reach)
          else mergeFrom .back lt patience (first.drop stays) (second.take reach)).2 ~
          first.drop stays ++ second.take reach := by
        split
        · rename_i hEmpty
          rw [List.isEmpty_iff.1 hEmpty, List.append_nil]
        · split
          · exact mergeFrom_perm lt .front patience _ _
          · exact mergeFrom_perm lt .back patience _ _
      calc first.take stays ++ _ ++ second.drop reach
        _ ~ first.take stays ++ (first.drop stays ++ second.take reach) ++ second.drop reach :=
              (hMerged.append_left _).append_right _
        _ = first ++ second := by
              rw [← List.append_assoc, List.take_append_drop, List.append_assoc,
                List.take_append_drop]

/-! ## The whole sort -/

/-- The items of the runs that wait. -/
def Waiting.itemsOf (ws : List (Waiting α)) : List α := ws.flatMap (·.items)

namespace State

theorem mergeDeeper_items (depth : Nat) (patience : Patience) (last : Waiting α)
    (ws : List (Waiting α)) :
    Waiting.itemsOf (mergeDeeper lt depth patience last ws).waiting ~
      last.items ++ Waiting.itemsOf ws := by
  induction ws generalizing patience last with
  | nil => exact .refl _
  | cons previous rest ih =>
    rw [mergeDeeper]
    split
    · have hJoined := joinRuns_perm lt patience previous.items last.items
      calc Waiting.itemsOf (mergeDeeper lt depth (joinRuns lt patience previous.items last.items).1
            ⟨previous.start, previous.depth,
              (joinRuns lt patience previous.items last.items).2⟩ rest).waiting
        _ ~ (joinRuns lt patience previous.items last.items).2 ++ Waiting.itemsOf rest := ih _ _
        _ ~ previous.items ++ last.items ++ Waiting.itemsOf rest := hJoined.append_right _
        _ ~ last.items ++ previous.items ++ Waiting.itemsOf rest :=
              List.perm_append_comm.append_right _
        _ = last.items ++ Waiting.itemsOf (previous :: rest) := List.append_assoc _ _ _
    · exact .refl _

theorem push_items (total : Nat) (s : State α) (run : List α) :
    Waiting.itemsOf (push lt total s run).waiting ~ run ++ Waiting.itemsOf s.waiting := by
  rw [push.eq_def]
  split
  · rename_i hNone
    rw [hNone]
    exact .refl _
  · rename_i last rest hSome
    rw [hSome]
    exact (mergeDeeper_items lt _ s.patience last rest).append_left run

theorem foldl_push_items (total : Nat) (runs : List (List α)) (s : State α) :
    Waiting.itemsOf (runs.foldl (push lt total) s).waiting ~
      runs.flatten ++ Waiting.itemsOf s.waiting := by
  induction runs generalizing s with
  | nil => exact .refl _
  | cons run runs ih =>
    calc Waiting.itemsOf (runs.foldl (push lt total) (push lt total s run)).waiting
      _ ~ runs.flatten ++ Waiting.itemsOf (push lt total s run).waiting := ih _
      _ ~ runs.flatten ++ (run ++ Waiting.itemsOf s.waiting) :=
            (push_items lt total s run).append_left _
      _ ~ run ++ (runs.flatten ++ Waiting.itemsOf s.waiting) := List.perm_append_comm_assoc _ _ _
      _ = (run :: runs).flatten ++ Waiting.itemsOf s.waiting := by
            rw [List.flatten_cons, List.append_assoc]

theorem collapse_items (fuel : Nat) (patience : Patience) (ws : List (Waiting α)) :
    collapse lt fuel patience ws ~ Waiting.itemsOf ws := by
  induction fuel generalizing patience ws with
  | zero => exact (List.reverse_perm ws).flatMap_right _
  | succ fuel ih =>
    match ws with
    | [] => exact .refl _
    | [z] => exact .of_eq (by simp [collapse, Waiting.itemsOf])
    | [z, y] =>
      have hJoined := (joinRuns_perm lt patience y.items z.items).trans List.perm_append_comm
      exact hJoined.trans (.of_eq (by simp [Waiting.itemsOf]))
    | z :: y :: x :: rest =>
      rw [collapse.eq_def]
      dsimp only
      split
      · have hJoined := (joinRuns_perm lt patience x.items y.items).trans List.perm_append_comm
        refine (ih _ _).trans ?_
        calc z.items ++ ((joinRuns lt patience x.items y.items).2 ++ Waiting.itemsOf rest)
          _ ~ z.items ++ (y.items ++ x.items ++ Waiting.itemsOf rest) :=
                (hJoined.append_right _).append_left _
          _ = Waiting.itemsOf (z :: y :: x :: rest) := by simp [Waiting.itemsOf]
      · have hJoined := (joinRuns_perm lt patience y.items z.items).trans List.perm_append_comm
        refine (ih _ _).trans ?_
        calc (joinRuns lt patience y.items z.items).2 ++ Waiting.itemsOf (x :: rest)
          _ ~ z.items ++ y.items ++ Waiting.itemsOf (x :: rest) := hJoined.append_right _
          _ = Waiting.itemsOf (z :: y :: x :: rest) := by simp [Waiting.itemsOf]

end State

/-- Sorting moves items and does nothing else to them. -/
theorem sortBy_perm (xs : List α) : sortBy lt xs ~ xs := by
  have hRuns := State.foldl_push_items lt xs.length (cutRuns lt xs) ⟨[], 7⟩
  calc sortBy lt xs
    _ ~ Waiting.itemsOf ((cutRuns lt xs).foldl (State.push lt xs.length) ⟨[], 7⟩).waiting :=
          State.collapse_items lt _ _ _
    _ ~ (cutRuns lt xs).flatten ++ [] := hRuns
    _ = (cutRuns lt xs).flatten := List.append_nil _
    _ ~ xs := cutRuns_perm lt xs

end Storefront.Sorting
