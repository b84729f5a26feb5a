import Mathlib
import Storefront.Proofs.Sorting.Keeping
import Storefront.Proofs.Sorting.Keys

/-!
# Cutting into runs

Halving and leaping both look for the place where a test stops to hold, in a list where it holds of a
beginning. With it an item is inserted behind its equals. A run that descends does so strictly, so it
has no equal keys and may be turned around.

* `bisect_isCut`, `leap_isCut`: halving and leaping find the place.
* `Keys.insert_spec`: an item is inserted behind those of its key.
* `Keys.cutRuns_spec`: the runs of a list are runs, and hold the items of each key in their order.
-/

namespace Storefront.Sorting

variable {α κ : Type} [LinearOrder κ]

/-! ## Looking for a place -/

/-- The test holds of the first `n` items and of no others. -/
structure IsCut (goes : α → Bool) (xs : List α) (n : Nat) : Prop where
  holds : ∀ x ∈ xs.take n, goes x = true
  fails : ∀ x ∈ xs.drop n, goes x = false

/-- Where the test holds of an item, it holds of those in front. -/
def HoldsInFront (goes : α → Bool) (xs : List α) : Prop :=
  xs.Pairwise fun a b => goes b = true → goes a = true

section Places

variable {goes : α → Bool} {xs : List α} {half : Nat → Nat}

theorem eq_take_cons_drop {m : Nat} {y : α} (h : xs[m]? = some y) :
    xs = xs.take m ++ y :: xs.drop (m + 1) := by
  obtain ⟨hLt, rfl⟩ := List.getElem?_eq_some_iff.1 h
  rw [← List.drop_eq_getElem_cons hLt, List.take_append_drop]

theorem HoldsInFront.holds_take {m : Nat} (h : HoldsInFront goes xs)
    (hm : xs[m]?.any goes = true) : ∀ x ∈ xs.take (m + 1), goes x = true := by
  obtain ⟨y, hy, hGoes⟩ := (Option.any_eq_true _ _).1 hm
  rw [HoldsInFront, eq_take_cons_drop hy] at h
  intro x hx
  rw [List.take_add_one, hy] at hx
  obtain hx | hx := List.mem_append.1 hx
  · exact (List.pairwise_append.1 h).2.2 x hx y List.mem_cons_self hGoes
  · rwa [List.mem_singleton.1 hx]

theorem HoldsInFront.fails_drop {m : Nat} (h : HoldsInFront goes xs)
    (hm : xs[m]?.any goes = false) : ∀ x ∈ xs.drop m, goes x = false := by
  intro x hx
  cases hy : xs[m]? with
  | none =>
    rw [List.drop_eq_nil_iff.2 (List.getElem?_eq_none_iff.1 hy)] at hx
    cases hx
  | some y =>
    have hFails : goes y = false := (Option.any_eq_false _ _).1 hm y hy
    obtain ⟨hLt, rfl⟩ := List.getElem?_eq_some_iff.1 hy
    rw [List.drop_eq_getElem_cons hLt] at hx
    obtain rfl | hx := List.mem_cons.1 hx
    · exact hFails
    · rw [HoldsInFront, eq_take_cons_drop hy] at h
      have hFront := List.rel_of_pairwise_cons (List.pairwise_append.1 h).2.1 hx
      exact Bool.eq_false_iff.2 fun hGoes => Bool.eq_false_iff.1 hFails (hFront hGoes)

/-- Halving finds the place, however the middle is chosen. -/
theorem bisect_isCut (hHalf : ∀ n, 0 < n → half n < n) (h : HoldsInFront goes xs)
    (fuel lo hi : Nat) (hFuel : hi - lo ≤ fuel) (hLe : lo ≤ hi)
    (hLo : ∀ x ∈ xs.take lo, goes x = true) (hHi : ∀ x ∈ xs.drop hi, goes x = false) :
    IsCut goes xs (bisect half goes xs fuel lo hi) := by
  induction fuel generalizing lo hi with
  | zero =>
    have hSame : lo = hi := by omega
    subst hSame
    exact ⟨hLo, hHi⟩
  | succ fuel ih =>
    rw [bisect]
    split
    · rename_i hLt
      have hMiddle := hHalf (hi - lo) (by omega)
      dsimp only
      split
      · rename_i hGoes
        apply ih _ _ (by omega) (by omega) _ hHi
        exact h.holds_take hGoes
      · rename_i hFails
        apply ih _ _ (by omega) (by omega) hLo
        exact h.fails_drop (Bool.eq_false_iff.2 hFails)
    · have hSame : lo = hi := by omega
      subst hSame
      exact ⟨hLo, hHi⟩

/-- The place lies behind an item that was reached, and not behind one that was not. -/
structure IsBetween (goes : α → Bool) (xs : List α) (last next : Nat) : Prop where
  holds : ∀ x ∈ xs.take (last + 1), goes x = true
  fails : ∀ x ∈ xs.drop next, goes x = false
  lt : last < next
  le : next ≤ xs.length

theorem HoldsInFront.isBetween {last next : Nat} (h : HoldsInFront goes xs)
    (hLast : xs[last]?.any goes = true) (hNext : xs[next]?.any goes = false) (hLt : last < next) :
    IsBetween goes xs last (min next xs.length) := by
  obtain ⟨y, hy, -⟩ := (Option.any_eq_true _ _).1 hLast
  have hInside : last < xs.length := (List.getElem?_eq_some_iff.1 hy).1
  refine ⟨h.holds_take hLast, ?_, lt_min hLt hInside, Nat.min_le_right _ _⟩
  rw [← List.drop_eq_drop_min]
  exact h.fails_drop hNext

/-- Leaps end at an item that was reached and before one that was not. -/
theorem bounds_isBetween (h : HoldsInFront goes xs) (fuel last next : Nat)
    (hFuel : xs.length < next + fuel) (hLast : xs[last]?.any goes = true) (hLt : last < next) :
    IsBetween goes xs (bounds goes xs fuel last next).1 (bounds goes xs fuel last next).2 := by
  induction fuel generalizing last next with
  | zero =>
    apply h.isBetween hLast _ hLt
    have hNone : xs[next]? = none := List.getElem?_eq_none_iff.2 (by omega)
    rw [hNone]
    rfl
  | succ fuel ih =>
    rw [bounds]
    split
    · rename_i hGoes
      exact ih next (2 * next + 1) (by omega) hGoes (by omega)
    · rename_i hFails
      exact h.isBetween hLast (Bool.eq_false_iff.2 hFails) hLt

/-- Leaps find the place as well. -/
theorem leap_isCut (hHalf : ∀ n, 0 < n → half n < n) (h : HoldsInFront goes xs) :
    IsCut goes xs (leap half goes xs) := by
  rw [leap]
  split
  · rename_i hHead
    have hFirst : xs[0]?.any goes = true := by rwa [← List.head?_eq_getElem?]
    obtain ⟨hHolds, hFails, hLt, hLe⟩ :=
      bounds_isBetween h xs.length 0 1 (by omega) hFirst Nat.one_pos
    exact bisect_isCut hHalf h _ _ _ (by omega) hLt hHolds hFails
  · rename_i hHead
    refine ⟨fun x hx => absurd hx (by simp), h.fails_drop ?_⟩
    rw [← List.head?_eq_getElem?]
    exact Bool.eq_false_iff.2 hHead

theorem Side.half_lt (side : Side) (n : Nat) (h : 0 < n) : side.half n < n := by
  cases side with
  | front => exact Nat.div_lt_self h Nat.one_lt_two
  | back =>
    show (n - 1) / 2 < n
    omega

/-- The place of an item is found by halving. -/
theorem position_eq_bisect (lt : α → α → Bool) (x : α) (fuel lo hi : Nat) (hFuel : hi - lo ≤ fuel)
    (hLe : hi ≤ xs.length) :
    position lt xs x lo hi = bisect Side.front.half (fun y => !lt x y) xs fuel lo hi := by
  induction fuel generalizing lo hi with
  | zero =>
    rw [position, if_neg (by omega)]
    rfl
  | succ fuel ih =>
    rw [position, bisect]
    split
    · rename_i hLt
      have hMiddle : lo + (hi - lo) / 2 < hi := by omega
      obtain ⟨y, hy⟩ : ∃ y, xs[lo + (hi - lo) / 2]? = some y :=
        ⟨_, List.getElem?_eq_getElem (by omega)⟩
      dsimp only [Side.half]
      rw [hy, Option.any_some]
      dsimp only
      cases lt x y with
      | true => exact ih lo (lo + (hi - lo) / 2) (by omega) (by omega)
      | false => exact ih (lo + (hi - lo) / 2 + 1) hi (by omega) hLe
    · rfl

end Places

/-! ## Insertion -/

namespace Keys

variable {lt : α → α → Bool} {K : Keys lt κ} {xs ys : List α}

/-- In a run, the items that are not above some item are in front. -/
theorem IsRun.holdsInFront {x : α} (hx : K.HasKey x) (h : K.IsRun xs) :
    HoldsInFront (fun y => !lt x y) xs := by
  apply h.sorted.imp_of_mem
  intro a b ha hb hLe hGoes
  rw [Bool.not_eq_true', K.not_lt_iff hx (h.keyed b hb)] at hGoes
  rw [Bool.not_eq_true', K.not_lt_iff hx (h.keyed a ha)]
  exact hLe.trans hGoes

/-- In a run that is turned around, the items that some item is not above are in front. -/
theorem IsRun.holdsInFront_reverse {x : α} (hx : K.HasKey x) (h : K.IsRun xs) :
    HoldsInFront (fun y => !lt y x) xs.reverse := by
  apply List.pairwise_reverse.2
  apply h.sorted.imp_of_mem
  intro a b ha hb hLe hGoes
  rw [Bool.not_eq_true', K.not_lt_iff (h.keyed a ha) hx] at hGoes
  rw [Bool.not_eq_true', K.not_lt_iff (h.keyed b hb) hx]
  exact hGoes.trans hLe

/-- An item is inserted into a run behind those of its key. -/
theorem insert_spec {x : α} (hx : K.HasKey x) (h : K.IsRun xs) :
    K.IsRun (insert lt xs x) ∧ K.Alike (insert lt xs x) (xs ++ [x]) := by
  obtain ⟨hHolds, hFails⟩ : IsCut (fun y => !lt x y) xs (position lt xs x 0 xs.length) := by
    rw [position_eq_bisect lt x xs.length 0 xs.length le_rfl le_rfl]
    apply bisect_isCut (Side.half_lt .front) (h.holdsInFront hx) _ _ _ le_rfl (Nat.zero_le _)
    · simp
    · simp
  rw [insert]
  generalize position lt xs x 0 xs.length = n at hHolds hFails ⊢
  have hCut : xs.take n ++ xs.drop n = xs := List.take_append_drop n xs
  obtain ⟨hTake, hDrop, hAcross⟩ := IsRun.append_iff.1 (hCut.symm ▸ h)
  have hLe : ∀ y ∈ xs.take n, K.key y ≤ K.key x := by
    intro y hy
    rw [← K.not_lt_iff hx (hTake.keyed y hy)]
    simpa using hHolds y hy
  have hLt : ∀ y ∈ xs.drop n, K.key x < K.key y := by
    intro y hy
    rw [← K.lt_iff hx (hDrop.keyed y hy)]
    simpa using hFails y hy
  have hBehind : K.IsRun (x :: xs.drop n) := hDrop.cons hx fun y hy => (hLt y hy).le
  constructor
  · apply IsRun.append_iff.2 ⟨hTake, hBehind, _⟩
    intro y hy z hz
    obtain rfl | hz := List.mem_cons.1 hz
    · exact hLe y hy
    · exact hAcross y hy z hz
  · have hComm : K.Alike ([x] ++ xs.drop n) (xs.drop n ++ [x]) := by
      apply alike_append_comm
      intro y hy z hz
      rw [List.mem_singleton.1 hy]
      exact (hLt z hz).ne
    apply (hComm.append_left (xs.take n)).trans
    apply Alike.of_eq
    rw [← List.append_assoc, hCut]

theorem foldl_insert_spec (h : K.IsRun xs) (hys : ∀ y ∈ ys, K.HasKey y) :
    K.IsRun (ys.foldl (insert lt) xs) ∧ K.Alike (ys.foldl (insert lt) xs) (xs ++ ys) := by
  induction ys generalizing xs with
  | nil => exact ⟨h, .of_eq (List.append_nil xs).symm⟩
  | cons y ys ih =>
    obtain ⟨hy, hys⟩ := List.forall_mem_cons.1 hys
    obtain ⟨hRun, hAlike⟩ := insert_spec hy h
    obtain ⟨hAll, hAllAlike⟩ := ih hRun hys
    refine ⟨hAll, hAllAlike.trans ?_⟩
    have hSame := hAlike.append_right ys
    rwa [List.append_assoc] at hSame

/-! ## Runs of a list -/

/-- In a chain of related items each is related to all that follow. -/
theorem chain_pairwise {related : α → α → Bool} {r : α → α → Prop}
    (hTrans : ∀ {a b c}, r a b → r b c → r a c) (x : α) (xs : List α)
    (h : ∀ a ∈ x :: xs, ∀ b ∈ x :: xs, related a b = true → r a b) :
    (x :: (chain related x xs).1).Pairwise r := by
  induction xs generalizing x with
  | nil => exact List.pairwise_singleton r x
  | cons y ys ih =>
    rw [chain]
    split
    · rename_i hRelated
      have hTail := ih y fun a ha b hb =>
        h a (List.mem_cons_of_mem x ha) b (List.mem_cons_of_mem x hb)
      have hHead : r x y := h x List.mem_cons_self y (by simp) hRelated
      apply List.pairwise_cons.2 ⟨_, hTail⟩
      intro z hz
      obtain rfl | hz := List.mem_cons.1 hz
      · exact hHead
      · exact hTrans hHead (List.rel_of_pairwise_cons hTail hz)
    · exact List.pairwise_singleton r x

/-- The first run as a chain from the first item on. -/
theorem firstRun_cons (x y : α) (rest : List α) :
    firstRun lt (x :: y :: rest) =
      if lt y x then
        ((x :: (chain (fun a b => lt b a) x (y :: rest)).1).reverse,
          (chain (fun a b => lt b a) x (y :: rest)).2)
      else
        (x :: (chain (fun a b => !lt b a) x (y :: rest)).1,
          (chain (fun a b => !lt b a) x (y :: rest)).2) := by
  rw [firstRun, chain, chain]
  cases lt y x <;> rfl

theorem firstRun_spec (h : ∀ x ∈ xs, K.HasKey x) :
    K.IsRun (firstRun lt xs).1 ∧ K.Alike ((firstRun lt xs).1 ++ (firstRun lt xs).2) xs := by
  match xs with
  | [] => exact ⟨.nil, .refl _⟩
  | [x] => exact ⟨⟨h, List.pairwise_singleton _ x⟩, .refl _⟩
  | x :: y :: rest =>
    rw [firstRun_cons]
    split
    · -- A descending run descends strictly, so that no two of its keys are equal.
      have hChain := chain_append (fun a b => lt b a) x (y :: rest)
      have hStep : ∀ a ∈ x :: y :: rest, ∀ b ∈ x :: y :: rest, lt b a = true →
          K.key b < K.key a := fun a ha b hb => (K.lt_iff (h b hb) (h a ha)).1
      have hFalls := chain_pairwise (fun hab hbc => hbc.trans hab) x (y :: rest) hStep
      generalize chain (fun a b => lt b a) x (y :: rest) = cut at hChain hFalls ⊢
      obtain ⟨taken, left⟩ := cut
      dsimp only at hChain hFalls ⊢
      have hTurned : K.Alike (x :: taken).reverse (x :: taken) :=
        alike_reverse (hFalls.imp fun hLt => hLt.ne')
      have hAlike : K.Alike ((x :: taken).reverse ++ left) (x :: y :: rest) := by
        rw [← hChain]
        exact hTurned.append_right left
      refine ⟨⟨fun z hz => ?_, ?_⟩, hAlike⟩
      · exact hAlike.forall_mem h z (List.mem_append_left _ hz)
      · exact List.pairwise_reverse.2 (hFalls.imp fun hLt => hLt.le)
    · have hChain := chain_append (fun a b => !lt b a) x (y :: rest)
      have hStep : ∀ a ∈ x :: y :: rest, ∀ b ∈ x :: y :: rest, (!lt b a) = true →
          K.key a ≤ K.key b := by
        intro a ha b hb hNot
        rw [← K.not_lt_iff (h b hb) (h a ha)]
        simpa using hNot
      have hClimbs := chain_pairwise (fun hab hbc => hab.trans hbc) x (y :: rest) hStep
      generalize chain (fun a b => !lt b a) x (y :: rest) = cut at hChain hClimbs ⊢
      obtain ⟨taken, left⟩ := cut
      dsimp only at hChain hClimbs ⊢
      have hSame : (x :: taken) ++ left = x :: y :: rest := congrArg (x :: ·) hChain
      refine ⟨⟨fun z hz => ?_, hClimbs⟩, .of_eq hSame⟩
      exact h z (hSame ▸ List.mem_append_left left hz)

theorem longRun_spec (least : Nat) (h : ∀ x ∈ xs, K.HasKey x) :
    K.IsRun (longRun lt least xs).1 ∧
      K.Alike ((longRun lt least xs).1 ++ (longRun lt least xs).2) xs := by
  obtain ⟨hFirst, hAlike⟩ := firstRun_spec h
  rw [longRun]
  generalize firstRun lt xs = cut at hFirst hAlike ⊢
  obtain ⟨ascending, rest⟩ := cut
  dsimp only at hFirst hAlike ⊢
  generalize least - ascending.length = missing
  have hRest : ∀ x ∈ rest, K.HasKey x := fun x hx =>
    hAlike.forall_mem h x (List.mem_append_right _ hx)
  obtain ⟨hLong, hLongAlike⟩ :=
    foldl_insert_spec hFirst fun x hx => hRest x (List.mem_of_mem_take hx)
  refine ⟨hLong, (hLongAlike.append_right _).trans (.trans (.of_eq ?_) hAlike)⟩
  rw [List.append_assoc, List.take_append_drop]

theorem runsOf_spec (least fuel : Nat) (hFuel : xs.length ≤ fuel) (h : ∀ x ∈ xs, K.HasKey x) :
    (∀ run ∈ runsOf lt least fuel xs, K.IsRun run) ∧
      K.Alike (runsOf lt least fuel xs).flatten xs := by
  induction fuel generalizing xs with
  | zero =>
    rw [List.length_eq_zero_iff.1 (Nat.le_zero.1 hFuel)]
    exact ⟨fun run hRun => absurd hRun List.not_mem_nil, .refl _⟩
  | succ fuel ih =>
    cases xs with
    | nil => exact ⟨fun run hRun => absurd hRun List.not_mem_nil, .refl _⟩
    | cons x rest =>
      obtain ⟨hLong, hAlike⟩ := longRun_spec least h
      have hFewer := (Sorting.longRun_spec lt least x rest).2
      obtain ⟨hRuns, hLeft⟩ := ih (hFewer.trans (Nat.le_of_succ_le_succ hFuel)) fun y hy =>
        hAlike.forall_mem h y (List.mem_append_right _ hy)
      rw [runsOf]
      exact ⟨List.forall_mem_cons.2 ⟨hLong, hRuns⟩, (hLeft.append_left _).trans hAlike⟩

theorem cutRuns_spec (h : ∀ x ∈ xs, K.HasKey x) :
    (∀ run ∈ cutRuns lt xs, K.IsRun run) ∧ K.Alike (cutRuns lt xs).flatten xs :=
  runsOf_spec _ _ le_rfl h

end Keys

end Storefront.Sorting
