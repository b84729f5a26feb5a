import Mathlib
import Storefront.Proofs.Sorting.Runs

/-!
# Merging keeps the order of equal keys

A merge works from the side of the shorter run, on both runs as they are seen from there. An item may be
taken once it goes before all that is left of the other run. Then what was merged before, followed by
what is left of either run, stays sorted; and if the item overtakes the other run, it overtakes different
keys only. In the end nothing has to be compared, because the last item of the shorter run was known to
go last.

* `Keys.Merges`: what holds of a merge at any time.
* `Keys.Merges.takeFirst`, `Keys.Merges.takeSecond`: when it may go on.
* `Keys.Merges.merge`, `Keys.Merges.finish`: it ends, and what it ends with.
-/

namespace Storefront.Sorting

variable {α κ : Type} [LinearOrder κ] {lt : α → α → Bool}

open Pending (prefersSecond)

/-! ## Sides -/

namespace Keys

/-- The one key stands before the other or beside it, seen from a side. -/
def Ahead (K : Keys lt κ) (side : Side) (a b : α) : Prop :=
  match side with
  | .front => K.key a ≤ K.key b
  | .back => K.key b ≤ K.key a

variable {K : Keys lt κ} {side : Side} {a b c : α}

/-- Only an item of a smaller key overtakes, from the front one of the second run. -/
theorem prefersSecond_front_iff (ha : K.HasKey a) (hb : K.HasKey b) :
    prefersSecond .front lt a b = true ↔ K.key b < K.key a :=
  K.lt_iff hb ha

/-- From the back it is one of the first run, and of a larger key. -/
theorem prefersSecond_back_iff (ha : K.HasKey a) (hb : K.HasKey b) :
    prefersSecond .back lt a b = false ↔ K.key b < K.key a := by
  rw [← K.lt_iff hb ha]
  show (!lt b a) = false ↔ lt b a = true
  simp

theorem ahead_of_prefersSecond (ha : K.HasKey a) (hb : K.HasKey b)
    (h : prefersSecond side lt a b = true) : K.Ahead side b a := by
  cases side with
  | front => exact ((prefersSecond_front_iff ha hb).1 h).le
  | back =>
    by_contra hNot
    rw [(prefersSecond_back_iff ha hb).2 (not_le.1 hNot)] at h
    cases h

theorem ahead_of_not_prefersSecond (ha : K.HasKey a) (hb : K.HasKey b)
    (h : prefersSecond side lt a b = false) : K.Ahead side a b := by
  cases side with
  | front =>
    by_contra hNot
    rw [(prefersSecond_front_iff ha hb).2 (not_le.1 hNot)] at h
    cases h
  | back => exact ((prefersSecond_back_iff ha hb).1 h).le

/-- An item of the second run that goes before one of the first goes before what follows that. -/
theorem prefersSecond_of_ahead (ha : K.HasKey a) (hc : K.HasKey c) (hb : K.HasKey b)
    (hac : K.Ahead side a c) (h : prefersSecond side lt a b = true) :
    prefersSecond side lt c b = true := by
  cases side with
  | front =>
    rw [prefersSecond_front_iff hc hb]
    exact ((prefersSecond_front_iff ha hb).1 h).trans_le hac
  | back =>
    by_contra hNot
    have hLt := (prefersSecond_back_iff hc hb).1 (Bool.eq_false_iff.2 hNot)
    rw [(prefersSecond_back_iff ha hb).2 (hLt.trans_le hac)] at h
    cases h

/-- An item of the first run that goes before one of the second goes before what follows that. -/
theorem not_prefersSecond_of_ahead (ha : K.HasKey a) (hb : K.HasKey b) (hc : K.HasKey c)
    (hbc : K.Ahead side b c) (h : prefersSecond side lt a b = false) :
    prefersSecond side lt a c = false := by
  cases side with
  | front =>
    by_contra hNot
    have hLt := (prefersSecond_front_iff ha hc).1 (Bool.not_eq_false _ ▸ hNot)
    rw [(prefersSecond_front_iff ha hb).2 (lt_of_le_of_lt hbc hLt)] at h
    cases h
  | back =>
    rw [prefersSecond_back_iff ha hc]
    exact lt_of_le_of_lt hbc ((prefersSecond_back_iff ha hb).1 h)

end Keys

/-! ## Merges under way -/

namespace Pending

/-- What is left, in the order of the runs as it is seen from a side. -/
def remaining (side : Side) (p : Pending α) : List α :=
  match side with
  | .front => p.first ++ p.second
  | .back => p.second ++ p.first

/-- The last item that is left of the shorter run goes after all of the other run. -/
def IsAnchored (side : Side) (lt : α → α → Bool) (p : Pending α) : Prop :=
  match side with
  | .front => ∀ a ∈ p.first.getLast?, ∀ b ∈ p.second, prefersSecond side lt a b = true
  | .back => ∀ b ∈ p.second.getLast?, ∀ a ∈ p.first, prefersSecond side lt a b = false

/-- How many items are left. -/
def size (p : Pending α) : Nat := p.first.length + p.second.length

variable {side : Side} {p : Pending α}

theorem mem_remaining {x : α} : x ∈ p.remaining side ↔ x ∈ p.first ∨ x ∈ p.second := by
  cases side with
  | front => exact List.mem_append
  | back => exact List.mem_append.trans Or.comm

theorem mem_of_mem_getLast?_drop {xs : List α} {n : Nat} {x : α} (h : x ∈ (xs.drop n).getLast?) :
    x ∈ xs.getLast? := by
  rw [List.getLast?_drop] at h
  split at h
  · cases h
  · exact h

theorem IsAnchored.takeFirst (h : p.IsAnchored side lt) (n : Nat) :
    (p.takeFirst n).IsAnchored side lt := by
  cases side with
  | front => exact fun a ha => h a (mem_of_mem_getLast?_drop ha)
  | back => exact fun b hb a ha => h b hb a (List.mem_of_mem_drop ha)

theorem IsAnchored.takeSecond (h : p.IsAnchored side lt) (n : Nat) :
    (p.takeSecond n).IsAnchored side lt := by
  cases side with
  | front => exact fun a ha b hb => h a ha b (List.mem_of_mem_drop hb)
  | back => exact fun b hb => h b (mem_of_mem_getLast?_drop hb)

theorem ne_nil_of_not_isSettled (h : p.isSettled side = false) : p.first ≠ [] ∧ p.second ≠ [] := by
  constructor
  · rintro hFirst
    cases side <;> simp [isSettled, hFirst] at h
  · rintro hSecond
    cases side <;> simp [isSettled, hSecond] at h

theorem size_takeFirst_le (p : Pending α) (n : Nat) : (p.takeFirst n).size ≤ p.size := by
  simp only [size, takeFirst, List.length_drop]
  omega

theorem size_takeSecond_le (p : Pending α) (n : Nat) : (p.takeSecond n).size ≤ p.size := by
  simp only [size, takeSecond, List.length_drop]
  omega

theorem size_takeFirst_lt (h : p.first ≠ []) : (p.takeFirst 1).size < p.size := by
  have hLength := List.length_pos_iff.2 h
  simp only [size, takeFirst, List.length_drop]
  omega

theorem size_takeSecond_lt (h : p.second ≠ []) : (p.takeSecond 1).size < p.size := by
  have hLength := List.length_pos_iff.2 h
  simp only [size, takeSecond, List.length_drop]
  omega

end Pending

namespace Keys

/-- A merge under way. What is merged, followed by what is left of either run, is sorted as seen from
the side; and followed by what is left of both, it holds the items of each key as the whole does. -/
structure Merges (K : Keys lt κ) (side : Side) (whole : List α) (p : Pending α) : Prop where
  keyed : ∀ x ∈ whole, K.HasKey x
  alike : K.Alike (p.merged.reverse ++ p.remaining side) whole
  first : (p.merged.reverse ++ p.first).Pairwise (K.Ahead side)
  second : (p.merged.reverse ++ p.second).Pairwise (K.Ahead side)
  anchored : p.IsAnchored side lt

namespace Merges

variable {K : Keys lt κ} {side : Side} {whole : List α} {p : Pending α}

theorem keyed_first (h : K.Merges side whole p) : ∀ a ∈ p.first, K.HasKey a := fun a ha =>
  h.alike.forall_mem h.keyed a (List.mem_append_right _ (Pending.mem_remaining.2 (.inl ha)))

theorem keyed_second (h : K.Merges side whole p) : ∀ b ∈ p.second, K.HasKey b := fun b hb =>
  h.alike.forall_mem h.keyed b (List.mem_append_right _ (Pending.mem_remaining.2 (.inr hb)))

theorem alike_take_append {xs ys : List α} (n : Nat)
    (h : ∀ x ∈ xs.take n, ∀ y ∈ ys, K.key x ≠ K.key y) :
    K.Alike (xs.take n ++ (ys ++ xs.drop n)) (ys ++ xs) := by
  have hComm := (alike_append_comm h).append_right (xs.drop n)
  rwa [List.append_assoc, List.append_assoc, List.take_append_drop] at hComm

theorem take_append_drop_append (xs ys : List α) (n : Nat) :
    xs.take n ++ (xs.drop n ++ ys) = xs ++ ys := by
  rw [← List.append_assoc, List.take_append_drop]

/-- Where items of one list go before another list, they may be put between it and what both
follow. -/
theorem pairwise_between {r : α → α → Prop} {ms xs ys : List α} (n : Nat)
    (hxs : (ms ++ xs).Pairwise r) (hys : (ms ++ ys).Pairwise r)
    (h : ∀ x ∈ xs.take n, ∀ y ∈ ys, r x y) : (ms ++ xs.take n ++ ys).Pairwise r := by
  obtain ⟨-, hOther, hAfter⟩ := List.pairwise_append.1 hys
  have hTaken : (ms ++ xs.take n).Pairwise r :=
    hxs.sublist ((List.take_sublist n xs).append_left ms)
  apply List.pairwise_append.2 ⟨hTaken, hOther, _⟩
  intro x hx y hy
  obtain hx | hx := List.mem_append.1 hx
  · exact hAfter x hx y hy
  · exact h x hx y hy

/-- Items of the first run may be taken that go before all of the second run. -/
theorem takeFirst (h : K.Merges side whole p) (n : Nat)
    (hGo : ∀ a ∈ p.first.take n, ∀ b ∈ p.second, prefersSecond side lt a b = false) :
    K.Merges side whole (p.takeFirst n) := by
  have hKeyed : ∀ a ∈ p.first.take n, K.HasKey a := fun a ha =>
    h.keyed_first a (List.mem_of_mem_take ha)
  have hMerged : (p.takeFirst n).merged.reverse = p.merged.reverse ++ p.first.take n := by
    simp [Pending.takeFirst]
  have hLeft : K.Alike (p.first.take n ++ (p.takeFirst n).remaining side) (p.remaining side) := by
    cases side with
    | front => exact .of_eq (take_append_drop_append p.first p.second n)
    | back =>
      apply alike_take_append
      intro a ha b hb
      exact ((prefersSecond_back_iff (hKeyed a ha) (h.keyed_second b hb)).1 (hGo a ha b hb)).ne'
  refine ⟨h.keyed, ?_, ?_, ?_, h.anchored.takeFirst n⟩
  · rw [hMerged, List.append_assoc]
    exact (hLeft.append_left _).trans h.alike
  · have hSame : (p.takeFirst n).merged.reverse ++ (p.takeFirst n).first =
        p.merged.reverse ++ p.first := by
      rw [hMerged, List.append_assoc]
      exact congrArg _ (List.take_append_drop n p.first)
    rw [hSame]
    exact h.first
  · rw [hMerged]
    apply pairwise_between n h.first h.second
    intro a ha b hb
    exact ahead_of_not_prefersSecond (hKeyed a ha) (h.keyed_second b hb) (hGo a ha b hb)

/-- Items of the second run may be taken that go before all of the first run. -/
theorem takeSecond (h : K.Merges side whole p) (n : Nat)
    (hGo : ∀ b ∈ p.second.take n, ∀ a ∈ p.first, prefersSecond side lt a b = true) :
    K.Merges side whole (p.takeSecond n) := by
  have hKeyed : ∀ b ∈ p.second.take n, K.HasKey b := fun b hb =>
    h.keyed_second b (List.mem_of_mem_take hb)
  have hMerged : (p.takeSecond n).merged.reverse = p.merged.reverse ++ p.second.take n := by
    simp [Pending.takeSecond]
  have hLeft : K.Alike (p.second.take n ++ (p.takeSecond n).remaining side) (p.remaining side) := by
    cases side with
    | front =>
      apply alike_take_append
      intro b hb a ha
      exact ((prefersSecond_front_iff (h.keyed_first a ha) (hKeyed b hb)).1 (hGo b hb a ha)).ne
    | back => exact .of_eq (take_append_drop_append p.second p.first n)
  refine ⟨h.keyed, ?_, ?_, ?_, h.anchored.takeSecond n⟩
  · rw [hMerged, List.append_assoc]
    exact (hLeft.append_left _).trans h.alike
  · rw [hMerged]
    apply pairwise_between n h.second h.first
    intro b hb a ha
    exact ahead_of_prefersSecond (h.keyed_first a ha) (hKeyed b hb) (hGo b hb a ha)
  · have hSame : (p.takeSecond n).merged.reverse ++ (p.takeSecond n).second =
        p.merged.reverse ++ p.second := by
      rw [hMerged, List.append_assoc]
      exact congrArg _ (List.take_append_drop n p.second)
    rw [hSame]
    exact h.second

theorem first_pairwise (h : K.Merges side whole p) : p.first.Pairwise (K.Ahead side) :=
  (List.pairwise_append.1 h.first).2.1

theorem second_pairwise (h : K.Merges side whole p) : p.second.Pairwise (K.Ahead side) :=
  (List.pairwise_append.1 h.second).2.1

/-- What goes before the head of the first run goes before all of it. -/
theorem prefersSecond_of_head (h : K.Merges side whole p) {a b : α} {as : List α}
    (hFirst : p.first = a :: as) (hb : b ∈ p.second) (hGo : prefersSecond side lt a b = true) :
    ∀ c ∈ p.first, prefersSecond side lt c b = true := by
  have hKeyed := h.keyed_first
  have hSorted := h.first_pairwise
  rw [hFirst] at hKeyed hSorted ⊢
  intro c hc
  obtain rfl | hBehind := List.mem_cons.1 hc
  · exact hGo
  · exact prefersSecond_of_ahead (hKeyed a List.mem_cons_self) (hKeyed c hc)
      (h.keyed_second b hb) (List.rel_of_pairwise_cons hSorted hBehind) hGo

/-- What goes before the head of the second run goes before all of it. -/
theorem not_prefersSecond_of_head (h : K.Merges side whole p) {a b : α} {bs : List α}
    (hSecond : p.second = b :: bs) (ha : a ∈ p.first) (hGo : prefersSecond side lt a b = false) :
    ∀ c ∈ p.second, prefersSecond side lt a c = false := by
  have hKeyed := h.keyed_second
  have hSorted := h.second_pairwise
  rw [hSecond] at hKeyed hSorted ⊢
  intro c hc
  obtain rfl | hBehind := List.mem_cons.1 hc
  · exact hGo
  · exact not_prefersSecond_of_ahead (h.keyed_first a ha) (hKeyed b List.mem_cons_self)
      (hKeyed c hc) (List.rel_of_pairwise_cons hSorted hBehind) hGo

theorem takeFirst_of_heads (h : K.Merges side whole p) {a b : α} {as bs : List α}
    (hFirst : p.first = a :: as) (hSecond : p.second = b :: bs)
    (hGo : prefersSecond side lt a b = false) : K.Merges side whole (p.takeFirst 1) := by
  apply h.takeFirst
  intro c hc
  rw [hFirst] at hc
  obtain rfl : c = a := List.mem_singleton.1 hc
  exact h.not_prefersSecond_of_head hSecond (hFirst ▸ List.mem_cons_self) hGo

theorem takeSecond_of_heads (h : K.Merges side whole p) {a b : α} {as bs : List α}
    (hFirst : p.first = a :: as) (hSecond : p.second = b :: bs)
    (hGo : prefersSecond side lt a b = true) : K.Merges side whole (p.takeSecond 1) := by
  apply h.takeSecond
  intro c hc
  rw [hSecond] at hc
  obtain rfl : c = b := List.mem_singleton.1 hc
  exact h.prefersSecond_of_head hFirst (hSecond ▸ List.mem_cons_self) hGo

/-! ### Leaps -/

theorem holdsInFront_first (h : K.Merges side whole p) {b : α} (hb : b ∈ p.second) :
    HoldsInFront (fun a => !prefersSecond side lt a b) p.first := by
  apply h.first_pairwise.imp_of_mem
  intro a c ha hc hAhead hGoes
  dsimp only at hGoes
  by_contra hNot
  have hGo : prefersSecond side lt a b = true := by simpa using hNot
  rw [prefersSecond_of_ahead (h.keyed_first a ha) (h.keyed_first c hc) (h.keyed_second b hb)
    hAhead hGo] at hGoes
  cases hGoes

theorem holdsInFront_second (h : K.Merges side whole p) {a : α} (ha : a ∈ p.first) :
    HoldsInFront (fun b => prefersSecond side lt a b) p.second := by
  apply h.second_pairwise.imp_of_mem
  intro b c hb hc hAhead hGoes
  dsimp only at hGoes
  by_contra hNot
  rw [not_prefersSecond_of_ahead (h.keyed_first a ha) (h.keyed_second b hb)
    (h.keyed_second c hc) hAhead (Bool.eq_false_iff.2 hNot)] at hGoes
  cases hGoes

/-- After a leap over the first run, the head of the second goes before what is left of it. -/
theorem leapFirst (h : K.Merges side whole p) :
    K.Merges side whole (p.leapFirst side lt).2 ∧
      ∀ b ∈ (p.leapFirst side lt).2.second.take 1, ∀ a ∈ (p.leapFirst side lt).2.first,
        prefersSecond side lt a b = true := by
  rw [Pending.leapFirst.eq_def]
  cases hSecond : p.second with
  | nil =>
    refine ⟨h, fun b hb => ?_⟩
    rw [hSecond] at hb
    cases hb
  | cons b bs =>
    have hb : b ∈ p.second := hSecond ▸ List.mem_cons_self
    obtain ⟨hHolds, hFails⟩ := leap_isCut side.half_lt (h.holdsInFront_first hb)
    constructor
    · apply h.takeFirst
      intro a ha
      apply h.not_prefersSecond_of_head hSecond (List.mem_of_mem_take ha)
      simpa using hHolds a ha
    · intro c hc a ha
      have hHead : c ∈ p.second.take 1 := hc
      rw [hSecond] at hHead
      rw [List.mem_singleton.1 hHead]
      simpa using hFails a ha

/-- After a leap over the second run, the head of the first goes before what is left of it. -/
theorem leapSecond (h : K.Merges side whole p) :
    K.Merges side whole (p.leapSecond side lt).2 ∧
      ∀ a ∈ (p.leapSecond side lt).2.first.take 1, ∀ b ∈ (p.leapSecond side lt).2.second,
        prefersSecond side lt a b = false := by
  rw [Pending.leapSecond.eq_def]
  cases hFirst : p.first with
  | nil =>
    refine ⟨h, fun a ha => ?_⟩
    rw [hFirst] at ha
    cases ha
  | cons a as =>
    have ha : a ∈ p.first := hFirst ▸ List.mem_cons_self
    obtain ⟨hHolds, hFails⟩ := leap_isCut side.half_lt (h.holdsInFront_second ha)
    constructor
    · apply h.takeSecond
      intro b hb
      exact h.prefersSecond_of_head hFirst (List.mem_of_mem_take hb) (hHolds b hb)
    · intro c hc b hb
      have hHead : c ∈ p.first.take 1 := hc
      rw [hFirst] at hHead
      rw [List.mem_singleton.1 hHead]
      exact hFails b hb

theorem size_leapFirst_le (side : Side) (lt : α → α → Bool) (p : Pending α) :
    (p.leapFirst side lt).2.size ≤ p.size := by
  rw [Pending.leapFirst.eq_def]
  split
  · exact p.size_takeFirst_le _
  · exact le_rfl

theorem size_leapSecond_le (side : Side) (lt : α → α → Bool) (p : Pending α) :
    (p.leapSecond side lt).2.size ≤ p.size := by
  rw [Pending.leapSecond.eq_def]
  split
  · exact p.size_takeSecond_le _
  · exact le_rfl

/-- A round of leaps is a part of the merge; it settles the rest or takes an item. -/
theorem leapRound (h : K.Merges side whole p) :
    K.Merges side whole (p.leapRound side lt).2 ∧
      ((p.leapRound side lt).2.isSettled side = true ∨ (p.leapRound side lt).2.size < p.size) := by
  obtain ⟨hFirst, hOver⟩ := h.leapFirst
  have hSize := size_leapFirst_le side lt p
  rw [Pending.leapRound]
  generalize p.leapFirst side lt = leaped at hFirst hOver hSize ⊢
  obtain ⟨m, q⟩ := leaped
  dsimp only at hFirst hOver hSize ⊢
  split
  · rename_i hSettled
    exact ⟨hFirst, .inl hSettled⟩
  · rename_i hOpen
    have hTaken := hFirst.takeSecond 1 hOver
    have hLess : (q.takeSecond 1).size < p.size :=
      (Pending.size_takeSecond_lt
        (Pending.ne_nil_of_not_isSettled (Bool.eq_false_iff.2 hOpen)).2).trans_le hSize
    split
    · exact ⟨hTaken, .inr hLess⟩
    · obtain ⟨hSecond, hBack⟩ := hTaken.leapSecond
      have hStill := (size_leapSecond_le side lt (q.takeSecond 1)).trans_lt hLess
      generalize (q.takeSecond 1).leapSecond side lt = leaped at hSecond hBack hStill ⊢
      obtain ⟨n, r⟩ := leaped
      dsimp only at hSecond hBack hStill ⊢
      split
      · exact ⟨hSecond, .inr hStill⟩
      · exact ⟨hSecond.takeFirst 1 hBack, .inr ((r.size_takeFirst_le 1).trans_lt hStill)⟩

/-- Merging goes on until the rest is settled, at every pace. -/
theorem merge (h : K.Merges side whole p) (fuel : Nat) (pace : Pace) (patience : Patience)
    (hFuel : p.size ≤ fuel) :
    K.Merges side whole (p.merge side lt fuel pace patience).2 ∧
      (p.merge side lt fuel pace patience).2.isSettled side = true := by
  induction fuel generalizing pace patience p with
  | zero =>
    refine ⟨h, ?_⟩
    by_contra hOpen
    have hSome : p.first ≠ [] := (Pending.ne_nil_of_not_isSettled (Bool.eq_false_iff.2 hOpen)).1
    have hLength := List.length_pos_iff.2 hSome
    rw [Pending.size] at hFuel
    omega
  | succ fuel ih =>
    rw [Pending.merge.eq_def]
    dsimp only
    split
    · rename_i hSettled
      exact ⟨h, hSettled⟩
    · split
      · -- One item is taken, from the run whose head goes first.
        rename_i m n a as b bs hFirst hSecond
        cases hGo : Pending.prefersSecond side lt a b with
        | true =>
          have hTaken := h.takeSecond_of_heads hFirst hSecond hGo
          have hLess := Pending.size_takeSecond_lt (hSecond ▸ List.cons_ne_nil b bs)
          simp only [if_true]
          split
          · rename_i hSettled
            exact ⟨hTaken, hSettled⟩
          · split
            · exact ih hTaken _ _ (by omega)
            · exact ih hTaken _ _ (by omega)
        | false =>
          have hTaken := h.takeFirst_of_heads hFirst hSecond hGo
          have hLess := Pending.size_takeFirst_lt (hFirst ▸ List.cons_ne_nil a as)
          simp only [Bool.false_eq_true, if_false]
          split
          · rename_i hSettled
            exact ⟨hTaken, hSettled⟩
          · split
            · exact ih hTaken _ _ (by omega)
            · exact ih hTaken _ _ (by omega)
      · obtain ⟨hRound, hProgress⟩ := h.leapRound
        generalize p.leapRound side lt = round at hRound hProgress ⊢
        obtain ⟨well, q⟩ := round
        dsimp only at hRound hProgress ⊢
        split
        · rename_i hSettled
          exact ⟨hRound, hSettled⟩
        · rename_i hOpen
          have hLess := hProgress.resolve_left hOpen
          split
          · exact ih hRound _ _ (by omega)
          · exact ih hRound _ _ (by omega)

/-! ### The end of a merge -/

/-- What is merged when nothing is left is a run of the whole. -/
theorem of_remaining_nil (h : K.Merges side whole p) (hFirst : p.first = [])
    (hSecond : p.second = []) :
    K.IsRun (side.view p.merged.reverse) ∧
      K.Alike (side.view p.merged.reverse) (side.view whole) := by
  have hNone : p.remaining side = [] := by
    cases side <;> simp [Pending.remaining, hFirst, hSecond]
  have hAlike := h.alike
  have hSorted := h.first
  rw [hNone, List.append_nil] at hAlike
  rw [hFirst, List.append_nil] at hSorted
  have hKeyed := hAlike.forall_mem h.keyed
  cases side with
  | front => exact ⟨⟨hKeyed, hSorted⟩, hAlike⟩
  | back =>
    refine ⟨⟨fun x hx => hKeyed x (List.mem_reverse.1 hx), ?_⟩, hAlike.reverse⟩
    exact List.pairwise_reverse.2 hSorted

theorem mem_getLast?_of_length_le_one {xs : List α} {x : α} (h : xs.length ≤ 1) (hx : x ∈ xs) :
    x ∈ xs.getLast? := by
  match xs with
  | [y] => exact congrArg some (List.mem_singleton.1 hx).symm

theorem prefersSecond_of_isSettled (h : K.Merges .front whole p)
    (hSettled : p.isSettled .front = true) :
    ∀ b ∈ p.second, ∀ a ∈ p.first, prefersSecond .front lt a b = true := by
  intro b hb a ha
  obtain hShort | hNone : p.first.length ≤ 1 ∨ p.second = [] := by
    simpa [Pending.isSettled] using hSettled
  · exact h.anchored a (mem_getLast?_of_length_le_one hShort ha) b hb
  · rw [hNone] at hb
    cases hb

theorem not_prefersSecond_of_isSettled (h : K.Merges .back whole p)
    (hSettled : p.isSettled .back = true) :
    ∀ a ∈ p.first, ∀ b ∈ p.second, prefersSecond .back lt a b = false := by
  intro a ha b hb
  obtain hShort | hNone : p.second.length ≤ 1 ∨ p.first = [] := by
    simpa [Pending.isSettled] using hSettled
  · exact h.anchored b (mem_getLast?_of_length_le_one hShort hb) a ha
  · rw [hNone] at ha
    cases ha

/-- Once the rest is settled, it is taken without being compared: of the shorter run no more is left
than its last item. -/
theorem finish (h : K.Merges side whole p) (hSettled : p.isSettled side = true) :
    K.IsRun (p.finish side) ∧ K.Alike (p.finish side) (side.view whole) := by
  cases side with
  | front =>
    have hSecond := h.takeSecond p.second.length fun b hb =>
      h.prefersSecond_of_isSettled hSettled b (List.mem_of_mem_take hb)
    have hBoth := hSecond.takeFirst p.first.length (by simp [Pending.takeSecond])
    have hEnd := hBoth.of_remaining_nil (by simp [Pending.takeFirst, Pending.takeSecond])
      (by simp [Pending.takeFirst, Pending.takeSecond])
    simpa [Pending.finish, Pending.takeFirst, Pending.takeSecond, Side.view] using hEnd
  | back =>
    have hFirst := h.takeFirst p.first.length fun a ha =>
      h.not_prefersSecond_of_isSettled hSettled a (List.mem_of_mem_take ha)
    have hBoth := hFirst.takeSecond p.second.length (by simp [Pending.takeFirst])
    have hEnd := hBoth.of_remaining_nil (by simp [Pending.takeFirst, Pending.takeSecond])
      (by simp [Pending.takeFirst, Pending.takeSecond])
    simpa [Pending.finish, Pending.takeFirst, Pending.takeSecond, Side.view] using hEnd

end Merges

end Keys

end Storefront.Sorting
