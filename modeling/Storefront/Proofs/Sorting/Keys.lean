import Mathlib
import Storefront.Sorting.Run

/-!
# Sorting by keys

What a strict relation sorts by is a key of each item. Doubles are such keys, except for NaN, which is
related to nothing; so items without a key are left out here.

A list is sorted stably if its keys do not descend and the items of each key stand in the order in which
they stood before. The second part alone says how two lists may differ at all: `Keys.Alike`. Neighbours
with different keys may change places, and nothing else may.

* `Keys.alike_append_comm`: lists that share no key may change places.
* `Keys.alike_reverse`: a list without equal keys may be turned around.
* `Keys.IsRun.eq_of_alike`: there is one sorted list at most.
-/

namespace Storefront.Sorting

/-- The keys that a relation compares, for the items that have one. -/
structure Keys {α : Type} (lt : α → α → Bool) (κ : Type) [LinearOrder κ] where
  key : α → κ
  HasKey : α → Prop
  lt_iff : ∀ {a b : α}, HasKey a → HasKey b → (lt a b = true ↔ key a < key b)

namespace Keys

variable {α κ : Type} [LinearOrder κ] {lt : α → α → Bool} (K : Keys lt κ)

theorem not_lt_iff {a b : α} (ha : K.HasKey a) (hb : K.HasKey b) :
    lt a b = false ↔ K.key b ≤ K.key a := by
  rw [← not_lt, ← K.lt_iff ha hb, Bool.not_eq_true]

/-- The items have keys, and no key is below the one in front of it. -/
structure IsRun (xs : List α) : Prop where
  keyed : ∀ x ∈ xs, K.HasKey x
  sorted : xs.Pairwise fun a b => K.key a ≤ K.key b

/-- For each key, the lists hold the same items in the same order. -/
def Alike (xs ys : List α) : Prop :=
  ∀ k, xs.filter (fun x => K.key x = k) = ys.filter (fun x => K.key x = k)

variable {K} {xs ys zs xs' ys' : List α}

/-! ## Lists with the same items for each key -/

namespace Alike

theorem refl (xs : List α) : K.Alike xs xs := fun _ => rfl

theorem of_eq (h : xs = ys) : K.Alike xs ys := h ▸ refl xs

theorem symm (h : K.Alike xs ys) : K.Alike ys xs := fun k => (h k).symm

theorem trans (h : K.Alike xs ys) (h' : K.Alike ys zs) : K.Alike xs zs :=
  fun k => (h k).trans (h' k)

theorem append (h : K.Alike xs xs') (h' : K.Alike ys ys') : K.Alike (xs ++ ys) (xs' ++ ys') := by
  intro k
  rw [List.filter_append, List.filter_append, h k, h' k]

theorem append_left (zs : List α) (h : K.Alike xs ys) : K.Alike (zs ++ xs) (zs ++ ys) :=
  (refl zs).append h

theorem append_right (h : K.Alike xs ys) (zs : List α) : K.Alike (xs ++ zs) (ys ++ zs) :=
  h.append (refl zs)

theorem reverse (h : K.Alike xs ys) : K.Alike xs.reverse ys.reverse := by
  intro k
  rw [List.filter_reverse, List.filter_reverse, h k]

theorem perm (h : K.Alike xs ys) : xs.Perm ys := by
  classical
  apply List.perm_iff_count.2
  intro x
  have hCount (zs : List α) :
      (zs.filter fun y => K.key y = K.key x).count x = zs.count x :=
    List.count_filter (decide_eq_true rfl)
  rw [← hCount xs, ← hCount ys, h (K.key x)]

theorem mem_iff (h : K.Alike xs ys) {x : α} : x ∈ xs ↔ x ∈ ys := h.perm.mem_iff

theorem forall_mem (h : K.Alike xs ys) {P : α → Prop} (hAll : ∀ y ∈ ys, P y) : ∀ x ∈ xs, P x :=
  fun x hx => hAll x (h.mem_iff.1 hx)

/-- A function that keeps the keys keeps what is alike. -/
theorem map {β : Type} {lt' : β → β → Bool} {L : Keys lt' κ} {f : α → β} (h : K.Alike xs ys)
    (hKey : ∀ x ∈ xs, L.key (f x) = K.key x) : L.Alike (xs.map f) (ys.map f) := by
  intro k
  have hFilter {zs : List α} (hzs : ∀ z ∈ zs, L.key (f z) = K.key z) :
      (zs.map f).filter (fun y => L.key y = k) = (zs.filter (fun z => K.key z = k)).map f := by
    rw [List.filter_map]
    congr 1
    apply List.filter_congr
    intro z hz
    rw [Function.comp_apply, hzs z hz]
  rw [hFilter hKey, hFilter (h.symm.forall_mem hKey), h k]

end Alike

theorem filter_eq_nil_of_forall_ne {k : κ} (h : ∀ x ∈ xs, K.key x ≠ k) :
    xs.filter (fun x => K.key x = k) = [] := by
  apply List.filter_eq_nil_iff.2
  intro x hx
  simpa using h x hx

theorem alike_append_comm (h : ∀ x ∈ xs, ∀ y ∈ ys, K.key x ≠ K.key y) :
    K.Alike (xs ++ ys) (ys ++ xs) := by
  intro k
  rw [List.filter_append, List.filter_append]
  by_cases hSome : ∃ x ∈ xs, K.key x = k
  · obtain ⟨x, hx, rfl⟩ := hSome
    have hNone : ys.filter (fun y => K.key y = K.key x) = [] :=
      filter_eq_nil_of_forall_ne fun y hy => (h x hx y hy).symm
    rw [hNone, List.append_nil, List.nil_append]
  · have hNone : xs.filter (fun x => K.key x = k) = [] :=
      filter_eq_nil_of_forall_ne fun x hx hKey => hSome ⟨x, hx, hKey⟩
    rw [hNone, List.append_nil, List.nil_append]

theorem alike_reverse (h : xs.Pairwise fun a b => K.key a ≠ K.key b) : K.Alike xs.reverse xs := by
  induction xs with
  | nil => exact .refl _
  | cons x xs ih =>
    obtain ⟨hHead, hTail⟩ := List.pairwise_cons.1 h
    rw [List.reverse_cons]
    have hComm : K.Alike (xs ++ [x]) ([x] ++ xs) := by
      apply alike_append_comm
      intro y hy z hz
      rw [List.mem_singleton.1 hz]
      exact (hHead y hy).symm
    exact ((ih hTail).append_right [x]).trans hComm

/-! ## Runs -/

namespace IsRun

theorem nil : K.IsRun [] := ⟨fun _ h => absurd h List.not_mem_nil, .nil⟩

theorem append_iff :
    K.IsRun (xs ++ ys) ↔
      K.IsRun xs ∧ K.IsRun ys ∧ ∀ x ∈ xs, ∀ y ∈ ys, K.key x ≤ K.key y := by
  constructor
  · rintro ⟨hKeyed, hSorted⟩
    obtain ⟨hFirst, hSecond⟩ := List.forall_mem_append.1 hKeyed
    obtain ⟨hxs, hys, hAcross⟩ := List.pairwise_append.1 hSorted
    exact ⟨⟨hFirst, hxs⟩, ⟨hSecond, hys⟩, hAcross⟩
  · rintro ⟨hxs, hys, hAcross⟩
    exact ⟨List.forall_mem_append.2 ⟨hxs.keyed, hys.keyed⟩,
      List.pairwise_append.2 ⟨hxs.sorted, hys.sorted, hAcross⟩⟩

theorem sublist (h : K.IsRun xs) (hSub : ys.Sublist xs) : K.IsRun ys :=
  ⟨fun y hy => h.keyed y (hSub.subset hy), h.sorted.sublist hSub⟩

theorem cons {x : α} (hx : K.HasKey x) (h : K.IsRun xs) (hLe : ∀ y ∈ xs, K.key x ≤ K.key y) :
    K.IsRun (x :: xs) :=
  ⟨List.forall_mem_cons.2 ⟨hx, h.keyed⟩, List.pairwise_cons.2 ⟨hLe, h.sorted⟩⟩

theorem map {β : Type} {lt' : β → β → Bool} {L : Keys lt' κ} {f : α → β} (h : K.IsRun xs)
    (hKey : ∀ x ∈ xs, L.HasKey (f x) ∧ L.key (f x) = K.key x) : L.IsRun (xs.map f) := by
  refine ⟨List.forall_mem_map.2 fun x hx => (hKey x hx).1, List.pairwise_map.2 ?_⟩
  apply h.sorted.imp_of_mem
  intro a b ha hb hLe
  rwa [(hKey a ha).2, (hKey b hb).2]

/-- The head of a run has the least key. -/
theorem head_le {x : α} (h : K.IsRun (x :: xs)) {y : α} (hy : y ∈ x :: xs) : K.key x ≤ K.key y := by
  obtain rfl | hy := List.mem_cons.1 hy
  · exact le_rfl
  · exact List.rel_of_pairwise_cons h.sorted hy

/-- The last item of a run has the greatest key. -/
theorem le_getLast {x : α} (h : K.IsRun xs) (hLast : xs.getLast? = some x) {y : α} (hy : y ∈ xs) :
    K.key y ≤ K.key x := by
  obtain ⟨before, rfl⟩ := List.getLast?_eq_some_iff.1 hLast
  obtain hy | hy := List.mem_append.1 hy
  · exact (append_iff.1 h).2.2 y hy x (List.mem_singleton_self x)
  · rw [List.mem_singleton.1 hy]

theorem tail {x : α} (h : K.IsRun (x :: xs)) : K.IsRun xs := h.sublist (List.sublist_cons_self x xs)

/-- Two runs with the same items for each key are one: their heads have the least key both, and so
are the first of the items with that key. -/
theorem eq_of_alike (hxs : K.IsRun xs) (hys : K.IsRun ys) (h : K.Alike xs ys) : xs = ys := by
  induction xs generalizing ys with
  | nil =>
    cases ys with
    | nil => rfl
    | cons y ys => exact absurd (h.mem_iff.2 List.mem_cons_self) List.not_mem_nil
  | cons x xs ih =>
    cases ys with
    | nil => exact absurd (h.mem_iff.1 List.mem_cons_self) List.not_mem_nil
    | cons y ys =>
      have hKeys : K.key x = K.key y :=
        le_antisymm (hxs.head_le (h.mem_iff.2 List.mem_cons_self))
          (hys.head_le (h.mem_iff.1 List.mem_cons_self))
      have hHead : x = y := by
        have hFilter := h (K.key y)
        rw [List.filter_cons_of_pos (by simp [hKeys]), List.filter_cons_of_pos (by simp)] at hFilter
        exact (List.cons.inj hFilter).1
      subst hHead
      have hRest : K.Alike xs ys := by
        intro k
        have hFilter := h k
        rw [List.filter_cons, List.filter_cons] at hFilter
        split at hFilter
        · exact (List.cons.inj hFilter).2
        · exact hFilter
      rw [ih hxs.tail hys.tail hRest]

end IsRun

end Keys

end Storefront.Sorting
