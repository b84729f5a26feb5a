import Mathlib
import Storefront.Catalog

/-!
# Batches

A list is cut where the multiples of the batch size are, so all batches but the last have that size, and
the last one has what is left. Batches that are put together are the list again, and no other way to cut
it does this with batches of these sizes.

* `Catalog.batches_eq_map_slice`: the batches are the slices that begin at the multiples of the size.
* `Catalog.flatten_batches`: batches are the list that was cut, in its order.
* `Catalog.isPartition_batches`, `IsPartition.eq_batches`: what holds of batches, and that it holds of
  nothing else.
* `Catalog.cut_isPartition_or_tooSmall`: which sizes a list is cut by.
-/

namespace Storefront.Catalog

variable {α : Type} {size : Nat}

/-! ## Slices -/

/-- The items from a multiple of the size on, at most as many as the size. -/
def slice (size : Nat) (as : List α) (k : Nat) : List α := (as.drop (k * size)).take size

theorem slice_succ (size : Nat) (as : List α) (k : Nat) :
    slice size as (k + 1) = slice size (as.drop size) k := by
  rw [slice, slice, List.drop_drop, Nat.succ_mul, Nat.add_comm]

theorem length_slice (size : Nat) (as : List α) (k : Nat) :
    (slice size as k).length = min size (as.length - k * size) := by
  rw [slice, List.length_take, List.length_drop]

/-- A multiple of the size lies inside of a list exactly if it is counted in the quotient that is rounded
up. -/
theorem lt_ceilDiv_iff (hSize : 0 < size) {k n : Nat} : k < n ⌈/⌉ size ↔ k * size < n := by
  rw [← not_le, ceilDiv_le_iff_le_mul hSize, not_le, Nat.mul_comm]

/-- The batches are the slices that begin at the multiples of the size. -/
theorem batches_eq_map_slice (hSize : 0 < size) (as : List α) :
    batches size as = (List.range (as.length ⌈/⌉ size)).map (slice size as) := by
  obtain ⟨n, rfl⟩ : ∃ n, size = n + 1 := ⟨size - 1, by omega⟩
  fun_induction batches (n + 1) as with
  | case1 => rw [List.length_nil, zero_ceilDiv, List.range_zero, List.map_nil]
  | case2 a rest ih =>
    rw [Nat.add_sub_cancel] at ih ⊢
    have hCount : (a :: rest).length ⌈/⌉ (n + 1) = (rest.drop n).length ⌈/⌉ (n + 1) + 1 := by
      refine eq_of_forall_lt_iff fun k => ?_
      cases k with
      | zero =>
        rw [lt_ceilDiv_iff hSize, Nat.zero_mul, List.length_cons]
        omega
      | succ k =>
        rw [lt_ceilDiv_iff hSize, Nat.add_lt_add_iff_right, lt_ceilDiv_iff hSize, Nat.succ_mul,
          List.length_cons, List.length_drop]
        omega
    have hFirst : a :: rest.take n = slice (n + 1) (a :: rest) 0 := by
      rw [slice, Nat.zero_mul, List.drop_zero, List.take_succ_cons]
    have hMore : (slice (n + 1) (a :: rest)) ∘ Nat.succ = slice (n + 1) (rest.drop n) :=
      funext (slice_succ (n + 1) (a :: rest))
    rw [hCount, List.range_succ_eq_map, List.map_cons, List.map_map, hMore, ← hFirst, ← ih]

/-! ## Partitions -/

/-- Batches are the list that was cut, in its order. -/
theorem flatten_batches (size : Nat) (as : List α) : (batches size as).flatten = as := by
  fun_induction batches size as with
  | case1 => rfl
  | case2 a rest ih => rw [List.flatten_cons, ih, List.cons_append, List.take_append_drop]

/-- The pieces are the list in its order. None is empty or larger than the size, all but the last have
that size, and there are as many as the size takes to cover the list. -/
structure IsPartition (size : Nat) (as : List α) (pieces : List (List α)) : Prop where
  flatten : pieces.flatten = as
  ne_nil : ∀ piece ∈ pieces, piece ≠ []
  length_le : ∀ piece ∈ pieces, piece.length ≤ size
  length_eq : ∀ piece ∈ pieces.dropLast, piece.length = size
  count : pieces.length = as.length ⌈/⌉ size

theorem isPartition_batches (hSize : 0 < size) (as : List α) :
    IsPartition size as (batches size as) := by
  have hSlices := batches_eq_map_slice hSize as
  have hSlice : ∀ piece ∈ batches size as, ∃ k, k * size < as.length ∧ piece = slice size as k := by
    intro piece hPiece
    rw [hSlices] at hPiece
    obtain ⟨k, hk, rfl⟩ := List.mem_map.1 hPiece
    exact ⟨k, (lt_ceilDiv_iff hSize).1 (List.mem_range.1 hk), rfl⟩
  constructor
  · exact flatten_batches size as
  · intro piece hPiece
    obtain ⟨k, hk, rfl⟩ := hSlice piece hPiece
    rw [← List.length_pos_iff, length_slice]
    omega
  · intro piece hPiece
    obtain ⟨k, -, rfl⟩ := hSlice piece hPiece
    exact List.length_take_le _ _
  · intro piece hPiece
    rw [hSlices, List.dropLast_eq_take, List.length_map, List.length_range, ← List.map_take,
      List.take_range] at hPiece
    obtain ⟨k, hk, rfl⟩ := List.mem_map.1 hPiece
    -- The slice is not the last one, so the list goes on behind it.
    have hNext : (k + 1) * size < as.length := by
      rw [List.mem_range] at hk
      exact (lt_ceilDiv_iff hSize).1 (by omega)
    rw [Nat.succ_mul] at hNext
    rw [length_slice]
    omega
  · rw [hSlices, List.length_map, List.length_range]

/-- A batch of full size in front is cut off first. -/
theorem batches_append {piece : List α} (hSize : 0 < size) (hLength : piece.length = size)
    (as : List α) : batches size (piece ++ as) = piece :: batches size as := by
  cases piece with
  | nil => exact absurd hLength hSize.ne
  | cons a piece =>
    obtain rfl : piece.length + 1 = size := hLength
    rw [List.cons_append, batches, Nat.add_sub_cancel, List.take_left, List.drop_left]

/-- A list that is not larger than the size is one batch. -/
theorem batches_of_length_le {as : List α} (hNotEmpty : as ≠ []) (hLength : as.length ≤ size) :
    batches size as = [as] := by
  cases as with
  | nil => exact absurd rfl hNotEmpty
  | cons a rest =>
    have hRest : rest.length ≤ size - 1 := Nat.le_sub_one_of_lt hLength
    rw [batches, List.take_of_length_le hRest, List.drop_of_length_le hRest, batches]

/-- There is one partition only. -/
theorem IsPartition.eq_batches {as : List α} {pieces : List (List α)} (hSize : 0 < size)
    (h : IsPartition size as pieces) : pieces = batches size as := by
  obtain ⟨rfl, hNotEmpty, hLe, hEq, -⟩ := h
  induction pieces with
  | nil => rw [List.flatten_nil, batches]
  | cons piece more ih =>
    cases more with
    | nil =>
      rw [List.flatten_singleton, batches_of_length_le (hNotEmpty piece List.mem_cons_self)
        (hLe piece List.mem_cons_self)]
    | cons next more =>
      have hFull : piece.length = size := hEq piece List.mem_cons_self
      rw [List.flatten_cons, batches_append hSize hFull,
        ← ih (fun p hp => hNotEmpty p (List.mem_cons_of_mem _ hp))
          (fun p hp => hLe p (List.mem_cons_of_mem _ hp))
          (fun p hp => hEq p (List.mem_cons_of_mem _ hp))]

/-! ## Sizes -/

/-- A list is cut by every size from one on, into the only partition that there is, and by no other size:
then there is no batch at all. -/
theorem cut_isPartition_or_tooSmall (size : Int) (records : List Value) :
    (1 ≤ size ∧ ∃ pieces, cut (.int size) (.list records) = .ok pieces ∧
      IsPartition size.toNat records pieces ∧
      ∀ others, IsPartition size.toNat records others → others = pieces) ∨
    (size < 1 ∧ cut (.int size) (.list records) = .error .tooSmall ∧
      BatchError.tooSmall.label = "ValueError") := by
  by_cases hSmall : size < 1
  · refine .inr ⟨hSmall, ?_, rfl⟩
    rw [cut, readBatchSize, checkBatchSize, if_pos hSmall]
  · have hSize : 0 < size.toNat := by omega
    refine .inl ⟨by omega, batches size.toNat records, ?_, isPartition_batches hSize records,
      fun others h => h.eq_batches hSize⟩
    rw [cut, readBatchSize, checkBatchSize, if_neg hSmall]
    rfl

end Storefront.Catalog
