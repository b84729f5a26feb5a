import Mathlib
import Storefront.Product
import Storefront.ResultOrder
import Storefront.Proofs.Number.Order

/-!
# Distances to the probe

The index ranks records by their distance to the probe. The squared distance is the square of what the
price is away from the price in the probe, and the squares of the two codes; together these are at most
20. So the ranking is by price where the prices alone differ, and wherever the squares for the prices
lie further apart than 20.

* `Product.share_le`: what the codes add to a squared distance.
* `ResultOrder.nearer_iff`: being nearer to the probe, as an inequality of the squares.
* `ResultOrder.pairwise_sq_lt`: what a ranking says of products that are separated.
* `ResultOrder.probe_ranks_by_price`: the order of prices that each probe gives.
-/

namespace Storefront

/-! ## Points -/

/-- The number that a finite double is. -/
noncomputable def Binary64.toReal (x : Binary64) : ℝ := x.units / unitsPerOne

theorem Binary64.toReal_nonneg {x : Binary64} (h : zero.le x = true) : 0 ≤ x.toReal := by
  have hUnits : 0 ≤ x.units := by
    cases x with
    | nan | infinity => exact le_rfl
    | finite negative m => exact of_decide_eq_true h
  exact div_nonneg (Int.cast_nonneg hUnits) (Nat.cast_nonneg _)

theorem Binary64.toReal_eq_of_units {x : Binary64} {n : ℤ} (h : x.units = n * unitsPerOne) :
    x.toReal = n := by
  have hOne : (unitsPerOne : ℝ) ≠ 0 := Nat.cast_ne_zero.2 unitsPerOne_pos.ne'
  rw [toReal, h]
  push_cast
  exact mul_div_cancel_right₀ _ hOne

/-- The number that an integer or a finite double is. -/
noncomputable def Value.toReal? : Value → Option ℝ
  | .int n => some n
  | .float x => if x.isFinite then some x.toReal else none
  | _ => none

/-- The point that three numbers are. -/
noncomputable def Value.toPoint? : Value → Option (EuclideanSpace ℝ (Fin 3))
  | .list [a, b, c] => do
    let x ← a.toReal?
    let y ← b.toReal?
    let z ← c.toReal?
    some !₂[x, y, z]
  | _ => none

theorem Value.toPoint?_of_toReal? {a b c : Value} {x y z : ℝ} (ha : a.toReal? = some x)
    (hb : b.toReal? = some y) (hc : c.toReal? = some z) :
    (Value.list [a, b, c]).toPoint? = some !₂[x, y, z] := by
  rw [toPoint?, ha, hb, hc]
  rfl

namespace Product

/-- The price as a number. -/
noncomputable def cost (p : Product) : ℝ := p.price.amount.toReal

def HasFinitePrice (p : Product) : Prop := p.price.amount.isFinite = true

/-- What color and size add to a squared distance. -/
def share (p : Product) : ℕ := p.color.code ^ 2 + p.size.code ^ 2

/-- The products have the same color and the same size. -/
def Resembles (p q : Product) : Prop := p.color = q.color ∧ p.size = q.size

theorem share_le (p : Product) : p.share ≤ 20 := by
  have hColor : p.color.code ≤ 4 := by cases p.color <;> decide
  have hSize : p.size.code ≤ 2 := by cases p.size <;> decide
  calc p.color.code ^ 2 + p.size.code ^ 2
    _ ≤ 4 ^ 2 + 2 ^ 2 := Nat.add_le_add (Nat.pow_le_pow_left hColor 2) (Nat.pow_le_pow_left hSize 2)
    _ = 20 := rfl

/-- The point of a record has the two codes and the price as coordinates. -/
theorem toPoint?_toRecord {p : Product} (h : p.HasFinitePrice) : p.toRecord.vector.toPoint? =
    some !₂[((p.color.code : ℤ) : ℝ), ((p.size.code : ℤ) : ℝ), p.cost] := by
  have hCost : (Value.float p.price.amount).toReal? = some p.cost := if_pos h
  exact Value.toPoint?_of_toReal? rfl rfl hCost

theorem cost_nonneg (p : Product) : 0 ≤ p.cost := Binary64.toReal_nonneg p.price.nonneg

theorem Resembles.share_eq {p q : Product} (h : p.Resembles q) : p.share = q.share := by
  rw [share, share, h.1, h.2]

end Product

namespace ResultOrder

/-- The distance between the probe and the record of a product. -/
noncomputable def distance? (o : ResultOrder) (sort : SortMode) (p : Product) : Option ℝ := do
  let probe ← (Value.list (o.probe sort)).toPoint?
  let record ← p.toRecord.vector.toPoint?
  some (dist probe record)

/-- The record of the one product is strictly nearer to the probe than that of the other. -/
def Nearer (o : ResultOrder) (sort : SortMode) (p q : Product) : Prop :=
  ∃ d e, o.distance? sort p = some d ∧ o.distance? sort q = some e ∧ d < e

/-- The products are ranked: none is farther from the probe than one behind it. -/
def IsRanked (o : ResultOrder) (sort : SortMode) (ps : List Product) : Prop :=
  ps.Pairwise fun p q => ∃ d e, o.distance? sort p = some d ∧ o.distance? sort q = some e ∧ d ≤ e

variable {o : ResultOrder} {sort : SortMode} {p q : Product} {z : ℝ}

/-- The squared distance is the sum of what the codes and the price add. -/
theorem distance?_eq (hProbe : (o.probePrice sort).toReal? = some z) (hp : p.HasFinitePrice) :
    o.distance? sort p = some √(p.share + (p.cost - z) ^ 2) := by
  have hPoint : (Value.list (o.probe sort)).toPoint? = some !₂[((0 : ℤ) : ℝ), ((0 : ℤ) : ℝ), z] :=
    Value.toPoint?_of_toReal? rfl rfl hProbe
  rw [distance?, hPoint, Product.toPoint?_toRecord hp]
  show some (dist _ _) = _
  rw [EuclideanSpace.dist_eq, Fin.sum_univ_three]
  simp only [Real.dist_eq, sq_abs]
  congr 2
  simp only [Product.share, Matrix.cons_val]
  push_cast
  ring

theorem nearer_iff (hProbe : (o.probePrice sort).toReal? = some z) (hp : p.HasFinitePrice)
    (hq : q.HasFinitePrice) :
    o.Nearer sort p q ↔ p.share + (p.cost - z) ^ 2 < q.share + (q.cost - z) ^ 2 := by
  have hSquare : (0 : ℝ) ≤ p.share + (p.cost - z) ^ 2 := by positivity
  rw [Nearer, distance?_eq hProbe hp, distance?_eq hProbe hq, ← Real.sqrt_lt_sqrt_iff hSquare]
  simp

/-- Where products resemble each other their prices decide. -/
theorem nearer_of_resembles (hProbe : (o.probePrice sort).toReal? = some z) (hp : p.HasFinitePrice)
    (hq : q.HasFinitePrice) (h : p.Resembles q) (hPrices : (p.cost - z) ^ 2 < (q.cost - z) ^ 2) :
    o.Nearer sort p q := by
  rw [nearer_iff hProbe hp hq, h.share_eq]
  linarith

/-- Where the squares for the prices lie apart by more than codes can add, the prices decide. -/
theorem nearer_of_gap (hProbe : (o.probePrice sort).toReal? = some z) (hp : p.HasFinitePrice)
    (hq : q.HasFinitePrice) (hGap : 20 < (q.cost - z) ^ 2 - (p.cost - z) ^ 2) :
    o.Nearer sort p q := by
  have hShare : (p.share : ℝ) ≤ 20 := by exact_mod_cast p.share_le
  have hOther : (0 : ℝ) ≤ q.share := Nat.cast_nonneg _
  rw [nearer_iff hProbe hp hq]
  linarith

/-! ## Rankings -/

/-- The prices of two products are told apart by a probe of price `z`: the products resemble each other
and their prices differ, or the squares for the prices lie apart by more than codes can add. -/
def IsSeparated (z : ℝ) (p q : Product) : Prop :=
  p.Resembles q ∧ p.cost ≠ q.cost ∨ 20 < |(p.cost - z) ^ 2 - (q.cost - z) ^ 2|

theorem not_nearer_of_ranked {ps : List Product} (h : o.IsRanked sort ps) :
    ps.Pairwise fun p q => ¬ o.Nearer sort q p := by
  refine h.imp ?_
  rintro p q ⟨d, e, hd, he, hLe⟩ ⟨e', d', he', hd', hLt⟩
  cases hd.symm.trans hd'
  cases he.symm.trans he'
  exact absurd hLt (not_lt.2 hLe)

/-- Of two products that are separated, the one in front in a ranking has the smaller square. -/
theorem lt_of_separated (hProbe : (o.probePrice sort).toReal? = some z) (hp : p.HasFinitePrice)
    (hq : q.HasFinitePrice) (hSeparated : IsSeparated z p q)
    (hDiffer : p.cost ≠ q.cost → (p.cost - z) ^ 2 ≠ (q.cost - z) ^ 2)
    (hNot : ¬ o.Nearer sort q p) : (p.cost - z) ^ 2 < (q.cost - z) ^ 2 := by
  by_contra hLt
  rcases hSeparated with ⟨hResembles, hCosts⟩ | hGap
  · have hBack : (q.cost - z) ^ 2 < (p.cost - z) ^ 2 :=
      lt_of_le_of_ne (not_lt.1 hLt) (hDiffer hCosts).symm
    exact hNot (nearer_of_resembles hProbe hq hp ⟨hResembles.1.symm, hResembles.2.symm⟩ hBack)
  · rw [abs_of_nonneg (sub_nonneg.2 (not_lt.1 hLt))] at hGap
    exact hNot (nearer_of_gap hProbe hq hp hGap)

/-- Where different prices have different squares, a ranking orders separated products by the
squares. -/
theorem pairwise_sq_lt {ranked part : List Product}
    (hProbe : (o.probePrice sort).toReal? = some z) (hRanked : o.IsRanked sort ranked)
    (hPart : part.Sublist ranked) (hFinite : ∀ p ∈ part, p.HasFinitePrice)
    (hSeparated : part.Pairwise (IsSeparated z))
    (hDiffer : ∀ p ∈ part, ∀ q ∈ part, p.cost ≠ q.cost → (p.cost - z) ^ 2 ≠ (q.cost - z) ^ 2) :
    part.Pairwise fun p q => (p.cost - z) ^ 2 < (q.cost - z) ^ 2 := by
  have hNot : part.Pairwise fun p q => ¬ o.Nearer sort q p :=
    (not_nearer_of_ranked hRanked).sublist hPart
  apply (hSeparated.and hNot).imp_of_mem
  rintro p q hp hq ⟨hApart, hBehind⟩
  exact lt_of_separated hProbe (hFinite p hp) (hFinite q hq) hApart (hDiffer p hp q hq) hBehind

/-! ## Orders of prices -/

theorem sq_lt_iff_of_zero (p q : Product) :
    (p.cost - 0) ^ 2 < (q.cost - 0) ^ 2 ↔ p.cost < q.cost := by
  rw [sub_zero, sub_zero]
  exact pow_lt_pow_iff_left₀ p.cost_nonneg q.cost_nonneg two_ne_zero

theorem sq_lt_iff_of_top {top : ℝ} (hp : p.cost ≤ top) (hq : q.cost ≤ top) :
    (p.cost - top) ^ 2 < (q.cost - top) ^ 2 ↔ q.cost < p.cost := by
  rw [← neg_sub top p.cost, ← neg_sub top q.cost, neg_sq, neg_sq,
    pow_lt_pow_iff_left₀ (sub_nonneg.2 hp) (sub_nonneg.2 hq) two_ne_zero, sub_lt_sub_iff_left]

/-- With a probe of price zero the cheaper product is the nearer one where the two resemble each other
or their squared prices lie apart by more than 20, and with a probe of the highest price the dearer one
is, in the same way by what is missing from that price. Of products of one price the nearer one is that
with the smaller codes, whatever the probe. So in every ranking the products that are separated stand in
the order of their prices. -/
theorem probe_ranks_by_price (o : ResultOrder) {average top : ℝ}
    (hAverage : o.averagePrice.toReal? = some average) (hTop : o.maxPrice.toReal? = some top) :
    (∀ p q : Product, p.HasFinitePrice → q.HasFinitePrice → p.cost < q.cost →
      (p.Resembles q ∨ 20 < q.cost ^ 2 - p.cost ^ 2 → o.Nearer .priceAscending p q) ∧
      (q.cost ≤ top → p.Resembles q ∨ 20 < (top - p.cost) ^ 2 - (top - q.cost) ^ 2 →
        o.Nearer .priceDescending q p)) ∧
    (∀ (p q : Product) (sort : SortMode), p.HasFinitePrice → q.HasFinitePrice → p.cost = q.cost →
      (o.Nearer sort p q ↔ p.share < q.share)) ∧
    ∀ records ranked part : List Product, (∀ p ∈ records, p.HasFinitePrice) →
      ranked.Perm records → part.Sublist ranked →
      (o.IsRanked .priceAscending ranked → part.Pairwise (IsSeparated 0) →
        part.Pairwise fun p q => p.cost < q.cost) ∧
      (o.IsRanked .priceDescending ranked → (∀ p ∈ part, p.cost ≤ top) →
        part.Pairwise (IsSeparated top) → part.Pairwise fun p q => q.cost < p.cost) := by
  have hLowest : (o.probePrice .priceAscending).toReal? = some 0 := by
    show some ((0 : ℤ) : ℝ) = some 0
    rw [Int.cast_zero]
  have hHighest : (o.probePrice .priceDescending).toReal? = some top := hTop
  refine ⟨?_, ?_, ?_⟩
  · intro p q hp hq hCosts
    constructor
    · rintro (hResembles | hGap)
      · exact nearer_of_resembles hLowest hp hq hResembles ((sq_lt_iff_of_zero p q).2 hCosts)
      · apply nearer_of_gap hLowest hp hq
        rwa [sub_zero, sub_zero]
    · rintro hMost (hResembles | hGap)
      · exact nearer_of_resembles hHighest hq hp ⟨hResembles.1.symm, hResembles.2.symm⟩
          ((sq_lt_iff_of_top hMost (hCosts.le.trans hMost)).2 hCosts)
      · apply nearer_of_gap hHighest hq hp
        rwa [← neg_sub top p.cost, ← neg_sub top q.cost, neg_sq, neg_sq]
  · intro p q sort hp hq hCosts
    obtain ⟨z, hProbe⟩ : ∃ z, (o.probePrice sort).toReal? = some z := by
      cases sort with
      | unordered => exact ⟨average, hAverage⟩
      | priceAscending => exact ⟨0, hLowest⟩
      | priceDescending => exact ⟨top, hHighest⟩
    rw [nearer_iff hProbe hp hq, hCosts, add_lt_add_iff_right, Nat.cast_lt]
  · intro records ranked part hFinite hPerm hPart
    have hFinitePart : ∀ p ∈ part, p.HasFinitePrice := fun p hp =>
      hFinite p (hPerm.mem_iff.1 (hPart.subset hp))
    constructor
    · intro hRanked hSeparated
      have hSquares := pairwise_sq_lt hLowest hRanked hPart hFinitePart hSeparated
        fun p _ q _ hCosts => by
          rcases lt_or_gt_of_ne hCosts with hLt | hGt
          · exact ((sq_lt_iff_of_zero p q).2 hLt).ne
          · exact ((sq_lt_iff_of_zero q p).2 hGt).ne'
      exact hSquares.imp fun {p q} => (sq_lt_iff_of_zero p q).1
    · intro hRanked hMost hSeparated
      have hSquares := pairwise_sq_lt hHighest hRanked hPart hFinitePart hSeparated
        fun p hp q hq hCosts => by
          rcases lt_or_gt_of_ne hCosts with hLt | hGt
          · exact ((sq_lt_iff_of_top (hMost q hq) (hMost p hp)).2 hLt).ne'
          · exact ((sq_lt_iff_of_top (hMost p hp) (hMost q hq)).2 hGt).ne
      exact hSquares.imp_of_mem fun {p q} hp hq => (sq_lt_iff_of_top (hMost p hp) (hMost q hq)).1

/-- A white product for 5 and a purple one for 2, under a highest price of 100: the squares of the
prices are 21 apart, so no codes turn their order around. -/
theorem nearer_of_two_and_five :
    let o : ResultOrder := ⟨.probe, .int 25, .int 100⟩
    let cheap : Product := ⟨"a", "Purple", "i", .purple, .large, Price.ofCents 200⟩
    let dear : Product := ⟨"b", "White", "i", .white, .small, Price.ofCents 500⟩
    o.Nearer .priceAscending cheap dear ∧ o.Nearer .priceDescending dear cheap := by
  intro o cheap dear
  have hCheap : cheap.cost = ((2 : ℤ) : ℝ) := Binary64.toReal_eq_of_units (by decide +kernel)
  have hDear : dear.cost = ((5 : ℤ) : ℝ) := Binary64.toReal_eq_of_units (by decide +kernel)
  have hFinite : cheap.HasFinitePrice ∧ dear.HasFinitePrice :=
    ⟨by unfold Product.HasFinitePrice; decide +kernel,
      by unfold Product.HasFinitePrice; decide +kernel⟩
  have hOrder : cheap.cost < dear.cost := by
    rw [hCheap, hDear]
    norm_num
  obtain ⟨hAscending, hDescending⟩ :=
    (probe_ranks_by_price o (rfl : o.averagePrice.toReal? = some ((25 : ℤ) : ℝ))
      (rfl : o.maxPrice.toReal? = some ((100 : ℤ) : ℝ))).1 cheap dear hFinite.1 hFinite.2 hOrder
  constructor
  · apply hAscending
    right
    rw [hCheap, hDear]
    norm_num
  · apply hDescending
    · rw [hDear]
      norm_num
    · right
      rw [hCheap, hDear]
      norm_num

end ResultOrder

end Storefront
