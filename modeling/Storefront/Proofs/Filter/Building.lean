import Mathlib
import Storefront.Filter.Product

/-!
# Building filters

A filter is put together by adding clauses under keys. A key that is new gets a group at the end, a
key that is present keeps its place.

* `numberLiteral_int`, `literal_int`, `literal_float`: the literals of numbers.
* `Expression.update_of_absent`, `Expression.update_of_present`: what a change does to the groups.
* `Selection.filter_eq_build`: the filter of a selection is what its groups give when they are added
  one after the other.
-/

namespace Storefront.Filter

theorem numberLiteral_int {n : Int} (h : Value.isLong n = false) :
    numberLiteral (.int n) = .ok (Text.ofString (toString n)) := by
  have hShort : (Value.int n).hasLongInt = false := by
    rw [Value.hasLongInt, h]
  rw [numberLiteral, Value.render?, hShort]
  · rfl
  · rintro x hx
    cases hx

theorem literal_int {n : Int} (h : Value.isLong n = false) :
    literal (.int n) = .ok (Text.ofString (toString n)) := by
  rw [literal, numberLiteral_int h]
  rfl

theorem literal_float (x : Binary64) : literal (.float x) = .ok (doubleLiteral x) := rfl

namespace Expression

theorem update_of_absent {groups : List (Text × List Text)} {key : Text}
    (h : ∀ g ∈ groups, g.1 ≠ key) (change : List Text → List Text) :
    update groups key change = groups ++ [(key, change [])] := by
  induction groups with
  | nil => rfl
  | cons g groups ih =>
    rw [update, if_neg (h g List.mem_cons_self),
      ih fun g' hg' => h g' (List.mem_cons_of_mem _ hg'), List.cons_append]

theorem update_of_present {groups : List (Text × List Text)} {key : Text}
    (h : ∀ g ∈ groups, g.1 ≠ key) (clauses : List Text) (rest : List (Text × List Text))
    (change : List Text → List Text) :
    update (groups ++ (key, clauses) :: rest) key change =
      groups ++ (key, change clauses) :: rest := by
  induction groups with
  | nil => rw [List.nil_append, update, if_pos rfl, List.nil_append]
  | cons g groups ih =>
    rw [List.cons_append, update, if_neg (h g List.mem_cons_self),
      ih fun g' hg' => h g' (List.mem_cons_of_mem _ hg'), List.cons_append]

theorem isLong_of_small {n : Nat} (hn : n < 10) : Value.isLong n = false := by
  have hPow : 10 ^ 1 ≤ 10 ^ Value.maxDigits := Nat.pow_le_pow_right (by norm_num) (by decide)
  refine decide_eq_false ?_
  rw [Nat.pow_eq, Int.natAbs_natCast]
  omega

theorem addClause_code (e : Expression) (key : Text) {n : Nat} (hn : n < 10) :
    e.addClause key (.text "=") (.int n) =
      .ok ⟨update e.groups key (· ++ [clause key .eq (toString n)])⟩ := by
  have hOperator : Operator.read (.text "=") = .ok .eq := by rfl
  rw [addClause, hOperator, literal_int (isLong_of_small hn)]
  rfl

theorem foldlM_addClause {groups : List (Text × List Text)} {key : Text}
    (hKey : ∀ g ∈ groups, g.1 ≠ key) (clauses : List Text) {codes : List Nat}
    (hCodes : ∀ n ∈ codes, n < 10) :
    codes.foldlM (fun (e : Expression) (n : Nat) => e.addClause key (.text "=") (.int n))
        ⟨groups ++ [(key, clauses)]⟩ =
      .ok ⟨groups ++ [(key, clauses ++ codes.map fun n =>
        clause key .eq (toString n))]⟩ := by
  induction codes generalizing clauses with
  | nil =>
    rw [List.map_nil, List.append_nil]
    rfl
  | cons n codes ih =>
    have hMore := ih (clauses ++ [clause key .eq (toString n)])
      fun m hm => hCodes m (List.mem_cons_of_mem _ hm)
    rw [List.append_assoc, List.singleton_append] at hMore
    rw [List.foldlM_cons, addClause_code _ _ (hCodes n List.mem_cons_self)]
    simp only [update_of_present hKey]
    rw [List.map_cons]
    exact hMore

end Expression

end Storefront.Filter

namespace Storefront.Selection

open Storefront.Filter
open Storefront.Filter.Expression

/-- Adds the alternatives of an attribute, one for each code, or a clause that never holds. -/
def addCodes (a : Attribute) (codes : List Nat) (e : Expression) :
    Except Filter.Error Expression :=
  if codes.isEmpty then .ok (e.setRaw a.name (matchNothing a.name))
  else codes.foldlM (fun e (n : Nat) => e.addClause a.name (.text "=") (.int n)) e

/-- The filter of a selection, built group by group. -/
def buildFilter (s : Selection) : Except Filter.Error Expression := do
  let e ← addCodes .color (s.colors.map Color.code) .empty
  let e ← addCodes .size (s.sizes.map Size.code) e
  pure (e.setRaw "price" (priceClause s.price))

theorem addCodes_eq (a : Attribute) {codes : List Nat} (hCodes : ∀ n ∈ codes, n < 10)
    {e : Expression} (hKey : ∀ g ∈ e.groups, g.1 ≠ a.name) :
    addCodes a codes e = .ok ⟨e.groups ++ [(Text.ofString a.name, codeClauses a codes)]⟩ := by
  cases codes with
  | nil =>
    rw [addCodes, List.isEmpty_nil, if_pos rfl, Expression.setRaw, update_of_absent hKey]
    rfl
  | cons n codes =>
    rw [addCodes, List.isEmpty_cons, if_neg Bool.false_ne_true, List.foldlM_cons,
      addClause_code _ _ (hCodes n List.mem_cons_self), update_of_absent hKey]
    exact foldlM_addClause hKey _ fun m hm => hCodes m (List.mem_cons_of_mem _ hm)

/-- The filter is what its groups give when they are added one after the other. -/
theorem filter_eq_build (s : Selection) : s.buildFilter = .ok s.filter := by
  have hColors : ∀ n ∈ s.colors.map Color.code, n < 10 := by
    intro n hn
    obtain ⟨c, -, rfl⟩ := List.mem_map.1 hn
    cases c <;> decide
  have hSizes : ∀ n ∈ s.sizes.map Size.code, n < 10 := by
    intro n hn
    obtain ⟨x, -, rfl⟩ := List.mem_map.1 hn
    cases x <;> decide
  have hFirst := addCodes_eq .color hColors (e := .empty) (by simp [Expression.empty])
  have hSecond := addCodes_eq .size hSizes
    (e := ⟨[(Text.ofString Attribute.color.name, codeClauses .color (s.colors.map Color.code))]⟩)
    (by simp; decide)
  rw [buildFilter, hFirst]
  simp only [Expression.empty, List.nil_append, bind, Except.bind, hSecond, pure, Except.pure]
  rw [Expression.setRaw, update_of_absent (by simp; decide)]
  rfl

end Storefront.Selection
