import Mathlib
import Storefront.Proofs.Number.Order
import Storefront.Value.Access

/-!
# Values that can be read

Whether going through a value, or reading a number from it, succeeds depends on its shape alone.

* `bind_eq_ok_iff`, `map_eq_ok_iff`, `mapM_eq_ok_iff`: steps that may fail, one after the other.
* `exists_forall₂_iff`, `forall_mem_iff_of_forall₂`: a list of results, and the items one by one.
* `Value.exists_items_iff`: the values that there is something to go through in.
* `Value.exists_toBinary64_iff`: the values that stand for a double.
-/

namespace Storefront

/-! ## Steps that may fail -/

variable {ε α β : Type}

theorem bind_eq_ok_iff {x : Except ε α} {f : α → Except ε β} {b : β} :
    x >>= f = .ok b ↔ ∃ a, x = .ok a ∧ f a = .ok b := by
  cases x with
  | error e =>
    refine iff_of_false ?_ ?_
    · intro h
      cases h
    · rintro ⟨a, h, -⟩
      cases h
  | ok a =>
    constructor
    · intro h
      exact ⟨a, rfl, h⟩
    · rintro ⟨a', ha, h⟩
      cases ha
      exact h

theorem map_eq_ok_iff {x : Except ε α} {f : α → β} {b : β} :
    x.map f = .ok b ↔ ∃ a, x = .ok a ∧ f a = b := by
  cases x <;> simp [Except.map]

theorem mapError_eq_ok_iff {δ : Type} {x : Except ε α} {f : ε → δ} {a : α} :
    x.mapError f = .ok a ↔ x = .ok a := by
  cases x <;> simp [Except.mapError]

theorem exists_of_isOk {x : Except ε α} (h : x.isOk = true) : ∃ a, x = .ok a := by
  cases x with
  | ok a => exact ⟨a, rfl⟩
  | error e => cases h

/-- A traversal succeeds with one result for each item. -/
theorem mapM_eq_ok_iff {f : α → Except ε β} {as : List α} {bs : List β} :
    as.mapM f = .ok bs ↔ List.Forall₂ (fun a b => f a = .ok b) as bs := by
  induction as generalizing bs with
  | nil =>
    rw [List.mapM_nil, List.forall₂_nil_left_iff]
    constructor
    · intro h
      exact (Except.ok.inj h).symm
    · rintro rfl
      rfl
  | cons a as ih =>
    rw [List.mapM_cons, bind_eq_ok_iff]
    constructor
    · rintro ⟨b, hHead, h⟩
      obtain ⟨rest, hTail, h⟩ := bind_eq_ok_iff.1 h
      cases h
      exact .cons hHead (ih.1 hTail)
    · intro h
      cases h with
      | cons hHead hTail => exact ⟨_, hHead, bind_eq_ok_iff.2 ⟨_, ih.2 hTail, rfl⟩⟩

theorem exists_forall₂_iff {R : α → β → Prop} {as : List α} :
    (∃ bs, List.Forall₂ R as bs) ↔ ∀ a ∈ as, ∃ b, R a b := by
  constructor
  · rintro ⟨bs, h⟩
    induction h with
    | nil => simp
    | cons hHead _ ih =>
      intro a ha
      rcases List.mem_cons.1 ha with rfl | ha
      · exact ⟨_, hHead⟩
      · exact ih a ha
  · intro h
    induction as with
    | nil => exact ⟨[], .nil⟩
    | cons a as ih =>
      obtain ⟨b, hb⟩ := h a List.mem_cons_self
      obtain ⟨bs, hbs⟩ := ih fun a' ha' => h a' (List.mem_cons_of_mem a ha')
      exact ⟨b :: bs, .cons hb hbs⟩

theorem forall₂_and_right {R : α → β → Prop} {p : β → Prop} {as : List α} {bs : List β} :
    List.Forall₂ (fun a b => R a b ∧ p b) as bs ↔ List.Forall₂ R as bs ∧ ∀ b ∈ bs, p b := by
  constructor
  · intro h
    induction h with
    | nil => exact ⟨.nil, by simp⟩
    | cons hHead _ ih => exact ⟨.cons hHead.1 ih.1, List.forall_mem_cons.2 ⟨hHead.2, ih.2⟩⟩
  · rintro ⟨h, hAll⟩
    induction h with
    | nil => exact .nil
    | cons hHead _ ih =>
      obtain ⟨hFirst, hMore⟩ := List.forall_mem_cons.1 hAll
      exact .cons ⟨hHead, hFirst⟩ (ih hMore)

theorem exists_mapM_iff {f : α → Except ε β} {as : List α} :
    (∃ bs, as.mapM f = .ok bs) ↔ ∀ a ∈ as, ∃ b, f a = .ok b := by
  simp only [mapM_eq_ok_iff, exists_forall₂_iff]

/-- What holds of all results holds of what is made of each item. -/
theorem forall_mem_iff_of_forall₂ {f : α → Except ε β} {as : List α} {bs : List β}
    (h : List.Forall₂ (fun a b => f a = .ok b) as bs) {p : β → Prop} :
    (∀ b ∈ bs, p b) ↔ ∀ a ∈ as, ∀ b, f a = .ok b → p b := by
  induction h with
  | nil => simp
  | cons hHead _ ih =>
    rw [List.forall_mem_cons, List.forall_mem_cons, ih, hHead]
    simp

/-! ## Shapes -/

namespace Value

/-- There is something to go through in the value, if only nothing. -/
def IsIterable : Value → Prop
  | .list _ | .text _ | .bytes _ | .object _ => True
  | .null | .bool _ | .int _ | .float _ => False

theorem exists_items_iff {v : Value} : (∃ vs, v.items = .ok vs) ↔ v.IsIterable := by
  cases v with
  | list _ | text _ | bytes _ | object _ => exact iff_of_true ⟨_, rfl⟩ trivial
  | null | bool _ | int _ | float _ =>
    refine iff_of_false ?_ id
    rintro ⟨vs, h⟩
    cases h

/-- The value stands for a double: integers do unless they lie beyond the doubles, and texts where a
number can be read in them. -/
def IsNumeric : Value → Prop
  | .bool _ | .float _ => True
  | .int n => n.natAbs < Binary64.tooLarge
  | .text t => (Binary64.readLoose? t).isSome = true
  | .bytes b => (Binary64.readLooseBytes? b).isSome = true
  | .null | .list _ | .object _ => False

theorem exists_toBinary64_iff {v : Value} : (∃ x, v.toBinary64 = .ok x) ↔ v.IsNumeric := by
  cases v with
  | bool _ | float _ => exact iff_of_true ⟨_, rfl⟩ trivial
  | null | list _ | object _ =>
    refine iff_of_false ?_ id
    rintro ⟨x, h⟩
    cases h
  | int n =>
    rw [IsNumeric, ← Nat.not_le, ← Binary64.ofInt?_eq_none_iff, toBinary64]
    cases Binary64.ofInt? n <;> simp
  | text t =>
    rw [IsNumeric, toBinary64, toBinary64.orUnreadable.eq_def]
    cases Binary64.readLoose? t <;> simp
  | bytes b =>
    rw [IsNumeric, toBinary64, toBinary64.orUnreadable.eq_def]
    cases Binary64.readLooseBytes? b <;> simp

end Value

end Storefront
