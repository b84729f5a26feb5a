import Mathlib
import Storefront.Value.Basic

/-!
# Fields of objects

What a field is after a change to the fields.

* `Fields.get?_setField`, `Fields.get?_setFields_of_not_mem`: fields that are set.
* `Fields.get?_map`, `Fields.get?_filter`: fields whose values are changed, and fields that are left
  out.
* `Fields.filter_setFields`: fields that are left out around others that are set.
-/

namespace Storefront

namespace Fields

theorem get?_cons (name : Text) (v : Value) (fields : Fields) (other : Text) :
    get? ((name, v) :: fields) other = if other = name then some v else get? fields other := by
  rw [get?, List.lookup_cons]
  by_cases h : other = name
  · rw [if_pos h, h, beq_self_eq_true]
  · rw [if_neg h, beq_false_of_ne h]
    rfl

theorem get?_setField (fields : Fields) (name : Text) (v : Value) (other : Text) :
    get? (Value.setField fields name v) other =
      if other = name then some v else get? fields other := by
  induction fields with
  | nil => exact get?_cons name v [] other
  | cons field fields ih =>
    obtain ⟨k, w⟩ := field
    rw [Value.setField]
    by_cases hSame : k = name
    · rw [if_pos hSame, get?_cons, get?_cons, hSame]
      by_cases hOther : other = name
      · rw [if_pos hOther, if_pos hOther]
      · rw [if_neg hOther, if_neg hOther, if_neg hOther]
    · rw [if_neg hSame, get?_cons, get?_cons, ih]
      by_cases hFirst : other = k
      · have hOther : other ≠ name := fun h => hSame (hFirst.symm.trans h)
        rw [if_pos hFirst, if_neg hOther, if_pos hFirst]
      · rw [if_neg hFirst, if_neg hFirst]

/-- A field that is not among the changes stays what it was. -/
theorem get?_setFields_of_not_mem {fields changes : Fields} {name : Text}
    (h : ∀ c ∈ changes, c.1 ≠ name) :
    get? (Value.setFields fields changes) name = get? fields name := by
  induction changes generalizing fields with
  | nil => rfl
  | cons c changes ih =>
    obtain ⟨hFirst, hMore⟩ := List.forall_mem_cons.1 h
    have hStep : Value.setFields fields (c :: changes) =
        Value.setFields (Value.setField fields c.1 c.2) changes := rfl
    rw [hStep, ih hMore, get?_setField, if_neg hFirst.symm]

theorem get?_map (fields : Fields) (f : Value → Value) (name : Text) :
    get? (fields.map fun field => (field.1, f field.2)) name = (get? fields name).map f := by
  induction fields with
  | nil => rfl
  | cons field fields ih =>
    rw [List.map_cons, get?_cons, get?_cons, ih]
    split <;> rfl

theorem get?_filter {fields : Fields} {p : Text → Bool} {name : Text} (h : p name = true) :
    get? (fields.filter fun field => p field.1) name = get? fields name := by
  induction fields with
  | nil => rfl
  | cons field fields ih =>
    rw [List.filter_cons, get?_cons]
    split
    · rw [get?_cons, ih]
    · rename_i hDropped
      have hOther : name ≠ field.1 := by
        rintro rfl
        exact hDropped h
      rw [ih, if_neg hOther]

/-- Fields whose names do not count can be left out before others are set, or afterwards. -/
theorem filter_setField (p : Text → Bool) (fields : Fields) (name : Text) (v : Value) :
    (Value.setField fields name v).filter (fun field => p field.1) =
      if p name then Value.setField (fields.filter fun field => p field.1) name v
      else fields.filter fun field => p field.1 := by
  induction fields with
  | nil =>
    rw [Value.setField, List.filter_cons]
    rfl
  | cons field fields ih =>
    obtain ⟨k, w⟩ := field
    rw [Value.setField, List.filter_cons]
    by_cases hSame : k = name
    · rw [if_pos hSame, List.filter_cons]
      subst hSame
      cases hCounts : p k with
      | false => rfl
      | true => exact (if_pos rfl).symm
    · rw [if_neg hSame, List.filter_cons, ih]
      cases hCounts : p k with
      | false => rfl
      | true =>
        cases p name with
        | false => rfl
        | true => exact (if_neg hSame).symm

theorem filter_setFields (p : Text → Bool) (fields changes : Fields) :
    (Value.setFields fields changes).filter (fun field => p field.1) =
      Value.setFields (fields.filter fun field => p field.1)
        (changes.filter fun field => p field.1) := by
  induction changes generalizing fields with
  | nil => rfl
  | cons change changes ih =>
    have hStep : Value.setFields fields (change :: changes) =
        Value.setFields (Value.setField fields change.1 change.2) changes := rfl
    rw [hStep, ih, filter_setField, List.filter_cons]
    cases p change.1 <;> rfl

end Fields

end Storefront
