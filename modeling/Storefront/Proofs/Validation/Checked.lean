import Mathlib
import Storefront.Validation.Scalar

/-!
# Values that pass their checks

A check of several parts passes when each of the parts does, whatever issues it would have reported
otherwise.

* `Checked.ap_eq_ok_iff`, `Checked.items_eq_ok_iff`, `Checked.required_eq_ok_iff`,
  `Checked.optional_eq_ok_iff`: when a check of parts passes, and with which result.
* `Value.isJson`: the values that are written in JSON, which have no byte strings in them.
* `eq_text_of_member`: in JSON only the name of a member passes for it.
-/

namespace Storefront

namespace Validation.Checked

/-! ## Checks of parts -/

variable {α β : Type} {a : α} {b : β}

theorem ap_eq_ok_iff {f : Checked (α → β)} {x : Checked α} :
    ap f x = .ok b ↔ ∃ g a, f = .ok g ∧ x = .ok a ∧ g a = b := by
  cases f <;> cases x <;> simp [ap]

theorem under_eq_ok_iff {step : Step} {x : Checked α} : under step x = .ok a ↔ x = .ok a := by
  cases x <;> simp [under, Except.mapError]

theorem ofFlaw_eq_ok_iff {x : Except Flaw α} : ofFlaw x = .ok a ↔ x = .ok a := by
  cases x <;> simp [ofFlaw, Except.mapError]

theorem itemsFrom_eq_ok_iff {check : Value → Checked α} {vs : List Value} {as : List α} (n : Nat) :
    itemsFrom check n vs = .ok as ↔ List.Forall₂ (fun v a => check v = .ok a) vs as := by
  induction vs generalizing n as with
  | nil =>
    rw [itemsFrom, List.forall₂_nil_left_iff, Except.ok.injEq]
    exact eq_comm
  | cons v vs ih =>
    rw [itemsFrom, ap_eq_ok_iff]
    constructor
    · rintro ⟨g, more, hFirst, hMore, rfl⟩
      obtain ⟨f, a, hf, hCheck, rfl⟩ := ap_eq_ok_iff.1 hFirst
      injection hf with hf
      subst hf
      exact .cons (under_eq_ok_iff.1 hCheck) ((ih (n + 1)).1 hMore)
    · intro h
      cases h with
      | @cons _ a _ more hCheck hMore =>
        refine ⟨_, more, ap_eq_ok_iff.2 ⟨List.cons, a, rfl, ?_, rfl⟩, (ih (n + 1)).2 hMore, rfl⟩
        exact under_eq_ok_iff.2 hCheck

/-- A list passes with one result for each item. -/
theorem items_eq_ok_iff {check : Value → Checked α} {vs : List Value} {as : List α} :
    items check vs = .ok as ↔ List.Forall₂ (fun v a => check v = .ok a) vs as :=
  itemsFrom_eq_ok_iff 0

theorem required_eq_ok_iff {fields : Fields} {name : String} {check : Value → Checked α} :
    required fields name check = .ok a ↔ ∃ v, fields.get? name = some v ∧ check v = .ok a := by
  rw [required, under_eq_ok_iff]
  cases fields.get? name <;> simp

/-- A field that may be absent has its default then, and otherwise what passes. -/
theorem optional_eq_ok_iff {fields : Fields} {name : String} {default : α}
    {check : Value → Checked α} :
    optional fields name default check = .ok a ↔
      (fields.get? name = none ∧ default = a) ∨ ∃ v, fields.get? name = some v ∧ check v = .ok a := by
  rw [optional]
  cases fields.get? name with
  | none => simp
  | some v => simp [under_eq_ok_iff]

end Validation.Checked

/-! ## Values of JSON -/

namespace Value

mutual

/-- Whether a value is one of those that are written in JSON: no byte string occurs in it. -/
def isJson : Value → Bool
  | .bytes _ => false
  | .list items => areJson items
  | .object fields => haveJson fields
  | _ => true

def areJson : List Value → Bool
  | [] => true
  | v :: rest => v.isJson && areJson rest

def haveJson : List (Text × Value) → Bool
  | [] => true
  | (_, v) :: rest => v.isJson && haveJson rest

end

theorem isJson_of_mem {v : Value} {vs : List Value} (h : (Value.list vs).isJson = true)
    (hv : v ∈ vs) : v.isJson = true := by
  rw [isJson] at h
  induction vs with
  | nil => cases hv
  | cons w vs ih =>
    rw [areJson, Bool.and_eq_true] at h
    rcases List.mem_cons.1 hv with rfl | hv
    · exact h.1
    · exact ih h.2 hv

theorem isJson_of_get? {v : Value} {fields : Fields} {name : Text}
    (h : (Value.object fields).isJson = true) (hv : fields.get? name = some v) :
    v.isJson = true := by
  rw [isJson] at h
  rw [Fields.get?] at hv
  induction fields with
  | nil => cases hv
  | cons f fields ih =>
    rw [haveJson, Bool.and_eq_true] at h
    rw [List.lookup] at hv
    split at hv
    · injection hv with hv
      rw [← hv]
      exact h.1
    · exact ih h.2 hv

end Value

/-! ## Members of closed sets -/

theorem Text.eq_ofChars_of_chars? {t : Text} {cs : List Char} (h : t.chars? = some cs) :
    t = Text.ofChars cs := by
  unfold Text.chars? Text.ofChars at *
  induction t generalizing cs with
  | nil =>
    injection h with h
    rw [← h]
    rfl
  | cons p t ih =>
    rw [List.mapM_cons] at h
    cases p with
    | half n => cases h
    | char c =>
      cases hMore : List.mapM CodePoint.char? t with
      | none =>
        rw [hMore] at h
        cases h
      | some more =>
        rw [hMore] at h
        injection h with h
        rw [← h, List.map_cons, ← ih hMore]

namespace Validation

variable {α : Type} {all : List α} {name : α → String} {a : α}

/-- The member with a name, where the name may not be readable. -/
def findMember (all : List α) (name : α → String) (cs : Option (List Char)) : Except Flaw α :=
  match all.find? fun a => cs == some (name a).toList with
  | some a => .ok a
  | none => .error (.notAmong (all.map name))

theorem eq_some_of_findMember {cs : Option (List Char)} (h : findMember all name cs = .ok a) :
    cs = some (name a).toList := by
  unfold findMember at h
  split at h
  · rename_i b hFound
    injection h with h
    rw [h] at hFound
    have hName := List.find?_some hFound
    exact beq_iff_eq.1 hName
  · cases h

/-- Only a name of a member passes for it. -/
theorem eq_text_of_member {v : Value} (hJson : v.isJson = true) (h : member all name v = .ok a) :
    v = .text (name a) := by
  cases v with
  | text t =>
    have hMember : (characters t >>= fun cs => findMember all name (some cs)) = .ok a := h
    unfold characters at hMember
    cases hChars : t.chars? with
    | none =>
      rw [hChars] at hMember
      cases hMember
    | some cs =>
      rw [hChars] at hMember
      have hName := eq_some_of_findMember hMember
      injection hName with hName
      rw [Text.eq_ofChars_of_chars? hChars, hName]
      rfl
  | bytes bs => cases hJson
  | _ =>
    have hNone : findMember all name none = .ok a := h
    cases eq_some_of_findMember hNone

end Validation

end Storefront
