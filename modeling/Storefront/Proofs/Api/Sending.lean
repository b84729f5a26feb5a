import Mathlib
import Storefront.Api.Sending

/-!
# Values that are sent as they are

A response holds texts in UTF-8, so a text with a half of a surrogate pair in it cannot be sent. All
other texts and the numbers are sent as they are.

* `Sending.IsUnicode`: the texts that can be sent.
* `Sending.CanSend`: the values that can be sent.
* `Sending.IsScalar`, `Sending.AreScalars`: texts and numbers, and objects of them.
-/

namespace Storefront.Api.Sending

/-- No half of a surrogate pair occurs in the text. -/
def IsUnicode (t : Text) : Prop := ∀ p ∈ t, isHalf p = false

/-- A text, an integer or a finite double. -/
def IsScalar : Value → Prop
  | .text t => IsUnicode t
  | .int _ => True
  | .float x => x.isFinite = true
  | _ => False

theorem dropWhile_isHalf_eq_nil_iff {t : Text} : t.dropWhile (!isHalf ·) = [] ↔ IsUnicode t := by
  rw [List.dropWhile_eq_nil_iff, IsUnicode]
  simp only [Bool.not_eq_true']

theorem prepareText_of_isUnicode {t : Text} (h : IsUnicode t) : prepareText t = .ok t := by
  rw [prepareText, dropWhile_isHalf_eq_nil_iff.2 h]

theorem exists_prepareText_error {t : Text} (h : ¬ IsUnicode t) : ∃ f, prepareText t = .error f := by
  rw [prepareText]
  cases hRest : t.dropWhile (!isHalf ·) with
  | nil => exact absurd (dropWhile_isHalf_eq_nil_iff.1 hRest) h
  | cons p rest => exact ⟨_, rfl⟩

theorem exists_prepareText_iff {t : Text} : (∃ u, prepareText t = .ok u) ↔ IsUnicode t := by
  constructor
  · rintro ⟨u, hOk⟩
    by_contra h
    obtain ⟨f, hError⟩ := exists_prepareText_error h
    rw [hError] at hOk
    cases hOk
  · intro h
    exact ⟨t, prepareText_of_isUnicode h⟩

theorem isUnicode_ofString (s : String) : IsUnicode s := by
  intro p hp
  obtain ⟨c, -, rfl⟩ := List.mem_map.1 hp
  rfl

theorem prepareWithin_null (depth : Nat) : prepareWithin depth .null = .ok .null := by
  simp [prepareWithin]

/-- The value can be sent, with at most `depth` lists and objects inside each other. -/
def CanSend (depth : Nat) (v : Value) : Prop := ∃ w, prepareWithin depth v = .ok w

theorem canSend_null (depth : Nat) : CanSend depth .null := ⟨.null, prepareWithin_null depth⟩

theorem canSend_text_iff {depth : Nat} {t : Text} : CanSend depth (.text t) ↔ IsUnicode t := by
  rw [CanSend, prepareWithin, ← exists_prepareText_iff]
  cases prepareText t <;> simp [Except.map]

theorem prepareWithin_of_isScalar {v : Value} (h : IsScalar v) (depth : Nat) :
    prepareWithin depth v = .ok v := by
  cases v with
  | text t =>
    rw [prepareWithin, prepareText_of_isUnicode h]
    rfl
  | int n => simp [prepareWithin]
  | float x =>
    have hFinite : x.isFinite = true := h
    rw [prepareWithin, if_pos hFinite]
  | null | bool _ | bytes _ | list _ | object _ => exact absurd h id

theorem prepareItems_of_isScalar {vs : List Value} (h : ∀ v ∈ vs, IsScalar v) (depth : Nat) :
    prepareItems depth vs = .ok vs := by
  induction vs with
  | nil => rw [prepareItems]
  | cons v vs ih =>
    rw [List.forall_mem_cons] at h
    rw [prepareItems, prepareWithin_of_isScalar h.1, ih h.2]
    rfl

/-- The names can be sent and the values are scalars. -/
def AreScalars (fields : Fields) : Prop := ∀ f ∈ fields, IsUnicode f.1 ∧ IsScalar f.2

theorem prepareFields_of_areScalars {fields : Fields} (h : AreScalars fields) (depth : Nat) :
    prepareFields depth fields = .ok fields := by
  induction fields with
  | nil => rw [prepareFields]
  | cons f fields ih =>
    obtain ⟨⟨hName, hValue⟩, hMore⟩ := List.forall_mem_cons.1 h
    rw [prepareFields, prepareText_of_isUnicode hName, prepareWithin_of_isScalar hValue, ih hMore]
    rfl

end Storefront.Api.Sending
