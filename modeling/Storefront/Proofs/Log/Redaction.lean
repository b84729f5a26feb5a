import Mathlib
import Storefront.Proofs.Log.Masking

/-!
# What masking keeps

Where secrets have no stars, each of them is looked for in stretches of the text that were there from the
beginning, between the masks for the secrets before it. So every mask stands for one secret as it was
written in the text, and everything else is kept.

* `Redacts`: a text in which some secrets were replaced by masks.
* `Redacts.replaceFrom`: replacing one more secret; `Redacts.maskText`, all secrets.
* `Redacts.eq_of_isFree`: where there is no secret, there is no mask.
* `maskAny_redacts`: what becomes of the fields of an entry.
-/

namespace Storefront.Log

variable {secret t u : Text} {secrets : List Text}

/-- No secret is part of the text; an empty one does not count. -/
def IsFree (secrets : List Text) (t : Text) : Prop := ∀ s ∈ secrets, s ≠ [] → ¬ s <:+: t

theorem isFree_tail {p : CodePoint} (h : IsFree secrets (p :: t)) : IsFree secrets t :=
  fun s hs hNotEmpty hInfix => h s hs hNotEmpty (hInfix.trans (List.suffix_cons p t).isInfix)

/-- Some secrets in a text were replaced by masks, each as a whole. All else was kept, in its order. -/
inductive Redacts (secrets : List Text) : Text → Text → Prop where
  | nil : Redacts secrets [] []
  | keep (p : CodePoint) {t u : Text} (h : Redacts secrets t u) : Redacts secrets (p :: t) (p :: u)
  | hide {secret t u : Text} (hMem : secret ∈ secrets) (hNotEmpty : secret ≠ [])
      (h : Redacts secrets t u) : Redacts secrets (secret ++ t) (mask ++ u)

/-! ## One secret -/

theorem replaceFrom_star_cons (hStarless : IsStarless secret) (hNotEmpty : secret ≠ []) (t : Text) :
    replaceFrom secret 0 (.char '*' :: t) = .char '*' :: replaceFrom secret 0 t := by
  rw [replaceFrom, if_neg]
  intro hFound
  obtain rfl | ⟨more, rfl, -⟩ := List.prefix_cons_iff.1 (List.isPrefixOf_iff_prefix.1 hFound)
  · exact hNotEmpty rfl
  · exact hStarless List.mem_cons_self

/-- A mask stays as it is. -/
theorem replaceFrom_mask_append (hStarless : IsStarless secret) (hNotEmpty : secret ≠ []) (t : Text) :
    replaceFrom secret 0 (mask ++ t) = mask ++ replaceFrom secret 0 t := by
  have hStar := replaceFrom_star_cons hStarless hNotEmpty
  calc replaceFrom secret 0 (mask ++ t)
    _ = .char '*' :: replaceFrom secret 0 (.char '*' :: .char '*' :: t) := hStar _
    _ = .char '*' :: .char '*' :: replaceFrom secret 0 (.char '*' :: t) := by rw [hStar]
    _ = .char '*' :: .char '*' :: .char '*' :: replaceFrom secret 0 t := by rw [hStar]

namespace Redacts

theorem refl (secrets : List Text) (t : Text) : Redacts secrets t t := by
  induction t with
  | nil => exact .nil
  | cons p t ih => exact .keep p ih

/-- What a text with masks begins with was kept, or is the beginning of a mask. -/
theorem cons_cases {p : CodePoint} (h : Redacts secrets t (p :: u)) :
    (∃ more, t = p :: more ∧ Redacts secrets more u) ∨
      ∃ secret ∈ secrets, secret ≠ [] ∧
        ∃ more tail, t = secret ++ more ∧ p :: u = mask ++ tail ∧ Redacts secrets more tail := by
  generalize hText : p :: u = whole at h
  cases h with
  | nil => cases hText
  | keep q h =>
    obtain ⟨rfl, rfl⟩ := List.cons.inj hText
    exact .inl ⟨_, rfl, h⟩
  | hide hMem hNotEmpty h => exact .inr ⟨_, hMem, hNotEmpty, _, _, rfl, rfl, h⟩

/-- A beginning without stars was kept. -/
theorem of_starless_append {front : Text} (hFront : IsStarless front)
    (h : Redacts secrets t (front ++ u)) : ∃ more, t = front ++ more ∧ Redacts secrets more u := by
  induction front generalizing t with
  | nil => exact ⟨t, rfl, h⟩
  | cons p front ih =>
    obtain ⟨more, rfl, hMore⟩ | ⟨-, -, -, -, tail, -, hMask, -⟩ := h.cons_cases
    · obtain ⟨rest, rfl, hRest⟩ := ih (fun hStar => hFront (List.mem_cons_of_mem _ hStar)) hMore
      exact ⟨rest, rfl, hRest⟩
    · obtain rfl : p = .char '*' := (List.cons.inj hMask).1
      exact absurd List.mem_cons_self hFront

/-- Wherever a secret without stars is found between masks, it was in the text from the beginning. -/
theorem replaceFrom (hMem : secret ∈ secrets) (hStarless : IsStarless secret) (hNotEmpty : secret ≠ [])
    (h : Redacts secrets t u) : Redacts secrets t (replaceFrom secret 0 u) := by
  -- The induction is on the length, because secrets and masks are passed over as a whole.
  induction hLength : u.length using Nat.strong_induction_on generalizing t u with
  | _ n ih =>
    subst hLength
    have hSecret : 0 < secret.length := List.length_pos_iff.2 hNotEmpty
    rcases replaceFrom_cases hNotEmpty u with ⟨rfl, hResult⟩ | ⟨rest, rfl, hResult⟩ |
      ⟨p, rest, rfl, hResult⟩
    · rw [hResult]
      exact h
    · obtain ⟨more, rfl, hMore⟩ := h.of_starless_append hStarless
      have hShorter : rest.length < (secret ++ rest).length := by
        rw [List.length_append]
        omega
      rw [hResult]
      exact .hide hMem hNotEmpty (ih _ hShorter hMore rfl)
    · obtain ⟨more, rfl, hMore⟩ | ⟨other, hOther, hOtherNotEmpty, more, tail, rfl, hMask, hMore⟩ :=
        h.cons_cases
      · rw [hResult]
        exact .keep p (ih _ (Nat.lt_succ_self _) hMore rfl)
      · have hShorter : tail.length < (p :: rest).length := by
          rw [hMask, List.length_append]
          exact Nat.lt_add_of_pos_left (by decide)
        rw [hMask, replaceFrom_mask_append hStarless hNotEmpty]
        exact .hide hOther hOtherNotEmpty (ih _ hShorter hMore rfl)

/-! ## All secrets -/

theorem replaceSecret (hMem : secret ∈ secrets) (hStarless : IsStarless secret)
    (h : Redacts secrets t u) : Redacts secrets t (replaceSecret secret u) := by
  rw [Log.replaceSecret]
  split
  · exact h
  · rename_i hNotEmpty
    rw [List.isEmpty_iff] at hNotEmpty
    exact h.replaceFrom hMem hStarless hNotEmpty

theorem maskText (hStarless : ∀ s ∈ secrets, IsStarless s) {turns : List Text}
    (hTurns : ∀ s ∈ turns, s ∈ secrets) (h : Redacts secrets t u) :
    Redacts secrets t (maskText turns u) := by
  induction turns generalizing u with
  | nil => exact h
  | cons first turns ih =>
    have hFirst := hTurns first List.mem_cons_self
    exact ih (fun s hs => hTurns s (List.mem_cons_of_mem _ hs))
      (h.replaceSecret hFirst (hStarless first hFirst))

/-- Where there is no secret, there is no mask. -/
theorem eq_of_isFree (h : Redacts secrets t u) (hFree : IsFree secrets t) : u = t := by
  induction h with
  | nil => rfl
  | keep p _ ih => rw [ih (isFree_tail hFree)]
  | hide hMem hNotEmpty _ _ =>
    exact absurd (List.prefix_append _ _).isInfix (hFree _ hMem hNotEmpty)

end Redacts

/-! ## Entries -/

/-- A text as it is masked: no secret is left, all masks stand for secrets that were there, and without
them the text is as it was. -/
structure IsRedaction (secrets : List Text) (t u : Text) : Prop where
  redacts : Redacts secrets t u
  isFree : IsFree secrets u
  eq : IsFree secrets t → u = t

/-- A field as it is masked: it keeps its name, and its value unless that is a text. -/
inductive RedactsField (secrets : List Text) : Text × Value → Text × Value → Prop where
  | text (name : Text) {t u : Text} (h : IsRedaction secrets t u) :
    RedactsField secrets (name, .text t) (name, .text u)
  | other (name : Text) {v : Value} (h : v.text? = none) : RedactsField secrets (name, v) (name, v)

theorem mem_ofTexts {s : Text} : s ∈ (Secrets.ofTexts secrets).texts ↔ s ∈ secrets ∧ s ≠ [] := by
  rw [Secrets.ofTexts, List.mem_filter, Bool.not_eq_true', List.isEmpty_eq_false_iff]

theorem isRedaction_maskText (hStarless : ∀ s ∈ secrets, IsStarless s) (t : Text) :
    IsRedaction secrets t (maskText (Secrets.ofTexts secrets).texts t) := by
  have hRedacts : Redacts secrets t (maskText (Secrets.ofTexts secrets).texts t) :=
    (Redacts.refl secrets t).maskText hStarless fun s hs => (mem_ofTexts.1 hs).1
  refine ⟨hRedacts, fun s hs hNotEmpty => ?_, hRedacts.eq_of_isFree⟩
  exact not_infix_maskText (fun s hs => hStarless s (mem_ofTexts.1 hs).1)
    (mem_ofTexts.2 ⟨hs, hNotEmpty⟩) hNotEmpty t

theorem redactsField_maskValue (hStarless : ∀ s ∈ secrets, IsStarless s) (name : Text) (v : Value) :
    RedactsField secrets (name, v) (name, maskValue (Secrets.ofTexts secrets).texts v) := by
  cases v with
  | text t => exact .text name (isRedaction_maskText hStarless t)
  | null | bool | int | float | bytes | list | object => exact .other name rfl

/-- What was masked is masked as itself. -/
theorem RedactsField.maskValue_eq (hStarless : ∀ s ∈ secrets, IsStarless s) {f g : Text × Value}
    (h : RedactsField secrets f g) : maskValue (Secrets.ofTexts secrets).texts g.2 = g.2 := by
  cases h with
  | @text name t u h =>
    rw [maskValue, (isRedaction_maskText hStarless u).eq h.isFree]
  | @other name v h =>
    cases v with
    | text t => cases h
    | null | bool | int | float | bytes | list | object => rfl

theorem maskFields_of_redactsField (hStarless : ∀ s ∈ secrets, IsStarless s) {fields masked : Fields}
    (h : List.Forall₂ (RedactsField secrets) fields masked) :
    maskFields (Secrets.ofTexts secrets).texts masked = masked := by
  induction h with
  | nil => rfl
  | @cons _ g _ masked hField _ ih =>
    calc maskFields (Secrets.ofTexts secrets).texts (g :: masked)
      _ = (g.1, maskValue (Secrets.ofTexts secrets).texts g.2) ::
          maskFields (Secrets.ofTexts secrets).texts masked := rfl
      _ = g :: masked := by rw [hField.maskValue_eq hStarless, ih]

/-- Masking an entry keeps its names and all values that are no texts. In its texts no secret is left,
and nothing but secrets is replaced. Masking the entry again changes nothing. -/
theorem maskAny_redacts (hStarless : ∀ s ∈ secrets, IsStarless s) (fields : Fields) :
    ∃ known masked, Secrets.read (.list (secrets.map .text)) = .ok known ∧
      maskAny known (.object fields) = .ok (.object masked) ∧
      List.Forall₂ (RedactsField secrets) fields masked ∧
      maskAny known (.object masked) = .ok (.object masked) := by
  have hFields : List.Forall₂ (RedactsField secrets) fields
      (maskFields (Secrets.ofTexts secrets).texts fields) :=
    List.forall₂_map_right_iff.2 (List.forall₂_same.2 fun f _ =>
      redactsField_maskValue hStarless f.1 f.2)
  refine ⟨_, _, read_texts secrets, rfl, hFields, ?_⟩
  exact congrArg (fun fields => Except.ok (Value.object fields))
    (maskFields_of_redactsField hStarless hFields)

/-- Secrets that overlap, and an empty one. -/
def overlappingSecrets : List Text := ["ab", "", "bab", "c"]

/-- A text in which one secret borders on another and on a star, and values that are no texts. -/
def crowdedFields : Fields :=
  [("event", .text "xbabab*cc"), ("count", .int 3), ("tokens", .list [.text "ab"])]

theorem maskAny_redacts_crowdedFields :
    (∀ s ∈ overlappingSecrets, IsStarless s) ∧
    ∃ known masked, Secrets.read (.list (overlappingSecrets.map .text)) = .ok known ∧
      maskAny known (.object crowdedFields) = .ok (.object masked) ∧
      List.Forall₂ (RedactsField overlappingSecrets) crowdedFields masked ∧
      maskAny known (.object masked) = .ok (.object masked) := by
  have hStarless : ∀ s ∈ overlappingSecrets, IsStarless s := by decide
  exact ⟨hStarless, maskAny_redacts hStarless crowdedFields⟩

end Storefront.Log
