import Mathlib
import Storefront.Log.Mask

/-!
# What is left of secrets

A mask is made of stars. Where a secret has no star, no occurrence of it overlaps a mask, so whatever
part of a masked text has no star was part of the text before.

* `infix_replaceFrom`: a part without stars was there before.
* `not_infix_replaceFrom`: a secret is gone from the text that it was replaced in.
* `infix_maskText`, `not_infix_maskText`: the same for all secrets, by induction over them.
* `replaceSecret_inj`: texts without stars can be told apart behind their masks.
-/

namespace Storefront.Log

/-- A text without stars, which no mask can be part of. -/
def IsStarless (t : Text) : Prop := .char '*' ∉ t

instance (t : Text) : Decidable (IsStarless t) := inferInstanceAs (Decidable (¬ CodePoint.char '*' ∈ t))

variable {secret part t : Text}

/-- A part without stars that is not empty does not begin in a mask. -/
theorem not_prefix_mask_append (hPart : IsStarless part) (hNotEmpty : part ≠ []) (rest : Text) :
    ¬ part <+: mask ++ rest := by
  rintro ⟨more, h⟩
  cases part with
  | nil => exact hNotEmpty rfl
  | cons p part =>
    obtain rfl : p = .char '*' := (List.cons.inj h).1
    exact hPart List.mem_cons_self

theorem infix_of_infix_star_cons (hPart : IsStarless part) {rest : Text}
    (h : part <:+: .char '*' :: rest) : part <:+: rest := by
  obtain hPrefix | hInfix := List.infix_cons_iff.1 h
  · obtain rfl | ⟨more, rfl, -⟩ := List.prefix_cons_iff.1 hPrefix
    · exact List.nil_infix
    · exact absurd List.mem_cons_self hPart
  · exact hInfix

theorem infix_of_infix_mask_append (hPart : IsStarless part) {rest : Text}
    (h : part <:+: mask ++ rest) : part <:+: rest :=
  infix_of_infix_star_cons hPart (infix_of_infix_star_cons hPart (infix_of_infix_star_cons hPart h))

/-- A beginning without stars was there before. -/
theorem prefix_of_prefix_replaceFrom (hPart : IsStarless part)
    (h : part <+: replaceFrom secret 0 t) : part <+: t := by
  induction t generalizing part with
  | nil => exact h
  | cons p t ih =>
    by_cases hNotEmpty : part = []
    · rw [hNotEmpty]
      exact List.nil_prefix
    rw [replaceFrom] at h
    split at h
    · exact absurd h (not_prefix_mask_append hPart hNotEmpty _)
    · obtain rfl | ⟨more, rfl, hMore⟩ := List.prefix_cons_iff.1 h
      · exact List.nil_prefix
      · have hRest : IsStarless more := fun hStar => hPart (List.mem_cons_of_mem _ hStar)
        exact List.cons_prefix_cons.2 ⟨rfl, ih hRest hMore⟩

/-- A part without stars was there before. -/
theorem infix_of_infix_replaceFrom (hPart : IsStarless part) {skip : Nat}
    (h : part <:+: replaceFrom secret skip t) : part <:+: t := by
  induction t generalizing skip with
  | nil =>
    cases skip with
    | zero | succ => exact h
  | cons p t ih =>
    have hRest {skip : Nat} (h : part <:+: replaceFrom secret skip t) : part <:+: p :: t :=
      (ih h).trans (List.suffix_cons p t).isInfix
    cases skip with
    | succ skip => exact hRest h
    | zero =>
      by_cases hFound : secret.isPrefixOf (p :: t) = true
      · rw [replaceFrom, if_pos hFound] at h
        exact hRest (infix_of_infix_mask_append hPart h)
      · have hKept : replaceFrom secret 0 (p :: t) = p :: replaceFrom secret 0 t := by
          rw [replaceFrom, if_neg hFound]
        rw [hKept] at h
        obtain hPrefix | hInfix := List.infix_cons_iff.1 h
        · rw [← hKept] at hPrefix
          exact (prefix_of_prefix_replaceFrom hPart hPrefix).isInfix
        · exact hRest hInfix

/-- A secret is gone from the text that it was replaced in. -/
theorem not_infix_replaceFrom (hSecret : IsStarless secret) (hNotEmpty : secret ≠ []) (skip : Nat)
    (t : Text) : ¬ secret <:+: replaceFrom secret skip t := by
  induction t generalizing skip with
  | nil =>
    intro h
    exact hNotEmpty (List.infix_nil.1 (infix_of_infix_replaceFrom hSecret h))
  | cons p t ih =>
    cases skip with
    | succ skip => exact ih skip
    | zero =>
      by_cases hFound : secret.isPrefixOf (p :: t) = true
      · rw [replaceFrom, if_pos hFound]
        intro h
        exact ih _ (infix_of_infix_mask_append hSecret h)
      · have hKept : replaceFrom secret 0 (p :: t) = p :: replaceFrom secret 0 t := by
          rw [replaceFrom, if_neg hFound]
        intro h
        rw [hKept] at h
        obtain hPrefix | hInfix := List.infix_cons_iff.1 h
        · rw [← hKept] at hPrefix
          have hThere := prefix_of_prefix_replaceFrom hSecret hPrefix
          exact hFound (List.isPrefixOf_iff_prefix.2 hThere)
        · exact ih 0 hInfix

/-! ## All secrets -/

theorem infix_of_infix_replaceSecret (hPart : IsStarless part) (secret : Text)
    (h : part <:+: replaceSecret secret t) : part <:+: t := by
  rw [replaceSecret] at h
  split at h
  · exact h
  · exact infix_of_infix_replaceFrom hPart h

theorem infix_of_infix_maskText (hPart : IsStarless part) (secrets : List Text)
    (h : part <:+: maskText secrets t) : part <:+: t := by
  induction secrets generalizing t with
  | nil => exact h
  | cons secret secrets ih => exact infix_of_infix_replaceSecret hPart secret (ih h)

/-- No secret is left: it is replaced when its turn comes, and the masks for the secrets behind it do
not bring it back. -/
theorem not_infix_maskText {secrets : List Text} (hStarless : ∀ s ∈ secrets, IsStarless s)
    (hMem : secret ∈ secrets) (hNotEmpty : secret ≠ []) (t : Text) :
    ¬ secret <:+: maskText secrets t := by
  induction secrets generalizing t with
  | nil => cases hMem
  | cons first secrets ih =>
    intro h
    have hSecret := hStarless secret hMem
    obtain rfl | hRest := List.mem_cons.1 hMem
    · have hLeft : secret <:+: replaceSecret secret t :=
        infix_of_infix_maskText hSecret secrets h
      rw [replaceSecret, if_neg (by rwa [List.isEmpty_iff])] at hLeft
      exact not_infix_replaceFrom hSecret hNotEmpty 0 t hLeft
    · exact ih (fun s hs => hStarless s (List.mem_cons_of_mem _ hs)) hRest _ h

/-! ## Telling texts apart -/

theorem replaceFrom_eq_drop (secret : Text) (skip : Nat) (t : Text) :
    replaceFrom secret skip t = replaceFrom secret 0 (t.drop skip) := by
  induction t generalizing skip with
  | nil =>
    cases skip with
    | zero | succ => rfl
  | cons p t ih =>
    cases skip with
    | zero => rfl
    | succ skip => exact ih skip

/-- A text is empty, begins with the secret, or begins with a character that is kept. -/
theorem replaceFrom_cases (hNotEmpty : secret ≠ []) (t : Text) :
    (t = [] ∧ replaceFrom secret 0 t = []) ∨
      (∃ rest, t = secret ++ rest ∧ replaceFrom secret 0 t = mask ++ replaceFrom secret 0 rest) ∨
      ∃ p rest, t = p :: rest ∧ replaceFrom secret 0 t = p :: replaceFrom secret 0 rest := by
  cases t with
  | nil => exact .inl ⟨rfl, rfl⟩
  | cons p t =>
    by_cases hFound : secret.isPrefixOf (p :: t) = true
    · obtain ⟨rest, hRest⟩ := List.isPrefixOf_iff_prefix.1 hFound
      refine .inr (.inl ⟨rest, hRest.symm, ?_⟩)
      have hDrop : t.drop (secret.length - 1) = rest := by
        cases secret with
        | nil => exact absurd rfl hNotEmpty
        | cons q secret =>
          rw [← (List.cons.inj hRest).2]
          exact List.drop_left
      rw [replaceFrom, if_pos hFound, replaceFrom_eq_drop, hDrop]
    · refine .inr (.inr ⟨p, t, rfl, ?_⟩)
      rw [replaceFrom, if_neg hFound]

theorem replaceFrom_inj (hNotEmpty : secret ≠ []) {t u : Text} (ht : IsStarless t)
    (hu : IsStarless u) (h : replaceFrom secret 0 t = replaceFrom secret 0 u) : t = u := by
  -- The induction is on the length, because an occurrence is skipped as a whole.
  induction hLength : t.length using Nat.strong_induction_on generalizing t u with
  | _ n ih =>
    subst hLength
    have hStar {p : CodePoint} {rest more tail : Text} (hp : IsStarless (p :: rest))
        (hSame : mask ++ more = p :: tail) : False := by
      obtain rfl : .char '*' = p := (List.cons.inj hSame).1
      exact hp List.mem_cons_self
    have hSecret : 0 < secret.length := List.length_pos_iff.2 hNotEmpty
    rcases replaceFrom_cases hNotEmpty t with ⟨rfl, hLeft⟩ | ⟨t, rfl, hLeft⟩ | ⟨p, t, rfl, hLeft⟩
    · rcases replaceFrom_cases hNotEmpty u with ⟨rfl, -⟩ | ⟨u, rfl, hRight⟩ | ⟨q, u, rfl, hRight⟩
      · rfl
      · cases (hLeft.symm.trans h).trans hRight
      · cases (hLeft.symm.trans h).trans hRight
    · rcases replaceFrom_cases hNotEmpty u with ⟨rfl, hRight⟩ | ⟨u, rfl, hRight⟩ | ⟨q, u, rfl, hRight⟩
      · cases (hLeft.symm.trans h).trans hRight
      · have hRest : replaceFrom secret 0 t = replaceFrom secret 0 u :=
          List.append_cancel_left ((hLeft.symm.trans h).trans hRight)
        have hShorter : t.length < (secret ++ t).length := by
          rw [List.length_append]
          omega
        rw [ih t.length hShorter (fun hMem => ht (List.mem_append_right _ hMem))
          (fun hMem => hu (List.mem_append_right _ hMem)) hRest rfl]
      · exact (hStar hu ((hLeft.symm.trans h).trans hRight)).elim
    · rcases replaceFrom_cases hNotEmpty u with ⟨rfl, hRight⟩ | ⟨u, rfl, hRight⟩ | ⟨q, u, rfl, hRight⟩
      · cases (hLeft.symm.trans h).trans hRight
      · exact (hStar ht ((hRight.symm.trans h.symm).trans hLeft)).elim
      · obtain ⟨rfl, hRest⟩ := List.cons.inj ((hLeft.symm.trans h).trans hRight)
        rw [ih t.length (Nat.lt_succ_self _) (fun hMem => ht (List.mem_cons_of_mem _ hMem))
          (fun hMem => hu (List.mem_cons_of_mem _ hMem)) hRest rfl]

/-- Texts without stars that look the same behind their masks are the same. -/
theorem replaceSecret_inj {t u : Text} (ht : IsStarless t) (hu : IsStarless u) :
    replaceSecret secret t = replaceSecret secret u ↔ t = u := by
  refine ⟨fun h => ?_, congrArg _⟩
  by_cases hEmpty : secret = []
  · subst hEmpty
    exact h
  · have hNotEmpty : ¬ secret.isEmpty = true := by rwa [List.isEmpty_iff]
    rw [replaceSecret, replaceSecret, if_neg hNotEmpty, if_neg hNotEmpty] at h
    exact replaceFrom_inj hEmpty ht hu h

/-- A single secret is replaced if there is one. -/
theorem maskText_ofTexts_singleton (secret t : Text) :
    maskText (Secrets.ofTexts [secret]).texts t = replaceSecret secret t := by
  cases secret with
  | nil => rfl
  | cons p secret => rfl

/-! ## Known secrets -/

/-- The secrets of a list of texts are all of them but the empty ones. -/
theorem read_texts (secrets : List Text) :
    Secrets.read (.list (secrets.map .text)) = .ok (.ofTexts secrets) := by
  have hPresent : (secrets.map Value.text).filter Value.truthy =
      (secrets.filter (!·.isEmpty)).map Value.text := List.filter_map
  have hTexts (texts : List Text) : (texts.map Value.text).filterMap Value.text? = texts := by
    rw [List.filterMap_map]
    exact List.filterMap_some
  have hStranger (texts : List Text) :
      (texts.map Value.text).find? (fun s => s.text?.isNone) = none := by
    rw [List.find?_eq_none]
    intro v hv
    obtain ⟨t, -, rfl⟩ := List.mem_map.1 hv
    simp [Value.text?]
  rw [Secrets.read, Value.items]
  change Except.ok (Secrets.mk _ _) = _
  rw [hPresent, hTexts, hStranger]
  rfl

end Storefront.Log
