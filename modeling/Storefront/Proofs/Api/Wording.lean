import Mathlib
import Storefront.Proofs.Api.Sending
import Storefront.Proofs.Selection.Accepting

/-!
# Messages that can be sent

The message about a rejected payload shows names and numbers of the payload. Names are shown in
quotes, with escapes for the halves of surrogate pairs, so every such message can be sent.

* `Text.isUnicode_quoted`: no half stands in quotes.
* `Checked.Flawed`: what holds of all flaws that a check reports.
* `Selection.isUnicode_message`: the messages about rejected payloads.
-/

namespace Storefront

open Api.Sending (IsUnicode isHalf isUnicode_ofString)
open Validation (Checked Flaw Issue Step)

/-! ## Texts -/

namespace Text

theorem isUnicode_append {t u : Text} : IsUnicode (t ++ u) ↔ IsUnicode t ∧ IsUnicode u :=
  List.forall_mem_append

theorem isUnicode_ofChars (cs : List Char) : IsUnicode (ofChars cs) := by
  intro p hp
  obtain ⟨c, -, rfl⟩ := List.mem_map.1 hp
  rfl

theorem isUnicode_join {separator : Text} {parts : List Text} (hSeparator : IsUnicode separator)
    (hParts : ∀ t ∈ parts, IsUnicode t) : IsUnicode (join separator parts) := by
  rw [join]
  induction parts with
  | nil => simp [IsUnicode]
  | cons t parts ih =>
    obtain ⟨hFirst, hMore⟩ := List.forall_mem_cons.1 hParts
    cases parts with
    | nil => simpa using hFirst
    | cons u parts =>
      rw [List.intersperse_cons_cons, List.flatten_cons, List.flatten_cons]
      exact isUnicode_append.2 ⟨hFirst, isUnicode_append.2 ⟨hSeparator, ih hMore⟩⟩

/-- The boundaries lie below the halves or behind them, and those below are paired. -/
theorem isPrintable_half (h : Fin 0x800) : isPrintable (.half h) = false := by
  have hNumber : (CodePoint.half h).toNat = 0xD800 + h.val := rfl
  have hBelow : ∀ b ∈ printableBoundaries.takeWhile (· ≤ 0xD7FF),
      decide (b ≤ (CodePoint.half h).toNat) = true := by
    intro b hb
    have hBound : b ≤ 0xD7FF := by simpa using List.mem_takeWhile_imp hb
    exact decide_eq_true (by omega)
  have hBehind : (printableBoundaries.dropWhile (· ≤ 0xD7FF)).takeWhile
      (· ≤ (CodePoint.half h).toNat) = [] := by
    have hLarge : ∀ b ∈ printableBoundaries.dropWhile (· ≤ 0xD7FF), 0xDFFF < b := by decide +kernel
    cases hRest : printableBoundaries.dropWhile (· ≤ 0xD7FF) with
    | nil => rfl
    | cons b rest =>
      have hFirst : 0xDFFF < b := hLarge b (by rw [hRest]; exact List.mem_cons_self)
      have hHalf := h.isLt
      exact List.takeWhile_cons_of_neg (by simp; omega)
  have hPaired : (printableBoundaries.takeWhile (· ≤ 0xD7FF)).length % 2 = 0 := by decide +kernel
  rw [isPrintable, ← List.takeWhile_append_dropWhile (p := (· ≤ 0xD7FF)) (l := printableBoundaries),
    List.takeWhile_append_of_pos hBelow, hBehind, List.append_nil, hPaired]
  rfl

theorem isUnicode_quotePoint (quote : Char) (p : CodePoint) :
    IsUnicode (quotePoint quote isPrintable p) := by
  have hChar (c : Char) : isHalf (.char c) = false := rfl
  rw [quotePoint]
  split
  · rename_i hMark
    obtain rfl | rfl := hMark <;> simp [IsUnicode, hChar]
  · split
    · simp [IsUnicode, hChar]
    · split
      · simp [IsUnicode, hChar]
      · split
        · simp [IsUnicode, hChar]
        · split
          · rename_i hShown
            cases p with
            | char c => simp [IsUnicode, hChar]
            | half h =>
              rw [isPrintable_half] at hShown
              cases hShown
          · exact isUnicode_ofChars _

theorem isUnicode_quoted (t : Text) : IsUnicode t.quoted := by
  have hQuote : isHalf (.char (quoteFor t)) = false := rfl
  intro p hp
  rw [quoted, List.mem_cons, List.mem_append, List.mem_flatMap, List.mem_singleton] at hp
  obtain rfl | ⟨q, -, hq⟩ | rfl := hp
  · exact hQuote
  · exact isUnicode_quotePoint _ q p hq
  · exact hQuote

end Text

/-! ## Flaws -/

namespace Validation

/-- What the flaw says about the value can be sent; the other words are fixed. -/
def Flaw.IsWritten : Flaw → Prop
  | .refused reason => IsUnicode reason
  | _ => True

theorem Flaw.isUnicode_message {flaw : Flaw} (h : flaw.IsWritten) : IsUnicode flaw.message := by
  cases flaw with
  | refused reason => exact Text.isUnicode_append.2 ⟨isUnicode_ofString _, h⟩
  | notAmong names =>
    simp only [message, Text.isUnicode_append, isUnicode_ofString, and_self]
  | below n | notAbove n | above n | modelType n =>
    simp only [message, Text.isUnicode_append, isUnicode_ofString, and_self]
  | _ => exact isUnicode_ofString _

theorem Issue.isUnicode_describe {i : Issue} (h : i.flaw.IsWritten) (whole : String) :
    IsUnicode (i.describe whole) := by
  rw [describe, Text.isUnicode_append, Text.isUnicode_append]
  refine ⟨⟨?_, isUnicode_ofString _⟩, Flaw.isUnicode_message h⟩
  split <;> exact isUnicode_ofString _

namespace Checked

variable {α β : Type} {p : Flaw → Prop}

/-- All flaws that are reported have the property. -/
def Flawed (p : Flaw → Prop) (x : Checked α) : Prop :=
  ∀ issues, x = .error issues → ∀ i ∈ issues, p i.flaw

theorem flawed_ok (a : α) : Flawed p (.ok a : Checked α) := by
  rintro _ ⟨⟩

theorem Flawed.ap {f : Checked (α → β)} {x : Checked α} (hf : Flawed p f) (hx : Flawed p x) :
    Flawed p (Checked.ap f x) := by
  intro issues h
  cases f with
  | ok g =>
    cases x with
    | ok a => cases h
    | error more =>
      cases h
      exact hx _ rfl
  | error first =>
    cases x with
    | ok a =>
      cases h
      exact hf _ rfl
    | error more =>
      cases h
      exact List.forall_mem_append.2 ⟨hf first rfl, hx more rfl⟩

theorem Flawed.under {x : Checked α} (h : Flawed p x) (step : Step) :
    Flawed p (Checked.under step x) := by
  intro issues hUnder
  cases x with
  | ok a => cases hUnder
  | error inner =>
    cases hUnder
    intro i hi
    obtain ⟨j, hj, rfl⟩ := List.mem_map.1 hi
    exact h inner rfl j hj

theorem flawed_ofFlaw {x : Except Flaw α} (h : ∀ flaw, x = .error flaw → p flaw) :
    Flawed p (Checked.ofFlaw x) := by
  intro issues hFlaw
  cases x with
  | ok a => cases hFlaw
  | error flaw =>
    cases hFlaw
    simpa using h flaw rfl

theorem flawed_items {check : Value → Checked α} (h : ∀ v, Flawed p (check v)) (vs : List Value) :
    Flawed p (Checked.items check vs) := by
  have hFrom : ∀ n, Flawed p (Checked.itemsFrom check n vs) := by
    induction vs with
    | nil => exact fun n => flawed_ok []
    | cons v vs ih => exact fun n => ((flawed_ok _).ap ((h v).under _)).ap (ih (n + 1))
  exact hFrom 0

theorem flawed_required {check : Value → Checked α} (hMissing : p .missing)
    (h : ∀ v, Flawed p (check v)) (fields : Fields) (name : String) :
    Flawed p (Checked.required fields name check) := by
  rw [required]
  refine Flawed.under ?_ _
  split
  · exact h _
  · intro issues hError
    cases hError
    simpa using hMissing

end Checked

end Validation

/-! ## Payloads -/

namespace Selection

open Validation

section Members

variable {α : Type} {all : List α} {name : α → String}

theorem isWritten_of_findMember {cs : Option (List Char)} {flaw : Flaw}
    (h : findMember all name cs = .error flaw) : flaw.IsWritten := by
  unfold findMember at h
  split at h
  · cases h
  · cases h
    trivial

theorem flawed_member (v : Value) :
    Checked.Flawed Flaw.IsWritten (Checked.ofFlaw (member all name v)) := by
  refine Checked.flawed_ofFlaw fun flaw h => ?_
  cases v with
  | text t =>
    have hMember : (characters t >>= fun cs => findMember all name (some cs)) = .error flaw := h
    unfold characters at hMember
    cases hChars : t.chars? with
    | none =>
      rw [hChars] at hMember
      cases hMember
      trivial
    | some cs =>
      rw [hChars] at hMember
      exact isWritten_of_findMember hMember
  | bytes bs =>
    have hMember : findMember all name (characters? bs) = .error flaw := h
    exact isWritten_of_findMember hMember
  | _ =>
    have hMember : findMember all name none = .error flaw := h
    exact isWritten_of_findMember hMember

theorem flawed_names [DecidableEq α] (v : Value) :
    Checked.Flawed Flaw.IsWritten (names all name v) := by
  cases v with
  | list items =>
    intro issues h
    rw [names] at h
    cases hItems : Checked.items (fun item => Checked.ofFlaw (member all name item)) items with
    | ok as =>
      rw [hItems] at h
      cases h
    | error found =>
      rw [hItems] at h
      cases h
      exact Checked.flawed_items flawed_member items _ hItems
  | _ =>
    intro issues h
    cases h
    exact List.forall_mem_singleton.2 (isUnicode_ofString _)

end Members

theorem isUnicode_of_checkBound {v : Value} {reason : Text} (h : checkBound v = .flawed reason) :
    IsUnicode reason := by
  cases v with
  | int n =>
    rw [checkBound] at h
    cases hBound : (Binary64.ofInt? n).bind finiteBound? <;> rw [hBound] at h <;> cases h
  | float x =>
    rw [checkBound] at h
    cases hBound : finiteBound? x with
    | some b =>
      rw [hBound] at h
      cases h
    | none =>
      rw [hBound] at h
      cases h
      exact isUnicode_ofString _
  | _ =>
    cases h
    exact isUnicode_ofString _

theorem isUnicode_of_checkBounds {v : Value} {reason : Text}
    (h : checkBounds v = .flawed reason) : IsUnicode reason := by
  unfold checkBounds at h
  split at h
  · split at h
    · rename_i hLow
      cases h
      exact isUnicode_of_checkBound hLow
    · cases h
    · split at h
      · rename_i hHigh
        cases h
        exact isUnicode_of_checkBound hHigh
      · cases h
      · cases h
  · cases h
    exact isUnicode_ofString _

theorem flawed_priceField {fields : Fields} {bounds : Checked (Bound × Bound)}
    (h : priceField fields = some bounds) : bounds.Flawed Flaw.IsWritten := by
  unfold priceField at h
  dsimp only at h
  split at h
  · cases h
    rintro _ ⟨⟩
    exact List.forall_mem_singleton.2 trivial
  · split at h
    · cases h
      exact Checked.flawed_ok _
    · rename_i hBounds
      cases h
      rintro _ ⟨⟩
      exact List.forall_mem_singleton.2 (isUnicode_of_checkBounds hBounds)
    · cases h

theorem isUnicode_of_rangeOf {low high : Bound} {reason : Text}
    (h : rangeOf low high = .error reason) : IsUnicode reason := by
  unfold rangeOf at h
  split at h
  · split at h
    · cases h
    · cases h
      simp only [Text.isUnicode_append, isUnicode_ofString, and_self]
  · cases h
    simp only [Text.isUnicode_append, isUnicode_ofString, and_self]

theorem isUnicode_of_issues {issues : List Issue} (h : ∀ i ∈ issues, i.flaw.IsWritten) :
    IsUnicode (SelectionError.invalid issues).message := by
  refine Text.isUnicode_join (isUnicode_ofString "; ") fun t ht => ?_
  obtain ⟨i, hi, rfl⟩ := List.mem_map.1 ht
  exact Issue.isUnicode_describe (h i hi) "payload"

theorem isUnicode_of_ofFields {fields : Fields} {e : SelectionError}
    (h : ofFields fields = .error e) : IsUnicode e.message := by
  unfold ofFields at h
  split at h
  · cases h
    exact isUnicode_ofString _
  · rename_i bounds hBounds
    dsimp only at h
    split at h
    · rename_i issues hParts
      cases h
      refine isUnicode_of_issues (Checked.Flawed.ap (Checked.Flawed.ap (Checked.Flawed.ap
        (Checked.Flawed.ap (Checked.flawed_ok _) ?_) ?_) (flawed_priceField hBounds)) ?_ _ hParts)
      · exact Checked.flawed_required trivial flawed_names fields _
      · exact Checked.flawed_required trivial flawed_names fields _
      · exact Checked.flawed_required trivial flawed_member fields _
    · split at h
      · cases h
      · rename_i hRange
        cases h
        exact isUnicode_of_issues (List.forall_mem_singleton.2 (isUnicode_of_rangeOf hRange))

/-- Only texts are looked for among the names. -/
theorem isUnicode_of_firstUnknown? {a : Attribute} {payload : Value} {u : UnknownName}
    (h : firstUnknown? a payload = some u) : IsUnicode u.message := by
  obtain ⟨t, ht⟩ : ∃ t, u.value = .text t := by
    unfold firstUnknown? at h
    split at h
    · obtain ⟨item, -, hItem⟩ := List.exists_of_findSome?_eq_some h
      split at hItem
      · split at hItem
        · cases hItem
          exact ⟨_, rfl⟩
        · cases hItem
      · cases hItem
    · cases h
  rw [UnknownName.message, ht, Value.repr]
  simp only [Text.isUnicode_append, isUnicode_ofString, Text.isUnicode_quoted, and_self]

/-- The message about a payload that is rejected can be sent. -/
theorem isUnicode_message {payload : Value} {e : SelectionError}
    (h : parse payload = .error e) : IsUnicode e.message := by
  unfold parse at h
  split at h
  · split at h
    · rename_i u hUnknown
      cases h
      rcases Option.or_eq_some_iff.1 hUnknown with hColor | ⟨-, hSize⟩
      · exact isUnicode_of_firstUnknown? hColor
      · exact isUnicode_of_firstUnknown? hSize
    · exact isUnicode_of_ofFields h
  · cases h
    exact isUnicode_ofString _

end Selection

end Storefront
