import Mathlib
import Storefront.Proofs.Selection.Accepting

/-!
# Unknown names

A text in the list of an attribute that is none of its names comes before everything else that may be
wrong with a payload. The first such text is reported, of the colors where they hold one and otherwise
of the sizes, and what else is in the lists does not count. Nothing else is reported as an unknown name.

* `Attribute.isSome_codeOf?_iff`: the texts that have a code are the names of the attribute.
* `Selection.firstUnknown?_eq_some_iff`: going through a list finds its first unknown name.
* `Selection.ofFields_ne_unknownName`: reading the fields reports no unknown name.
* `Selection.parse_reports_unknown_iff`: when a payload is reported for an unknown name, and for which.
-/

namespace Storefront

namespace Attribute

/-- The names of an attribute. -/
def names : Attribute → List String
  | .color => ["white", "beige", "blue", "green", "purple"]
  | .size => ["S", "M", "L"]

/-- The text is a name of the attribute. -/
def Knows (a : Attribute) (t : Text) : Prop := ∃ name ∈ a.names, t = Text.ofString name

theorem isSome_codeOf?_iff {a : Attribute} {t : Text} : (a.codeOf? t).isSome = true ↔ a.Knows t := by
  cases a with
  | color =>
    have hNames : names .color = Color.all.map Color.name := rfl
    simp [codeOf?, Color.ofName?, Knows, hNames]
  | size =>
    have hNames : names .size = Size.all.map Size.name := rfl
    simp [codeOf?, Size.ofName?, Knows, hNames]

theorem isNone_codeOf?_iff {a : Attribute} {t : Text} : (a.codeOf? t).isNone = true ↔ ¬ a.Knows t := by
  rw [← isSome_codeOf?_iff, Option.isNone_iff_eq_none, Option.not_isSome_iff_eq_none]

end Attribute

namespace Selection

/-! ## Lists with unknown names -/

/-- In the list of the attribute there is a text that is none of its names. -/
def HasUnknown (a : Attribute) (payload : Value) : Prop :=
  ∃ fields items t, payload = .object fields ∧ Fields.get? fields a.name = some (.list items) ∧
    Value.text t ∈ items ∧ ¬ a.Knows t

/-- The text is the first in the list of the attribute that is none of its names. -/
def FirstUnknown (a : Attribute) (payload : Value) (t : Text) : Prop :=
  ∃ fields before after, payload = .object fields ∧
    Fields.get? fields a.name = some (.list (before ++ .text t :: after)) ∧ ¬ a.Knows t ∧
    ∀ s, Value.text s ∈ before → a.Knows s

theorem firstUnknown?_eq_some_iff {a : Attribute} {payload : Value} {u : UnknownName} :
    firstUnknown? a payload = some u ↔ ∃ t, u = ⟨a, .text t⟩ ∧ FirstUnknown a payload t := by
  constructor
  · intro h
    unfold firstUnknown? at h
    split at h
    · rename_i items hItems
      obtain ⟨before, v, after, rfl, hFound, hBefore⟩ := List.findSome?_eq_some_iff.1 h
      cases payload with
      | object fields =>
        cases v with
        | text t =>
          dsimp only at hFound
          split at hFound
          · rename_i hUnknown
            cases hFound
            refine ⟨t, rfl, fields, before, after, rfl, hItems,
              Attribute.isNone_codeOf?_iff.1 hUnknown, ?_⟩
            intro s hs
            have hNone := hBefore _ hs
            dsimp only at hNone
            split at hNone
            · cases hNone
            · rename_i hKnown
              rw [Attribute.isNone_codeOf?_iff, not_not] at hKnown
              exact hKnown
          · cases hFound
        | _ => cases hFound
      | _ => cases hItems
    · cases h
  · rintro ⟨t, rfl, fields, before, after, rfl, hItems, hUnknown, hBefore⟩
    unfold firstUnknown?
    rw [Value.field?, hItems]
    apply List.findSome?_eq_some_iff.2
    refine ⟨before, .text t, after, rfl, ?_, ?_⟩
    · exact if_pos (Attribute.isNone_codeOf?_iff.2 hUnknown)
    · intro v hv
      cases v with
      | text s => exact if_neg (mt Attribute.isNone_codeOf?_iff.1 (not_not.2 (hBefore s hv)))
      | _ => rfl

theorem firstUnknown?_eq_none_iff_not_hasUnknown {a : Attribute} {payload : Value} :
    firstUnknown? a payload = none ↔ ¬ HasUnknown a payload := by
  cases payload with
  | object fields =>
    rw [firstUnknown?_eq_none_iff, NamesKnown]
    constructor
    · rintro hKnown ⟨_, items, t, ⟨⟩, hItems, ht, hUnknown⟩
      exact hUnknown (Attribute.isSome_codeOf?_iff.1 (hKnown items hItems t ht))
    · intro hNot items hItems t ht
      by_contra hCode
      exact hNot ⟨fields, items, t, rfl, hItems, ht, mt Attribute.isSome_codeOf?_iff.2 hCode⟩
  | _ =>
    refine iff_of_true rfl ?_
    rintro ⟨fields, items, t, hPayload, -⟩
    cases hPayload

/-! ## Reports -/

/-- Reading the fields reports flaws, or a bound that is too large, but no unknown name. -/
theorem ofFields_ne_unknownName (fields : Fields) (u : UnknownName) :
    ofFields fields ≠ .error (.unknownName u) := by
  intro h
  unfold ofFields at h
  split at h
  · cases h
  · dsimp only at h
    split at h
    · cases h
    · split at h
      · cases h
      · cases h

theorem label_eq_unknown_iff {e : SelectionError} :
    e.label = "UnknownAttributeValue" ↔ ∃ u, e = .unknownName u := by
  cases e with
  | unknownName u => exact iff_of_true rfl ⟨u, rfl⟩
  | notAnObject | invalid | priceTooLarge =>
    refine iff_of_false (by simp [SelectionError.label, Misuse.label]) ?_
    rintro ⟨u, hu⟩
    cases hu

theorem parse_eq_unknownName_iff {payload : Value} {u : UnknownName} :
    parse payload = .error (.unknownName u) ↔
      (firstUnknown? .color payload).or (firstUnknown? .size payload) = some u := by
  cases payload with
  | object fields =>
    rw [parse]
    cases (firstUnknown? .color (.object fields)).or (firstUnknown? .size (.object fields)) with
    | none => simp [ofFields_ne_unknownName]
    | some u' => simp
  | _ => exact iff_of_false (by rintro ⟨⟩) (by rintro ⟨⟩)

/-- A payload is reported for an unknown name exactly if there is one among its colors or its sizes,
whatever else is wrong with it. The report is about the first unknown color where there is one, and
otherwise about the first unknown size. -/
theorem parse_reports_unknown_iff (payload : Value) :
    ((∃ e, parse payload = .error e ∧ e.label = "UnknownAttributeValue") ↔
      HasUnknown .color payload ∨ HasUnknown .size payload) ∧
    ∀ u, parse payload = .error (.unknownName u) ↔
      (∃ t, u = ⟨.color, .text t⟩ ∧ FirstUnknown .color payload t) ∨
      (¬ HasUnknown .color payload ∧ ∃ t, u = ⟨.size, .text t⟩ ∧ FirstUnknown .size payload t) := by
  have hNone : (firstUnknown? .color payload).or (firstUnknown? .size payload) = none ↔
      ¬ (HasUnknown .color payload ∨ HasUnknown .size payload) := by
    rw [Option.or_eq_none_iff, firstUnknown?_eq_none_iff_not_hasUnknown,
      firstUnknown?_eq_none_iff_not_hasUnknown, not_or]
  constructor
  · constructor
    · rintro ⟨e, hParse, hLabel⟩
      obtain ⟨u, rfl⟩ := label_eq_unknown_iff.1 hLabel
      by_contra hKnown
      have hFound := parse_eq_unknownName_iff.1 hParse
      rw [hNone.2 hKnown] at hFound
      cases hFound
    · intro hUnknown
      obtain ⟨u, hu⟩ := Option.ne_none_iff_exists'.1 fun h => hNone.1 h hUnknown
      exact ⟨_, parse_eq_unknownName_iff.2 hu, label_eq_unknown_iff.2 ⟨u, rfl⟩⟩
  · intro u
    rw [parse_eq_unknownName_iff, Option.or_eq_some_iff, firstUnknown?_eq_some_iff,
      firstUnknown?_eq_some_iff, firstUnknown?_eq_none_iff_not_hasUnknown]

end Selection

end Storefront
