import Mathlib
import Storefront.Proofs.Selection.Accepting
import Storefront.Search.Service

/-!
# Payloads that are rejected

A payload that is no selection is rejected as a fault of the client, and then nothing is sent. There
is one exception: an integer beyond the doubles as a bound of the price range.

* `Selection.HasHugeBound`: the payloads of which such a bound is looked at.
* `Selection.parse_eq_priceTooLarge_iff`: exactly for them the check of the price range is cut short.
* `Selection.not_parse_rejects`: a payload that is neither read nor rejected.
* `Selection.search_answers_or_rejects_iff`: for all others a search in an empty index ends with an
  answer or with a rejection.
-/

namespace Storefront.Selection

/-! ## Bounds beyond the doubles -/

/-- The value is an integer beyond the doubles. -/
def IsHuge (v : Value) : Prop := ∃ n : Int, v = .int n ∧ Binary64.tooLarge ≤ n.natAbs

theorem checkBound_eq_tooLarge_iff {v : Value} : checkBound v = .tooLarge ↔ IsHuge v := by
  cases v with
  | int n =>
    rw [checkBound]
    constructor
    · intro h
      cases hn : Binary64.ofInt? n with
      | none => exact ⟨n, rfl, Binary64.ofInt?_eq_none_iff.1 hn⟩
      | some x =>
        rw [hn, Option.bind_some,
          finiteBound?_eq_some_iff (b := ⟨x, Binary64.isFinite_of_ofInt? hn⟩).2 rfl] at h
        cases h
    · rintro ⟨m, hm, hLarge⟩
      injection hm with hm
      rw [hm, Binary64.ofInt?_eq_none_iff.2 hLarge]
      rfl
  | float x =>
    have hNot : ¬ IsHuge (.float x) := by
      rintro ⟨n, hn, -⟩
      cases hn
    rw [checkBound]
    cases finiteBound? x <;> simp [hNot]
  | _ => simp [checkBound, IsHuge]

/-- The upper bound is looked at only where the lower one is a finite number. -/
theorem checkBounds_eq_tooLarge_iff {v : Value} :
    checkBounds v = .tooLarge ↔
      ∃ a b, v = .list [a, b] ∧ (IsHuge a ∨ (∃ x, finiteNumber? a = some x) ∧ IsHuge b) := by
  constructor
  · intro h
    unfold checkBounds at h
    split at h
    · rename_i a b
      refine ⟨a, b, rfl, ?_⟩
      split at h
      · cases h
      · rename_i hLow
        exact .inl (checkBound_eq_tooLarge_iff.1 hLow)
      · rename_i low hLow
        split at h
        · cases h
        · rename_i hHigh
          exact .inr ⟨⟨_, checkBound_eq_accepted_iff.1 hLow⟩, checkBound_eq_tooLarge_iff.1 hHigh⟩
        · cases h
    · cases h
  · rintro ⟨a, b, rfl, hHuge | ⟨⟨x, hx⟩, hHuge⟩⟩
    · rw [checkBounds, checkBound_eq_tooLarge_iff.2 hHuge]
    · have hLow : checkBound a = .accepted ⟨x, isFinite_of_finiteNumber? hx⟩ :=
        checkBound_eq_accepted_iff.2 hx
      rw [checkBounds, hLow]
      simp only [checkBound_eq_tooLarge_iff.2 hHuge]

theorem priceField_eq_none_iff {fields : Fields} :
    priceField fields = none ↔
      ∃ v, fields.get? "price" = some v ∧ checkBounds v = .tooLarge := by
  unfold priceField
  cases fields.get? "price" with
  | none => simp
  | some v =>
    cases hBounds : checkBounds v <;> simp [hBounds]

/-! ## Errors of reading -/

theorem ofFields_eq_priceTooLarge_iff {fields : Fields} :
    ofFields fields = .error .priceTooLarge ↔ priceField fields = none := by
  unfold ofFields
  cases priceField fields with
  | none => simp
  | some bounds =>
    dsimp only
    split
    · simp
    · split <;> simp

/-- All names are known, and a bound beyond the doubles is looked at. -/
def HasHugeBound (payload : Value) : Prop :=
  ∃ (fields : Fields) (a b : Value),
    payload = .object fields ∧ NamesKnown .color fields ∧ NamesKnown .size fields ∧
    fields.get? "price" = some (.list [a, b]) ∧
    (IsHuge a ∨ (∃ x, finiteNumber? a = some x) ∧ IsHuge b)

/-- The check of the price range is cut short exactly for the payloads with a huge bound. -/
theorem parse_eq_priceTooLarge_iff {payload : Value} :
    parse payload = .error .priceTooLarge ↔ HasHugeBound payload := by
  constructor
  · intro h
    cases payload with
    | object fields =>
      rw [parse] at h
      split at h
      · cases h
      · rename_i hKnown
        obtain ⟨hColor, hSize⟩ := Option.or_eq_none_iff.1 hKnown
        obtain ⟨v, hPrice, hBounds⟩ :=
          priceField_eq_none_iff.1 (ofFields_eq_priceTooLarge_iff.1 h)
        obtain ⟨a, b, rfl, hHuge⟩ := checkBounds_eq_tooLarge_iff.1 hBounds
        exact ⟨fields, a, b, rfl, firstUnknown?_eq_none_iff.1 hColor,
          firstUnknown?_eq_none_iff.1 hSize, hPrice, hHuge⟩
    | _ => cases h
  · rintro ⟨fields, a, b, rfl, hColor, hSize, hPrice, hHuge⟩
    rw [parse_object_of_known hColor hSize, ofFields_eq_priceTooLarge_iff]
    exact priceField_eq_none_iff.2 ⟨_, hPrice, checkBounds_eq_tooLarge_iff.2 ⟨a, b, rfl, hHuge⟩⟩

/-- The classes of the errors that are faults of the client. -/
def rejections : List String := ["InvalidFilterPayload", "UnknownAttributeValue"]

theorem label_mem_rejections_iff {e : SelectionError} :
    e.label ∈ rejections ↔ e ≠ .priceTooLarge := by
  cases e with
  | priceTooLarge => exact iff_of_false (by decide) (fun h => h rfl)
  | _ => exact iff_of_true (by simp [SelectionError.label, rejections]) (fun h => nomatch h)

/-- Reading ends with a selection or with a rejection except for a huge bound. -/
theorem reads_or_rejects_iff {payload : Value} :
    ((∃ s, parse payload = .ok s) ∨ ∃ e, parse payload = .error e ∧ e.label ∈ rejections) ↔
      ¬ HasHugeBound payload := by
  rw [← parse_eq_priceTooLarge_iff]
  cases parse payload with
  | ok s => simp
  | error e => simp [label_mem_rejections_iff]

/-- A payload with a bound that no double is near to. -/
def hugePayload : Value :=
  .object
    [("color", .list [.text "blue"]), ("size", .list [.text "M"]),
     ("price", .list [.int 0, .int (Nat.pow 10 400)]), ("sort", .text "none")]

theorem hasHugeBound_hugePayload : HasHugeBound hugePayload := by
  have hZero : ∃ x, finiteNumber? (.int 0) = some x := by
    obtain ⟨x, hx, -, -⟩ := Binary64.ofInt?_of_small (n := 0) (by decide)
    rw [finiteNumber?]
    exact ⟨x, hx⟩
  have hHuge : IsHuge (.int (Nat.pow 10 400)) := ⟨_, rfl, by decide +kernel⟩
  exact ⟨_, _, _, rfl, namesKnown_of_given isSome_codeOf?_color [.blue] rfl,
    namesKnown_of_given isSome_codeOf?_size [.medium] rfl, rfl, .inr ⟨hZero, hHuge⟩⟩

/-- A payload that is neither read nor rejected. -/
theorem not_parse_rejects :
    ¬ ∀ payload : Value, payload.isJson = true →
      (∃ s, parse payload = .ok s) ∨ ∃ e, parse payload = .error e ∧ e.label ∈ rejections := by
  intro h
  have hJson : hugePayload.isJson = true := by rfl
  exact reads_or_rejects_iff.1 (h hugePayload hJson) hasHugeBound_hugePayload

/-! ## Searches -/

theorem search_of_parse_error (service : SearchService) {payload : Value} {e : SelectionError}
    (h : parse payload = .error e) (index : Except Index.BackendError Index.Reply) :
    service.search payload index = ⟨[], [], .error (.selection e)⟩ := by
  rw [SearchService.search, h]

/-- What is read is searched for once, and nothing is found in an empty index. -/
theorem search_of_parse_ok (service : SearchService) {payload : Value} {s : Selection}
    (h : parse payload = .ok s) :
    (service.search payload (.ok (.value (.list [])))).result = .ok [] ∧
      (service.search payload (.ok (.value (.list [])))).calls =
        [.query (service.query s).call] := by
  rw [SearchService.search, h]
  obtain ⟨⟨strategy, average, top⟩, topK⟩ := service
  constructor
  · obtain ⟨colors, sizes, price, sort⟩ := s
    cases strategy <;> cases sort <;> rfl
  · rfl

/-- A search in an empty index ends with an answer or with a rejection exactly when reading the
payload does. -/
theorem answers_or_rejects_iff_reads (service : SearchService) (payload : Value) :
    ((∃ found, (service.search payload (.ok (.value (.list [])))).result = .ok found) ∨
      ∃ e, (service.search payload (.ok (.value (.list [])))).result = .error (.selection e) ∧
        e.label ∈ rejections ∧
        (service.search payload (.ok (.value (.list [])))).calls = []) ↔
    ((∃ s, parse payload = .ok s) ∨ ∃ e, parse payload = .error e ∧ e.label ∈ rejections) := by
  cases hParse : parse payload with
  | ok s =>
    refine iff_of_true (.inl ⟨[], ?_⟩) (.inl ⟨s, rfl⟩)
    exact (search_of_parse_ok service hParse).1
  | error e =>
    rw [search_of_parse_error service hParse]
    constructor
    · rintro (⟨found, hFound⟩ | ⟨e', hError, hLabel, -⟩)
      · cases hFound
      · injection hError with hError
        injection hError with hError
        exact .inr ⟨e, rfl, hError ▸ hLabel⟩
    · rintro (⟨s, hOk⟩ | ⟨e', hError, hLabel⟩)
      · cases hOk
      · injection hError with hError
        exact .inr ⟨e, rfl, hError ▸ hLabel, rfl⟩

/-- Except for a huge bound every payload is read or rejected, and a search in an empty index ends
with an answer or, without a call, with a rejection. -/
theorem search_answers_or_rejects_iff (service : SearchService) (payload : Value) :
    (((∃ s, parse payload = .ok s) ∨
        ∃ e, parse payload = .error e ∧ e.label ∈ rejections) ↔ ¬ HasHugeBound payload) ∧
    (((∃ found, (service.search payload (.ok (.value (.list [])))).result = .ok found) ∨
        ∃ e, (service.search payload (.ok (.value (.list [])))).result = .error (.selection e) ∧
          e.label ∈ rejections ∧
          (service.search payload (.ok (.value (.list [])))).calls = []) ↔
      ¬ HasHugeBound payload) ∧
    (HasHugeBound payload →
      service.search payload (.ok (.value (.list []))) =
        ⟨[], [], .error (.selection .priceTooLarge)⟩) := by
  refine ⟨reads_or_rejects_iff, ?_, ?_⟩
  · rw [answers_or_rejects_iff_reads, reads_or_rejects_iff]
  · intro hHuge
    exact search_of_parse_error service (parse_eq_priceTooLarge_iff.2 hHuge) _

end Storefront.Selection
