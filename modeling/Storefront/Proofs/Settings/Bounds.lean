import Mathlib
import Storefront.Proofs.Settings.Usable
import Storefront.Search.Session

/-!
# Bounds of the settings

Each number of the settings is checked against the bounds of its field, and the prices against each
other, so a service that is made from settings looks for prices of the catalog only. The name of the
strategy is checked only where it is given as a text: a byte string passes for the text that it
encodes, whichever that is.

* `Settings.InBounds`, `Settings.inBounds_of_passes`: the numbers that pass, wherever they come
  from.
* `Settings.serves_of_inBounds`: what a service does with them.
* `Settings.hasStrategy_iff`: when the name of the strategy is one.
* `Settings.not_isUsable`: settings that describe no service.
* `Settings.isUsable_iff`: the settings that can be used.
-/

namespace Storefront

open Index (Connection)
open Validation (Checked Flaw)

namespace Settings

/-! ## Numbers -/

/-- The numbers of the settings lie within their bounds. None of them is NaN, which is in no order
to any number. -/
structure InBounds (s : Settings) : Prop where
  zero_le_average : Binary64.zero.le s.averagePrice = true
  average_le_max : s.averagePrice.le s.maxPrice = true
  zero_lt_timeout : Binary64.zero.lt s.timeoutSeconds = true
  timeout_le : s.timeoutSeconds.le (whole 600) = true
  one_le_topK : 1 ≤ s.topK
  topK_le : s.topK ≤ 1000

theorem whole_zero : whole 0 = .zero := by decide +kernel

theorem le_of_checkTopK {v : Value} {n : Int} (h : checkTopK v = .ok n) : 1 ≤ n ∧ n ≤ 1000 := by
  obtain ⟨read, -, h⟩ := bind_eq_ok_iff.1 h
  obtain ⟨low, hAtMost, hAtLeast⟩ := bind_eq_ok_iff.1 h
  rw [Validation.intAtMost] at hAtMost
  rw [Validation.intAtLeast] at hAtLeast
  split at hAtMost
  · cases hAtMost
    split at hAtLeast
    · cases hAtLeast
      constructor
      · assumption
      · assumption
    · cases hAtLeast
  · cases hAtMost

theorem le_of_checkTimeout {v : Value} {x : Binary64} (h : checkTimeout v = .ok x) :
    Binary64.zero.lt x = true ∧ x.le (whole 600) = true := by
  obtain ⟨read, -, h⟩ := bind_eq_ok_iff.1 h
  obtain ⟨low, hAtMost, hAbove⟩ := bind_eq_ok_iff.1 h
  rw [Validation.doubleAtMost] at hAtMost
  rw [Validation.doubleAbove] at hAbove
  split at hAtMost
  · rename_i hLe
    cases hAtMost
    split at hAbove
    · rename_i hLt
      cases hAbove
      rw [← whole_zero]
      exact ⟨hLt, hLe⟩
    · cases hAbove
  · cases hAtMost

theorem le_of_checkAmount {v : Value} {x : Binary64} (h : checkAmount v = .ok x) :
    Binary64.zero.le x = true := by
  obtain ⟨read, -, hAtLeast⟩ := bind_eq_ok_iff.1 h
  rw [Validation.doubleAtLeast] at hAtLeast
  split at hAtLeast
  · rename_i hLe
    cases hAtLeast
    rw [← whole_zero]
    exact hLe
  · cases hAtLeast

/-- What passes is in bounds, and so are the defaults. -/
theorem inBounds_of_passes {s : Settings} {fields : Fields} (h : s.Passes fields) :
    s.InBounds := by
  have hTopK : 1 ≤ s.topK ∧ s.topK ≤ 1000 :=
    of_optional (p := fun n => 1 ≤ n ∧ n ≤ 1000) (by decide) (fun _ _ => le_of_checkTopK) h.topK
  have hTimeout : Binary64.zero.lt s.timeoutSeconds = true ∧
      s.timeoutSeconds.le (whole 600) = true :=
    of_optional (p := fun x => Binary64.zero.lt x = true ∧ x.le (whole 600) = true)
      (by decide +kernel) (fun _ _ => le_of_checkTimeout) h.timeout
  have hAverage : Binary64.zero.le s.averagePrice = true :=
    of_optional (p := fun x => Binary64.zero.le x = true) (Binary64.zero_le_nearest 25 1)
      (fun _ _ => le_of_checkAmount) h.average
  have hMax : Binary64.zero.le s.maxPrice = true :=
    of_optional (p := fun x => Binary64.zero.le x = true) (Binary64.zero_le_nearest 50 1)
      (fun _ _ => le_of_checkAmount) h.maximum
  exact ⟨hAverage, Binary64.le_of_not_lt hAverage hMax h.prices, hTimeout.1, hTimeout.2, hTopK.1,
    hTopK.2⟩

/-! ## Services -/

/-- A service can be made from the settings, with a client or without one, and for each sort mode it
looks for a price between zero and the highest price. -/
def Serves (s : Settings) : Prop :=
  ∀ client, ∃ session, Session.create client none s = .ok session ∧
    ∀ sort, ∃ x, (session.service.order.probePrice sort).toBinary64 = .ok x ∧
      Binary64.zero.le x = true ∧ x.le s.maxPrice = true

theorem hasStrategy_iff_exists_ofValue {s : Settings} : s.HasStrategy ↔
    ∃ strategy, OrderingStrategy.ofValue (.text s.orderingStrategy) = .ok strategy := by
  rw [HasStrategy, OrderingStrategy.ofValue]
  constructor
  · rintro (hProbe | hMetadata)
    · rw [hProbe]
      exact ⟨_, rfl⟩
    · rw [hMetadata]
      exact ⟨_, rfl⟩
  · rintro ⟨strategy, h⟩
    split at h
    · exact .inl ‹_›
    · split at h
      · exact .inr ‹_›
      · cases h

theorem serves_of_inBounds {s : Settings} (h : s.InBounds) (hStrategy : s.HasStrategy) :
    s.Serves := by
  obtain ⟨strategy, hNamed⟩ := hasStrategy_iff_exists_ofValue.1 hStrategy
  intro client
  let order : ResultOrder := ⟨strategy, .float s.averagePrice, .float s.maxPrice⟩
  have hCreate : Session.create client none s = .ok ⟨⟨order, s.topK⟩, client⟩ := by
    rw [Session.create, SearchService.ofSettings, hNamed]
    rfl
  have hZeroMax : Binary64.zero.le s.maxPrice = true :=
    Binary64.le_trans h.zero_le_average h.average_le_max
  refine ⟨_, hCreate, fun sort => ?_⟩
  cases sort with
  | unordered => exact ⟨s.averagePrice, rfl, h.zero_le_average, h.average_le_max⟩
  | priceAscending =>
    have hZero : Binary64.ofInt? 0 = some .zero := by decide +kernel
    have hRead : (Value.int 0).toBinary64 = .ok .zero := by
      rw [Value.toBinary64, hZero]
      rfl
    exact ⟨.zero, hRead, rfl, hZeroMax⟩
  | priceDescending => exact ⟨s.maxPrice, rfl, hZeroMax, Binary64.le_self_of_le hZeroMax⟩

/-- Settings can be used: their numbers are in bounds, their strategy exists, and a service that is
made from them works. -/
structure IsUsable (s : Settings) : Prop where
  inBounds : s.InBounds
  hasStrategy : s.HasStrategy
  serves : s.Serves

theorem isUsable_iff_hasStrategy {s : Settings} (h : s.InBounds) : s.IsUsable ↔ s.HasStrategy :=
  ⟨IsUsable.hasStrategy, fun hStrategy => ⟨h, hStrategy, serves_of_inBounds h hStrategy⟩⟩

/-! ## Names of strategies -/

/-- The strategy is given as a byte string that encodes none of the names. -/
def MisnamesStrategy (arguments : Fields) : Prop :=
  ∃ b, fromArgument (Value.setFields testingArguments arguments) "ordering_strategy" =
      some (.bytes b) ∧
    Text.utf8? b ≠ some (Text.ofString "probe") ∧ Text.utf8? b ≠ some (Text.ofString "metadata")

theorem utf8?_of_checkStrategy {b : List UInt8} {t : Text} (h : checkStrategy (.bytes b) = .ok t) :
    Text.utf8? b = some t := by
  rw [checkStrategy, Validation.text] at h
  · split at h
    · rename_i hRead
      cases h
      exact hRead
    · cases h
  · simp

/-- Any other value is checked against the names, or is none of a kind that can pass. -/
theorem strategy_of_not_bytes {v : Value} {t : Text} (hKind : ∀ b, v ≠ .bytes b)
    (h : checkStrategy v = .ok t) : t = "probe" ∨ t = "metadata" := by
  cases v with
  | text s => exact strategy_of_checkStrategy h
  | bytes b => exact absurd rfl (hKind b)
  | null | bool _ | int _ | float _ | list _ | object _ => cases h

theorem hasStrategy_iff {arguments : Fields} {env : Environment} {s : Settings}
    (h : forTesting arguments env = .ok s) : s.HasStrategy ↔ ¬ MisnamesStrategy arguments := by
  obtain ⟨fields, hFields, hCheck⟩ := bind_eq_ok_iff.1 h
  have hPassed := check_eq_ok_iff.1 (mapError_eq_ok_iff.1 hCheck)
  have hRead := get?_gather hFields "ordering_strategy"
  rw [if_pos (by decide)] at hRead
  constructor
  · rintro hStrategy ⟨b, hGiven, hProbe, hMetadata⟩
    rw [hGiven, Option.some_or] at hRead
    rcases Checked.optional_eq_ok_iff.1 hPassed.strategy with ⟨hAbsent, -⟩ | ⟨v, hField, hPass⟩
    · cases hRead.symm.trans hAbsent
    · cases hRead.symm.trans hField
      have hNamed := utf8?_of_checkStrategy (Checked.ofFlaw_eq_ok_iff.1 hPass)
      rcases hStrategy with hSame | hSame
      · exact hProbe (hSame ▸ hNamed)
      · exact hMetadata (hSame ▸ hNamed)
  · intro hNamed
    rcases Checked.optional_eq_ok_iff.1 hPassed.strategy with ⟨-, hDefault⟩ | ⟨v, hField, hPass⟩
    · exact .inl hDefault.symm
    · have hPass := Checked.ofFlaw_eq_ok_iff.1 hPass
      rw [hRead, Option.or_eq_some_iff] at hField
      by_cases hKind : ∃ b, v = .bytes b
      · obtain ⟨b, rfl⟩ := hKind
        rcases hField with hGiven | ⟨-, hSaid⟩
        · have hName := utf8?_of_checkStrategy hPass
          by_contra hNone
          rw [HasStrategy, not_or] at hNone
          refine hNamed ⟨b, hGiven, ?_, ?_⟩
          · rw [hName, ne_eq, Option.some_inj]
            exact hNone.1
          · rw [hName, ne_eq, Option.some_inj]
            exact hNone.2
        · obtain ⟨t, hText⟩ := isText_of_fromVariable (by decide) hSaid
          cases hText
      · exact strategy_of_not_bytes (fun b hb => hKind ⟨b, hb⟩) hPass

/-! ## Settings -/

theorem inBounds_of_load {arguments : Fields} {env : Environment} {s : Settings}
    (h : load arguments env = .ok s) : s.InBounds := by
  obtain ⟨fields, -, hCheck⟩ := bind_eq_ok_iff.1 h
  exact inBounds_of_passes (check_eq_ok_iff.1 (mapError_eq_ok_iff.1 hCheck))

/-- Arguments with the name of a strategy as bytes. -/
def strategyInBytes (name : String) : Fields :=
  [("ordering_strategy", .bytes (name.toList.map fun c => UInt8.ofNat c.toNat))]

theorem exists_forTesting (name : String)
    (h : (forTesting (strategyInBytes name) []).isOk = true) :
    ∃ s, forTesting (strategyInBytes name) [] = .ok s :=
  exists_of_isOk h

/-- Settings that are accepted, and describe no service. -/
theorem not_isUsable : ¬ ∀ (arguments : Fields) (env : Environment) (s : Settings),
    forTesting arguments env = .ok s → s.IsUsable := by
  intro hAll
  obtain ⟨s, hSettings⟩ := exists_forTesting "native" (by decide +kernel)
  have hUsable := hAll _ _ s hSettings
  refine (hasStrategy_iff hSettings).1 hUsable.hasStrategy ⟨_, rfl, ?_, ?_⟩
  · decide +kernel
  · decide +kernel

/-- Settings from the environment can be used. So can those for tests, unless the strategy is given
as bytes that encode no name of one, and all their numbers are in bounds in any case. -/
theorem isUsable_iff (env : Environment) (arguments : Fields) :
    (∀ s, fromEnvironment env = .ok s → s.IsUsable) ∧
    ∀ s, forTesting arguments env = .ok s →
      s.InBounds ∧ (s.IsUsable ↔ ¬ MisnamesStrategy arguments) := by
  constructor
  · intro s h
    exact (isUsable_iff_hasStrategy (inBounds_of_load h)).2 (hasStrategy_of_fromEnvironment h)
  · intro s h
    have hBounds := inBounds_of_load h
    exact ⟨hBounds, (isUsable_iff_hasStrategy hBounds).trans (hasStrategy_iff h)⟩

/-- The settings of a shop, and settings for tests with the name of a strategy as bytes. -/
theorem isUsable_of_metadata :
    (∃ s, fromEnvironment shopVariables = .ok s ∧ s.IsUsable) ∧
    ∃ s, forTesting (strategyInBytes "metadata") [] = .ok s ∧ s.IsUsable := by
  obtain ⟨s, hShop, -⟩ := exists_shop
  obtain ⟨t, hSettings⟩ := exists_forTesting "metadata" (by decide +kernel)
  have hNamed : ¬ MisnamesStrategy (strategyInBytes "metadata") := by
    rintro ⟨b, hGiven, -, hMetadata⟩
    cases hGiven
    exact hMetadata (by decide +kernel)
  exact ⟨⟨s, hShop, (isUsable_iff shopVariables []).1 s hShop⟩,
    t, hSettings, ((isUsable_iff [] (strategyInBytes "metadata")).2 t hSettings).2.2 hNamed⟩

end Settings

end Storefront
