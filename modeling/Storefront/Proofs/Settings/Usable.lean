import Mathlib
import Storefront.Proofs.Validation.Checked
import Storefront.Proofs.Value.Fields
import Storefront.Proofs.Value.Reading
import Storefront.Search.Service

/-!
# Settings that can be used

The environment says what the settings are in texts, and the text for the strategy has to name one.
So settings from the environment always describe a service, and they describe a client where the
index is configured.

* `Settings.get?_gather`: where the value of a field comes from.
* `Settings.check_eq_ok_iff`: what a check lets pass, field by field.
* `SearchService.exists_ofSettings`: settings from the environment describe a service.
* `Index.Connection.exists_make_iff`: the settings that describe a client.
-/

namespace Storefront

open Validation (Checked Flaw)

namespace Settings

/-! ## What is read for a field -/

/-- What is read for a field is what its argument says, and without one what the environment says. -/
theorem get?_gather {arguments : Fields} {env : Environment} {names : List String}
    {fields : Fields} (h : gather arguments env names = .ok fields) (field : String) :
    fields.get? field =
      if field ∈ names then (fromArgument arguments field).or (fromVariable env field).toOption.join
      else none := by
  induction names generalizing fields with
  | nil =>
    cases h
    rfl
  | cons name names ih =>
    rw [gather] at h
    obtain ⟨fallback, hFallback, h⟩ := bind_eq_ok_iff.1 h
    obtain ⟨others, hOthers, h⟩ := bind_eq_ok_iff.1 h
    have hMore := ih hOthers
    have hSaid : (fromArgument arguments name).or (fromVariable env name).toOption.join =
        (fromArgument arguments name).or fallback := by
      rw [hFallback]
      rfl
    by_cases hField : field = name
    · subst hField
      rw [if_pos List.mem_cons_self, hSaid]
      cases hGiven : (fromArgument arguments field).or fallback with
      | none =>
        rw [hGiven] at h
        cases h
        rw [hMore, hSaid, hGiven, ite_self]
      | some v =>
        rw [hGiven] at h
        cases h
        rw [Fields.get?_cons, if_pos rfl]
    · have hOther : Text.ofString field ≠ Text.ofString name := by
        rwa [ne_eq, Text.ofString_inj]
      have hSkip : fields.get? field = Fields.get? others field := by
        cases hGiven : (fromArgument arguments name).or fallback with
        | none =>
          rw [hGiven] at h
          cases h
          rfl
        | some v =>
          rw [hGiven] at h
          cases h
          rw [Fields.get?_cons, if_neg hOther]
      have hMem : field ∈ name :: names ↔ field ∈ names := by
        rw [List.mem_cons, or_iff_right hField]
      rw [hSkip, hMore]
      exact (if_congr hMem rfl rfl).symm

/-- The environment says texts; only the list of origins is read as JSON there. -/
theorem isText_of_fromVariable {env : Environment} {field : String} {v : Value}
    (hField : field ≠ "cors_origins") (h : (fromVariable env field).toOption.join = some v) :
    ∃ t, v = .text t := by
  rw [fromVariable] at h
  split at h
  · cases h
  · rw [if_neg hField] at h
    cases h
    exact ⟨_, rfl⟩

/-! ## What passes -/

/-- What has passed for a field that may be absent. -/
def PassesAs {α : Type} (fields : Fields) (name : String) (rule : Value → Except Flaw α) (default a : α) :
    Prop :=
  Checked.optional fields name default (fun v => Checked.ofFlaw (rule v)) = .ok a

/-- The settings are what has passed for their fields, and their prices are in order. -/
structure Passes (s : Settings) (fields : Fields) : Prop where
  environment : PassesAs fields "environment" Validation.text "development" s.environment
  debug : PassesAs fields "debug" Validation.truthValue false s.debug
  host : PassesAs fields "host" Validation.text "0.0.0.0" s.host
  port : PassesAs fields "port" Validation.integer 8080 s.port
  origins : Checked.optional fields "cors_origins" defaultOrigins checkOrigins = .ok s.corsOrigins
  indexUrl : PassesAs fields "upstash_vector_rest_url" Validation.text "" s.indexUrl
  indexToken : PassesAs fields "upstash_vector_rest_token" Validation.text "" s.indexToken
  topK : PassesAs fields "search_top_k" checkTopK 12 s.topK
  timeout : PassesAs fields "search_timeout_seconds" checkTimeout (whole 10) s.timeoutSeconds
  average : PassesAs fields "catalog_average_price" checkAmount (whole 25) s.averagePrice
  maximum : PassesAs fields "catalog_max_price" checkAmount (whole 50) s.maxPrice
  strategy : PassesAs fields "ordering_strategy" checkStrategy "probe" s.orderingStrategy
  prices : s.maxPrice.lt s.averagePrice = false

theorem checkPrices_eq_ok_iff {s s' : Settings} :
    checkPrices s = .ok s' ↔ s = s' ∧ s.maxPrice.lt s.averagePrice = false := by
  rw [checkPrices]
  cases s.maxPrice.lt s.averagePrice <;> simp

/-- A check passes exactly if all of its fields do and the prices are in order. -/
theorem check_eq_ok_iff {fields : Fields} {s : Settings} :
    check fields = .ok s ↔ s.Passes fields := by
  rw [check]
  constructor
  · intro h
    obtain ⟨read, hRead, hPrices⟩ := bind_eq_ok_iff.1 h
    obtain ⟨rfl, hOrder⟩ := checkPrices_eq_ok_iff.1 hPrices
    -- The check joins the fields one by one, so the last field comes off first.
    obtain ⟨_, _, h₁, hStrategy, rfl⟩ := Checked.ap_eq_ok_iff.1 hRead
    obtain ⟨_, _, h₂, hMaximum, rfl⟩ := Checked.ap_eq_ok_iff.1 h₁
    obtain ⟨_, _, h₃, hAverage, rfl⟩ := Checked.ap_eq_ok_iff.1 h₂
    obtain ⟨_, _, h₄, hTimeout, rfl⟩ := Checked.ap_eq_ok_iff.1 h₃
    obtain ⟨_, _, h₅, hTopK, rfl⟩ := Checked.ap_eq_ok_iff.1 h₄
    obtain ⟨_, _, h₆, hToken, rfl⟩ := Checked.ap_eq_ok_iff.1 h₅
    obtain ⟨_, _, h₇, hUrl, rfl⟩ := Checked.ap_eq_ok_iff.1 h₆
    obtain ⟨_, _, h₈, hOrigins, rfl⟩ := Checked.ap_eq_ok_iff.1 h₇
    obtain ⟨_, _, h₉, hPort, rfl⟩ := Checked.ap_eq_ok_iff.1 h₈
    obtain ⟨_, _, h₁₀, hHost, rfl⟩ := Checked.ap_eq_ok_iff.1 h₉
    obtain ⟨_, _, h₁₁, hDebug, rfl⟩ := Checked.ap_eq_ok_iff.1 h₁₀
    obtain ⟨_, _, ⟨⟩, hEnvironment, rfl⟩ := Checked.ap_eq_ok_iff.1 h₁₁
    exact ⟨hEnvironment, hDebug, hHost, hPort, hOrigins, hUrl, hToken, hTopK, hTimeout, hAverage,
      hMaximum, hStrategy, hOrder⟩
  · intro h
    refine bind_eq_ok_iff.2 ⟨s, ?_, checkPrices_eq_ok_iff.2 ⟨rfl, h.prices⟩⟩
    refine Checked.ap_eq_ok_iff.2 ⟨.mk s.environment s.debug s.host s.port s.corsOrigins s.indexUrl
      s.indexToken s.topK s.timeoutSeconds s.averagePrice s.maxPrice, _, ?_, h.strategy, rfl⟩
    refine Checked.ap_eq_ok_iff.2 ⟨_, _, ?_, h.maximum, rfl⟩
    refine Checked.ap_eq_ok_iff.2 ⟨_, _, ?_, h.average, rfl⟩
    refine Checked.ap_eq_ok_iff.2 ⟨_, _, ?_, h.timeout, rfl⟩
    refine Checked.ap_eq_ok_iff.2 ⟨_, _, ?_, h.topK, rfl⟩
    refine Checked.ap_eq_ok_iff.2 ⟨_, _, ?_, h.indexToken, rfl⟩
    refine Checked.ap_eq_ok_iff.2 ⟨_, _, ?_, h.indexUrl, rfl⟩
    refine Checked.ap_eq_ok_iff.2 ⟨_, _, ?_, h.origins, rfl⟩
    refine Checked.ap_eq_ok_iff.2 ⟨_, _, ?_, h.port, rfl⟩
    refine Checked.ap_eq_ok_iff.2 ⟨_, _, ?_, h.host, rfl⟩
    refine Checked.ap_eq_ok_iff.2 ⟨_, _, ?_, h.debug, rfl⟩
    exact Checked.ap_eq_ok_iff.2 ⟨_, _, rfl, h.environment, rfl⟩

/-- What holds of the default, and of all that a rule lets pass, holds of a field. -/
theorem of_optional {α : Type} {fields : Fields} {name : String} {rule : Value → Except Flaw α}
    {default a : α} {p : α → Prop} (hDefault : p default) (hRule : ∀ v b, rule v = .ok b → p b)
    (h : Checked.optional fields name default (fun v => Checked.ofFlaw (rule v)) = .ok a) : p a := by
  rcases Checked.optional_eq_ok_iff.1 h with ⟨-, rfl⟩ | ⟨v, -, hPass⟩
  · exact hDefault
  · exact hRule v a (Checked.ofFlaw_eq_ok_iff.1 hPass)

/-! ## The strategy -/

/-- The strategy of the settings is one of those that exist. -/
def HasStrategy (s : Settings) : Prop :=
  s.orderingStrategy = "probe" ∨ s.orderingStrategy = "metadata"

theorem strategy_of_checkStrategy {t strategy : Text} (h : checkStrategy (.text t) = .ok strategy) :
    strategy = "probe" ∨ strategy = "metadata" := by
  rw [checkStrategy] at h
  split at h
  · rename_i hName
    cases h
    exact hName
  · cases h

theorem hasStrategy_of_fromEnvironment {env : Environment} {s : Settings}
    (h : fromEnvironment env = .ok s) : s.HasStrategy := by
  obtain ⟨fields, hFields, hCheck⟩ := bind_eq_ok_iff.1 h
  have hPassed := check_eq_ok_iff.1 (mapError_eq_ok_iff.1 hCheck)
  rcases Checked.optional_eq_ok_iff.1 hPassed.strategy with ⟨-, hDefault⟩ | ⟨v, hField, hPass⟩
  · exact .inl hDefault.symm
  · have hNoArgument : fromArgument [] "ordering_strategy" = none := rfl
    rw [get?_gather hFields, if_pos (by decide), hNoArgument, Option.none_or] at hField
    obtain ⟨t, rfl⟩ := isText_of_fromVariable (by decide) hField
    exact strategy_of_checkStrategy (Checked.ofFlaw_eq_ok_iff.1 hPass)

end Settings

/-! ## What the settings describe -/

theorem SearchService.exists_ofSettings {env : Settings.Environment} {s : Settings}
    (h : Settings.fromEnvironment env = .ok s) :
    ∃ service, SearchService.ofSettings s = .ok service := by
  rw [ofSettings]
  obtain hProbe | hMetadata := Settings.hasStrategy_of_fromEnvironment h
  · rw [hProbe]
    exact ⟨_, rfl⟩
  · rw [hMetadata]
    exact ⟨_, rfl⟩

theorem Index.Connection.exists_make_iff {s : Settings} :
    (∃ c, Connection.make "" "" s = .ok c) ↔ s.indexConfigured = true := by
  have hMake : Connection.make "" "" s =
      if s.indexUrl.isEmpty || s.indexToken.isEmpty then .error .notConfigured
      else .ok ⟨s.indexUrl, s.indexToken, s.timeoutSeconds⟩ := rfl
  rw [hMake, Settings.indexConfigured]
  cases s.indexUrl.isEmpty <;> cases s.indexToken.isEmpty <;> simp

/-! ## A shop -/

/-- The environment of a shop that sorts its pages. -/
def Settings.shopVariables : Settings.Environment :=
  [("UPSTASH_VECTOR_REST_URL", "https://index"), ("upstash_vector_rest_token", "token"),
   ("ORDERING_STRATEGY", " Metadata ")]

/-- What is evaluated of settings from the environment holds of settings. -/
theorem Settings.exists_of_toOption {env : Settings.Environment} {α : Type} {f : Settings → α} {x : α}
    (h : (fromEnvironment env).toOption.map f = some x) : ∃ s, fromEnvironment env = .ok s ∧ f s = x := by
  obtain ⟨s, hSettings, hValue⟩ := Option.map_eq_some_iff.1 h
  cases hRead : fromEnvironment env with
  | error e =>
    rw [hRead] at hSettings
    cases hSettings
  | ok read =>
    rw [hRead] at hSettings
    cases hSettings
    exact ⟨s, rfl, hValue⟩

theorem Settings.exists_shop : ∃ s, fromEnvironment shopVariables = .ok s ∧
    s.indexConfigured = true ∧ s.environment = "development" := by
  have hShop : (fromEnvironment shopVariables).toOption.map
      (fun s => (s.indexConfigured, s.environment)) = some (true, Text.ofString "development") := by
    decide +kernel
  obtain ⟨s, hSettings, hBoth⟩ := exists_of_toOption hShop
  exact ⟨s, hSettings, Prod.mk.inj hBoth⟩

end Storefront
