import Mathlib
import Storefront.Proofs.Api.Endpoints
import Storefront.Proofs.Api.Sending
import Storefront.Proofs.Settings.Usable

/-!
# Reports about the state of the service

A report repeats the name of the environment and what the index has answered. It is sent as a whole
or not at all: where a part of it cannot be written the request is left without a response.

* `Handler.report_eq_ok_iff`: a report as it is sent.
* `Handler.exists_report_iff`: the reports that can be sent.
* `Handler.CanReport`, `Handler.exists_stateOf_iff`: when the state of the service is reported.
-/

namespace Storefront.Api

open Index (Connection Reply)

namespace Handler

open Sending (CanSend IsUnicode)

variable {s : Settings} {index : IndexState}

/-! ## Reports -/

/-- A report by its parts: the status of the index, the environment, the number of records and the
error. -/
def reportOf (status : String) (environment : Text) (count error : Value) : Value :=
  .object
    [("status", .text (if status == "connected" then "healthy" else "degraded")),
     ("service", .text serviceName),
     ("environment", .text environment),
     ("checks", .object
       [("config", .text "ok"),
        ("vector_index", .object
          [("status", .text status), ("vector_count", count), ("error", error)])])]

/-- The error of an index as it stands in a report. -/
def IndexState.errorValue (index : IndexState) : Value := (index.error.map Value.text).getD .null

theorem healthReport_eq (s : Settings) (index : IndexState) :
    healthReport s index = reportOf index.status s.environment index.count index.errorValue :=
  rfl

/-- How deep the lists and objects in a number of records may be nested, inside of the three objects
of a report. -/
def countDepth : Nat := Sending.maxDepth - 3

theorem prepare_reportOf (status : String) (environment : Text) (count error : Value) :
    Sending.prepare (reportOf status environment count error) = (do
      let environment ← Sending.prepareText environment
      let count ← Sending.prepareWithin countDepth count
      let error ← Sending.prepareWithin countDepth error
      pure (reportOf status environment count error)) := by
  have hStatus (b : Bool) :
      Sending.prepareText (if b then Text.ofString "healthy" else Text.ofString "degraded") =
        .ok (if b then Text.ofString "healthy" else Text.ofString "degraded") := by
    cases b with
    | true => exact Sending.prepareText_of_isUnicode (Sending.isUnicode_ofString "healthy")
    | false => exact Sending.prepareText_of_isUnicode (Sending.isUnicode_ofString "degraded")
  simp only [reportOf, Sending.prepare, Sending.maxDepth, Sending.prepareWithin, hStatus,
    Sending.prepareFields, Sending.prepareText_of_isUnicode (Sending.isUnicode_ofString _),
    countDepth]
  cases Sending.prepareText environment with
  | error f => rfl
  | ok environment =>
    cases Sending.prepareWithin 252 count with
    | error f => rfl
    | ok count =>
      cases Sending.prepareWithin 252 error with
      | error f => rfl
      | ok error => rfl

/-- A report is sent with what its parts are sent as. -/
theorem report_eq_ok_iff {response : Response} :
    report s index = .ok response ↔ ∃ environment count error,
      Sending.prepareText s.environment = .ok environment ∧
        Sending.prepareWithin countDepth index.count = .ok count ∧
        Sending.prepareWithin countDepth index.errorValue = .ok error ∧
        .ofJson 200 (reportOf index.status environment count error) = response := by
  rw [report, map_eq_ok_iff]
  simp only [mapError_eq_ok_iff]
  rw [healthReport_eq, prepare_reportOf]
  simp only [bind_eq_ok_iff]
  constructor
  · rintro ⟨_, ⟨environment, hEnvironment, count, hCount, error, hError, ⟨⟩⟩, rfl⟩
    exact ⟨environment, count, error, hEnvironment, hCount, hError, rfl⟩
  · rintro ⟨environment, count, error, hEnvironment, hCount, hError, rfl⟩
    exact ⟨_, ⟨environment, hEnvironment, count, hCount, error, hError, rfl⟩, rfl⟩

theorem canSend_errorValue_iff :
    CanSend countDepth index.errorValue ↔ ∀ t, index.error = some t → IsUnicode t := by
  rw [IndexState.errorValue]
  cases index.error with
  | none => simp [Sending.canSend_null]
  | some t => simp [Sending.canSend_text_iff]

/-- A report is sent exactly if all of its parts can be. -/
theorem exists_report_iff :
    (∃ response, report s index = .ok response) ↔ IsUnicode s.environment ∧
      CanSend countDepth index.count ∧ ∀ t, index.error = some t → IsUnicode t := by
  rw [← Sending.exists_prepareText_iff, ← canSend_errorValue_iff, CanSend, CanSend]
  constructor
  · rintro ⟨response, hReport⟩
    obtain ⟨environment, count, error, hEnvironment, hCount, hError, -⟩ :=
      report_eq_ok_iff.1 hReport
    exact ⟨⟨environment, hEnvironment⟩, ⟨count, hCount⟩, ⟨error, hError⟩⟩
  · rintro ⟨⟨environment, hEnvironment⟩, ⟨count, hCount⟩, ⟨error, hError⟩⟩
    exact ⟨_, report_eq_ok_iff.2 ⟨environment, count, error, hEnvironment, hCount, hError, rfl⟩⟩

/-! ## The state of the service -/

/-- A reply to the question for statistics can be reported: the backend fails with a text that can
be written, or there is a number of records that can be. -/
def CanRelay : Reply → Prop
  | .fault f => ∃ e, Index.ClientError.ofFault "info" f = .backend e ∧ IsUnicode e.message
  | .value statistics => CanSend countDepth (indexState statistics).count

/-- The state of the service can be reported. -/
def CanReport (s : Settings) (reply : Reply) : Prop :=
  IsUnicode s.environment ∧ (s.indexConfigured = true → CanRelay reply)

theorem stateOf_of_not_configured (h : ¬ s.indexConfigured = true) (reply : Reply) :
    stateOf s reply = ⟨[], [], report s ⟨"not_configured", .null, none⟩⟩ := by
  rw [stateOf, if_neg h]

theorem stateOf_of_configured {c : Connection} (h : Connection.make "" "" s = .ok c)
    (reply : Reply) : stateOf s reply = askIndex s (.ok c) reply := by
  rw [stateOf, if_pos (Connection.exists_make_iff.1 ⟨c, h⟩), h]

theorem result_askIndex_value (c : Connection) (statistics : Value) :
    (askIndex s (.ok c) (.value statistics)).result = report s (indexState statistics) :=
  rfl

theorem result_askIndex_fault (c : Connection) (f : Index.Fault) :
    (askIndex s (.ok c) (.fault f)).result =
      match Index.ClientError.ofFault "info" f with
      | .backend e => report s (failedState e)
      | e => .error ⟨e.label, e.message⟩ := by
  have hAsked : (Index.Client.info (.fault f)).result =
      .error (Index.ClientError.ofFault "info" f) := rfl
  rw [askIndex, hAsked]
  cases Index.ClientError.ofFault "info" f <;> rfl

theorem status_indexState_ne (statistics : Value) :
    (indexState statistics).status ≠ "not_configured" := by
  rw [indexState]
  dsimp only
  split <;> decide

/-- The response is a report about an index, which says whether one is configured. -/
theorem exists_report_of_stateOf {reply : Reply} {response : Response}
    (h : (stateOf s reply).result = .ok response) : ∃ index, report s index = .ok response ∧
      (index.status = "not_configured" ↔ ¬ s.indexConfigured = true) := by
  by_cases hConfigured : s.indexConfigured = true
  · obtain ⟨c, hMake⟩ := Connection.exists_make_iff.2 hConfigured
    rw [stateOf_of_configured hMake] at h
    cases reply with
    | value statistics =>
      exact ⟨_, h, iff_of_false (status_indexState_ne statistics) (not_not_intro hConfigured)⟩
    | fault f =>
      rw [result_askIndex_fault] at h
      split at h
      · have hStatus : "error" ≠ "not_configured" := by decide
        exact ⟨_, h, iff_of_false hStatus (not_not_intro hConfigured)⟩
      · cases h
  · rw [stateOf_of_not_configured hConfigured] at h
    exact ⟨_, h, iff_of_true rfl hConfigured⟩

/-- The state of the service is reported exactly if it can be. -/
theorem exists_stateOf_iff {reply : Reply} :
    (∃ response, (stateOf s reply).result = .ok response) ↔ CanReport s reply := by
  rw [CanReport]
  by_cases hConfigured : s.indexConfigured = true
  · obtain ⟨c, hMake⟩ := Connection.exists_make_iff.2 hConfigured
    rw [stateOf_of_configured hMake, imp_iff_right hConfigured]
    cases reply with
    | value statistics =>
      rw [result_askIndex_value, exists_report_iff, CanRelay]
      have hNoError : (indexState statistics).error = none := rfl
      simp [hNoError]
    | fault f =>
      rw [result_askIndex_fault, CanRelay]
      cases hFault : Index.ClientError.ofFault "info" f with
      | backend e =>
        have hCount : (failedState e).count = .null := rfl
        have hError : (failedState e).error = some e.message := rfl
        simp [exists_report_iff, hCount, hError, Sending.canSend_null]
      | fault _ | misuse _ => simp
  · rw [stateOf_of_not_configured hConfigured, exists_report_iff]
    simp [hConfigured, Sending.canSend_null]

end Handler

/-! ## Requests -/

/-- A request for the state of the service. -/
def stateRequest : Request := ⟨"GET", "/health/detailed", [], []⟩

theorem mem_served_detailedHealth : ("/health/detailed", Endpoint.detailedHealth) ∈ Route.served := by
  decide

theorem asks_stateRequest (s : Settings) : stateRequest.Asks s .detailedHealth :=
  Request.asks_of_mem_served mem_served_detailedHealth
    (Route.path_of_mem_served mem_served_detailedHealth) ⟨"GET", List.mem_singleton_self _, rfl⟩

end Storefront.Api
