import Mathlib
import Storefront.Proofs.Api.Products
import Storefront.Proofs.Api.State
import Storefront.Proofs.Search.Pages

/-!
# What responses tell about faults

A fault of the index comes with a text that may say anything about the backend. Two runs whose faults
differ only in their texts show whether such a text reaches a caller. For searches it does not; the
detailed state of the service repeats it.

* `Reply.IsTwin`, `Arrival.IsTwin`: the same but for the texts of faults.
* `App.finalResponse_eq_iff`: what a response says about the result of a request.
* `Handler.toOption_searchOf`: searches tell nothing about the texts.
* `Handler.toOption_report_failedState_iff`: when two reports about a failure differ.
* `App.not_responses_of_twins`: two runs that differ in a text, and in a response.
* `App.responses_of_twins_iff`: the runs with the same responses.
-/

namespace Storefront

open Index (BackendError Connection Reply)

/-! ## Twins -/

/-- The replies differ at most in the text of a fault. -/
def Index.Reply.IsTwin : Reply → Reply → Prop
  | .value v, .value w => v = w
  | .fault f, .fault g => f.kind = g.kind
  | .value _, .fault _ | .fault _, .value _ => False

/-- Faults of one kind mean the same to callers. -/
theorem Index.ClientError.ofFault_of_twins (method : String) {f g : Index.Fault}
    (h : f.kind = g.kind) :
    (∃ e e', ofFault method f = .backend e ∧ ofFault method g = .backend e') ∨
      (ofFault method f = .fault f ∧ ofFault method g = .fault g) := by
  unfold ofFault
  rw [h]
  cases g.kind.origin with
  | timeout _ | transport _ | rejected | value | notJson | key => exact .inl ⟨_, _, rfl, rfl⟩
  | _ => exact .inr ⟨rfl, rfl⟩

namespace Api

/-- The requests are the same, and are given the same id; the index may fail with other texts. -/
structure Arrival.IsTwin (a b : Arrival) : Prop where
  request : a.request = b.request
  fresh : a.fresh = b.fresh
  query : a.replies.query.IsTwin b.replies.query
  info : a.replies.info.IsTwin b.replies.info

/-! ## Responses -/

namespace App

theorem withHeaders_inj {r r' : Response} {headers : List (String × Text)} :
    r.withHeaders headers = r'.withHeaders headers ↔ r = r' := by
  cases r
  cases r'
  simp [Response.withHeaders]

/-- A response says everything about the response of a handler, and nothing about a crash. -/
theorem finalResponse_eq_iff {id : Text} {x y : Except Crash Response} :
    finalResponse id x = finalResponse id y ↔ x.toOption = y.toOption := by
  have hNoFailure (r : Response) : r.withHeaders [("x-request-id", id)] ≠ failureResponse := by
    intro h
    have hLast := congrArg (fun response => response.headers.getLast?) h
    simp [Response.withHeaders, failureResponse, Response.ofText] at hLast
  cases x with
  | error _ =>
    cases y with
    | error _ => exact iff_of_true rfl rfl
    | ok r => exact iff_of_false (hNoFailure r).symm (Option.some_ne_none r).symm
  | ok r =>
    cases y with
    | error _ => exact iff_of_false (hNoFailure r) (Option.some_ne_none r)
    | ok r' =>
      rw [finalResponse, finalResponse, withHeaders_inj]
      exact Option.some_inj.symm

theorem toOption_map {ε α β : Type} (x : Except ε α) (f : α → β) :
    (x.map f).toOption = x.toOption.map f := by
  cases x <;> rfl

/-- Unless only the head is asked for, nothing of a response is lost when it is dressed. -/
theorem dress_injective (s : Settings) {r : Request} (h : r.method ≠ "HEAD") :
    Function.Injective (dress s r) := by
  intro x y hSame
  rw [dress, dress, if_neg h, if_neg h, Cors.decorate, Cors.decorate] at hSame
  exact withHeaders_inj.1 hSame

end App

/-! ## Searches -/

namespace Handler

variable {s : Settings}

theorem toOption_conclude_of_twins (service : SearchService) (payload : Value) {q q' : Reply}
    (h : q.IsTwin q') :
    (conclude (service.search payload (.ok q))).result.toOption =
      (conclude (service.search payload (.ok q'))).result.toOption := by
  cases hParse : Selection.parse payload with
  | error e => rw [Selection.search_of_parse_error service hParse,
      Selection.search_of_parse_error service hParse]
  | ok sel =>
    cases q with
    | value v =>
      cases q' with
      | value w => rw [show v = w from h]
      | fault g => cases h
    | fault f =>
      cases q' with
      | value w => cases h
      | fault g =>
        rw [conclude, service.result_search_fault hParse, conclude,
          service.result_search_fault hParse]
        obtain ⟨e, e', hFirst, hSecond⟩ | ⟨hFirst, hSecond⟩ :=
          Index.ClientError.ofFault_of_twins "query" h
        · rw [hFirst, hSecond]
          rfl
        · rw [hFirst, hSecond]
          rfl

/-- Searches tell nothing about the texts of faults. -/
theorem toOption_searchOf (payload : Value) {q q' : Reply} (h : q.IsTwin q') :
    (searchOf s payload q).result.toOption = (searchOf s payload q').result.toOption := by
  rw [searchOf, searchOf]
  cases SearchService.ofSettings s with
  | error e => rfl
  | ok service =>
    cases Connection.make "" "" s with
    | error e => rfl
    | ok c => exact toOption_conclude_of_twins service payload h

/-! ## The state of the service -/

open Sending (IsUnicode)

theorem toOption_report_of_isUnicode {e : BackendError} (hEnvironment : IsUnicode s.environment)
    (hMessage : IsUnicode e.message) :
    (report s (failedState e)).toOption =
      some (.ofJson 200 (healthReport s (failedState e))) := by
  have hError : Sending.IsScalar (failedState e).errorValue := hMessage
  rw [healthReport_eq, report_eq_ok_iff.2 ⟨_, _, _, Sending.prepareText_of_isUnicode hEnvironment,
    Sending.prepareWithin_null _, Sending.prepareWithin_of_isScalar hError _, rfl⟩]
  rfl

theorem toOption_report_of_not_isUnicode {e : BackendError}
    (h : ¬ (IsUnicode s.environment ∧ IsUnicode e.message)) :
    (report s (failedState e)).toOption = none := by
  cases hReport : report s (failedState e) with
  | error crash => rfl
  | ok response =>
    obtain ⟨hEnvironment, -, hMessage⟩ := exists_report_iff.1 ⟨response, hReport⟩
    exact absurd ⟨hEnvironment, hMessage _ rfl⟩ h

theorem healthReport_failedState_inj {e e' : BackendError} :
    healthReport s (failedState e) = healthReport s (failedState e') ↔ e.message = e'.message := by
  simp [healthReport, failedState]

/-- The reports about two failures differ as they are sent. -/
def ReportsDiffer (s : Settings) (e e' : BackendError) : Prop :=
  IsUnicode s.environment ∧ (IsUnicode e.message ∨ IsUnicode e'.message) ∧ e.message ≠ e'.message

theorem toOption_report_failedState_iff {e e' : BackendError} :
    (report s (failedState e)).toOption = (report s (failedState e')).toOption ↔
      ¬ ReportsDiffer s e e' := by
  rw [ReportsDiffer]
  by_cases hEnvironment : IsUnicode s.environment
  · by_cases hFirst : IsUnicode e.message
    · rw [toOption_report_of_isUnicode hEnvironment hFirst]
      by_cases hSecond : IsUnicode e'.message
      · have hSame : Response.ofJson 200 (healthReport s (failedState e)) =
            .ofJson 200 (healthReport s (failedState e')) ↔ e.message = e'.message := by
          rw [← healthReport_failedState_inj (s := s)]
          simp [Response.ofJson]
        rw [toOption_report_of_isUnicode hEnvironment hSecond, Option.some_inj, hSame]
        simp [hEnvironment, hFirst]
      · have hOther : e.message ≠ e'.message := fun hSame => hSecond (hSame ▸ hFirst)
        rw [toOption_report_of_not_isUnicode fun hBoth => hSecond hBoth.2]
        simp [hEnvironment, hFirst, hOther]
    · rw [toOption_report_of_not_isUnicode fun hBoth => hFirst hBoth.2]
      by_cases hSecond : IsUnicode e'.message
      · have hOther : e.message ≠ e'.message := fun hSame => hFirst (hSame ▸ hSecond)
        rw [toOption_report_of_isUnicode hEnvironment hSecond]
        simp [hEnvironment, hSecond, hOther]
      · rw [toOption_report_of_not_isUnicode fun hBoth => hSecond hBoth.2]
        simp [hFirst, hSecond]
  · rw [toOption_report_of_not_isUnicode fun hBoth => hEnvironment hBoth.1,
      toOption_report_of_not_isUnicode fun hBoth => hEnvironment hBoth.1]
    simp [hEnvironment]

/-- A reply to the question for statistics is a failure of the backend. -/
def FailsBy (reply : Reply) (e : BackendError) : Prop :=
  ∃ f, reply = .fault f ∧ Index.ClientError.ofFault "info" f = .backend e

/-- The reports about the state of the index differ as they are sent. -/
def StatesDiffer (s : Settings) (i i' : Reply) : Prop :=
  s.indexConfigured = true ∧ ∃ e e', FailsBy i e ∧ FailsBy i' e' ∧ ReportsDiffer s e e'

theorem toOption_askIndex_iff {c : Connection} {i i' : Reply} (h : i.IsTwin i') :
    (askIndex s (.ok c) i).result.toOption = (askIndex s (.ok c) i').result.toOption ↔
      ¬ ∃ e e', FailsBy i e ∧ FailsBy i' e' ∧ ReportsDiffer s e e' := by
  cases i with
  | value v =>
    cases i' with
    | value w =>
      have hSame : v = w := h
      rw [hSame]
      refine iff_of_true rfl ?_
      rintro ⟨-, -, ⟨f, hFault, -⟩, -⟩
      cases hFault
    | fault g => cases h
  | fault f =>
    cases i' with
    | value w => cases h
    | fault g =>
      rw [result_askIndex_fault, result_askIndex_fault]
      obtain ⟨e, e', hFirst, hSecond⟩ | ⟨hFirst, hSecond⟩ :=
        Index.ClientError.ofFault_of_twins "info" h
      · have hFails : (∃ e e', FailsBy (.fault f) e ∧ FailsBy (.fault g) e' ∧
            ReportsDiffer s e e') ↔ ReportsDiffer s e e' := by
          simp [FailsBy, hFirst, hSecond]
        rw [hFirst, hSecond, hFails]
        exact toOption_report_failedState_iff
      · have hNone : ¬ ∃ e e', FailsBy (.fault f) e ∧ FailsBy (.fault g) e' ∧
            ReportsDiffer s e e' := by
          simp [FailsBy, hFirst]
        rw [hFirst, hSecond]
        exact iff_of_true rfl hNone

theorem toOption_stateOf_iff {i i' : Reply} (h : i.IsTwin i') :
    (stateOf s i).result.toOption = (stateOf s i').result.toOption ↔ ¬ StatesDiffer s i i' := by
  rw [stateOf, stateOf, StatesDiffer]
  by_cases hConfigured : s.indexConfigured = true
  · obtain ⟨c, hMake⟩ := Connection.exists_make_iff.2 hConfigured
    rw [if_pos hConfigured, if_pos hConfigured, hMake, toOption_askIndex_iff h]
    simp [hConfigured]
  · rw [if_neg hConfigured, if_neg hConfigured]
    exact iff_of_true rfl fun hBoth => hConfigured hBoth.1

end Handler

/-! ## Runs -/

/-- The request asks for the state of the service in detail. -/
def Request.AsksState (s : Settings) (r : Request) : Prop :=
  Route.find s r.method (Target.parse r.target) = .endpoint .detailedHealth

/-- The texts of the faults make a difference to what is sent. -/
def Discloses (s : Settings) (a b : Arrival) : Prop :=
  a.request.AsksState s ∧ Handler.StatesDiffer s a.replies.info b.replies.info

theorem Request.method_of_asksState {s : Settings} {r : Request} (h : r.AsksState s) :
    r.method = "GET" :=
  Request.method_of_asks (e := .detailedHealth) h rfl

namespace App

variable {s : Settings} {a b : Arrival}

/-- What is done for any other request is the same, whatever the index would reply. -/
theorem toOption_routeOf {r : Request} {replies replies' : Replies} (h : ¬ r.AsksState s)
    (hQuery : replies.query.IsTwin replies'.query) :
    (routeOf s r replies).result.toOption = (routeOf s r replies').result.toOption := by
  rw [routeOf, routeOf, route, route]
  cases hRoute : Route.find s r.method (Target.parse r.target) with
  | endpoint e =>
    cases e with
    | detailedHealth => exact absurd hRoute h
    | products =>
      dsimp only [serveOf]
      rw [Handler.productsOf, Handler.productsOf]
      cases Payload.read r with
      | ok payload => exact Handler.toOption_searchOf payload hQuery
      | error refusal => rfl
    | description | page | health | ready | live => rfl
  | refused _ | moved _ | nowhere => rfl

theorem toOption_answerOf_iff {r : Request} {replies replies' : Replies}
    (hQuery : replies.query.IsTwin replies'.query) (hInfo : replies.info.IsTwin replies'.info) :
    (answerOf s r replies).result.toOption = (answerOf s r replies').result.toOption ↔
      ¬ (r.AsksState s ∧ Handler.StatesDiffer s replies.info replies'.info) := by
  by_cases hState : r.AsksState s
  · have hAsks : r.Asks s .detailedHealth := hState
    have hNoHead : r.method ≠ "HEAD" := Request.method_ne_of_asks hAsks (by decide)
    rw [answerOf_of_asks hAsks, answerOf_of_asks hAsks]
    dsimp only [serveOf]
    rw [toOption_map, toOption_map,
      (Option.map_injective (dress_injective s hNoHead)).eq_iff, Handler.toOption_stateOf_iff hInfo]
    simp [hState]
  · refine iff_of_true ?_ (fun hBoth => hState hBoth.1)
    rw [answerOf, answerOf]
    cases Cors.preflight? s.corsOrigins r with
    | some response => rfl
    | none =>
      dsimp only
      rw [toOption_map, toOption_map, toOption_routeOf hState hQuery]

/-- Twins are answered in the same way unless the text of a fault is disclosed. -/
theorem response_eq_iff (h : a.IsTwin b) :
    (exchange s a).response = (exchange s b).response ↔ ¬ Discloses s a b := by
  have hId : idOf a = idOf b := by
    rw [idOf, idOf, h.request, h.fresh]
  rw [response_exchange, response_exchange, hId, finalResponse_eq_iff, ← h.request,
    toOption_answerOf_iff h.query h.info, Discloses]

/-- An index that is too slow, with the host in the text of its fault. -/
def slowAnswer (request : Request) (host : String) : Arrival :=
  ⟨request, "1", .fault ⟨.timeout .read, host⟩, .fault ⟨.timeout .read, host⟩⟩

theorem isTwin_slowAnswer (request : Request) (host host' : String) :
    (slowAnswer request host).IsTwin (slowAnswer request host') :=
  ⟨rfl, rfl, rfl, rfl⟩

/-- Two runs that differ only in the text of a fault, and in their responses. -/
theorem not_responses_of_twins :
    ¬ ∀ (env : Settings.Environment) (s : Settings) (as bs : List Arrival),
      Settings.fromEnvironment env = .ok s → List.Forall₂ Arrival.IsTwin as bs →
      ((start s).1.run as).map Exchange.response = ((start s).1.run bs).map Exchange.response := by
  intro hAll
  obtain ⟨s, hSettings, hConfigured, hEnvironment⟩ := Settings.exists_shop
  have hTwins := isTwin_slowAnswer stateRequest "10.0.0.1" "10.0.0.2"
  have hRuns := hAll _ s _ _ hSettings (.cons hTwins .nil)
  rw [run_start, run_start] at hRuns
  obtain ⟨hSame, -⟩ := List.cons.inj hRuns
  refine (response_eq_iff hTwins).1 hSame ⟨asks_stateRequest s, hConfigured, _, _,
    ⟨_, rfl, rfl⟩, ⟨_, rfl, rfl⟩, ?_, .inl ?_, ?_⟩
  · rw [hEnvironment]
    exact Sending.isUnicode_ofString "development"
  · exact Sending.isUnicode_ofString "Vector index info timed out: 10.0.0.1"
  · decide

/-- Two runs that differ only in the texts of faults have the same responses exactly if no pair of
requests discloses a text: none asks for the state of an index that is configured and fails. -/
theorem responses_of_twins_iff (s : Settings) {as bs : List Arrival}
    (h : List.Forall₂ Arrival.IsTwin as bs) :
    ((start s).1.run as).map Exchange.response = ((start s).1.run bs).map Exchange.response ↔
      List.Forall₂ (fun a b => ¬ Discloses s a b) as bs := by
  rw [run_start, run_start, List.map_map, List.map_map]
  induction h with
  | nil => exact iff_of_true rfl .nil
  | cons hHead _ ih =>
    rw [List.map_cons, List.map_cons, List.cons.injEq, ih, List.forall₂_cons,
      ← response_eq_iff hHead]
    rfl

/-- Searches in an index that is too slow have the same responses, whatever its faults say. -/
theorem responses_of_slowSearches : ∃ s, Settings.fromEnvironment Settings.shopVariables = .ok s ∧
    ((start s).1.run [slowAnswer (shopRequest anyShirts) "10.0.0.1"]).map Exchange.response =
      ((start s).1.run [slowAnswer (shopRequest anyShirts) "10.0.0.2"]).map Exchange.response := by
  obtain ⟨s, hSettings, -⟩ := Settings.exists_shop
  have hNoState : ¬ (shopRequest anyShirts).AsksState s := by
    intro hState
    exact absurd (Request.method_of_asksState hState) (by decide)
  have hTwins := isTwin_slowAnswer (shopRequest anyShirts) "10.0.0.1" "10.0.0.2"
  refine ⟨s, hSettings, (responses_of_twins_iff s (.cons hTwins .nil)).2 (.cons ?_ .nil)⟩
  exact fun hDiscloses => hNoState hDiscloses.1

end App

end Api

end Storefront
