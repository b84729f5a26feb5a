import Mathlib
import Storefront.Index.Operation

/-!
# Faults as callers see them

The client is there so that its callers need to know neither the transport library nor the index's
own library. It catches faults by the kinds that these libraries derive most of theirs from, and
some kinds are derived from none of them.

* `FaultKind.IsExpected`: the faults that the libraries and unreadable answers come up with.
* `Client.Reports`: the outcome is a failure of the backend that keeps the fault as its cause.
* `Operation.exists_run_fault`: each operation sends one call, and hands on what becomes of a fault.
* `Operation.not_reports_invalidUrl`: an expected fault that reaches the caller as it is.
* `Operation.perform_reports_iff`: which of the expected faults are reported.
-/

namespace Storefront.Index

namespace FaultKind

/-- Faults of the transport library, those that come from a wrong use of it included. -/
def IsTransport (k : FaultKind) : Prop :=
  match k.origin with
  | .timeout _ | .transport _ | .transportMisuse _ => True
  | _ => False

/-- Faults of the two libraries, and of answers that cannot be read. -/
def IsExpected (k : FaultKind) : Prop :=
  match k.origin with
  | .timeout _ | .transport _ | .transportMisuse _ | .rejected | .client | .value | .notJson
  | .key => True
  | _ => False

/-- Faults of the two libraries that are not derived from the kinds that the client catches. -/
def Escapes (k : FaultKind) : Prop :=
  match k.origin with
  | .transportMisuse _ | .client => True
  | _ => False

end FaultKind

/-! ## One call -/

/-- The outcome is a failure of the backend with the fault as its cause, and the index counts as
unavailable exactly for faults of the transport library. -/
def Client.Reports {α : Type} (f : Fault) (result : Except ClientError α) : Prop :=
  ∃ e, result = .error (.backend e) ∧ e.cause? = some f ∧
    (e.isUnavailable = true ↔ f.kind.IsTransport)

namespace ClientError

theorem ofFault_of_escapes (method : String) {f : Fault} (h : f.kind.Escapes) :
    ofFault method f = .fault f := by
  unfold FaultKind.Escapes at h
  unfold ofFault
  cases hOrigin : f.kind.origin with
  | timeout t | transport t | rejected | value | notJson | key =>
    rw [hOrigin] at h
    cases h
  | _ => rfl

theorem exists_backend_of_not_escapes (method : String) {f : Fault} (hf : f.kind.IsExpected)
    (h : ¬ f.kind.Escapes) :
    ∃ e, ofFault method f = .backend e ∧ e.cause? = some f ∧
      (e.isUnavailable = true ↔ f.kind.IsTransport) := by
  unfold FaultKind.Escapes at h
  unfold FaultKind.IsExpected at hf
  unfold ofFault FaultKind.IsTransport
  cases hOrigin : f.kind.origin with
  | timeout t | transport t => exact ⟨_, rfl, rfl, iff_of_true rfl trivial⟩
  | rejected | value | notJson | key =>
    exact ⟨_, rfl, rfl, iff_of_false Bool.false_ne_true id⟩
  | transportMisuse t | client =>
    rw [hOrigin] at h
    exact absurd trivial h
  | _ =>
    rw [hOrigin] at hf
    cases hf

/-- An expected fault of a call is reported unless it escapes. -/
theorem reports_ofFault_iff {α : Type} (method : String) {f : Fault} (hf : f.kind.IsExpected) :
    Client.Reports (α := α) f (.error (ofFault method f)) ↔ ¬ f.kind.Escapes := by
  constructor
  · rintro ⟨e, hBackend, -⟩ hEscapes
    rw [ofFault_of_escapes method hEscapes] at hBackend
    cases hBackend
  · intro h
    obtain ⟨e, hBackend, hCause⟩ := exists_backend_of_not_escapes method hf h
    exact ⟨e, by rw [hBackend], hCause⟩

end ClientError

/-! ## Operations -/

/-- What can be stored: an object with an id and a vector. -/
def Client.IsRecord (v : Value) : Prop :=
  ∃ id vector, v.get "id" = .ok id ∧ v.get "vector" = .ok vector

theorem Client.exists_readRecord {v : Value} (h : IsRecord v) : ∃ r, readRecord v = .ok r := by
  obtain ⟨id, vector, hId, hVector⟩ := h
  cases v with
  | object fields =>
    refine ⟨⟨id, vector, (Fields.get? fields "metadata").getD .null⟩, ?_⟩
    rw [readRecord, hId, hVector]
    rfl
  | null | bool _ | int _ | float _ | text _ | bytes _ | list _ => cases hId

theorem Client.exists_mapM_readRecord {vs : List Value} (h : ∀ v ∈ vs, IsRecord v) :
    ∃ rs, vs.mapM readRecord = .ok rs := by
  induction vs with
  | nil => exact ⟨[], rfl⟩
  | cons v vs ih =>
    obtain ⟨r, hRead⟩ := exists_readRecord (h v List.mem_cons_self)
    obtain ⟨rs, hMore⟩ := ih fun w hw => h w (List.mem_cons_of_mem v hw)
    refine ⟨r :: rs, ?_⟩
    rw [List.mapM_cons, hRead, hMore]
    rfl

namespace Operation

/-- Arguments of the kind that an operation is described with. Only records have to have a shape. -/
def WellFormed (o : Operation) (arguments : Fields) : Prop :=
  match o with
  | .upsert => ∃ records items, Fields.get? arguments "records" = some records ∧
      records.items = .ok items ∧ ∀ v ∈ items, Client.IsRecord v
  | _ => True

/-- An operation that is sent and fails hands on what becomes of the fault. -/
theorem exists_run_fault {o : Operation} {arguments : Fields} (h : o.WellFormed arguments)
    (f : Fault) :
    ∃ c : Call, c.name = o.name ∧
      o.run arguments (.fault f) = ⟨[c], .error (.ofFault o.name f)⟩ := by
  cases o with
  | query => exact ⟨.query _, rfl, rfl⟩
  | reset => exact ⟨.reset, rfl, rfl⟩
  | info => exact ⟨.info, rfl, rfl⟩
  | upsert =>
    obtain ⟨records, items, hRecords, hItems, hShape⟩ := h
    obtain ⟨rs, hRead⟩ := Client.exists_mapM_readRecord hShape
    have hAll : records.items.bind (·.mapM Client.readRecord) = .ok rs := by
      rw [hItems]
      exact hRead
    refine ⟨.upsert rs, rfl, ?_⟩
    simp only [run, hRecords, Option.getD_some, Client.upsert, hAll]
    rfl

/-- A transport fault that is derived from no fault of a request: the address of the index cannot be
read. -/
def invalidUrl : Fault := ⟨.transportMisuse .url, "Invalid port: 'x'"⟩

/-- The fault is expected, and reaches the caller as it is. -/
theorem not_reports_invalidUrl :
    invalidUrl.kind.IsExpected ∧
      ∃ outcome, Operation.info.perform [] [] (.fault invalidUrl) = .ok outcome ∧
        ¬ Client.Reports invalidUrl outcome.result := by
  refine ⟨trivial, _, rfl, ?_⟩
  rintro ⟨e, hBackend, -⟩
  cases hBackend

/-- An operation on well-formed arguments that is met by an expected fault sends exactly one call. It
reports the fault as a failure of the backend, unless the fault escapes, and then the fault itself
is the outcome. -/
theorem perform_reports_iff (o : Operation) (placed : List Value) (named : Fields)
    {arguments : Fields} {f : Fault}
    (hBind : Parameter.bind o.fullName o.parameters (.null :: placed) named = .ok arguments)
    (hArguments : o.WellFormed arguments) (hf : f.kind.IsExpected) :
    ∃ outcome, o.perform placed named (.fault f) = .ok outcome ∧
      (∃ c, outcome.calls = [c] ∧ c.name = o.name) ∧
      (Client.Reports f outcome.result ↔ ¬ f.kind.Escapes) ∧
      (f.kind.Escapes → outcome.result = .error (.fault f)) := by
  obtain ⟨c, hName, hRun⟩ := exists_run_fault hArguments f
  refine ⟨o.run arguments (.fault f), ?_, ?_, ?_, fun hEscapes => ?_⟩
  · rw [perform, hBind]
    rfl
  · rw [hRun]
    exact ⟨c, rfl, hName⟩
  · rw [hRun]
    exact ClientError.reports_ofFault_iff o.name hf
  · rw [hRun, ClientError.ofFault_of_escapes o.name hEscapes]

def shirtRecord : Value := .object [("vector", .list [.int 2, .int 1]), ("id", .text "blue-M-1")]

def slowHandshake : Fault := ⟨.derived "HandshakeTimeout" (.timeout .connect), "handshake"⟩

theorem perform_upsert_reports :
    ∃ outcome, upsert.perform [] [("records", .list [shirtRecord])] (.fault slowHandshake) =
        .ok outcome ∧
      (∃ c, outcome.calls = [c] ∧ c.name = upsert.name) ∧
      Client.Reports slowHandshake outcome.result := by
  have hShape : ∀ v ∈ [shirtRecord], Client.IsRecord v := by
    intro v hv
    rw [List.mem_singleton.1 hv]
    exact ⟨_, _, rfl, rfl⟩
  obtain ⟨outcome, hPerform, hCalls, hReports, -⟩ :=
    perform_reports_iff upsert [] [("records", .list [shirtRecord])] rfl
      ⟨_, _, rfl, rfl, hShape⟩ (f := slowHandshake) trivial
  exact ⟨outcome, hPerform, hCalls, hReports.2 id⟩

end Operation

end Storefront.Index
