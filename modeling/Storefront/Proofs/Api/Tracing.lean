import Mathlib
import Storefront.Proofs.Api.State
import Storefront.Proofs.Log.Entries

/-!
# Traces of requests

In production each request leaves a trace in the journal. It begins when the request is started and
ends when it is completed or has failed, and everything that is reported in between bears the id, the
method and the path of the request, because these are bound for that time and dropped at its end.

* `Traces`: the lines of one request.
* `IsInner`, `App.isInner_of_mem_answerOf`: what is reported while a request is handled.
* `App.traces_writeAll`: what becomes of the records of a request.
* `App.get?_stop`: what is reported when the application is stopped.
* `App.traces_of_run`: the traces of a run, and what is bound behind it.
-/

namespace Storefront

open Index (BackendError Connection Reply)
open Log (IsStarless Journal Level Line Record)

/-! ## Records of a search -/

theorem SearchService.mem_records_search {service : SearchService} {payload : Value}
    {index : Except BackendError Reply} {r : Record}
    (h : r ∈ (service.search payload index).records) :
    (∃ q sort, r = Search.queryRecord q sort) ∨ ∃ e, r = Search.failureRecord e := by
  rw [search] at h
  split at h
  · cases h
  · rename_i sel _
    rw [send.eq_def] at h
    dsimp only at h
    split at h
    · rename_i e _
      rcases List.mem_cons.1 h with rfl | hFailure
      · exact .inl ⟨_, _, rfl⟩
      · cases e with
        | backend e => exact .inr ⟨e, List.mem_singleton.1 hFailure⟩
        | fault _ | misuse _ => cases hFailure
    · exact .inl ⟨_, _, List.mem_singleton.1 h⟩

namespace Api

/-! ## Traces -/

/-- The fields that are bound for the time of a request. -/
def boundNames : List String := ["request_id", "method", "path"]

/-- The lines are those of one request. The first one, and no other, says that it was started; the
last one, and no other, says that it was completed or that it has failed; and all of them say which
request it is. -/
structure Traces (secret : Text) (a : Arrival) (crashed : Prop) (lines : List Line) : Prop where
  bracketed : ∃ first inner last, lines = first :: inner ++ [last] ∧
    first.Says secret "event" "Request started" ∧
    (last.Says secret "event" "Request completed" ↔ ¬ crashed) ∧
    (last.Says secret "event" "Request failed" ↔ crashed) ∧
    (∀ line ∈ inner ++ [last], ¬ line.Says secret "event" "Request started") ∧
    ∀ line ∈ first :: inner, ¬ line.Says secret "event" "Request completed" ∧
      ¬ line.Says secret "event" "Request failed"
  labelled : ∀ line ∈ lines, line.Says secret "request_id" (App.idOf a) ∧
    line.Says secret "method" a.request.method ∧
    line.Says secret "path" (Target.parse a.request.target).shownPath

/-- The events at the start and at the end of a request. -/
def brackets : List String := ["Request started", "Request completed", "Request failed"]

/-- A record has none of the fields that are bound, and its event is a plain text. -/
structure IsTraceable (r : Record) : Prop where
  event : IsStarless r.event
  fields : ∀ name ∈ boundNames, Text.ofString name ∉ r.fields.map Prod.fst

/-- A record says nothing about the start or the end of a request. -/
structure IsInner (r : Record) : Prop extends IsTraceable r where
  other : r.event ∉ brackets.map Text.ofString

theorem isTraceable_of_names {r : Record} {names : List String} (hEvent : IsStarless r.event)
    (hNames : r.fields.map Prod.fst = names.map Text.ofString)
    (hOther : ∀ name ∈ boundNames, name ∉ names) : IsTraceable r := by
  refine ⟨hEvent, fun name hName hMem => ?_⟩
  rw [hNames] at hMem
  obtain ⟨other, hOtherMem, hSame⟩ := List.mem_map.1 hMem
  rw [Text.ofString_inj.1 hSame] at hOtherMem
  exact hOther name hName hOtherMem

theorem isInner_of_names {r : Record} {event : String} {names : List String}
    (hEvent : r.event = Text.ofString event) (hPlain : IsStarless (Text.ofString event))
    (hNoBracket : event ∉ brackets) (hNames : r.fields.map Prod.fst = names.map Text.ofString)
    (hOther : ∀ name ∈ boundNames, name ∉ names) : IsInner r := by
  refine ⟨isTraceable_of_names (hEvent ▸ hPlain) hNames hOther, ?_⟩
  rw [hEvent, List.mem_map]
  rintro ⟨bracket, hBracket, hSame⟩
  exact hNoBracket (Text.ofString_inj.1 hSame ▸ hBracket)

namespace Handler

theorem isInner_queryRecord (q : ProductQuery) (sort : SortMode) :
    IsInner (Search.queryRecord q sort) := by
  have hEvent : (Search.queryRecord q sort).event = Text.ofString "Product query" := rfl
  have hNames : (Search.queryRecord q sort).fields.map Prod.fst =
      ["filter", "vector", "top_k", "sort"].map Text.ofString := rfl
  exact isInner_of_names hEvent (by decide) (by decide) hNames (by decide)

theorem isInner_failureRecord (e : BackendError) : IsInner (Search.failureRecord e) := by
  have hEvent : (Search.failureRecord e).event = Text.ofString "Vector index query failed" := rfl
  have hNames : (Search.failureRecord e).fields.map Prod.fst =
      ["error", "error_type", "cause"].map Text.ofString := rfl
  exact isInner_of_names hEvent (by decide) (by decide) hNames (by decide)

theorem isInner_rejection (e : SelectionError) : IsInner (rejection e) := by
  have hEvent : (rejection e).event = Text.ofString "Rejected filter payload" := rfl
  cases e with
  | unknownName u =>
    have hNames : (rejection (.unknownName u)).fields.map Prod.fst =
        ["attribute", "value"].map Text.ofString := rfl
    exact isInner_of_names hEvent (by decide) (by decide) hNames (by decide)
  | notAnObject | invalid _ | priceTooLarge =>
    have hNames (message : Text) : [(Text.ofString "error", Value.text message)].map Prod.fst =
        ["error"].map Text.ofString := rfl
    exact isInner_of_names hEvent (by decide) (by decide) (hNames _) (by decide)

theorem mem_outcome {result : Except SearchError (List Index.Match)} {r : Record}
    (h : r ∈ (outcome result).1) : ∃ e, r = rejection e := by
  rw [outcome.eq_def] at h
  split at h
  · cases h
  · split at h
    · exact ⟨_, List.mem_singleton.1 h⟩
    · cases h
  · cases h
  · cases h

theorem isInner_of_mem_conclude {service : SearchService} {payload : Value}
    {index : Except BackendError Reply} {r : Record}
    (h : r ∈ (conclude (service.search payload index)).records) : IsInner r := by
  rcases List.mem_append.1 h with hSearch | hOutcome
  · rcases SearchService.mem_records_search hSearch with ⟨q, sort, rfl⟩ | ⟨e, rfl⟩
    · exact isInner_queryRecord q sort
    · exact isInner_failureRecord e
  · obtain ⟨e, rfl⟩ := mem_outcome hOutcome
    exact isInner_rejection e

theorem isInner_of_mem_productsOf {s : Settings} {request : Request} {reply : Reply} {r : Record}
    (h : r ∈ (productsOf s request reply).records) : IsInner r := by
  rw [productsOf] at h
  split at h
  · rw [searchOf] at h
    split at h
    · cases h
    · exact isInner_of_mem_conclude h
  · cases h

theorem records_stateOf (s : Settings) (reply : Reply) : (stateOf s reply).records = [] := by
  rw [stateOf]
  split
  · rw [askIndex.eq_def]
    split
    · rfl
    · dsimp only
      split <;> rfl
  · rfl

end Handler

namespace App

variable {s : Settings} {a : Arrival}

/-- Whatever is reported while a request is handled is neither its start nor its end. -/
theorem isInner_of_mem_answerOf {r : Record}
    (h : r ∈ (answerOf s a.request a.replies).records) : IsInner r := by
  obtain hState | hSearch | ⟨response, hAnswer⟩ := asks_or_responds s a.request a.replies
  · rw [answerOf_of_asks hState, serveOf, Handler.records_stateOf] at h
    cases h
  · rw [answerOf_of_asks hSearch] at h
    exact Handler.isInner_of_mem_productsOf h
  · rw [hAnswer] at h
    cases h

/-! ## The journal of a request -/

/-- What is bound for the time of a request. -/
def boundTo (a : Arrival) : Fields :=
  [("request_id", .text (idOf a)), ("method", .text a.request.method),
   ("path", .text (Target.parse a.request.target).shownPath)]

/-- The journal that a request is traced in. -/
def journalFor (s : Settings) (a : Arrival) : Journal := (start s).1.journal.bind (boundTo a)

theorem hasSecret_journalFor (s : Settings) (a : Arrival) :
    (journalFor s a).HasSecret s.indexToken :=
  Log.secrets_configure Journal.initial _ _ [s.indexToken]

/-- In production entries are written from the informative ones on. -/
theorem journal_start (h : s.isProduction = true) :
    (start s).1.journal = ⟨.json, .ofTexts [s.indexToken],
      if s.debug then Level.debug.rank else Level.info.rank, true, [], Log.Loggers.initial.renew⟩ := by
  have hSecrets : Log.Secrets.read (.list [.text s.indexToken]) = .ok (.ofTexts [s.indexToken]) :=
    Log.read_texts [s.indexToken]
  have hThreshold : Log.threshold (.text (if s.debug then "DEBUG" else "INFO" : Text)) =
      .ok (if s.debug then Level.debug.rank else Level.info.rank) := by
    cases s.debug with
    | true => rfl
    | false => rfl
  have hStart : (start s).1.journal =
      (Journal.initial.configure (.ofSettings s none)).1 := rfl
  rw [hStart, Journal.configure, Log.Configuration.ofSettings, hSecrets]
  dsimp only
  rw [hThreshold, Option.getD_none, if_pos h]
  rfl

theorem write_journalFor (h : s.isProduction = true) (a : Arrival) {r : Record}
    (hLogger : Log.isQuiet Log.Loggers.initial.renew.made r.logger = false)
    (hLevel : Level.info.rank ≤ r.level.rank) :
    (journalFor s a).write r = [(journalFor s a).entryOf r] := by
  have hJournal : journalFor s a = Journal.bind ⟨.json, .ofTexts [s.indexToken],
      if s.debug then Level.debug.rank else Level.info.rank, true, [], Log.Loggers.initial.renew⟩
        (boundTo a) := by
    rw [journalFor, journal_start h]
  have hThreshold : (journalFor s a).thresholdOf r.logger r.level.rank ≤ r.level.rank := by
    have hOwn : (journalFor s a).thresholdOf r.logger r.level.rank =
        if s.debug then Level.debug.rank else Level.info.rank := by
      rw [hJournal, Journal.thresholdOf, Log.lowestRank_eq]
      exact if_neg (Bool.eq_false_iff.1 hLogger)
    rw [hOwn]
    split
    · exact Nat.le_trans (by decide) hLevel
    · exact hLevel
  have hPositive : 0 < r.level.rank := Nat.lt_of_lt_of_le (by decide) hLevel
  rw [Journal.write_eq, if_pos]
  refine ⟨by rw [hJournal]; rfl, ?_⟩
  rw [Journal.admits, Journal.admitsRank, Bool.and_eq_true, decide_eq_true_eq]
  exact ⟨by rw [hJournal]; rfl, Int.ofNat_lt.2 hPositive, Int.ofNat_le.2 hThreshold⟩

theorem says_bound (s : Settings) (a : Arrival) {r : Record} (hr : IsTraceable r) :
    ((journalFor s a).entryOf r).Says s.indexToken "request_id" (idOf a) ∧
      ((journalFor s a).entryOf r).Says s.indexToken "method" a.request.method ∧
      ((journalFor s a).entryOf r).Says s.indexToken "path"
        (Target.parse a.request.target).shownPath := by
  have hSecret := hasSecret_journalFor s a
  have hContext : (journalFor s a).context = Value.setFields [] (boundTo a) := by
    rw [← context_start (s := s)]
    rfl
  have hOther {name : String} (hName : name ∈ boundNames) :
      ∀ f ∈ r.fields, f.1 ≠ Text.ofString name := by
    intro f hf hSame
    exact hr.fields name hName (List.mem_map.2 ⟨f, hf, hSame⟩)
  have hBound : Fields.get? (Value.setFields [] (boundTo a)) "request_id" = some (.text (idOf a)) ∧
      Fields.get? (Value.setFields [] (boundTo a)) "method" = some (.text a.request.method) ∧
      Fields.get? (Value.setFields [] (boundTo a)) "path" =
        some (.text (Target.parse a.request.target).shownPath) := ⟨rfl, rfl, rfl⟩
  rw [← hContext] at hBound
  exact ⟨Journal.says_of_bound hSecret ⟨by decide, by decide⟩ hBound.1 (hOther (by decide)),
    Journal.says_of_bound hSecret ⟨by decide, by decide⟩ hBound.2.1 (hOther (by decide)),
    Journal.says_of_bound hSecret ⟨by decide, by decide⟩ hBound.2.2 (hOther (by decide))⟩

theorem says_event_iff (s : Settings) (a : Arrival) {r : Record} (hr : IsTraceable r)
    {event : String} (hEvent : event ∈ brackets) :
    ((journalFor s a).entryOf r).Says s.indexToken "event" event ↔ r.event = event := by
  have hSecret := hasSecret_journalFor s a
  have hStarless : ∀ event ∈ brackets, IsStarless (Text.ofString event) := by decide
  constructor
  · intro hSays
    exact (Journal.says_event hSecret r).unique hr.event (hStarless event hEvent) hSays
  · intro hSame
    rw [← hSame]
    exact Journal.says_event hSecret r

/-! ## The records of a request -/

/-- The record at the start of a request. -/
def startRecord : Record := ⟨tracer, .info, "Request started", []⟩

theorem isTraceable_startRecord : IsTraceable startRecord := by
  have hNames : startRecord.fields.map Prod.fst = ([] : List String).map Text.ofString := rfl
  exact isTraceable_of_names (by decide) hNames (by decide)

theorem event_endRecord (result : Except Crash Response) :
    ((endRecord result).event = Text.ofString "Request completed" ∧
        ¬ ∃ crash, result = .error crash) ∨
      ((endRecord result).event = Text.ofString "Request failed" ∧
        ∃ crash, result = .error crash) := by
  cases result with
  | ok response =>
    refine .inl ⟨rfl, ?_⟩
    rintro ⟨crash, ⟨⟩⟩
  | error crash => exact .inr ⟨rfl, crash, rfl⟩

theorem isTraceable_endRecord (result : Except Crash Response) :
    IsTraceable (endRecord result) := by
  have hPlain : IsStarless (endRecord result).event := by
    rcases event_endRecord result with ⟨hEvent, -⟩ | ⟨hEvent, -⟩
    · rw [hEvent]
      decide
    · rw [hEvent]
      decide
  cases result with
  | ok response =>
    have hNames : (endRecord (.ok response)).fields.map Prod.fst =
        ["status_code"].map Text.ofString := rfl
    exact isTraceable_of_names hPlain hNames (by decide)
  | error crash =>
    have hNames : (endRecord (.error crash)).fields.map Prod.fst =
        ["error", "error_type"].map Text.ofString := rfl
    exact isTraceable_of_names hPlain hNames (by decide)

theorem logger_endRecord (result : Except Crash Response) : (endRecord result).logger = tracer := by
  cases result with
  | ok | error => rfl

theorem rank_endRecord (result : Except Crash Response) :
    Level.info.rank ≤ (endRecord result).level.rank := by
  cases result with
  | ok | error => exact Nat.le_of_ble_eq_true rfl

theorem lines_exchange (s : Settings) (a : Arrival) :
    (exchange s a).lines = (journalFor s a).writeAll
      (startRecord :: (answerOf s a.request a.replies).records ++
        [endRecord (answerOf s a.request a.replies).result]) := by
  rw [← (isSettled_answer s a.request a.replies).initial]
  rfl

theorem writeAll_request (h : s.isProduction = true) (a : Arrival) (inner : List Record)
    (result : Except Crash Response) :
    (journalFor s a).writeAll (startRecord :: inner ++ [endRecord result]) =
      (journalFor s a).entryOf startRecord :: (journalFor s a).writeAll inner ++
        [(journalFor s a).entryOf (endRecord result)] := by
  -- The first and the last record are always written, those in between only from the threshold on.
  have hStart : (journalFor s a).write startRecord = [(journalFor s a).entryOf startRecord] :=
    write_journalFor h a (by decide) (by decide)
  have hEnd : (journalFor s a).write (endRecord result) =
      [(journalFor s a).entryOf (endRecord result)] := by
    refine write_journalFor h a ?_ (rank_endRecord result)
    rw [logger_endRecord]
    decide
  rw [Journal.writeAll, List.cons_append, List.flatMap_cons, List.flatMap_append,
    List.flatMap_singleton, hStart, hEnd]
  rfl

/-- What is reported while a request is handled does not look like its start or its end. -/
theorem not_says_of_mem_inner {inner : List Record} (hInner : ∀ r ∈ inner, IsInner r) {line : Line}
    (hLine : line ∈ (journalFor s a).writeAll inner) {event : String} (hEvent : event ∈ brackets) :
    ¬ line.Says s.indexToken "event" event := by
  obtain ⟨r, hr, hWritten⟩ := List.mem_flatMap.1 hLine
  rw [Journal.eq_entryOf_of_mem_write hWritten,
    says_event_iff s a (hInner r hr).toIsTraceable hEvent]
  intro hSame
  exact (hInner r hr).other (hSame ▸ List.mem_map_of_mem hEvent)

/-- The records of a request make a trace. -/
theorem traces_writeAll (h : s.isProduction = true) (a : Arrival) {inner : List Record}
    (hInner : ∀ r ∈ inner, IsInner r) (result : Except Crash Response) :
    Traces s.indexToken a (∃ crash, result = .error crash)
      ((journalFor s a).writeAll (startRecord :: inner ++ [endRecord result])) := by
  have hStart {event : String} (hEvent : event ∈ brackets) :=
    says_event_iff s a isTraceable_startRecord hEvent
  have hEnd {event : String} (hEvent : event ∈ brackets) :=
    says_event_iff s a (isTraceable_endRecord result) hEvent
  rw [writeAll_request h]
  refine ⟨⟨_, _, _, rfl, ?started, ?completed, ?failed, ?startedOnce, ?endedOnce⟩, ?labelled⟩
  case started => exact (hStart (by decide)).2 rfl
  case completed =>
    rw [hEnd (by decide)]
    rcases event_endRecord result with ⟨hEvent, hOk⟩ | ⟨hEvent, hCrash⟩
    · exact iff_of_true hEvent hOk
    · rw [hEvent]
      exact iff_of_false (by decide) (not_not_intro hCrash)
  case failed =>
    rw [hEnd (by decide)]
    rcases event_endRecord result with ⟨hEvent, hOk⟩ | ⟨hEvent, hCrash⟩
    · rw [hEvent]
      exact iff_of_false (by decide) hOk
    · exact iff_of_true hEvent hCrash
  case startedOnce =>
    intro line hLine
    rcases List.mem_append.1 hLine with hMem | hMem
    · exact not_says_of_mem_inner hInner hMem (by decide)
    · rw [List.mem_singleton.1 hMem, hEnd (by decide)]
      rcases event_endRecord result with ⟨hEvent, -⟩ | ⟨hEvent, -⟩
      · rw [hEvent]
        decide
      · rw [hEvent]
        decide
  case endedOnce =>
    intro line hLine
    rcases List.mem_cons.1 hLine with rfl | hMem
    · rw [hStart (by decide), hStart (by decide)]
      decide
    · exact ⟨not_says_of_mem_inner hInner hMem (by decide),
        not_says_of_mem_inner hInner hMem (by decide)⟩
  case labelled =>
    intro line hLine
    rcases List.mem_append.1 hLine with hMem | hMem
    · rcases List.mem_cons.1 hMem with rfl | hMem
      · exact says_bound s a isTraceable_startRecord
      · obtain ⟨r, hr, hWritten⟩ := List.mem_flatMap.1 hMem
        rw [Journal.eq_entryOf_of_mem_write hWritten]
        exact says_bound s a (hInner r hr).toIsTraceable
    · rw [List.mem_singleton.1 hMem]
      exact says_bound s a (isTraceable_endRecord result)

/-! ## Runs -/

/-- The application ends the handling of the request without a response. -/
def Fails (s : Settings) (a : Arrival) : Prop :=
  ∃ crash, (answerOf s a.request a.replies).result = .error crash

open scoped Classical in
/-- The lines of a request make a trace, and so do those of them that are informative. -/
theorem traces_exchange (h : s.isProduction = true) (a : Arrival) :
    Traces s.indexToken a (Fails s a) (exchange s a).lines ∧
      Traces s.indexToken a (Fails s a)
        ((exchange s a).lines.filter (·.IsAtLeast s.indexToken .info)) := by
  have hInner : ∀ r ∈ (answerOf s a.request a.replies).records, IsInner r :=
    fun r => isInner_of_mem_answerOf
  rw [lines_exchange]
  refine ⟨traces_writeAll h a hInner _, ?_⟩
  -- The informative lines are those of the informative records, which are a request of their own.
  have hStart : decide (Level.info.rank ≤ startRecord.level.rank) = true := by decide
  have hEnd (result : Except Crash Response) :
      decide (Level.info.rank ≤ (endRecord result).level.rank) = true :=
    decide_eq_true (rank_endRecord result)
  rw [Journal.filter_writeAll (hasSecret_journalFor s a), List.filter_append, List.filter_cons,
    if_pos hStart, List.filter_singleton, hEnd, cond_true]
  refine traces_writeAll h a (fun r hr => hInner r ?_) _
  exact (List.mem_filter.1 hr).1

/-- What is reported when the application is stopped says nothing about any request. -/
theorem get?_stop {app : App} (h : app.IsReady s) :
    ∀ line ∈ app.stop, ∃ fields, line = .entry fields ∧
      ∀ name ∈ boundNames, Fields.get? fields name = none := by
  intro line hLine
  refine ⟨_, Journal.eq_entryOf_of_mem_write hLine, ?_⟩
  intro name hName
  have hContext : app.journal.context = [] := by
    rw [h.journal, context_start]
  have hFree : ∀ name ∈ boundNames, Journal.IsFree name := by
    unfold Journal.IsFree
    decide
  refine Journal.get?_entry_of_not_bound (hFree name hName) ?_ (fun f hf => ?_)
  · rw [hContext]
    rfl
  · cases hf

open scoped Classical in
/-- In production each request of a run leaves a trace, and the informative lines of it make a trace
as well; it ends with a failure exactly if the application fails. Behind the requests nothing is bound,
and what is reported at the end says nothing about any of them. -/
theorem traces_of_run (h : s.isProduction = true) (arrivals : List Arrival) :
    List.Forall₂ (fun a e => Traces s.indexToken a (Fails s a) e.lines ∧
        Traces s.indexToken a (Fails s a) (e.lines.filter (·.IsAtLeast s.indexToken .info)))
      arrivals ((start s).1.run arrivals) ∧
    ((start s).1.after arrivals).journal.context = [] ∧
    ∀ line ∈ ((start s).1.after arrivals).stop, ∃ fields, line = .entry fields ∧
      ∀ name ∈ boundNames, Fields.get? fields name = none := by
  have hReady := isReady_after (isReady_start (s := s)) arrivals
  refine ⟨?_, ?_, get?_stop hReady⟩
  · rw [run_start, List.forall₂_map_right_iff, List.forall₂_same]
    exact fun a _ => traces_exchange h a
  · rw [hReady.journal, context_start]

/-- The environment of a service in production. -/
def productionVariables : Settings.Environment :=
  [("ENVIRONMENT", "Production"), ("UPSTASH_VECTOR_REST_URL", "https://index"),
   ("UPSTASH_VECTOR_REST_TOKEN", "token"), ("DEBUG", "true")]

/-- A request that fails, because the index does so in a way that nobody expects. -/
def brokenRequest : Arrival := ⟨stateRequest, "1", .value .null, .fault ⟨.runtime, "boom"⟩⟩

/-- A request with the token in its id, and with a query. -/
def leakyRequest : Arrival :=
  ⟨⟨"GET", "/live?x=1", [("X-Request-ID", "a-token")], []⟩, "2", .value .null, .value .null⟩

theorem fails_brokenRequest (h : s.indexConfigured = true) : Fails s brokenRequest := by
  rw [Fails, brokenRequest, answerOf_of_asks (asks_stateRequest s), serveOf]
  cases hResult : (Handler.stateOf s (.fault ⟨.runtime, "boom"⟩)).result with
  | error crash => exact ⟨crash, rfl⟩
  | ok response =>
    obtain ⟨-, hRelay⟩ := Handler.exists_stateOf_iff.1 ⟨response, hResult⟩
    obtain ⟨e, hBackend, -⟩ := hRelay h
    cases hBackend

theorem mem_served_live : ("/live", Endpoint.live) ∈ Route.served := by decide

theorem target_leakyRequest :
    leakyRequest.request.target = Text.ofString "/live" ++ .char '?' :: Text.ofString "x=1" :=
  rfl

theorem not_fails_leakyRequest (s : Settings) : ¬ Fails s leakyRequest := by
  have hPath : (Target.parse leakyRequest.request.target).path = "/live" := by
    rw [target_leakyRequest]
    exact Target.path_parse (Route.isPlainPath_of_mem_served mem_served_live) (Target.endsPath_query _)
  have hAsks : leakyRequest.request.Asks s .live :=
    Request.asks_of_mem_served mem_served_live hPath ⟨"GET", List.mem_singleton_self _, rfl⟩
  have hServed : serveOf s leakyRequest.request leakyRequest.replies .live = Handler.live := rfl
  rw [Fails, answerOf_of_asks hAsks, hServed]
  rintro ⟨crash, hCrash⟩
  cases hCrash

/-- The line is an entry with these texts in its fields. -/
def Bears (line : Line) (texts : List (String × Text)) : Prop :=
  ∃ fields, line = .entry fields ∧ ∀ t ∈ texts, Fields.get? fields t.1 = some (.text t.2)

/-- The last line reports this event. -/
def EndsWith (lines : List Line) (event : String) : Prop :=
  ∃ front last, lines = front ++ [last] ∧ Bears last [("event", event)]

theorem endsWith_of_says {secret : Text} {lines front : List Line} {last : Line} {event : String}
    (hLines : lines = front ++ [last]) (hSays : last.Says secret "event" event)
    (hMasked : Log.replaceSecret secret event = event) : EndsWith lines event := by
  obtain ⟨fields, rfl, hGet⟩ := hSays
  rw [hMasked] at hGet
  exact ⟨front, _, hLines, fields, rfl, by simpa using hGet⟩

theorem bears_of_traces {secret : Text} {crashed : Prop} {lines : List Line}
    (h : Traces secret a crashed lines) {id method path : Text}
    (hId : Log.replaceSecret secret (idOf a) = id)
    (hMethod : Log.replaceSecret secret a.request.method = method)
    (hPath : Log.replaceSecret secret (Target.parse a.request.target).shownPath = path) :
    ∀ line ∈ lines, Bears line [("request_id", id), ("method", method), ("path", path)] := by
  intro line hLine
  obtain ⟨⟨fields, rfl, hGetId⟩, ⟨_, ⟨⟩, hGetMethod⟩, ⟨_, ⟨⟩, hGetPath⟩⟩ := h.labelled line hLine
  refine ⟨fields, rfl, ?_⟩
  rw [hId] at hGetId
  rw [hMethod] at hGetMethod
  rw [hPath] at hGetPath
  simpa using ⟨hGetId, hGetMethod, hGetPath⟩

/-- A request that fails and one that does not, with the labels of each. -/
theorem traces_of_bothRequests : ∃ s e e', Settings.fromEnvironment productionVariables = .ok s ∧
    s.isProduction = true ∧ (start s).1.run [brokenRequest, leakyRequest] = [e, e'] ∧
    Fails s brokenRequest ∧ EndsWith e.lines "Request failed" ∧
    (∀ line ∈ e.lines,
      Bears line [("request_id", "1"), ("method", "GET"), ("path", "/health/detailed")]) ∧
    ¬ Fails s leakyRequest ∧ EndsWith e'.lines "Request completed" ∧
    ∀ line ∈ e'.lines, Bears line [("request_id", "a-***"), ("method", "GET"), ("path", "/live")] := by
  have hProduction : (Settings.fromEnvironment productionVariables).toOption.map
      (fun s => (s.isProduction, s.indexToken, s.indexConfigured)) =
        some (true, Text.ofString "token", true) := by
    decide +kernel
  obtain ⟨s, hSettings, hAll⟩ := Settings.exists_of_toOption hProduction
  obtain ⟨hIsProduction, hOthers⟩ := Prod.mk.inj hAll
  obtain ⟨hToken, hConfigured⟩ := Prod.mk.inj hOthers
  have hFails := fails_brokenRequest hConfigured
  have hNotFails := not_fails_leakyRequest s
  obtain ⟨e, e', hExchanges⟩ : ∃ e e', (start s).1.run [brokenRequest, leakyRequest] = [e, e'] :=
    ⟨_, _, run_start s _⟩
  obtain ⟨hRun, -⟩ := traces_of_run hIsProduction [brokenRequest, leakyRequest]
  rw [hExchanges, hToken] at hRun
  obtain _ | ⟨⟨hBroken, -⟩, _ | ⟨⟨hLeaky, -⟩, -⟩⟩ := hRun
  have hBrokenPath : (Target.parse brokenRequest.request.target).shownPath = "/health/detailed" :=
    Target.shownPath_parse_self (Route.isPlainPath_of_mem_served mem_served_detailedHealth)
  have hLeakyPath : (Target.parse leakyRequest.request.target).shownPath = "/live" := by
    rw [target_leakyRequest]
    exact Target.shownPath_parse (Route.isPlainPath_of_mem_served mem_served_live)
      (Target.endsPath_query _)
  obtain ⟨_, _, _, hBrokenLines, -, -, hFailed, -⟩ := hBroken.bracketed
  obtain ⟨_, _, _, hLeakyLines, -, hCompleted, -⟩ := hLeaky.bracketed
  refine ⟨s, e, e', hSettings, hIsProduction, hExchanges, hFails, ?_, ?_, hNotFails, ?_, ?_⟩
  · exact endsWith_of_says hBrokenLines (hFailed.2 hFails) (by decide +kernel)
  · exact bears_of_traces hBroken (by decide +kernel) (by decide +kernel)
      (by rw [hBrokenPath]; decide +kernel)
  · exact endsWith_of_says hLeakyLines (hCompleted.2 hNotFails) (by decide +kernel)
  · exact bears_of_traces hLeaky (by decide +kernel) (by decide +kernel)
      (by rw [hLeakyPath]; decide +kernel)

end App

end Api

end Storefront
