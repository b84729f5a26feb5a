import Mathlib
import Storefront.Proofs.Settings.Usable
import Storefront.Seeding.Run

/-!
# What a run sends

A run ends at its first failure, and the calls that it sent until then were sent. The batch size is
looked at when the first batch is due. A run that was asked to clear the index has done so by then.

* `Run.Did.bind`, `Run.Did.stop`: how the steps of a run follow each other.
* `did_store`, `did_store_fault`: batches that are all stored, and batches up to one that is not.
* `did_runWith`: a run gets as far as to its records where the settings describe a client.
* `failsBySize_iff`: the runs that fail because of their batch size.
* `not_sendsNothing`: a run that fails because of its batch size, and has cleared the index.
* `sendsNothing_iff`: the runs that fail because of their batch size and have sent nothing.
-/

namespace Storefront

open Index (Call ClientError Connection Reply Script)

namespace Index

def Reply.IsValue (r : Reply) : Prop := ∃ v, r = .value v

/-- The reply to a call of a sequence, counted from zero. -/
def Script.reply (s : Script) : Nat → Reply
  | 0 => s.next.1
  | n + 1 => s.next.2.reply n

end Index

namespace Seeding

/-! ## Steps -/

namespace Run

variable {α β : Type} {x : Run α} {f : α → Run β} {calls more : List Call}

/-- What a run sent, and how it ended. -/
structure Did (r : Run α) (calls : List Call) (result : Except Failure α) : Prop where
  calls : r.calls = calls
  result : r.result = result

theorem Did.bind {a : α} {result : Except Failure β} (hFirst : x.Did calls (.ok a))
    (hNext : (f a).Did more result) : (x >>= f).Did (calls ++ more) result := by
  obtain ⟨hCalls, hResult⟩ := hFirst
  obtain ⟨rfl, rfl⟩ := hNext
  have hBind : x >>= f = ⟨x.printed ++ (f a).printed, x.records ++ (f a).records,
      x.calls ++ (f a).calls, (f a).result⟩ := by
    change andThen x f = _
    rw [andThen, hResult]
  exact ⟨by rw [hBind, hCalls], by rw [hBind]⟩

/-- Nothing is done behind a failure. -/
theorem Did.stop {e : Failure} (h : x.Did calls (.error e)) : (x >>= f).Did calls (.error e) := by
  obtain ⟨hCalls, hResult⟩ := h
  have hBind : x >>= f = ⟨x.printed, x.records, x.calls, .error e⟩ := by
    change andThen x f = _
    rw [andThen, hResult]
  exact ⟨by rw [hBind, hCalls], by rw [hBind]⟩

/-- A step that sends nothing. -/
theorem Did.after {a : α} {result : Except Failure β} (hFirst : x.Did [] (.ok a))
    (hNext : (f a).Did more result) : (x >>= f).Did more result := hFirst.bind hNext

theorem did_report (event : Text) (fields : Fields) : (report event fields).Did [] (.ok ()) :=
  ⟨rfl, rfl⟩

theorem did_print (lines : List Text) : (print lines).Did [] (.ok ()) := ⟨rfl, rfl⟩

theorem did_ofExcept {ε : Type} (wrap : ε → Failure) {result : Except ε α} {a : α}
    (h : result = .ok a) : (ofExcept wrap result).Did [] (.ok a) := by
  subst h
  exact ⟨rfl, rfl⟩

theorem did_ofExcept_error {ε : Type} (wrap : ε → Failure) {result : Except ε α} {e : ε}
    (h : result = .error e) : (ofExcept wrap result).Did [] (.error (wrap e)) := by
  subst h
  exact ⟨rfl, rfl⟩

theorem did_send {c : Call} {reply : Reply} (h : reply.IsValue) :
    (send c reply).Did [c] (.ok ()) := by
  obtain ⟨v, rfl⟩ := h
  exact ⟨rfl, rfl⟩

theorem did_send_fault (c : Call) (f : Index.Fault) :
    (send c (.fault f)).Did [c] (.error (.index (.ofFault c.name f))) := ⟨rfl, rfl⟩

end Run

/-! ## Storing and clearing -/

/-- Batches are all stored where every call is answered. -/
theorem did_store {script : Script} {batches : List (List VectorRecord)}
    (h : ∀ n < batches.length, (script.reply n).IsValue) (position : Nat) :
    (store script position batches).Did (batches.map .upsert) (.ok ()) := by
  -- Script and position are generalised because each batch hands others on.
  induction batches generalizing script position with
  | nil => exact ⟨rfl, rfl⟩
  | cons batch rest ih =>
    have hRest : ∀ n < rest.length, (script.next.2.reply n).IsValue := by
      intro n hn
      exact h (n + 1) (Nat.succ_lt_succ hn)
    rw [store]
    exact (Run.did_send (h 0 (Nat.succ_pos _))).bind
      ((Run.did_report _ _).after (ih hRest (position + 1)))

/-- Batches are stored up to the first call that fails, and nothing is sent behind it. -/
theorem did_store_fault {script : Script} {batches : List (List VectorRecord)} {k : Nat}
    {f : Index.Fault} (h : ∀ n < k, (script.reply n).IsValue) (hk : k < batches.length)
    (hFault : script.reply k = .fault f) (position : Nat) :
    (store script position batches).Did ((batches.take (k + 1)).map .upsert)
      (.error (.index (.ofFault "upsert" f))) := by
  induction batches generalizing script position k with
  | nil => exact absurd hk (Nat.not_lt_zero k)
  | cons batch rest ih =>
    rw [store]
    cases k with
    | zero =>
      have hFirst : script.next.1 = .fault f := hFault
      dsimp only
      rw [hFirst]
      exact (Run.did_send_fault _ f).stop
    | succ k =>
      have hRest : ∀ n < k, (script.next.2.reply n).IsValue := by
        intro n hn
        exact h (n + 1) (Nat.succ_lt_succ hn)
      exact (Run.did_send (h 0 (Nat.succ_pos k))).bind
        ((Run.did_report _ _).after
          (ih hRest (Nat.lt_of_succ_lt_succ hk) hFault (position + 1)))

theorem exists_fault_of_not_isValue {r : Reply} (h : ¬ r.IsValue) : ∃ f, r = .fault f := by
  cases r with
  | value v => exact absurd ⟨v, rfl⟩ h
  | fault f => exact ⟨f, rfl⟩

/-- Either all calls are answered, or there is a first one that fails. -/
theorem all_isValue_or_exists_fault (script : Script) (count : Nat) :
    (∀ n < count, (script.reply n).IsValue) ∨
      ∃ k < count, (∀ n < k, (script.reply n).IsValue) ∧ ∃ f, script.reply k = .fault f := by
  induction count with
  | zero => exact .inl fun n hn => absurd hn (Nat.not_lt_zero n)
  | succ count ih =>
    obtain hAll | ⟨k, hk, hBefore, hFault⟩ := ih
    · by_cases hLast : (script.reply count).IsValue
      · refine .inl fun n hn => ?_
        obtain hn | rfl := Nat.lt_succ_iff_lt_or_eq.1 hn
        · exact hAll n hn
        · exact hLast
      · exact .inr ⟨count, Nat.lt_succ_self count, hAll, exists_fault_of_not_isValue hLast⟩
    · exact .inr ⟨k, Nat.lt_succ_of_lt hk, hBefore, hFault⟩

variable {o : Options} {replies : Replies} {records : List VectorRecord}

/-- The calls that clear the index, if that was asked for. -/
def clearing (o : Options) : List Call := if o.reset then [.reset] else []

/-- The index is cleared, if that was asked for. -/
def Replies.Clears (replies : Replies) (o : Options) : Prop :=
  o.reset = true → (replies.reset.reply 0).IsValue

/-- Records are written once the index is cleared. -/
theorem did_writeRecords {calls : List Call} {result : Except Failure Unit}
    (hClears : replies.Clears o) (h : (writeBatches o replies.upsert records).Did calls result) :
    (writeRecords o replies records).Did (clearing o ++ calls) result := by
  rw [writeRecords, clearing]
  by_cases hReset : o.reset = true
  · have hClear : (clear replies.reset).Did [.reset] (.ok ()) := by
      rw [clear]
      exact (Run.did_send (hClears hReset)).bind (Run.did_report _ _)
    rw [if_pos hReset, if_pos hReset]
    exact hClear.bind h
  · rw [if_neg hReset, if_neg hReset]
    exact h

theorem did_writeRecords_fault {f : Index.Fault} (hReset : o.reset = true)
    (hFault : replies.reset.reply 0 = .fault f) :
    (writeRecords o replies records).Did [.reset] (.error (.index (.ofFault "reset" f))) := by
  have hClear : (clear replies.reset).Did [.reset] (.error (.index (.ofFault "reset" f))) := by
    have hReply : replies.reset.next.1 = .fault f := hFault
    rw [clear, hReply]
    exact (Run.did_send_fault _ f).stop
  rw [writeRecords, if_pos hReset]
  exact hClear.stop

/-! ## Batch sizes -/

/-- The batch size that was asked for is at least one. -/
def Options.HasUsableSize (o : Options) : Prop := ∃ n, o.batchSize = some n ∧ 1 ≤ n

theorem batchSize_of_le {n : Int} (hSize : o.batchSize = some n) (hn : 1 ≤ n) :
    batchSize o = .ok n.toNat := by
  rw [batchSize, hSize]
  exact if_neg (by omega)

theorem exists_batchSize_error (h : ¬ o.HasUsableSize) : ∃ e, batchSize o = .error e := by
  rw [batchSize]
  cases hSize : o.batchSize with
  | none => exact ⟨_, rfl⟩
  | some n =>
    have hn : n < 1 := by
      by_contra hn
      exact h ⟨n, hSize, Int.not_lt.1 hn⟩
    exact ⟨.tooSmall, if_pos hn⟩

/-! ## Runs -/

/-- The settings that an environment gives describe a client of the index. -/
def IsConfigured (environment : Settings.Environment) : Prop :=
  ∃ s, Settings.fromEnvironment environment = .ok s ∧ s.indexConfigured = true

variable {prices : List Price} {environment : Settings.Environment}

/-- A run gets as far as to its records where the settings describe a client. -/
theorem did_runWith {calls : List Call} {result : Except Failure Unit}
    (h : IsConfigured environment) (hWet : o.dryRun = false)
    (hWrite : (writeRecords o replies (catalog prices)).Did calls result) :
    (runWith prices o environment replies).Did calls result := by
  obtain ⟨s, hSettings, hConfigured⟩ := h
  obtain ⟨c, hMake⟩ := Connection.exists_make_iff.2 hConfigured
  rw [runWith]
  refine (Run.did_ofExcept _ hSettings).after ((Run.did_report _ _).after ?_)
  rw [if_neg (Bool.not_eq_true _ ▸ hWet)]
  exact (Run.did_ofExcept _ hMake).after hWrite

/-- A dry run sends nothing. -/
theorem did_dryRun (hDry : o.dryRun = true) {s : Settings}
    (hSettings : Settings.fromEnvironment environment = .ok s) :
    (runWith prices o environment replies).Did [] (.ok ()) := by
  rw [runWith]
  refine (Run.did_ofExcept _ hSettings).after ((Run.did_report _ _).after ?_)
  rw [if_pos hDry]
  exact Run.did_print _

/-- A run whose settings cannot be read ends at once. -/
theorem did_runWith_of_error {e : SettingsError}
    (hSettings : Settings.fromEnvironment environment = .error e) :
    (runWith prices o environment replies).Did [] (.error (.settings e)) := by
  rw [runWith]
  exact (Run.did_ofExcept_error _ hSettings).stop

/-- A run whose settings describe no client ends before anything is sent. -/
theorem did_runWith_of_not_configured (hWet : o.dryRun = false) {s : Settings}
    (hSettings : Settings.fromEnvironment environment = .ok s) (h : ¬ s.indexConfigured = true) :
    ∃ e, (runWith prices o environment replies).Did [] (.error (.connection e)) := by
  cases hMake : Connection.make "" "" s with
  | ok c => exact absurd (Connection.exists_make_iff.1 ⟨c, hMake⟩) h
  | error e =>
    refine ⟨e, ?_⟩
    rw [runWith]
    refine (Run.did_ofExcept _ hSettings).after ((Run.did_report _ _).after ?_)
    rw [if_neg (Bool.not_eq_true _ ▸ hWet)]
    exact (Run.did_ofExcept_error _ hMake).stop

/-! ## Runs that fail because of their batch size -/

/-- The run fails because of its batch size. -/
def Run.FailsBySize {α : Type} (r : Run α) : Prop := ∃ e, r.result = .error (.batches e)

theorem Run.Did.not_failsBySize {α : Type} {r : Run α} {calls : List Call}
    {result : Except Failure α} (h : r.Did calls result) (hOther : ∀ e, result ≠ .error (.batches e)) :
    ¬ r.FailsBySize := by
  rintro ⟨e, hFails⟩
  exact hOther e (h.result.symm.trans hFails)

/-- By the time the batch size is looked at, the index is cleared. -/
theorem did_runWith_of_unusable (h : IsConfigured environment) (hWet : o.dryRun = false)
    (hClears : replies.Clears o) (hSize : ¬ o.HasUsableSize) :
    ∃ e, (runWith prices o environment replies).Did (clearing o) (.error (.batches e)) := by
  obtain ⟨e, hSize⟩ := exists_batchSize_error hSize
  have hBatches :
      (writeBatches o replies.upsert (catalog prices)).Did [] (.error (.batches e)) := by
    rw [writeBatches]
    exact (Run.did_ofExcept_error _ hSize).stop
  have hRun := did_runWith h hWet (did_writeRecords hClears hBatches)
  rw [List.append_nil] at hRun
  exact ⟨e, hRun⟩

/-- Writing batches of a usable size does not fail because of the size. -/
theorem did_writeBatches_of_usable (hSize : o.HasUsableSize) (script : Script)
    (records : List VectorRecord) :
    ∃ calls result, (writeBatches o script records).Did calls result ∧
      ∀ e, result ≠ .error (.batches e) := by
  obtain ⟨n, hSize, hn⟩ := hSize
  rw [writeBatches]
  obtain hAll | ⟨k, hk, hBefore, f, hFault⟩ :=
    all_isValue_or_exists_fault script (Catalog.batches n.toNat records).length
  · refine ⟨_, .ok (), (Run.did_ofExcept _ (batchSize_of_le hSize hn)).after
      ((did_store hAll 0).bind (Run.did_report _ _)), ?_⟩
    rintro e ⟨⟩
  · refine ⟨_, .error (.index (.ofFault "upsert" f)),
      (Run.did_ofExcept _ (batchSize_of_le hSize hn)).after
        (did_store_fault hBefore hk hFault 0).stop, ?_⟩
    rintro e ⟨⟩

/-- A run fails because of its batch size exactly if it gets as far as to the first batch, and the
size is none. -/
theorem failsBySize_iff : (runWith prices o environment replies).FailsBySize ↔
    IsConfigured environment ∧ o.dryRun = false ∧ replies.Clears o ∧ ¬ o.HasUsableSize := by
  constructor
  · intro hFails
    have hRead : ∃ s, Settings.fromEnvironment environment = .ok s := by
      cases hSettings : Settings.fromEnvironment environment with
      | ok s => exact ⟨s, rfl⟩
      | error e =>
        refine absurd hFails ((did_runWith_of_error hSettings).not_failsBySize ?_)
        rintro e ⟨⟩
    obtain ⟨s, hSettings⟩ := hRead
    have hWet : o.dryRun = false := by
      by_contra hDry
      refine (did_dryRun (Bool.not_eq_false _ ▸ hDry) hSettings).not_failsBySize ?_ hFails
      rintro e ⟨⟩
    have hConfigured : IsConfigured environment := by
      refine ⟨s, hSettings, ?_⟩
      by_contra hNone
      obtain ⟨e, hDid⟩ := did_runWith_of_not_configured hWet hSettings hNone
      refine hDid.not_failsBySize ?_ hFails
      rintro e ⟨⟩
    have hClears : replies.Clears o := by
      intro hReset
      by_contra hFault
      obtain ⟨f, hFault⟩ := exists_fault_of_not_isValue hFault
      refine (did_runWith hConfigured hWet
        (did_writeRecords_fault hReset hFault)).not_failsBySize ?_ hFails
      rintro e ⟨⟩
    refine ⟨hConfigured, hWet, hClears, fun hSize => ?_⟩
    obtain ⟨calls, result, hDid, hOther⟩ :=
      did_writeBatches_of_usable hSize replies.upsert (catalog prices)
    exact (did_runWith hConfigured hWet
      (did_writeRecords hClears hDid)).not_failsBySize hOther hFails
  · rintro ⟨hConfigured, hWet, hClears, hSize⟩
    obtain ⟨e, hDid⟩ := did_runWith_of_unusable hConfigured hWet hClears hSize
    exact ⟨e, hDid.result⟩

/-- What a run has sent that fails because of its batch size. -/
theorem calls_of_failsBySize (h : (runWith prices o environment replies).FailsBySize) :
    (runWith prices o environment replies).calls = clearing o := by
  obtain ⟨hConfigured, hWet, hClears, hSize⟩ := failsBySize_iff.1 h
  obtain ⟨e, hDid⟩ := did_runWith_of_unusable hConfigured hWet hClears hSize
  exact hDid.calls

/-- The options of a run that fails because of its batch size. -/
theorem exists_options_of_failsBySize {arguments : List Text}
    (h : (run arguments environment replies).FailsBySize) :
    ∃ o, Options.parse arguments = .ok o ∧
      run arguments environment replies = runWith Catalog.defaultPrices o environment replies := by
  rw [run] at h ⊢
  cases hOptions : Options.parse arguments with
  | ok o => exact ⟨o, rfl, rfl⟩
  | error exit =>
    rw [hOptions] at h
    cases exit with
    | help | misuse =>
      obtain ⟨e, h⟩ := h
      cases h

/-- Options that ask for the index to be cleared, and for batches of no records. -/
def clearingArguments : List Text := ["--reset", "--batch-size", "0"]

theorem parse_clearingArguments :
    Options.parse clearingArguments = .ok ⟨false, true, some 0⟩ := by
  decide +kernel

theorem failsBySize_clearingArguments :
    (run clearingArguments Settings.shopVariables
      ⟨.steady Script.success, .steady Script.success⟩).FailsBySize := by
  obtain ⟨s, hSettings, hConfigured, -⟩ := Settings.exists_shop
  rw [run, parse_clearingArguments]
  refine failsBySize_iff.2 ⟨⟨s, hSettings, hConfigured⟩, rfl, fun _ => ⟨_, rfl⟩, ?_⟩
  rintro ⟨n, hSize, hn⟩
  cases hSize
  omega

/-- A run that fails because of its batch size may have cleared the index. -/
theorem not_sendsNothing :
    ¬ ∀ (arguments : List Text) (environment : Settings.Environment) (replies : Replies),
      (run arguments environment replies).FailsBySize →
      (run arguments environment replies).calls = [] := by
  intro hAll
  have hFails := failsBySize_clearingArguments
  have hNone := hAll _ _ _ hFails
  rw [run, parse_clearingArguments] at hFails hNone
  rw [calls_of_failsBySize hFails] at hNone
  cases hNone

/-- A run that fails because of its batch size has sent nothing exactly if it was not asked to clear
the index; otherwise the index is cleared, and nothing is stored. -/
theorem sendsNothing_iff {arguments : List Text}
    (h : (run arguments environment replies).FailsBySize) :
    ∃ o, Options.parse arguments = .ok o ∧
      ((run arguments environment replies).calls = [] ↔ o.reset = false) ∧
      (o.reset = true → (run arguments environment replies).calls = [.reset]) := by
  obtain ⟨o, hOptions, hRun⟩ := exists_options_of_failsBySize h
  rw [hRun] at h ⊢
  refine ⟨o, hOptions, ?_, ?_⟩
  · rw [calls_of_failsBySize h, clearing]
    cases o.reset <;> simp
  · intro hReset
    rw [calls_of_failsBySize h, clearing, if_pos hReset]

/-- The index is kept where it was not to be cleared. -/
theorem sendsNothing_of_emptyBatches :
    (run ["--batch-size=0"] Settings.shopVariables
      ⟨.steady Script.success, .steady Script.success⟩).FailsBySize ∧
    (run ["--batch-size=0"] Settings.shopVariables
      ⟨.steady Script.success, .steady Script.success⟩).calls = [] := by
  have hOptions : Options.parse ["--batch-size=0"] = .ok ⟨false, false, some 0⟩ := by
    decide +kernel
  have hFails : (run ["--batch-size=0"] Settings.shopVariables
      ⟨.steady Script.success, .steady Script.success⟩).FailsBySize := by
    obtain ⟨s, hSettings, hConfigured, -⟩ := Settings.exists_shop
    rw [run, hOptions]
    refine failsBySize_iff.2 ⟨⟨s, hSettings, hConfigured⟩, rfl, fun _ => ⟨_, rfl⟩, ?_⟩
    rintro ⟨n, hSize, hn⟩
    cases hSize
    omega
  obtain ⟨o, hParse, hNothing, -⟩ := sendsNothing_iff hFails
  rw [hOptions] at hParse
  cases hParse
  exact ⟨hFails, hNothing.2 rfl⟩

end Seeding

end Storefront
