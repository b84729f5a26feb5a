import Mathlib
import Storefront.Proofs.Log.Lineage
import Storefront.Proofs.Log.Reconfiguring

/-!
# Thresholds of loggers

The threshold of a journal is that of the last configuration that was taken over. Quiet loggers, and
those below them, have a threshold of their own in its place, which lets warnings pass also where the
journal asks for more. So a quiet logger does not just write less than others: where only errors are
asked for, it still writes warnings.

* `Loggers.IsStocked`: the quiet loggers are there, whatever calls do to loggers.
* `admitsRank_loggersAfter`: calls that make no difference to what loggers write.
* `Journal.threshold_afterAll`: the threshold behind a sequence of actions, by induction over it.
* `Journal.writes_iff`: the calls whose entries are written.
* `Journal.not_heeds`: a warning that is written although errors were asked for.
* `Journal.heeds_iff`: the calls that heed the threshold.
-/

namespace Storefront.Log

/-! ## The loggers in force -/

/-- Whatever a logger goes by, the quiet loggers are there. -/
structure Loggers.IsStocked (ls : Loggers) : Prop where
  made : quietLoggers ⊆ ls.made
  settled : ∀ e ∈ ls.settled, quietLoggers ⊆ e.2

namespace Loggers

variable {ls : Loggers}

theorem mem_foldr_insert {name : Text} {names : List Text} (h : name ∈ names) (made : List Text) :
    name ∈ names.foldr List.insert made := by
  induction names with
  | nil => cases h
  | cons other names ih =>
    rw [List.foldr_cons]
    rcases List.mem_cons.1 h with rfl | hLater
    · exact List.mem_insert_self
    · exact List.mem_insert_of_mem (ih hLater)

theorem isStocked_renew (ls : Loggers) : ls.renew.IsStocked :=
  ⟨fun _ hQuiet => mem_foldr_insert hQuiet ls.made, fun _ he => nomatch he⟩

theorem IsStocked.make (h : ls.IsStocked) (logger : Text) : (ls.make logger).IsStocked :=
  ⟨fun _ hQuiet => List.mem_insert_of_mem (h.made hQuiet), h.settled⟩

theorem IsStocked.subset_seenBy (h : ls.IsStocked) (logger : Text) (rank : Int) :
    quietLoggers ⊆ ls.seenBy logger rank := by
  rw [seenBy]
  cases hFound : ls.settled.lookup (logger, rank) with
  | none => exact h.made
  | some seen =>
    obtain ⟨front, back, hSplit, -⟩ := List.lookup_eq_some_iff.1 hFound
    exact h.settled ((logger, rank), seen) (hSplit ▸ List.mem_append_right _ List.mem_cons_self)

theorem IsStocked.settle (h : ls.IsStocked) (logger : Text) (rank : Int) :
    (ls.settle logger rank).IsStocked := by
  refine ⟨h.made, fun e he => ?_⟩
  rcases List.mem_cons.1 he with rfl | hBefore
  · exact h.subset_seenBy logger rank
  · exact h.settled e hBefore

end Loggers

theorem isStocked_call {j : Journal} (h : j.loggers.IsStocked) (c : Call) :
    (c.loggersAfter j).IsStocked := by
  rw [Call.loggersAfter]
  split
  · exact h
  · split
    · exact h.make _
    · exact (h.make _).settle _ _

theorem isStocked_plainCall {ls : Loggers} (h : ls.IsStocked) (c : PlainCall) :
    (c.loggersAfter ls).IsStocked := by
  rw [PlainCall.loggersAfter]
  split
  · exact h
  · split
    · exact h.make _
    · exact (h.make _).settle _ _

/-! ## Loggers that make no difference -/

namespace Loggers

variable {ls : Loggers} {name : Text}

/-- What a logger goes by is settled as it is. -/
theorem seenBy_settle (ls : Loggers) (name : Text) (rank : Int) (logger : Text) (rank' : Int) :
    (ls.settle name rank).seenBy logger rank' = ls.seenBy logger rank' := by
  rw [settle, seenBy, List.lookup_cons]
  by_cases hSame : (logger, rank') = (name, rank)
  · cases hSame
    rw [beq_self_eq_true]
    rfl
  · rw [beq_false_of_ne hSame]
    rfl

theorem isQuiet_seenBy_make (hEnd : name.getLast? ≠ some (.char '.')) (hLoud : name ∉ quietLoggers)
    (ls : Loggers) (logger : Text) (rank : Int) :
    isQuiet ((ls.make name).seenBy logger rank) logger = isQuiet (ls.seenBy logger rank) logger := by
  have hSettled : (ls.make name).settled = ls.settled := rfl
  rw [seenBy, seenBy, hSettled]
  cases ls.settled.lookup (logger, rank) with
  | none => exact isQuiet_insert hEnd hLoud ls.made logger
  | some seen => rfl

end Loggers

/-- Behind a call whose logger is not quiet, and whose name does not end in a dot, all loggers write as they
did. -/
theorem admitsRank_loggersAfter {c : Call} {name : Text} (hCall : c.addressed = .ok name)
    (hEnd : name.getLast? ≠ some (.char '.')) (hLoud : name ∉ quietLoggers) (j : Journal) (logger : Text)
    (rank : Int) :
    Journal.admitsRank { j with loggers := c.loggersAfter j } logger rank = j.admitsRank logger rank := by
  have hQuiet : isQuiet ((c.loggersAfter j).seenBy logger rank) logger =
      isQuiet (j.loggers.seenBy logger rank) logger := by
    rw [Call.loggersAfter, hCall]
    dsimp only
    split
    · exact Loggers.isQuiet_seenBy_make hEnd hLoud j.loggers logger rank
    · rw [Loggers.seenBy_settle]
      exact Loggers.isQuiet_seenBy_make hEnd hLoud j.loggers logger rank
  rw [Journal.admitsRank, Journal.admitsRank, Journal.thresholdOf, Journal.thresholdOf, lowestRank_eq,
    lowestRank_eq]
  simp only [hQuiet]

namespace Journal

variable {j : Journal} {a : Action} {c : Configuration} {logger : Text} {rank : Int}

/-! ## The threshold in force -/

/-- The journals have the same threshold, an output that is attached stays attached, and the quiet
loggers stay there. -/
structure KeepsThreshold (j j' : Journal) : Prop where
  threshold : j'.threshold = j.threshold
  attached : j.attached = true → j'.attached = true
  loggers : j.loggers.IsStocked → j'.loggers.IsStocked

theorem KeepsThreshold.refl (j : Journal) : j.KeepsThreshold j := ⟨rfl, id, id⟩

theorem KeepsThreshold.trans {j j' j'' : Journal} (h : j.KeepsThreshold j')
    (h' : j'.KeepsThreshold j'') : j.KeepsThreshold j'' :=
  ⟨h'.threshold.trans h.threshold, fun hAttached => h'.attached (h.attached hAttached),
    fun hStocked => h'.loggers (h.loggers hStocked)⟩

/-- Only a configuration that is taken over changes the threshold. -/
theorem keepsThreshold_act (j : Journal) (ha : ∀ c, a = .configure c → ¬ c.IsTaken) :
    j.KeepsThreshold (j.act a).2 := by
  cases a with
  | configure c =>
    cases hRead : Secrets.read c.secrets with
    | error m =>
      have hSame : j.configure c = (j, .error (.secrets m)) := by
        unfold configure
        rw [hRead]
      rw [act, hSame]
      exact .refl j
    | ok s =>
      cases hThreshold : Log.threshold c.threshold with
      | ok n => exact absurd ⟨⟨s, hRead⟩, n, hThreshold⟩ (ha c rfl)
      | error e =>
        rw [act, configure_refused hRead hThreshold]
        refine ⟨rfl, fun hAttached => ?_, id⟩
        rw [hAttached, Bool.true_or]
  | step s =>
    cases s with
    | bind | clear => exact ⟨rfl, id, id⟩
    | call time c => exact ⟨rfl, id, fun hStocked => isStocked_call hStocked _⟩
  | plain c => exact ⟨rfl, id, fun hStocked => isStocked_plainCall hStocked c⟩

theorem keepsThreshold_afterAll (j : Journal) {actions : List Action}
    (h : ∀ c, .configure c ∈ actions → ¬ c.IsTaken) : j.KeepsThreshold (j.afterAll actions) := by
  induction actions generalizing j with
  | nil => exact .refl j
  | cons a actions ih =>
    have hFirst := keepsThreshold_act (a := a) j fun c hc => h c (hc ▸ List.mem_cons_self)
    exact hFirst.trans (ih (j.act a).2 fun c hc => h c (List.mem_cons_of_mem a hc))

/-- The threshold of the last configuration that was taken over is in force, and the quiet loggers are
there. -/
theorem threshold_afterAll (j : Journal) {actions : List Action}
    (h : IsLast Configuration.IsTaken actions c) :
    Log.threshold c.threshold = .ok (j.afterAll actions).threshold ∧
      (j.afterAll actions).attached = true ∧ (j.afterAll actions).loggers.IsStocked := by
  obtain ⟨earlier, later, rfl, hTaken, hLater⟩ := h
  have hForce := inForce_of_isTaken (j.afterAll earlier) hTaken
  have hKeeps := keepsThreshold_afterAll ((j.afterAll earlier).configure c).1 hLater
  have hAfter : j.afterAll (earlier ++ .configure c :: later) =
      ((j.afterAll earlier).configure c).1.afterAll later := List.foldl_append
  have hStocked : ((j.afterAll earlier).configure c).1.loggers.IsStocked := by
    obtain ⟨⟨s, hRead⟩, n, hThreshold⟩ := hTaken
    rw [configure_taken hRead hThreshold]
    exact Loggers.isStocked_renew _
  rw [hAfter, hKeeps.threshold]
  exact ⟨hForce.threshold, hKeeps.attached hForce.attached, hKeeps.loggers hStocked⟩

/-! ## Calls and what they write -/

/-- An action is a call that brings an entry to a logger, and the rank that it is to be written at. A
call that goes wrong brings none, and neither does one from elsewhere whose template has a mistake. -/
inductive Brings (j : Journal) : Action → Text → Int → Prop
  | call {time : Option Text} {c : Call} {logger : Text} {level : Level} {masked : Fields}
      (hEntry : (c.stamped time).entry j = .ok (logger, level, masked)) :
      Brings j (.step (.call time c)) logger level.rank
  | plain {c : PlainCall} {logger t : Text} {rank : Int} {event : Value} {arguments : List Value}
      (hLogger : readLogger c.logger = .ok logger)
      (hRead : c.read logger = .ok (rank, event, arguments))
      (hFits : Template.fill event.render arguments = .ok t) : Brings j (.plain c) logger rank

/-- An action writes a line. How entries are rendered makes no difference to that, but only those in
JSON are kept. -/
def Writes (j : Journal) (a : Action) : Prop :=
  (Journal.act { j with rendering := .json } a).1 ≠ []

theorem put_ne_nil_iff {level : Level} {masked : Fields} (h : j.rendering = .json) :
    j.put logger level masked ≠ [] ↔ j.admitsRank logger level.rank = true := by
  rw [put, admits]
  simp [h]

theorem writePlain_ne_nil_iff {template t : Text} {arguments : List Value}
    (hFits : Template.fill template arguments = .ok t) :
    j.writePlain logger rank template arguments ≠ [] ↔ j.admitsRank logger rank = true := by
  rw [writePlain, hFits]
  simp

/-- What a call from elsewhere adds: the line, and another one where an exception is reported. -/
theorem exists_perform_plain {c : PlainCall} {event : Value} {arguments : List Value} (j : Journal)
    (hLogger : readLogger c.logger = .ok logger)
    (hRead : c.read logger = .ok (rank, event, arguments)) :
    ∃ lines, c.perform j = .ok lines ∧
      (lines ≠ [] ↔ j.writePlain logger rank event.render arguments ≠ []) := by
  refine ⟨_, bind_eq_ok_iff.2 ⟨logger, hLogger, bind_eq_ok_iff.2 ⟨_, hRead, rfl⟩⟩, ?_⟩
  split
  · rename_i hException
    refine iff_of_true (by simp) ?_
    simpa using hException.2
  · rfl

/-- An entry is written exactly if its logger admits its rank. -/
theorem writes_iff (h : j.Brings a logger rank) : j.Writes a ↔ j.admitsRank logger rank = true := by
  cases h with
  | @call time c _ level masked hEntry =>
    have hJson : (c.stamped time).perform { j with rendering := .json } =
        .ok (put { j with rendering := .json } logger level masked) := by
      have hSame : (c.stamped time).entry { j with rendering := .json } = (c.stamped time).entry j := rfl
      rw [Call.perform, hSame, hEntry]
      rfl
    rw [Writes, act, step, hJson]
    exact put_ne_nil_iff rfl
  | @plain c _ t _ event arguments hLogger hRead hFits =>
    obtain ⟨lines, hPerform, hLines⟩ :=
      exists_perform_plain { j with rendering := .json } hLogger hRead
    rw [Writes, act, hPerform]
    exact hLines.trans (writePlain_ne_nil_iff hFits)

/-! ## Calls that heed the threshold -/

/-- A logger is quiet, by the loggers that it goes by at a rank. -/
def Quiets (j : Journal) (logger : Text) (rank : Int) : Prop :=
  IsQuiet (j.loggers.seenBy logger rank) logger

/-- The entry that a call brings is written exactly if its rank is no lower than the threshold, and no
lower than that of a warning where the logger is quiet. -/
def Heeds (j : Journal) (threshold : Nat) (a : Action) (logger : Text) (rank : Int) : Prop :=
  j.Writes a ↔ (threshold : Int) ≤ rank ∧ (j.Quiets logger rank → (Level.warning.rank : Int) ≤ rank)

/-- A quiet logger brings an entry from a warning on, but below the threshold. -/
def IsTooLoud (j : Journal) (threshold : Nat) (logger : Text) (rank : Int) : Prop :=
  j.Quiets logger rank ∧ (Level.warning.rank : Int) ≤ rank ∧ rank < threshold

/-- Another logger brings an entry at rank zero, and no threshold is above that. No level has this rank. -/
def IsNought (j : Journal) (threshold : Nat) (logger : Text) (rank : Int) : Prop :=
  ¬ j.Quiets logger rank ∧ threshold = 0 ∧ rank = 0

theorem admitsRank_iff (hAttached : j.attached = true) : j.admitsRank logger rank = true ↔
    0 < rank ∧ (j.Quiets logger rank → (Level.warning.rank : Int) ≤ rank) ∧
      (¬ j.Quiets logger rank → (j.threshold : Int) ≤ rank) := by
  rw [admitsRank, hAttached, Bool.true_and, decide_eq_true_iff, thresholdOf, lowestRank_eq]
  by_cases hQuiet : j.Quiets logger rank
  · rw [if_pos (isQuiet_iff.2 hQuiet)]
    simp [hQuiet]
  · rw [if_neg (mt isQuiet_iff.1 hQuiet)]
    simp [hQuiet]

/-- The journal asks for errors. -/
def errorsOnly : Configuration := ⟨.json, .text "error", .list []⟩

theorem isTaken_errorsOnly : errorsOnly.IsTaken := ⟨⟨.ofTexts [], rfl⟩, Level.error.rank, rfl⟩

/-- A warning of a library. -/
def slowResponse : PlainCall := ⟨.text "httpx", "warning", .text "slow response", []⟩

/-- A warning of a library is written although only errors were asked for. -/
theorem not_heeds : ¬ ∀ (actions : List Action) (c : Configuration) (threshold : Nat),
    (∀ c', .configure c' ∈ actions → c'.IsTaken) → IsLast Configuration.IsTaken actions c →
    Log.threshold c.threshold = .ok threshold →
    ∀ (a : Action) (logger : Text) (level : Level),
      (initial.afterAll actions).Brings a logger level.rank →
      (initial.afterAll actions).Heeds threshold a logger level.rank := by
  intro hAll
  have hTaken : ∀ c', Action.configure c' ∈ [Action.configure errorsOnly] → c'.IsTaken := by
    intro c' hMem
    cases List.mem_singleton.1 hMem
    exact isTaken_errorsOnly
  have hHeeds := hAll [.configure errorsOnly] errorsOnly Level.error.rank hTaken
    (isLast_append_self isTaken_errorsOnly []) rfl (.plain slowResponse) "httpx" .warning
    (.plain rfl rfl rfl)
  have hWrites : (initial.afterAll [.configure errorsOnly]).Writes (.plain slowResponse) := by
    rw [Writes]
    decide
  exact absurd (hHeeds.1 hWrites).1 (by decide)

/-- Behind any sequence of actions the threshold of the last configuration that was taken over decides
what is written, but for quiet loggers, which write warnings and whatever is more serious. So a call
heeds that threshold unless it comes from a quiet logger, with a rank from a warning on and below the
threshold, or has rank zero where everything was asked for. Loggers without two dots in a row are quiet by
their names, whatever other loggers there are. -/
theorem heeds_iff (j : Journal) {actions : List Action} {c : Configuration} {threshold : Nat}
    (hLast : IsLast Configuration.IsTaken actions c)
    (hThreshold : Log.threshold c.threshold = .ok threshold) {a : Action} {logger : Text} {rank : Int}
    (hBrings : (j.afterAll actions).Brings a logger rank) :
    ((j.afterAll actions).Writes a ↔ 0 < rank ∧
      ((j.afterAll actions).Quiets logger rank → (Level.warning.rank : Int) ≤ rank) ∧
        (¬ (j.afterAll actions).Quiets logger rank → (threshold : Int) ≤ rank)) ∧
    ((j.afterAll actions).Heeds threshold a logger rank ↔
      ¬ (j.afterAll actions).IsTooLoud threshold logger rank ∧
        ¬ (j.afterAll actions).IsNought threshold logger rank) ∧
    (IsPlain logger → ((j.afterAll actions).Quiets logger rank ↔ IsQuietName logger)) := by
  obtain ⟨hForce, hAttached, hStocked⟩ := j.threshold_afterAll hLast
  cases hThreshold.symm.trans hForce
  have hWrites := (writes_iff hBrings).trans (admitsRank_iff hAttached)
  refine ⟨hWrites, ?_, isQuiet_iff_of_isPlain (hStocked.subset_seenBy logger rank)⟩
  rw [Heeds, hWrites, IsTooLoud, IsNought]
  have hWarning : (0 : Int) < Level.warning.rank := by decide
  by_cases hQuiet : (j.afterAll actions).Quiets logger rank
  · simp only [hQuiet, true_implies, not_true_eq_false, false_implies, true_and, and_true, false_and,
      not_false_eq_true]
    omega
  · simp only [hQuiet, false_implies, not_false_eq_true, true_implies, true_and, and_true, false_and]
    omega

/-- Errors are asked for between other things, and what is asked for later is refused. -/
def busyActions : List Action :=
  [.configure ⟨.console, .text "Warn", .list []⟩, .step (.bind [("request_id", .text "r-1")]),
   .configure errorsOnly, .plain slowResponse, .configure ⟨.json, .text "loud", .list []⟩]

/-- What a client of a library reports about each of its requests. -/
def clientCall : Call := ⟨.text "httpx.client", "info", .text "GET %s", [.text "/"], [], []⟩

/-- Reports of requests are not written, as errors were asked for. -/
theorem heeds_clientCall :
    IsLast Configuration.IsTaken busyActions errorsOnly ∧
      (initial.afterAll busyActions).Brings (.step (.call none clientCall)) "httpx.client"
        Level.info.rank ∧
      (initial.afterAll busyActions).Quiets "httpx.client" Level.info.rank ∧
      (initial.afterAll busyActions).Heeds Level.error.rank (.step (.call none clientCall))
        "httpx.client" Level.info.rank ∧
      ¬ (initial.afterAll busyActions).Writes (.step (.call none clientCall)) := by
  have hLast : IsLast Configuration.IsTaken busyActions errorsOnly := by
    refine ⟨busyActions.take 2, busyActions.drop 3, rfl, isTaken_errorsOnly, ?_⟩
    rintro c hMem ⟨-, n, hLevel⟩
    obtain rfl : c = ⟨.json, .text "loud", .list []⟩ := by simpa [busyActions] using hMem
    cases hLevel
  have hBrings : (initial.afterAll busyActions).Brings (.step (.call none clientCall)) "httpx.client"
      Level.info.rank := .call rfl
  have hName : IsQuietName "httpx.client" := ⟨"httpx", by decide, .inr ⟨"client", rfl⟩⟩
  have hThreshold : Log.threshold errorsOnly.threshold = .ok Level.error.rank := rfl
  obtain ⟨hWrites, hHeeds, hPlain⟩ := initial.heeds_iff hLast hThreshold hBrings
  have hQuiet := (hPlain (by rw [IsPlain]; decide)).2 hName
  refine ⟨hLast, hBrings, hQuiet, hHeeds.2 ⟨?_, ?_⟩, fun hWritten => ?_⟩
  · rintro ⟨-, hRank, -⟩
    exact absurd hRank (by decide)
  · rintro ⟨-, -, hRank⟩
    exact absurd hRank (by decide)
  · exact absurd ((hWrites.1 hWritten).2.1 hQuiet) (by decide)

end Journal

end Storefront.Log
