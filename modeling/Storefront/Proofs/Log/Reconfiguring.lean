import Mathlib
import Storefront.Log.Session
import Storefront.Proofs.Log.Hiding

/-!
# Configurations that are not taken over

A configuration whose word names no threshold is refused, but only after the rendering and the secrets
were replaced. So three things are in force that need not belong together: the rendering and the secrets
of the last configuration of all, and the threshold of the last one that was taken over.

* `Journal.exists_inForce`: what is in force behind a sequence of actions, by induction over it.
* `Journal.actAll_of_alike`: journals that mask alike and agree otherwise write the same lines.
* `Journal.actAll_probe`: a call that shows the rendering and the secrets of a journal.
* `Journal.not_spares`: a refused configuration after which a secret is shown.
* `Journal.spares_iff_repeats`: the refused configurations that change no later line.
-/

namespace Storefront.Log

/-! ## Configurations -/

namespace Configuration

/-- The threshold is named by a word, and the secrets are texts. -/
def IsTyped (c : Configuration) : Prop :=
  ∃ (word : Text) (secrets : List Text),
    c.threshold = .text word ∧ c.secrets = .list (secrets.map .text)

/-- The secrets can be read, and the threshold is one. -/
def IsTaken (c : Configuration) : Prop :=
  (∃ s, Secrets.read c.secrets = .ok s) ∧ ∃ n, Log.threshold c.threshold = .ok n

theorem IsTyped.exists_read {c : Configuration} (h : c.IsTyped) :
    ∃ s, Secrets.read c.secrets = .ok s ∧ s.stranger = none := by
  obtain ⟨word, secrets, -, hSecrets⟩ := h
  exact ⟨.ofTexts secrets, by rw [hSecrets, read_texts], rfl⟩

end Configuration

theorem threshold_le {v : Value} {n : Nat} (h : threshold v = .ok n) : n ≤ Level.critical.rank := by
  have hTable : ∀ t ∈ thresholds, t.2 ≤ Level.critical.rank := by decide
  unfold threshold at h
  split at h
  · split at h
    · rename_i word _ m hFound
      cases h
      exact hTable _ (List.mem_of_find?_eq_some hFound)
    · cases h
  · cases h

namespace Journal

variable {j : Journal} {c : Configuration} {s : Secrets}

theorem configure_taken {n : Nat} (hRead : Secrets.read c.secrets = .ok s)
    (hThreshold : Log.threshold c.threshold = .ok n) :
    j.configure c =
      ({ j with
        rendering := c.rendering, secrets := s, threshold := n, attached := true,
        loggers := j.loggers.renew }, .ok ()) := by
  unfold configure
  rw [hRead]
  simp only [hThreshold]

theorem configure_refused {e : ThresholdError} (hRead : Secrets.read c.secrets = .ok s)
    (hThreshold : Log.threshold c.threshold = .error e) :
    j.configure c =
      ({ j with rendering := c.rendering, secrets := s, attached := j.attached || e.isOtherName },
        .error (.threshold e)) := by
  unfold configure
  rw [hRead]
  simp only [hThreshold]

end Journal

/-! ## What is in force -/

/-- The last of the configurations among some actions that satisfy a condition. -/
def IsLast (p : Configuration → Prop) (actions : List Action) (c : Configuration) : Prop :=
  ∃ earlier later, actions = earlier ++ .configure c :: later ∧ p c ∧
    ∀ c', Action.configure c' ∈ later → ¬ p c'

theorem isLast_append_self {p : Configuration → Prop} {c : Configuration} (hc : p c)
    (actions : List Action) : IsLast p (actions ++ [.configure c]) c :=
  ⟨actions, [], rfl, hc, fun _ h => nomatch h⟩

theorem IsLast.append {p : Configuration → Prop} {actions : List Action} {c : Configuration}
    (h : IsLast p actions c) {a : Action} (ha : ∀ c', a = .configure c' → ¬ p c') :
    IsLast p (actions ++ [a]) c := by
  obtain ⟨earlier, later, rfl, hc, hLater⟩ := h
  refine ⟨earlier, later ++ [a], by simp, hc, ?_⟩
  intro c' hMem
  rcases List.mem_append.1 hMem with hMem | hMem
  · exact hLater c' hMem
  · exact ha c' (List.mem_singleton.1 hMem).symm

theorem IsLast.mem {p : Configuration → Prop} {actions : List Action} {c : Configuration}
    (h : IsLast p actions c) : .configure c ∈ actions := by
  obtain ⟨earlier, later, rfl, -⟩ := h
  simp

/-- Every configuration is typed, and one of them is taken over. -/
structure IsConfigured (actions : List Action) : Prop where
  typed : ∀ c, .configure c ∈ actions → c.IsTyped
  taken : ∃ c, .configure c ∈ actions ∧ c.IsTaken

namespace Journal

/-- The rendering and the secrets are those of one configuration, and the threshold is that of another,
perhaps the same one. -/
structure InForce (j : Journal) (asked taken : Configuration) : Prop where
  rendering : j.rendering = asked.rendering
  secrets : Secrets.read asked.secrets = .ok j.secrets
  threshold : Log.threshold taken.threshold = .ok j.threshold
  attached : j.attached = true

theorem afterAll_append (j : Journal) (actions : List Action) (a : Action) :
    j.afterAll (actions ++ [a]) = ((j.afterAll actions).act a).2 := by
  rw [afterAll, List.foldl_append]
  rfl

/-- A configuration that is taken over puts all of its parts in force. -/
theorem inForce_of_isTaken (j : Journal) {c : Configuration} (h : c.IsTaken) :
    (j.configure c).1.InForce c c := by
  obtain ⟨⟨s, hRead⟩, n, hThreshold⟩ := h
  rw [configure_taken hRead hThreshold]
  exact ⟨rfl, hRead, hThreshold, rfl⟩

/-- A configuration that is refused still puts its rendering and its secrets in force. -/
theorem InForce.refused {j : Journal} {asked taken c : Configuration} (h : j.InForce asked taken)
    (hTyped : c.IsTyped) (hNot : ¬ c.IsTaken) : (j.configure c).1.InForce c taken := by
  obtain ⟨s, hRead, -⟩ := hTyped.exists_read
  cases hThreshold : Log.threshold c.threshold with
  | ok n => exact absurd ⟨⟨s, hRead⟩, n, hThreshold⟩ hNot
  | error e =>
    rw [configure_refused hRead hThreshold]
    refine ⟨rfl, hRead, h.threshold, ?_⟩
    rw [h.attached]
    rfl

theorem InForce.act {j : Journal} {asked taken : Configuration} (h : j.InForce asked taken)
    {a : Action} (ha : ∀ c, a ≠ .configure c) : (j.act a).2.InForce asked taken := by
  cases a with
  | configure c => exact absurd rfl (ha c)
  | step s =>
    cases s with
    | bind | clear | call => exact ⟨h.rendering, h.secrets, h.threshold, h.attached⟩
  | plain => exact ⟨h.rendering, h.secrets, h.threshold, h.attached⟩

/-- Behind a sequence of actions the rendering and the secrets of the last configuration are in force,
and the threshold of the last one that was taken over. -/
theorem exists_inForce (j : Journal) {actions : List Action} (h : IsConfigured actions) :
    ∃ asked taken, IsLast (fun _ => True) actions asked ∧
      IsLast Configuration.IsTaken actions taken ∧ (j.afterAll actions).InForce asked taken := by
  induction actions using List.reverseRecOn with
  | nil =>
    obtain ⟨c, hMem, -⟩ := h.taken
    cases hMem
  | append_singleton actions a ih =>
    rw [afterAll_append]
    have hTyped : ∀ c, .configure c ∈ actions → c.IsTyped := fun c hMem =>
      h.typed c (List.mem_append_left _ hMem)
    obtain ⟨c₀, hMem, hTaken₀⟩ := h.taken
    cases a with
    | configure c =>
      by_cases hTaken : c.IsTaken
      · exact ⟨c, c, isLast_append_self trivial actions, isLast_append_self hTaken actions,
          inForce_of_isTaken _ hTaken⟩
      · -- The configuration that is taken over stands further in front.
        have hBefore : .configure c₀ ∈ actions := by
          rcases List.mem_append.1 hMem with hMem | hMem
          · exact hMem
          · cases List.mem_singleton.1 hMem
            exact absurd hTaken₀ hTaken
        obtain ⟨asked, taken, -, hLast, hForce⟩ := ih ⟨hTyped, c₀, hBefore, hTaken₀⟩
        refine ⟨c, taken, isLast_append_self trivial actions, hLast.append ?_, ?_⟩
        · rintro c' ⟨⟩
          exact hTaken
        · exact hForce.refused (h.typed c (by simp)) hTaken
    | step | plain =>
      have hBefore : .configure c₀ ∈ actions := by simpa using hMem
      obtain ⟨asked, taken, hAsked, hLast, hForce⟩ := ih ⟨hTyped, c₀, hBefore, hTaken₀⟩
      exact ⟨asked, taken, hAsked.append (fun _ h => nomatch h), hLast.append (fun _ h => nomatch h),
        hForce.act (fun _ h => nomatch h)⟩

/-! ## Journals that write the same -/

/-- Journals that mask alike and do not differ otherwise. -/
structure Alike (j j' : Journal) : Prop where
  others : j' = { j with secrets := j'.secrets }
  masks : maskWith j.secrets = maskWith j'.secrets

theorem Alike.refl (j : Journal) : j.Alike j := ⟨rfl, rfl⟩

theorem entry_of_alike {j j' : Journal} (h : j.Alike j') (c : Call) : c.entry j = c.entry j' := by
  rw [h.others]
  unfold Call.entry
  rw [h.masks]

theorem perform_of_alike {j j' : Journal} (h : j.Alike j') (c : Call) :
    c.perform j = c.perform j' := by
  rw [Call.perform, Call.perform, entry_of_alike h, h.others]
  rfl

theorem loggersAfter_of_alike {j j' : Journal} (h : j.Alike j') (c : Call) :
    c.loggersAfter j = c.loggersAfter j' := by
  have hLoggers : j.loggers = j'.loggers := by rw [h.others]
  rw [Call.loggersAfter, Call.loggersAfter, entry_of_alike h, hLoggers]

/-- An action writes the same in journals that are alike, and leaves them alike. -/
theorem act_of_alike {j j' : Journal} (h : j.Alike j') (a : Action) :
    (j.act a).1 = (j'.act a).1 ∧ (j.act a).2.Alike (j'.act a).2 := by
  cases a with
  | configure c =>
    refine ⟨rfl, ?_⟩
    rw [h.others]
    show (j.configure c).1.Alike (Journal.configure { j with secrets := j'.secrets } c).1
    unfold configure
    cases Secrets.read c.secrets with
    | error m => exact ⟨rfl, h.masks⟩
    | ok s =>
      cases Log.threshold c.threshold with
      | ok n => exact .refl _
      | error e => exact .refl _
  | step s =>
    cases s with
    | bind fields =>
      refine ⟨rfl, ?_⟩
      rw [h.others]
      exact ⟨rfl, h.masks⟩
    | clear =>
      refine ⟨rfl, ?_⟩
      rw [h.others]
      exact ⟨rfl, h.masks⟩
    | call time c =>
      refine ⟨congrArg (fun lines => lines.toOption.getD []) (perform_of_alike h _), ?_⟩
      show Alike { j with loggers := (c.stamped time).loggersAfter j }
        { j' with loggers := (c.stamped time).loggersAfter j' }
      rw [loggersAfter_of_alike h, h.others]
      exact ⟨rfl, h.masks⟩
  | plain c =>
    rw [h.others]
    exact ⟨rfl, rfl, h.masks⟩

theorem actAll_of_alike {j j' : Journal} (h : j.Alike j') (actions : List Action) :
    j.actAll actions = j'.actAll actions := by
  induction actions generalizing j j' with
  | nil => rfl
  | cons a actions ih =>
    obtain ⟨hLines, hAlike⟩ := act_of_alike h a
    rw [actAll, actAll, hLines, ih hAlike]

/-! ## A call that shows what is in force -/

/-- A call of the highest level, whose event is a text. -/
def loudCall (t : Text) : Call := ⟨.text "app", "critical", .text t, [], [], []⟩

/-- The call behind which no field is bound. -/
def probe (t : Text) : List Action := [.step .clear, .step (.call none (loudCall t))]

/-- The entry of the call. -/
def loudEntry (secrets : List Text) (t : Text) : Line :=
  .entry [("event", .text (maskText secrets t)), ("level", .text (maskText secrets "critical")),
    ("logger", .text (maskText secrets "app"))]

/-- No threshold is above the highest level. -/
theorem admits_critical {j : Journal} (hAttached : j.attached = true)
    (hThreshold : j.threshold ≤ Level.critical.rank) (logger : Text) :
    j.admits logger .critical = true := by
  have hLowest : j.thresholdOf logger Level.critical.rank ≤ Level.critical.rank := by
    rw [thresholdOf, lowestRank_eq]
    split
    · decide
    · exact hThreshold
  rw [admits, admitsRank, hAttached, Bool.true_and, decide_eq_true_iff]
  exact ⟨by decide, Int.ofNat_le.2 hLowest⟩

theorem actAll_probe {j : Journal} (hAttached : j.attached = true)
    (hThreshold : j.threshold ≤ Level.critical.rank) (hStranger : j.secrets.stranger = none) (t : Text) :
    j.actAll (probe t) =
      [[], if j.rendering = .json then [loudEntry j.secrets.texts t] else []] := by
  have hCleared := admits_critical (j := j.clear) hAttached hThreshold "app"
  obtain ⟨rendering, ⟨texts, stranger⟩, threshold, attached, context, loggers⟩ := j
  dsimp only at hAttached hThreshold hStranger
  subst hAttached hStranger
  have hAdmits : admits ⟨rendering, ⟨texts, none⟩, threshold, true, [], loggers⟩ "app" .critical = true :=
    hCleared
  have hPerform : (loudCall t).perform ⟨rendering, ⟨texts, none⟩, threshold, true, [], loggers⟩ =
      .ok (put ⟨rendering, ⟨texts, none⟩, threshold, true, [], loggers⟩ "app" .critical
        (maskFields texts [("event", .text t), ("level", .text "critical"),
          ("logger", .text "app")])) :=
    rfl
  have hLines : actAll ⟨rendering, ⟨texts, none⟩, threshold, true, context, loggers⟩ (probe t) =
      [[], ((loudCall t).perform
        ⟨rendering, ⟨texts, none⟩, threshold, true, [], loggers⟩).toOption.getD []] :=
    rfl
  rw [hLines, hPerform]
  simp only [Except.toOption, Option.getD_some, put, hAdmits, and_true]
  rfl

/-! ## Refused configurations -/

theorem maskWith_congr {s s' : Secrets} (hs : s.stranger = none) (hs' : s'.stranger = none)
    (h : ∀ t, maskText s.texts t = maskText s'.texts t) : maskWith s = maskWith s' := by
  have hValue (v : Value) : maskValue s.texts v = maskValue s'.texts v := by
    cases v with
    | text t => exact congrArg Value.text (h t)
    | _ => rfl
  funext fields
  rw [maskWith, maskWith, hs, hs', maskFields, maskFields]
  simp only [hValue]

/-- The configuration has the rendering that is in force, and its secrets mask every text as those in
force do. -/
def Repeats (j : Journal) (c : Configuration) : Prop :=
  c.rendering = j.rendering ∧ ∃ s, Secrets.read c.secrets = .ok s ∧
    ∀ t, maskText s.texts t = maskText j.secrets.texts t

/-- Whatever happens later, every line is the one that would have been written without the
configuration. -/
def Spares (j : Journal) (c : Configuration) : Prop :=
  ∀ later, (j.configure c).1.actAll later = j.actAll later

variable {j : Journal} {asked taken c : Configuration}

theorem InForce.threshold_le (h : j.InForce asked taken) : j.threshold ≤ Level.critical.rank :=
  Log.threshold_le h.threshold

theorem InForce.stranger (h : j.InForce asked taken) (hAsked : asked.IsTyped) :
    j.secrets.stranger = none := by
  obtain ⟨s, hRead, hStranger⟩ := hAsked.exists_read
  cases hRead.symm.trans h.secrets
  exact hStranger

theorem InForce.actAll_probe (h : j.InForce asked taken) (hAsked : asked.IsTyped) (t : Text) :
    j.actAll (probe t) =
      [[], if j.rendering = .json then [loudEntry j.secrets.texts t] else []] :=
  Journal.actAll_probe h.attached h.threshold_le (h.stranger hAsked) t

/-- What repeats the rendering and the secrets in force leaves the journal as it is, but for secrets that
mask alike. -/
theorem spares_of_repeats (h : j.InForce asked taken) (hAsked : asked.IsTyped) (hTyped : c.IsTyped)
    {e : ThresholdError} (hLevel : Log.threshold c.threshold = .error e) (hRepeats : j.Repeats c) :
    j.Spares c := by
  obtain ⟨hRendering, s, hRead, hMasks⟩ := hRepeats
  have hStranger := h.stranger hAsked
  have hAttached := h.attached
  obtain ⟨s', hRead', hStranger'⟩ := hTyped.exists_read
  cases hRead.symm.trans hRead'
  intro later
  apply actAll_of_alike
  rw [configure_refused hRead hLevel]
  obtain ⟨rendering, secrets, threshold, attached, context, loggers⟩ := j
  dsimp only at hRendering hMasks hStranger hAttached ⊢
  rw [hRendering, hAttached]
  exact ⟨rfl, maskWith_congr hStranger' hStranger hMasks⟩

/-- The rendering and the secrets that are in force can be seen in a later line. -/
theorem repeats_of_spares (h : j.InForce asked taken) (hAsked : asked.IsTyped)
    (hForce : (j.configure c).1.InForce c taken) (hTyped : c.IsTyped)
    (hJson : c.rendering = .json ∨ j.rendering = .json) (hSpares : j.Spares c) : j.Repeats c := by
  have hProbe (t : Text) : (if c.rendering = .json then
      [loudEntry (j.configure c).1.secrets.texts t] else []) =
      if j.rendering = .json then [loudEntry j.secrets.texts t] else [] := by
    have hLines := hSpares (probe t)
    rw [hForce.actAll_probe hTyped, h.actAll_probe hAsked, hForce.rendering] at hLines
    exact (List.cons.inj (List.cons.inj hLines).2).1
  have hBoth : c.rendering = .json ∧ j.rendering = .json := by
    have hLines := hProbe []
    rcases hJson with hJson | hJson
    · refine ⟨hJson, ?_⟩
      by_contra hOther
      rw [if_pos hJson, if_neg hOther] at hLines
      cases hLines
    · refine ⟨?_, hJson⟩
      by_contra hOther
      rw [if_pos hJson, if_neg hOther] at hLines
      cases hLines
  refine ⟨hBoth.1.trans hBoth.2.symm, (j.configure c).1.secrets, hForce.secrets, ?_⟩
  intro t
  have hLines := hProbe t
  rw [if_pos hBoth.1, if_pos hBoth.2, loudEntry, loudEntry] at hLines
  simp only [List.cons.injEq, Line.entry.injEq, Prod.mk.injEq, Value.text.injEq] at hLines
  exact hLines.1.1.2

/-! ## A secret that is shown -/

/-- A configuration with a token as its only secret. -/
def guarded : Configuration := ⟨.json, .text "INFO", .list ([Text.ofString "tok"].map .text)⟩

/-- A configuration without secrets, and with a word that names no threshold. -/
def misnamed : Configuration := ⟨.json, .text "VERBOSE", .list (([] : List Text).map .text)⟩

theorem isConfigured_guarded : IsConfigured [.configure guarded] where
  typed c hMem := by
    cases List.mem_singleton.1 hMem
    exact ⟨_, _, rfl, rfl⟩
  taken := ⟨guarded, List.mem_singleton_self _, ⟨.ofTexts ["tok"], read_texts _⟩, 20, by rfl⟩

theorem threshold_misnamed (n : Nat) : Log.threshold misnamed.threshold ≠ .ok n := by
  have hError : Log.threshold misnamed.threshold = .error (.unknown "VERBOSE") := by rfl
  rw [hError]
  exact nofun

/-- A configuration that is refused shows the token in a later line. -/
theorem not_spares :
    ¬ ∀ (actions : List Action) (c : Configuration), IsConfigured actions → c.IsTyped →
      (∀ n, Log.threshold c.threshold ≠ .ok n) → (initial.afterAll actions).Spares c := by
  intro hAll
  have hSpares := hAll [.configure guarded] misnamed isConfigured_guarded ⟨_, _, rfl, rfl⟩
    threshold_misnamed (probe "tok")
  have hShown : ((initial.afterAll [.configure guarded]).configure misnamed).1.actAll (probe "tok") =
      [[], [loudEntry [] "tok"]] := by
    rfl
  have hMasked : (initial.afterAll [.configure guarded]).actAll (probe "tok") =
      [[], [loudEntry ["tok"] "tok"]] := by
    rfl
  rw [hShown, hMasked, loudEntry, loudEntry] at hSpares
  simp only [List.cons.injEq, Line.entry.injEq, Prod.mk.injEq, Value.text.injEq] at hSpares
  have hDiffers : maskText [] "tok" ≠ maskText ["tok"] "tok" := by decide
  exact hDiffers hSpares.2.1.1.1.2

/-! ## All refused configurations -/

/-- Configuring is refused where the word names no threshold, and then the threshold of the last
configuration that was taken over stays in force. The rendering and the secrets do not: they are those
of the refused one. So no later line changes if it repeats the rendering and the secrets in force, and
where entries are written, by it or before it, only then. -/
theorem spares_iff_repeats (j : Journal) {actions : List Action} (h : IsConfigured actions)
    {c : Configuration} (hTyped : c.IsTyped) (hLevel : ∀ n, Log.threshold c.threshold ≠ .ok n) :
    (∃ e, ((j.afterAll actions).configure c).2 = .error (.threshold e)) ∧
    (∃ asked taken, IsLast (fun _ => True) actions asked ∧ IsLast Configuration.IsTaken actions taken ∧
      (j.afterAll actions).InForce asked taken ∧
      ((j.afterAll actions).configure c).1.InForce c taken) ∧
    ((j.afterAll actions).Repeats c → (j.afterAll actions).Spares c) ∧
    (c.rendering = .json ∨ (j.afterAll actions).rendering = .json →
      ((j.afterAll actions).Spares c ↔ (j.afterAll actions).Repeats c)) := by
  obtain ⟨e, hError⟩ : ∃ e, Log.threshold c.threshold = .error e := by
    cases hThreshold : Log.threshold c.threshold with
    | ok n => exact absurd hThreshold (hLevel n)
    | error e => exact ⟨e, rfl⟩
  have hNot : ¬ c.IsTaken := fun hTaken => hTaken.2.elim hLevel
  obtain ⟨asked, taken, hAsked, hTaken, hForce⟩ := j.exists_inForce h
  have hAskedTyped := h.typed asked hAsked.mem
  have hAfter := hForce.refused hTyped hNot
  have hSpares := spares_of_repeats hForce hAskedTyped hTyped hError
  refine ⟨?_, ⟨asked, taken, hAsked, hTaken, hForce, hAfter⟩, hSpares, ?_⟩
  · obtain ⟨s, hRead, -⟩ := hTyped.exists_read
    rw [configure_refused hRead hError]
    exact ⟨e, rfl⟩
  · intro hJson
    exact ⟨repeats_of_spares hForce hAskedTyped hAfter hTyped hJson, hSpares⟩

/-- A configuration that hides the token, with a word that names something else. -/
def repeated : Configuration :=
  ⟨.json, .text "basic_format", .list (([[], "tok"] : List Text).map .text)⟩

/-- One configuration is taken over, and one is refused that hides something else. -/
def repeatedActions : List Action :=
  [.configure guarded, .step (.bind [("request_id", .text "r-1")]),
   .configure ⟨.json, .text "loud", .list (([Text.ofString "key"]).map .text)⟩,
   .plain ⟨.text "httpx", "info", .text "GET %s", [.text "/"]⟩, .configure guarded]

/-- Hiding the token again changes no later line. -/
theorem spares_repeated :
    IsConfigured repeatedActions ∧ repeated.IsTyped ∧
      (∀ n, Log.threshold repeated.threshold ≠ .ok n) ∧
      (initial.afterAll repeatedActions).Spares repeated := by
  have hConfigured : IsConfigured repeatedActions := by
    refine ⟨?_, guarded, by simp [repeatedActions], ⟨.ofTexts ["tok"], read_texts _⟩, 20, by rfl⟩
    intro c hMem
    simp only [repeatedActions, List.mem_cons, List.not_mem_nil, or_false, Action.configure.injEq,
      reduceCtorEq, false_or] at hMem
    obtain rfl | rfl | rfl := hMem
    · exact ⟨_, _, rfl, rfl⟩
    · exact ⟨_, _, rfl, rfl⟩
    · exact ⟨_, _, rfl, rfl⟩
  have hTyped : repeated.IsTyped := ⟨_, _, rfl, rfl⟩
  have hLevel : ∀ n, Log.threshold repeated.threshold ≠ .ok n := by
    have hError : Log.threshold repeated.threshold = .error .lineFormat := by rfl
    intro n
    rw [hError]
    exact nofun
  obtain ⟨-, -, hSpares, -⟩ := initial.spares_iff_repeats hConfigured hTyped hLevel
  refine ⟨hConfigured, hTyped, hLevel, hSpares ⟨rfl, .ofTexts ["tok"], by rfl, fun t => rfl⟩⟩

end Journal

end Storefront.Log
