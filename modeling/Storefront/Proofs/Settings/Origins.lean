import Mathlib
import Storefront.Proofs.Json.Weights
import Storefront.Proofs.Settings.Usable

/-!
# Origins in a text

A text with origins between commas is split where it is given in code. In the environment it is read
as JSON before that. A text in JSON is longer than what it stands for, so what is read there is never
the list that was written, and mostly nothing can be read at all.

* `Lists`: the texts that list origins.
* `splitOrigins_of_lists`: such a text is split into the origins that it lists.
* `weight_splitOrigins`: splitting a text leaves out commas and blanks only.
* `forTesting_of_lists`: the text in code.
* `not_obtains_of_lists`, `unreadable_of_lists`: the text in the environment.
-/

namespace Storefront

open Validation (Checked Flaw)

namespace Settings

/-! ## Lists of origins -/

def AreBlank (t : Text) : Prop := ∀ p ∈ t, Text.isBlank p = true

/-- A text that is not empty, with no comma in it and no blank at its ends. -/
structure IsOrigin (o : Text) : Prop where
  head : ∃ p ∈ o.head?, Text.isBlank p = false
  last : ∃ p ∈ o.getLast?, Text.isBlank p = false
  noComma : CodePoint.char ',' ∉ o

/-- Each piece is an origin with blanks around it, or blank. -/
inductive Holds : List Text → List Text → Prop
  | nil : Holds [] []
  | blank {piece : Text} {pieces origins : List Text} (hPiece : AreBlank piece)
      (hMore : Holds pieces origins) : Holds (piece :: pieces) origins
  | origin {before o after : Text} {pieces origins : List Text} (hBefore : AreBlank before)
      (hOrigin : IsOrigin o) (hAfter : AreBlank after) (hMore : Holds pieces origins) :
      Holds ((before ++ o ++ after) :: pieces) (o :: origins)

/-- The origins stand in the text with commas between them. Blanks may stand around the commas, and
nothing, or nothing but blanks, between two of them. -/
def Lists (t : Text) (origins : List Text) : Prop :=
  origins ≠ [] ∧ ∃ pieces, Holds pieces origins ∧ t = Text.join "," pieces

theorem join_cons_cons (piece next : Text) (pieces : List Text) :
    Text.join "," (piece :: next :: pieces) =
      piece ++ .char ',' :: Text.join "," (next :: pieces) := by
  simp [Text.join, Text.ofString, Text.ofChars]

theorem exists_join_cons (piece : Text) (pieces : List Text) :
    ∃ rest, Text.join "," (piece :: pieces) = piece ++ rest := by
  cases pieces with
  | nil => exact ⟨[], by simp [Text.join]⟩
  | cons next pieces => exact ⟨_, join_cons_cons piece next pieces⟩

/-! ## Splitting -/

theorem dropWhile_isBlank {before t : Text} (hBefore : AreBlank before)
    (ht : ∃ p ∈ t.head?, Text.isBlank p = false) : (before ++ t).dropWhile Text.isBlank = t := by
  obtain ⟨p, hp, hFirst⟩ := ht
  obtain ⟨rest, rfl⟩ := List.head?_eq_some_iff.1 hp
  rw [List.dropWhile_append_of_pos hBefore, List.dropWhile_cons_of_neg (by simp [hFirst])]

theorem stripWhile_isBlank {before o after : Text} (hBefore : AreBlank before) (ho : IsOrigin o)
    (hAfter : AreBlank after) : Text.stripWhile Text.isBlank (before ++ o ++ after) = o := by
  obtain ⟨p, hp, hFirst⟩ := ho.head
  have hFront : ∃ q ∈ (o ++ after).head?, Text.isBlank q = false := by
    obtain ⟨rest, rfl⟩ := List.head?_eq_some_iff.1 hp
    exact ⟨p, rfl, hFirst⟩
  have hBack : ∃ q ∈ o.reverse.head?, Text.isBlank q = false := by
    rw [List.head?_reverse]
    exact ho.last
  have hReversed : AreBlank after.reverse := fun q hq => hAfter q (List.mem_reverse.1 hq)
  rw [Text.stripWhile, List.append_assoc, dropWhile_isBlank hBefore hFront, List.reverse_append,
    dropWhile_isBlank hReversed hBack, List.reverse_reverse]

theorem stripWhile_of_areBlank {t : Text} (h : AreBlank t) : Text.stripWhile Text.isBlank t = [] := by
  rw [Text.stripWhile, List.dropWhile_eq_nil_iff.2 h]
  rfl

theorem comma_not_mem_of_areBlank {t : Text} (h : AreBlank t) : CodePoint.char ',' ∉ t := by
  intro hComma
  have hBlank := h _ hComma
  revert hBlank
  decide

theorem comma_not_mem_of_holds {pieces origins : List Text} (h : Holds pieces origins) :
    ∀ piece ∈ pieces, CodePoint.char ',' ∉ piece := by
  induction h with
  | nil => exact fun _ h => absurd h List.not_mem_nil
  | blank hPiece _ ih => exact List.forall_mem_cons.2 ⟨comma_not_mem_of_areBlank hPiece, ih⟩
  | origin hBefore hOrigin hAfter _ ih =>
    refine List.forall_mem_cons.2 ⟨?_, ih⟩
    rw [List.mem_append, List.mem_append]
    rintro ((hComma | hComma) | hComma)
    · exact comma_not_mem_of_areBlank hBefore hComma
    · exact hOrigin.noComma hComma
    · exact comma_not_mem_of_areBlank hAfter hComma

theorem splitOrigins_of_lists {t : Text} {origins : List Text} (h : Lists t origins) :
    splitOrigins t = origins := by
  obtain ⟨hSome, pieces, hHolds, rfl⟩ := h
  have hPieces : pieces ≠ [] := by
    rintro rfl
    cases hHolds
    exact hSome rfl
  have hSplit : (Text.join "," pieces).splitOn (.char ',') = pieces :=
    List.splitOn_intercalate _ (comma_not_mem_of_holds hHolds) hPieces
  rw [splitOrigins, hSplit]
  -- What is left may be pieces without any origin, so the induction is on the pieces alone.
  clear hSome hPieces hSplit
  induction hHolds with
  | nil => rfl
  | blank hPiece _ ih =>
    rw [List.map_cons, stripWhile_of_areBlank hPiece, List.filter_cons, ih]
    rfl
  | origin hBefore hOrigin hAfter _ ih =>
    obtain ⟨p, hp, -⟩ := hOrigin.head
    obtain ⟨rest, rfl⟩ := List.head?_eq_some_iff.1 hp
    rw [List.map_cons, stripWhile_isBlank hBefore hOrigin hAfter, List.filter_cons, ih]
    rfl

/-! ## Weights of lists -/

/-- The weight of all origins together. -/
def originsWeight (origins : List Text) : Nat := (origins.map Text.weight).sum

theorem weight_stripWhile (t : Text) : Text.weight (Text.stripWhile Text.isBlank t) = Text.weight t := by
  have hLight (p : CodePoint) (h : Text.isBlank p = true) : Text.isHeavy p = false := by
    rw [Text.isHeavy, h]
    rfl
  rw [Text.stripWhile, Text.weight_reverse, Text.weight_dropWhile hLight, Text.weight_reverse,
    Text.weight_dropWhile hLight]

theorem weight_join (pieces : List Text) :
    Text.weight (Text.join "," pieces) = originsWeight pieces := by
  induction pieces with
  | nil => rfl
  | cons piece pieces ih =>
    cases pieces with
    | nil => simp [Text.join, originsWeight]
    | cons next pieces =>
      have hComma : Text.isHeavy (.char ',') = false := by decide
      rw [join_cons_cons, Text.weight_append, Text.weight_cons, ih, hComma, originsWeight,
        originsWeight, List.map_cons, List.sum_cons]
      rfl

theorem originsWeight_filter (pieces : List Text) :
    originsWeight (pieces.filter (!·.isEmpty)) = originsWeight pieces := by
  induction pieces with
  | nil => rfl
  | cons piece pieces ih =>
    rw [originsWeight, originsWeight] at *
    rw [List.map_cons, List.sum_cons, ← ih]
    cases piece with
    | nil => exact (Nat.zero_add _).symm
    | cons p rest => exact List.sum_cons

/-- Splitting a text leaves out commas and blanks only. -/
theorem weight_splitOrigins (t : Text) : originsWeight (splitOrigins t) = Text.weight t := by
  have hStripped (pieces : List Text) :
      originsWeight (pieces.map (Text.stripWhile Text.isBlank)) = originsWeight pieces := by
    rw [originsWeight, originsWeight, List.map_map]
    exact congrArg List.sum (List.map_congr_left fun piece _ => weight_stripWhile piece)
  have hJoined : Text.join "," (t.splitOn (.char ',')) = t := List.intercalate_splitOn _
  rw [splitOrigins, originsWeight_filter, hStripped, ← weight_join, hJoined]

/-- Origins that pass weigh less than the JSON that they were read from. -/
theorem originsWeight_lt {v : Value} {origins : List Text} (h : checkOrigins v = .ok origins) :
    originsWeight origins < Json.leastWeight v := by
  cases v with
  | text s =>
    cases h
    rw [weight_splitOrigins]
    exact Nat.lt_succ_self _
  | list vs =>
    have hItems := Checked.items_eq_ok_iff.1 h
    have hWeight : originsWeight origins = Json.listWeight vs := by
      clear h
      induction hItems with
      | nil => rfl
      | @cons v o vs origins hHead _ ih =>
        have hText : Json.textWeight v = Text.weight o := by
          rw [Json.textWeight, Checked.ofFlaw_eq_ok_iff.1 hHead]
          rfl
        rw [Json.listWeight_cons, ← ih, hText]
        exact List.sum_cons
    rw [hWeight]
    exact Nat.lt_succ_self _
  | _ => cases h

/-! ## Sources -/

/-- The last variable for the origins holds the text. -/
def SaysOrigins (env : Environment) (t : Text) : Prop :=
  ∃ before name after, env = before ++ (name, t) :: after ∧ isName name "cors_origins" = true ∧
    ∀ e ∈ after, isName e.1 "cors_origins" = false

/-- The text for the origins stands among arguments that do not say anything else about them. -/
def AddsOrigins (others : Fields) (t : Text) (arguments : Fields) : Prop :=
  ∃ before after, others = before ++ after ∧
    arguments = before ++ (Text.ofString "cors_origins", .text t) :: after ∧
    ∀ a ∈ others, isName a.1 "cors_origins" = false

/-- There are settings, with these origins. -/
def Obtains (result : Except SettingsError Settings) (origins : List Text) : Prop :=
  ∃ s, result = .ok s ∧ s.corsOrigins = origins

theorem fromVariable_of_saysOrigins {env : Environment} {t : Text} (h : SaysOrigins env t) :
    fromVariable env "cors_origins" =
      match Json.read t with
      | .ok .null => .ok none
      | .ok v => .ok (some v)
      | .error reason => .error (.unreadableList "cors_origins" reason) := by
  obtain ⟨before, name, after, rfl, hName, hAfter⟩ := h
  have hLater : after.reverse.find? (fun e => isName e.1 "cors_origins") = none := by
    rw [List.find?_eq_none]
    intro e he
    rw [hAfter e (List.mem_reverse.1 he)]
    exact Bool.false_ne_true
  have hLast : (before ++ (name, t) :: after).reverse.find? (fun e => isName e.1 "cors_origins") =
      some (name, t) := by
    rw [List.reverse_append, List.reverse_cons, List.append_assoc, List.find?_append, hLater,
      Option.none_or, List.singleton_append, List.find?_cons, hName]
  rw [fromVariable, hLast]
  exact if_pos rfl

theorem isName_origins_iff {field : String} :
    isName "cors_origins" field = true ↔ field = "cors_origins" := by
  have hLower : Text.lower "cors_origins" = Text.ofString "cors_origins" := by decide +kernel
  rw [isName, hLower, beq_iff_eq, Text.ofString_inj, eq_comm]

/-- Settings are read wherever each variable can be, whatever the arguments are. -/
theorem exists_gather_iff {arguments : Fields} {env : Environment} {names : List String} :
    (∃ fields, gather arguments env names = .ok fields) ↔
      ∀ name ∈ names, ∃ v, fromVariable env name = .ok v := by
  induction names with
  | nil => exact iff_of_true ⟨[], rfl⟩ (by simp)
  | cons name names ih =>
    rw [List.forall_mem_cons, ← ih]
    constructor
    · rintro ⟨fields, h⟩
      rw [gather] at h
      obtain ⟨fallback, hFallback, h⟩ := bind_eq_ok_iff.1 h
      obtain ⟨others, hOthers, -⟩ := bind_eq_ok_iff.1 h
      exact ⟨⟨fallback, hFallback⟩, others, hOthers⟩
    · rintro ⟨⟨fallback, hFallback⟩, others, hOthers⟩
      rw [gather, hFallback, hOthers]
      cases hGiven : (fromArgument arguments name).or fallback with
      | none =>
        refine ⟨others, bind_eq_ok_iff.2 ⟨fallback, rfl, bind_eq_ok_iff.2 ⟨others, rfl, ?_⟩⟩⟩
        rw [hGiven]
        rfl
      | some v =>
        refine ⟨(name, v) :: others, ?_⟩
        refine bind_eq_ok_iff.2 ⟨fallback, rfl, bind_eq_ok_iff.2 ⟨others, rfl, ?_⟩⟩
        rw [hGiven]
        rfl

/-- Only a list that is no JSON keeps settings from being read. -/
theorem gather_of_unreadable {arguments : Fields} {env : Environment} {names : List String}
    {reason : Json.ReadError} (hMem : "cors_origins" ∈ names)
    (h : fromVariable env "cors_origins" = .error (.unreadableList "cors_origins" reason)) :
    gather arguments env names = .error (.unreadableList "cors_origins" reason) := by
  induction names with
  | nil => cases hMem
  | cons name names ih =>
    rw [gather]
    by_cases hName : name = "cors_origins"
    · rw [hName, h]
      rfl
    · have hText : ∃ v, fromVariable env name = .ok v := by
        rw [fromVariable]
        split
        · exact ⟨_, rfl⟩
        · exact ⟨_, if_neg hName⟩
      obtain ⟨v, hText⟩ := hText
      rw [hText, ih ((List.mem_cons.1 hMem).resolve_left (Ne.symm hName))]
      rfl

/-! ## The text in code -/

theorem fromArgument_eq (arguments : Fields) (field : String) : fromArgument arguments field =
    (arguments.filter fun a => isName a.1 field).head?.map (·.2) := by
  rw [fromArgument, List.head?_filter]

theorem fromArgument_of_addsOrigins {others arguments : Fields} {t : Text}
    (h : AddsOrigins others t arguments) (field : String) :
    fromArgument (Value.setFields testingArguments arguments) field =
      if field = "cors_origins" then some (.text t)
      else fromArgument (Value.setFields testingArguments others) field := by
  obtain ⟨before, after, rfl, rfl, hOthers⟩ := h
  have hFilter (changes : Fields) :
      (Value.setFields testingArguments changes).filter (fun a => isName a.1 field) =
        Value.setFields (testingArguments.filter fun a => isName a.1 field)
          (changes.filter fun a => isName a.1 field) :=
    Fields.filter_setFields (fun name => isName name field) _ _
  rw [fromArgument_eq, fromArgument_eq, hFilter, hFilter, List.filter_append, List.filter_cons]
  by_cases hField : field = "cors_origins"
  · subst hField
    obtain ⟨hBefore, hAfter⟩ := List.forall_mem_append.1 hOthers
    have hNone (fields : Fields) (h : ∀ a ∈ fields, isName a.1 "cors_origins" = false) :
        fields.filter (fun a => isName a.1 "cors_origins") = [] := by
      rw [List.filter_eq_nil_iff]
      intro a ha
      rw [h a ha]
      exact Bool.false_ne_true
    have hUsual : testingArguments.filter (fun a => isName a.1 "cors_origins") = [] := by
      decide +kernel
    rw [if_pos rfl, if_pos (isName_origins_iff.2 rfl), hNone before hBefore, hNone after hAfter, hUsual]
    rfl
  · rw [if_neg hField, if_neg (mt isName_origins_iff.1 hField), List.filter_append]

theorem Passes.setOrigins {s : Settings} {fields fields' : Fields} {origins : List Text}
    (h : s.Passes fields)
    (hOthers : ∀ name : String, name ≠ "cors_origins" → fields'.get? name = fields.get? name)
    (hOrigins : Checked.optional fields' "cors_origins" defaultOrigins checkOrigins = .ok origins) :
    Passes { s with corsOrigins := origins } fields' := by
  have same {α : Type} {name : String} {rule : Value → Except Flaw α} {default a : α}
      (hName : name ≠ "cors_origins") (hPasses : PassesAs fields name rule default a) :
      PassesAs fields' name rule default a := by
    rw [PassesAs, Checked.optional, hOthers name hName]
    exact hPasses
  exact {
    environment := same (by decide) h.environment
    debug := same (by decide) h.debug
    host := same (by decide) h.host
    port := same (by decide) h.port
    origins := hOrigins
    indexUrl := same (by decide) h.indexUrl
    indexToken := same (by decide) h.indexToken
    topK := same (by decide) h.topK
    timeout := same (by decide) h.timeout
    average := same (by decide) h.average
    maximum := same (by decide) h.maximum
    strategy := same (by decide) h.strategy
    prices := h.prices }

/-- In code the text gives its origins to settings that are otherwise the same. -/
theorem forTesting_of_lists {t : Text} {origins : List Text} (h : Lists t origins)
    {others arguments : Fields} {env : Environment} {s : Settings}
    (hArguments : AddsOrigins others t arguments) (hs : forTesting others env = .ok s) :
    forTesting arguments env = .ok { s with corsOrigins := origins } := by
  obtain ⟨fields, hFields, hCheck⟩ := bind_eq_ok_iff.1 hs
  have hPasses := check_eq_ok_iff.1 (mapError_eq_ok_iff.1 hCheck)
  have hGather :
      ∃ fields', gather (Value.setFields testingArguments arguments) env fieldNames = .ok fields' :=
    exists_gather_iff.2 (exists_gather_iff.1 ⟨fields, hFields⟩)
  obtain ⟨fields', hFields'⟩ := hGather
  have hGiven (name : String) : fields'.get? name =
      if name = "cors_origins" then some (.text t) else fields.get? name := by
    rw [get?_gather hFields', get?_gather hFields, fromArgument_of_addsOrigins hArguments]
    by_cases hName : name = "cors_origins"
    · rw [if_pos hName, if_pos hName, if_pos (by rw [hName]; decide), Option.some_or]
    · rw [if_neg hName, if_neg hName]
  have hOrigins :
      Checked.optional fields' "cors_origins" defaultOrigins checkOrigins = .ok origins := by
    refine Checked.optional_eq_ok_iff.2 (.inr ⟨.text t, ?_, ?_⟩)
    · rw [hGiven, if_pos rfl]
    · rw [checkOrigins, splitOrigins_of_lists h]
  refine bind_eq_ok_iff.2 ⟨fields', hFields', mapError_eq_ok_iff.2 (check_eq_ok_iff.2 ?_)⟩
  exact hPasses.setOrigins (fun name hName => by rw [hGiven, if_neg hName]) hOrigins

/-! ## The text in the environment -/

/-- What settings from the environment have for origins was read from the text, or the text says that
there are none. -/
theorem origins_of_fromEnvironment {env : Environment} {t : Text} {s : Settings}
    (h : SaysOrigins env t) (hs : fromEnvironment env = .ok s) :
    (Json.read t = .ok .null ∧ s.corsOrigins = defaultOrigins) ∨
      ∃ v, Json.read t = .ok v ∧ checkOrigins v = .ok s.corsOrigins := by
  obtain ⟨fields, hFields, hCheck⟩ := bind_eq_ok_iff.1 hs
  have hPasses := check_eq_ok_iff.1 (mapError_eq_ok_iff.1 hCheck)
  obtain ⟨said, hSaid⟩ := exists_gather_iff.1 ⟨fields, hFields⟩ "cors_origins" (by decide)
  have hField : fields.get? "cors_origins" = said := by
    have hNoArgument : fromArgument [] "cors_origins" = none := rfl
    rw [get?_gather hFields, if_pos (by decide), hNoArgument, Option.none_or, hSaid]
    cases said <;> rfl
  rw [fromVariable_of_saysOrigins h] at hSaid
  rcases Checked.optional_eq_ok_iff.1 hPasses.origins with ⟨hNone, hDefault⟩ | ⟨v, hSome, hPass⟩
  · rw [hField] at hNone
    subst hNone
    split at hSaid
    · exact .inl ⟨‹_›, hDefault.symm⟩
    · cases hSaid
    · cases hSaid
  · rw [hField] at hSome
    subst hSome
    split at hSaid
    · cases hSaid
    · cases hSaid
      exact .inr ⟨v, ‹_›, hPass⟩
    · cases hSaid

/-- In the environment the text never means the origins that it lists. -/
theorem not_obtains_of_lists {t : Text} {origins : List Text} (h : Lists t origins)
    {env : Environment} (hEnv : SaysOrigins env t) : ¬ Obtains (fromEnvironment env) origins := by
  rintro ⟨s, hs, rfl⟩
  have hWeight : originsWeight s.corsOrigins = Text.weight t := by
    rw [← weight_splitOrigins, splitOrigins_of_lists h]
  rcases origins_of_fromEnvironment hEnv hs with ⟨hNull, hDefault⟩ | ⟨v, hRead, hPass⟩
  · -- The defaults are too heavy for the word that stands for them.
    have hDefaults : originsWeight defaultOrigins = 42 := by decide +kernel
    rw [hDefault, hDefaults, Json.weight_of_read_null hNull] at hWeight
    cases hWeight
  · have hLess := originsWeight_lt hPass
    have hMost := Json.leastWeight_of_read hRead
    omega

/-- Blanks and commas may stand in front of the first origin. -/
theorem exists_front_of_holds {pieces origins : List Text} {o : Text}
    (h : Holds pieces (o :: origins)) : ∃ front rest, Text.join "," pieces = front ++ (o ++ rest) ∧
      ∀ p ∈ front, Text.isBlank p = true ∨ p = .char ',' := by
  generalize hAll : o :: origins = all at h
  induction h with
  | nil => cases hAll
  | @blank piece pieces all hPiece hMore ih =>
    obtain ⟨front, rest, hFront, hLight⟩ := ih hAll
    cases pieces with
    | nil =>
      subst hAll
      cases hMore
    | cons next pieces =>
      refine ⟨piece ++ .char ',' :: front, rest, ?_, ?_⟩
      · rw [join_cons_cons, hFront, List.append_assoc, List.cons_append]
      · refine List.forall_mem_append.2 ⟨fun p hp => .inl (hPiece p hp), ?_⟩
        exact List.forall_mem_cons.2 ⟨.inr rfl, hLight⟩
  | @origin before o' after pieces all hBefore _ _ _ =>
    obtain ⟨rfl, rfl⟩ := List.cons.inj hAll
    obtain ⟨rest, hRest⟩ := exists_join_cons (before ++ o ++ after) pieces
    refine ⟨before, after ++ rest, ?_, fun p hp => .inl (hBefore p hp)⟩
    rw [hRest, List.append_assoc, List.append_assoc]

theorem isOrigin_of_holds {pieces origins : List Text} {o : Text}
    (h : Holds pieces (o :: origins)) : IsOrigin o := by
  generalize hAll : o :: origins = all at h
  induction h with
  | nil => cases hAll
  | blank _ _ ih => exact ih hAll
  | origin _ hOrigin _ _ _ =>
    obtain ⟨rfl, -⟩ := List.cons.inj hAll
    exact hOrigin

theorem isSpace_of_not_isBlank {p : CodePoint} (h : Text.isBlank p = false) :
    Json.isSpace p = false := by
  by_contra hSpace
  rw [Bool.not_eq_false, Json.isSpace] at hSpace
  simp only [Bool.or_eq_true, beq_iff_eq] at hSpace
  rcases hSpace with ((rfl | rfl) | rfl) | rfl <;> cases h

/-- Behind spaces a text begins with what stood in front, or with what follows. -/
theorem exists_skipSpace_append {p : CodePoint} (hp : Json.isSpace p = false) (front rest : Text) :
    ∃ q more, Json.skipSpace (front ++ p :: rest) = q :: more ∧ (q = p ∨ q ∈ front) := by
  induction front with
  | nil =>
    refine ⟨p, rest, ?_, .inl rfl⟩
    rw [List.nil_append, Json.skipSpace, List.dropWhile_cons_of_neg (by simp [hp])]
  | cons q front ih =>
    by_cases hq : Json.isSpace q = true
    · obtain ⟨q', more, hSkip, hWhere⟩ := ih
      refine ⟨q', more, ?_, hWhere.imp_right (List.mem_cons_of_mem q)⟩
      rw [List.cons_append, Json.skipSpace, List.dropWhile_cons_of_pos hq]
      exact hSkip
    · refine ⟨q, front ++ p :: rest, ?_, .inr List.mem_cons_self⟩
      rw [List.cons_append, Json.skipSpace, List.dropWhile_cons_of_neg hq]

/-- No value begins with a blank. -/
theorem isFirst_of_isBlank {p : CodePoint} (h : Text.isBlank p = true) : Json.isFirst p = false := by
  by_contra hFirst
  rw [Bool.not_eq_false, Json.isFirst, Bool.or_eq_true] at hFirst
  rcases hFirst with hDigit | hMark
  · cases p with
    | half n => cases hDigit
    | char c =>
      have hRange : 48 ≤ c.toNat ∧ c.toNat ≤ 57 := by
        simpa [CodePoint.isDigit, Char.isDigit, Char.le_def, UInt32.le_iff_toNat_le] using hDigit
      rw [Text.isBlank, Bool.or_eq_true, Bool.and_eq_true, decide_eq_true_eq, decide_eq_true_eq,
        CodePoint.toNat] at h
      rcases h with hWhite | hSeparator
      · rw [Text.isWhite, Text.inRanges, List.any_eq_true] at hWhite
        obtain ⟨range, hMem, hIn⟩ := hWhite
        rw [Bool.and_eq_true, decide_eq_true_eq, decide_eq_true_eq, CodePoint.toNat] at hIn
        have hAway : ∀ range ∈ Text.whiteRanges, range.2 < 48 ∨ 57 < range.1 := by decide
        have hRange' := hAway range hMem
        omega
      · omega
  · rw [List.any_eq_true] at hMark
    obtain ⟨c, hMem, hSame⟩ := hMark
    simp only [List.mem_cons, List.not_mem_nil, or_false] at hMem
    rw [beq_iff_eq.1 hSame] at h
    rcases hMem with rfl | rfl | rfl | rfl | rfl | rfl | rfl | rfl | rfl <;> cases h

/-- Where the first origin begins like no value, as an address does, nothing is read at all. -/
theorem unreadable_of_lists {t : Text} {o : Text} {origins : List Text} (h : Lists t (o :: origins))
    (ho : ∃ p ∈ o.head?, Json.isFirst p = false) {env : Environment} (hEnv : SaysOrigins env t) :
    ∃ d, fromEnvironment env = .error (.unreadableList "cors_origins" (.malformed d)) := by
  obtain ⟨-, pieces, hHolds, rfl⟩ := h
  obtain ⟨front, rest, hFront, hLight⟩ := exists_front_of_holds hHolds
  obtain ⟨p, hp, hFirst⟩ := ho
  obtain ⟨more, rfl⟩ := List.head?_eq_some_iff.1 hp
  have hSpace : Json.isSpace p = false := by
    obtain ⟨q, hq, hBlank⟩ := (isOrigin_of_holds hHolds).head
    cases hq
    exact isSpace_of_not_isBlank hBlank
  obtain ⟨q, left, hSkip, hWhere⟩ := exists_skipSpace_append hSpace front (more ++ rest)
  have hNone : Json.isFirst q = false := by
    rcases hWhere with rfl | hMem
    · exact hFirst
    · rcases hLight q hMem with hBlank | rfl
      · exact isFirst_of_isBlank hBlank
      · decide
  rw [List.cons_append, ← List.cons_append] at hFront
  obtain ⟨d, hRead⟩ := Json.exists_defect_of_not_isFirst hNone (hFront ▸ hSkip)
  refine ⟨d, ?_⟩
  have hVariable := fromVariable_of_saysOrigins hEnv
  rw [hRead] at hVariable
  rw [fromEnvironment, load, gather_of_unreadable (by decide) hVariable]
  rfl

/-! ## Both ways -/

/-- In code the origins of a text take the place of those of the settings, which stay otherwise what
they were. In the environment the text never means them, and where the first one begins like no value
there are no settings. -/
structure CountsInCode (t : Text) (origins : List Text) : Prop where
  inCode : ∀ {others arguments env s}, AddsOrigins others t arguments → forTesting others env = .ok s →
    forTesting arguments env = .ok { s with corsOrigins := origins }
  inEnvironment : ∀ {env}, SaysOrigins env t → ¬ Obtains (fromEnvironment env) origins
  unreadable : ∀ {env}, SaysOrigins env t →
    (∃ o ∈ origins.head?, ∃ p ∈ o.head?, Json.isFirst p = false) →
      ∃ d, fromEnvironment env = .error (.unreadableList "cors_origins" (.malformed d))

/-- A list of origins counts in code, and only there. -/
theorem countsInCode_of_lists {t : Text} {origins : List Text} (h : Lists t origins) :
    CountsInCode t origins := by
  refine ⟨forTesting_of_lists h, not_obtains_of_lists h, ?_⟩
  rintro env hEnv ⟨o, ho, hFirst⟩
  obtain ⟨more, rfl⟩ := List.head?_eq_some_iff.1 ho
  exact unreadable_of_lists h hFirst hEnv

theorem saysOrigins_singleton (t : Text) : SaysOrigins [("CORS_ORIGINS", t)] t :=
  ⟨[], _, [], rfl, by decide +kernel, by simp⟩

theorem addsOrigins_singleton (t : Text) : AddsOrigins [] t [("cors_origins", .text t)] :=
  ⟨[], [], rfl, rfl, by simp⟩

/-- Two origins with blanks around a comma, and nothing between two commas. -/
def twoOrigins : Text := "https://a.example, ,http://b.example:80,"

theorem lists_twoOrigins : Lists twoOrigins ["https://a.example", "http://b.example:80"] := by
  have hFirst : IsOrigin "https://a.example" := ⟨⟨_, rfl, rfl⟩, ⟨_, rfl, rfl⟩, by decide⟩
  have hSecond : IsOrigin "http://b.example:80" := ⟨⟨_, rfl, rfl⟩, ⟨_, rfl, rfl⟩, by decide⟩
  have hNone : AreBlank [] := by simp [AreBlank]
  have hSpace : AreBlank " " := List.forall_mem_singleton.2 rfl
  have hHolds : Holds ["https://a.example", " ", "http://b.example:80", []] _ :=
    .origin hNone hFirst hNone (.blank hSpace (.origin hNone hSecond hNone (.blank hNone .nil)))
  exact ⟨by simp, _, hHolds, by decide⟩

theorem countsInCode_twoOrigins :
    (∃ s, forTesting [] [] = .ok s ∧ forTesting [("cors_origins", .text twoOrigins)] [] =
      .ok { s with corsOrigins := ["https://a.example", "http://b.example:80"] }) ∧
    ∃ d, fromEnvironment [("CORS_ORIGINS", twoOrigins)] =
      .error (.unreadableList "cors_origins" (.malformed d)) := by
  have hCounts := countsInCode_of_lists lists_twoOrigins
  constructor
  · have hOk : (forTesting [] []).isOk = true := by decide +kernel
    obtain ⟨s, hs⟩ := exists_of_isOk hOk
    exact ⟨s, hs, hCounts.inCode (addsOrigins_singleton _) hs⟩
  · exact hCounts.unreadable (saysOrigins_singleton _) ⟨_, rfl, _, rfl, by decide⟩

/-- The same text does not mean the same in both places. -/
theorem not_obtains_lists :
    ¬ ∀ t origins, Lists t origins → Obtains (fromEnvironment [("CORS_ORIGINS", t)]) origins ∧
      Obtains (forTesting [("cors_origins", .text t)] []) origins := by
  intro h
  obtain ⟨⟨s, hs, -⟩, -⟩ := h _ _ lists_twoOrigins
  have hNone : (fromEnvironment [("CORS_ORIGINS", twoOrigins)]).isOk = false := by decide +kernel
  rw [hs] at hNone
  cases hNone

end Settings

end Storefront
