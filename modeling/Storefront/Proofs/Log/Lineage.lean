import Mathlib
import Storefront.Log.Loggers

/-!
# Loggers below others

The logger directly above another one is the nearest of those whose names divide its name at a dot. Of
dots in a row every other one divides a name, from the last one on, unless a logger is in front of another
one: its own name is divided anew. So where a logger stands depends on the loggers that there are, but only
with two dots in a row; otherwise it stands below all loggers whose names are in front of its dots.

* `mem_divisions_iff`: the names in front of the dots of a name.
* `above_eq`: the nearest logger above another one, and those above it.
* `IsParent`, `mem_lineage_iff`: the loggers above another one, as steps from each to the next.
* `IsQuiet`, `isQuiet_iff`: what quiet loggers are.
* `isQuiet_iff_of_isPlain`: quiet loggers by their names.
* `isQuiet_insert`: loggers that make no difference to others.
-/

namespace Storefront.Log

variable {made : List Text} {logger a b : Text}

/-! ## Names in front of dots -/

/-- The name of a logger goes on behind a dot where the name of the other one ends. Of two dots in a row
only the second one divides a name, so the number of dots is odd. -/
def IsBelow (ancestor logger : Text) : Prop :=
  ∃ k rest, logger = ancestor ++ List.replicate (2 * k + 1) (.char '.') ++ rest ∧
    rest.head? ≠ some (.char '.')

/-- The names in front of the dots of a name, which is written backwards, where no logger is in front of
any of them. -/
def divisions (counts : Bool) : Text → List Text
  | [] => []
  | p :: rest =>
    if counts ∧ p = '.' then
      if rest.isEmpty then [] else rest.reverse :: divisions false rest
    else divisions true rest

/-- Whether a dot counts behind a part of a name that is written backwards. -/
def countsBehind (counts : Bool) : Text → Bool
  | [] => counts
  | p :: rest => countsBehind (!(counts && p == .char '.')) rest

theorem mem_divisions_iff {counts : Bool} {r a : Text} :
    a ∈ divisions counts r ↔
      a ≠ [] ∧ ∃ s, r = s ++ .char '.' :: a.reverse ∧ countsBehind counts s = true := by
  induction r generalizing counts with
  | nil => simp [divisions]
  | cons p rest ih =>
    -- The part in front of the dot is either all that is left, or it lies further in the name.
    have hSplit : (∃ s, p :: rest = s ++ .char '.' :: a.reverse ∧ countsBehind counts s = true) ↔
        (p = .char '.' ∧ rest = a.reverse ∧ counts = true) ∨
          ∃ s, rest = s ++ .char '.' :: a.reverse ∧
            countsBehind (!(counts && p == .char '.')) s = true := by
      constructor
      · rintro ⟨s, hName, hCounts⟩
        cases s with
        | nil =>
          obtain ⟨rfl, rfl⟩ := List.cons.inj hName
          exact .inl ⟨rfl, rfl, hCounts⟩
        | cons q s =>
          obtain ⟨rfl, rfl⟩ := List.cons.inj hName
          exact .inr ⟨s, rfl, hCounts⟩
      · rintro (⟨rfl, rfl, hCounts⟩ | ⟨s, rfl, hCounts⟩)
        · exact ⟨[], rfl, hCounts⟩
        · exact ⟨p :: s, rfl, hCounts⟩
    rw [divisions, hSplit]
    by_cases hDot : counts = true ∧ p = .char '.'
    · obtain ⟨rfl, rfl⟩ := hDot
      rw [if_pos ⟨rfl, rfl⟩]
      by_cases hRest : rest = []
      · subst hRest
        refine iff_of_false (List.not_mem_nil) ?_
        rintro ⟨hNamed, ⟨-, hEmpty, -⟩ | ⟨s, hEmpty, -⟩⟩
        · exact hNamed (List.reverse_eq_nil_iff.1 hEmpty.symm)
        · cases s with
          | nil | cons => cases hEmpty
      · have hWhole : a = rest.reverse ↔ a ≠ [] ∧ rest = a.reverse := by
          rw [eq_comm, List.reverse_eq_iff, iff_and_self]
          rintro rfl rfl
          exact hRest rfl
        rw [if_neg (mt List.isEmpty_iff.1 hRest), List.mem_cons, ih, hWhole, ← and_or_left]
        simp
    · have hCounts : (!(counts && p == .char '.')) = true := by
        rw [Bool.not_eq_true', ← Bool.not_eq_true, Bool.and_eq_true, beq_iff_eq]
        exact hDot
      rw [if_neg hDot, ih, hCounts]
      have hNot : ¬ (p = .char '.' ∧ rest = a.reverse ∧ counts = true) := by
        rintro ⟨hp, -, hc⟩
        exact hDot ⟨hc, hp⟩
      rw [or_iff_right hNot]

theorem countsBehind_append (counts : Bool) (s t : Text) :
    countsBehind counts (s ++ t) = countsBehind (countsBehind counts s) t := by
  induction s generalizing counts with
  | nil => rfl
  | cons p s ih => exact ih _

theorem countsBehind_dots (m : Nat) :
    countsBehind true (List.replicate m (.char '.')) = decide (m % 2 = 0) := by
  induction m using Nat.twoStepInduction with
  | zero => rfl
  | one => rfl
  | more m ih _ =>
    have hTwo : countsBehind true (List.replicate (m + 2) (.char '.')) =
        countsBehind true (List.replicate m (.char '.')) := rfl
    rw [hTwo, ih, Nat.add_mod_right]

/-- Behind anything but a dot a dot counts. -/
theorem countsBehind_reverse {rest : Text} (h : rest.head? ≠ some (.char '.')) :
    countsBehind true rest.reverse = true := by
  cases rest with
  | nil => rfl
  | cons p rest =>
    have hp : (p == CodePoint.char '.') = false := by simpa using h
    rw [List.reverse_cons, countsBehind_append, countsBehind, hp, Bool.and_false]
    rfl

/-- The dots at the beginning of a text, and what stands behind them. -/
theorem exists_dots (t : Text) :
    ∃ m rest, t = List.replicate m (.char '.') ++ rest ∧ rest.head? ≠ some (.char '.') := by
  induction t with
  | nil => exact ⟨0, [], rfl, by simp⟩
  | cons p t ih =>
    by_cases hp : p = .char '.'
    · obtain ⟨m, rest, rfl, hRest⟩ := ih
      exact ⟨m + 1, rest, by rw [hp]; rfl, hRest⟩
    · exact ⟨0, p :: t, rfl, by simpa using hp⟩

theorem mem_divisions_reverse_iff {logger a : Text} :
    a ∈ divisions true logger.reverse ↔ a ≠ [] ∧ IsBelow a logger := by
  rw [mem_divisions_iff, and_congr_right_iff]
  intro _
  constructor
  · rintro ⟨s, hName, hCounts⟩
    obtain ⟨m, rest, hTail, hRest⟩ := exists_dots s.reverse
    obtain rfl := List.reverse_eq_iff.1 hTail
    rw [List.reverse_append, countsBehind_append, countsBehind_reverse hRest, List.reverse_replicate,
      countsBehind_dots, decide_eq_true_iff] at hCounts
    refine ⟨m / 2, rest, ?_, hRest⟩
    obtain rfl := List.reverse_eq_iff.1 hName
    have hOdd : 2 * (m / 2) + 1 = m + 1 := by omega
    rw [hOdd]
    simp [List.replicate_succ]
  · rintro ⟨k, rest, rfl, hRest⟩
    refine ⟨rest.reverse ++ List.replicate (2 * k) (.char '.'), ?_, ?_⟩
    · simp [List.replicate_succ]
    · rw [countsBehind_append, countsBehind_reverse hRest, countsBehind_dots, decide_eq_true_iff]
      omega

theorem IsBelow.length_lt (h : IsBelow a logger) : a.length < logger.length := by
  obtain ⟨k, rest, rfl, -⟩ := h
  simp only [List.length_append, List.length_replicate]
  omega

theorem IsBelow.isPrefix (h : IsBelow a logger) : a <+: logger := by
  obtain ⟨k, rest, rfl, -⟩ := h
  rw [List.append_assoc]
  exact List.prefix_append _ _

/-- Names that are further in front are shorter. -/
theorem length_lt_of_mem_divisions {counts : Bool} {r : Text} (h : a ∈ divisions counts r) :
    a.length < r.length := by
  obtain ⟨-, s, rfl, -⟩ := mem_divisions_iff.1 h
  simp only [List.length_append, List.length_cons, List.length_reverse]
  omega

theorem pairwise_divisions (counts : Bool) (r : Text) :
    (divisions counts r).Pairwise fun a b => b.length < a.length := by
  induction r generalizing counts with
  | nil => exact .nil
  | cons p rest ih =>
    rw [divisions]
    split_ifs
    · exact .nil
    · refine .cons (fun b hb => ?_) (ih false)
      rw [List.length_reverse]
      exact length_lt_of_mem_divisions hb
    · exact ih true

/-! ## Loggers above others -/

/-- The nearest logger whose name divides another name is directly above, and its own name goes on. -/
theorem above_eq (made : List Text) (counts : Bool) (r : Text) :
    above made counts r =
      match (divisions counts r).find? (· ∈ made) with
      | none => []
      | some parent => lineage made parent := by
  induction r generalizing counts with
  | nil => rfl
  | cons p rest ih =>
    rw [above, divisions]
    split_ifs with hDot hEmpty hMade
    · rfl
    · have hFirst : (rest.reverse :: divisions false rest).find? (· ∈ made) = some rest.reverse :=
        List.find?_cons_of_pos (decide_eq_true hMade)
      have hLineage : lineage made rest.reverse = rest.reverse :: above made true rest := by
        rw [lineage, List.reverse_reverse]
      rw [hFirst]
      exact hLineage.symm
    · have hLater : (rest.reverse :: divisions false rest).find? (· ∈ made) =
          (divisions false rest).find? (· ∈ made) := List.find?_cons_of_neg (by simpa using hMade)
      rw [hLater, ih]
    · exact ih true

/-- A logger is directly above another one: there is none nearer whose name divides the other name. -/
structure IsParent (made : List Text) (parent logger : Text) : Prop where
  mem : parent ∈ made
  ne_nil : parent ≠ []
  isBelow : IsBelow parent logger
  nearest : ∀ other ∈ made, other ≠ [] → IsBelow other logger → other.length ≤ parent.length

/-- Where lengths go down, what is found first is the longest. -/
theorem isParent_of_find? (h : (divisions true logger.reverse).find? (· ∈ made) = some a) :
    IsParent made a logger := by
  obtain ⟨hMade, front, back, hSplit, hFront⟩ := List.find?_eq_some_iff_append.1 h
  have hMem : a ∈ divisions true logger.reverse := List.mem_of_find?_eq_some h
  obtain ⟨hNamed, hBelow⟩ := mem_divisions_reverse_iff.1 hMem
  refine ⟨of_decide_eq_true hMade, hNamed, hBelow, ?_⟩
  intro other hOther hOtherNamed hOtherBelow
  have hPairwise := pairwise_divisions true logger.reverse
  have hOtherMem := mem_divisions_reverse_iff.2 ⟨hOtherNamed, hOtherBelow⟩
  rw [hSplit] at hPairwise hOtherMem
  rcases List.mem_append.1 hOtherMem with hBefore | hBehind
  · have hNot := hFront other hBefore
    simp [hOther] at hNot
  · rcases List.mem_cons.1 hBehind with rfl | hLater
    · exact le_rfl
    · have hShorter := (List.pairwise_cons.1 (List.pairwise_append.1 hPairwise).2.1).1 other hLater
      exact hShorter.le

/-- A logger has one parent at most, as both names are in front of its own. -/
theorem IsParent.unique (ha : IsParent made a logger) (hb : IsParent made b logger) : a = b := by
  have hLength : a.length = b.length :=
    le_antisymm (hb.nearest a ha.mem ha.ne_nil ha.isBelow) (ha.nearest b hb.mem hb.ne_nil hb.isBelow)
  exact (List.prefix_of_prefix_length_le ha.isBelow.isPrefix hb.isBelow.isPrefix hLength.le).eq_of_length
    hLength

theorem find?_divisions_eq_some_iff :
    (divisions true logger.reverse).find? (· ∈ made) = some a ↔ IsParent made a logger := by
  refine ⟨isParent_of_find?, fun h => ?_⟩
  cases hFound : (divisions true logger.reverse).find? (· ∈ made) with
  | none =>
    have hNot := List.find?_eq_none.1 hFound a
      (mem_divisions_reverse_iff.2 ⟨h.ne_nil, h.isBelow⟩)
    exact absurd (decide_eq_true h.mem) hNot
  | some b => rw [(isParent_of_find? hFound).unique h]

theorem lineage_eq (made : List Text) (logger : Text) :
    (lineage made logger = [logger] ∧ ∀ parent, ¬ IsParent made parent logger) ∨
      ∃ parent, IsParent made parent logger ∧ lineage made logger = logger :: lineage made parent := by
  have hAbove := above_eq made true logger.reverse
  cases hFound : (divisions true logger.reverse).find? (· ∈ made) with
  | none =>
    refine .inl ⟨?_, fun parent h => ?_⟩
    · rw [lineage, hAbove, hFound]
    · rw [find?_divisions_eq_some_iff.2 h] at hFound
      cases hFound
  | some parent =>
    refine .inr ⟨parent, isParent_of_find? hFound, ?_⟩
    conv_lhs => rw [lineage, hAbove, hFound]

/-- The lineage of a logger are the loggers that are reached from it by parents. -/
theorem mem_lineage_iff : a ∈ lineage made logger ↔ Relation.ReflTransGen (IsParent made) a logger := by
  induction hLength : logger.length using Nat.strong_induction_on generalizing logger with
  | _ n ih =>
    subst hLength
    rw [Relation.ReflTransGen.cases_tail_iff]
    obtain ⟨hAlone, hNone⟩ | ⟨parent, hParent, hMore⟩ := lineage_eq made logger
    · rw [hAlone, List.mem_singleton]
      constructor
      · rintro rfl
        exact .inl rfl
      · rintro (rfl | ⟨parent, -, hParent⟩)
        · rfl
        · exact absurd hParent (hNone parent)
    · rw [hMore, List.mem_cons, ih _ hParent.isBelow.length_lt rfl, eq_comm]
      refine or_congr_right ⟨fun h => ⟨parent, h, hParent⟩, ?_⟩
      rintro ⟨other, hOther, hOtherParent⟩
      rwa [hParent.unique hOtherParent]

/-! ## Quiet loggers -/

/-- A quiet logger, or one that stands below a quiet one. -/
def IsQuiet (made : List Text) (logger : Text) : Prop :=
  ∃ quiet ∈ quietLoggers, Relation.ReflTransGen (IsParent made) quiet logger

theorem isQuiet_iff : isQuiet made logger = true ↔ IsQuiet made logger := by
  rw [isQuiet, List.any_eq_true]
  constructor
  · rintro ⟨quiet, hMem, hQuiet⟩
    exact ⟨quiet, List.contains_iff_mem.1 hQuiet, mem_lineage_iff.1 hMem⟩
  · rintro ⟨quiet, hQuiet, hAbove⟩
    exact ⟨quiet, mem_lineage_iff.2 hAbove, List.contains_iff_mem.2 hQuiet⟩

-- A logger that stands between the two dots makes the second one count.
example : isQuiet ["httpx"] "httpx..a" = false := by decide

example : isQuiet ["httpx", "httpx."] "httpx..a" = true := by decide

/-- A name without two dots in a row. -/
def IsPlain (logger : Text) : Prop := ¬ [CodePoint.char '.', .char '.'] <:+: logger

/-- The name of a quiet logger, perhaps with more behind a dot. -/
def IsQuietName (logger : Text) : Prop :=
  ∃ quiet ∈ quietLoggers, logger = quiet ∨ ∃ more, logger = quiet ++ .char '.' :: more

theorem exists_of_reflTransGen (h : Relation.ReflTransGen (IsParent made) a logger) :
    logger = a ∨ ∃ more, logger = a ++ .char '.' :: more := by
  induction h with
  | refl => exact .inl rfl
  | @tail b c _ hParent ih =>
    obtain ⟨k, rest, rfl, -⟩ := hParent.isBelow
    refine .inr ?_
    rw [List.replicate_succ, List.append_assoc, List.cons_append]
    rcases ih with rfl | ⟨more, rfl⟩
    · exact ⟨_, rfl⟩
    · exact ⟨_, by rw [List.append_assoc, List.cons_append]⟩

/-- Without two dots in a row a logger stands below every one whose name is in front of a dot. -/
theorem reflTransGen_of_isPlain (ha : a ∈ made) (hNamed : a ≠ []) {more : Text}
    (hPlain : IsPlain (a ++ .char '.' :: more)) :
    Relation.ReflTransGen (IsParent made) a (a ++ .char '.' :: more) := by
  induction hLength : more.length using Nat.strong_induction_on generalizing more with
  | _ n ih =>
    subst hLength
    have hBelow : IsBelow a (a ++ .char '.' :: more) := by
      refine ⟨0, more, by simp, fun hDot => hPlain ?_⟩
      obtain ⟨rest, rfl⟩ := List.head?_eq_some_iff.1 hDot
      exact ⟨a, rest, by simp⟩
    obtain ⟨-, hNone⟩ | ⟨parent, hParent, -⟩ := lineage_eq made (a ++ .char '.' :: more)
    · -- The logger itself is one that is above, so there is a nearest one.
      have hFound : ((divisions true (a ++ .char '.' :: more).reverse).find? (· ∈ made)).isSome := by
        rw [List.find?_isSome]
        exact ⟨a, mem_divisions_reverse_iff.2 ⟨hNamed, hBelow⟩, decide_eq_true ha⟩
      obtain ⟨parent, hParent⟩ := Option.isSome_iff_exists.1 hFound
      exact absurd (isParent_of_find? hParent) (hNone parent)
    · have hPrefix : a <+: parent :=
        List.prefix_of_prefix_length_le (List.prefix_append _ _) hParent.isBelow.isPrefix
          (hParent.nearest a ha hNamed hBelow)
      obtain ⟨between, rfl⟩ := hPrefix
      obtain ⟨rest, hRest⟩ := hParent.isBelow.isPrefix
      rw [List.append_assoc, List.append_cancel_left_eq] at hRest
      cases between with
      | nil =>
        rw [List.append_nil] at hParent
        exact .single hParent
      | cons p between =>
        obtain ⟨rfl, rfl⟩ := List.cons.inj hRest
        have hShorter := hParent.isBelow.length_lt
        have hFront : IsPlain (a ++ .char '.' :: between) := fun hDots =>
          hPlain (hDots.trans hParent.isBelow.isPrefix.isInfix)
        refine (ih _ ?_ hFront rfl).tail hParent
        simp only [List.length_append, List.length_cons] at hShorter ⊢
        omega

/-- Only a dot can count or not. -/
theorem above_of_head {rest : Text} (h : rest.head? ≠ some (.char '.')) (counts : Bool) :
    above made true rest = above made counts rest := by
  cases rest with
  | nil => rfl
  | cons p rest =>
    have hp : p ≠ .char '.' := fun hp => h (congrArg some hp)
    rw [above, above, if_neg (fun hDot => hp hDot.2), if_neg (fun hDot => hp hDot.2)]

/-- A logger whose name does not end in a dot, and that is not quiet, makes no difference to others: behind
its name a dot counts as it would without the logger. -/
theorem isQuiet_insert {name : Text} (hEnd : name.getLast? ≠ some (.char '.'))
    (hLoud : name ∉ quietLoggers) (made : List Text) (logger : Text) :
    isQuiet (made.insert name) logger = isQuiet made logger := by
  have hAbove (counts : Bool) (r : Text) :
      (above (made.insert name) counts r).any quietLoggers.contains =
        (above made counts r).any quietLoggers.contains := by
    induction r generalizing counts with
    | nil => rfl
    | cons p rest ih =>
      rw [above, above]
      split_ifs with hDot hEmpty hInserted hMade hMade
      · rfl
      · rw [List.any_cons, List.any_cons, ih]
      · have hName : rest.reverse = name :=
          (List.mem_insert_iff.1 hInserted).resolve_right hMade
        have hHead : rest.head? ≠ some (.char '.') := by
          rwa [← hName, List.getLast?_reverse] at hEnd
        have hNotQuiet : quietLoggers.contains rest.reverse = false := by
          rw [hName]
          simpa using hLoud
        rw [List.any_cons, hNotQuiet, Bool.false_or, ih, above_of_head hHead]
      · exact absurd (List.mem_insert_of_mem hMade) hInserted
      · exact ih false
      · exact ih true
  rw [isQuiet, isQuiet, lineage, lineage, List.any_cons, List.any_cons, hAbove]

/-- A logger without two dots in a row is quiet by its name, if all quiet loggers are there. -/
theorem isQuiet_iff_of_isPlain (hMade : quietLoggers ⊆ made) (hPlain : IsPlain logger) :
    IsQuiet made logger ↔ IsQuietName logger := by
  have hNamed : ∀ quiet ∈ quietLoggers, quiet ≠ [] := by decide
  refine exists_congr fun quiet => and_congr_right fun hQuiet => ⟨exists_of_reflTransGen, ?_⟩
  rintro (rfl | ⟨more, rfl⟩)
  · exact .refl
  · exact reflTransGen_of_isPlain (hMade hQuiet) (hNamed quiet hQuiet) hPlain

end Storefront.Log
