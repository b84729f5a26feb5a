import Mathlib
import Storefront.Filter.Builder
import Storefront.Proofs.Filter.Building
import Storefront.Proofs.Filter.Reading

/-!
# The history of a filter

A filter that is built call by call is a function of the history of calls. Whether a call succeeds
depends on the call alone, and what it then puts into the filter is an entry; the groups are read
off the entries, whatever calls on other keys, raw expressions and failures stand between them.

* `Builder.step_grouped`, `Builder.step_cases`: what one call does.
* `Builder.sinceLastRaw`: the entries of a key that count, which are those from its last raw
  expression on.
* `Builder.groups_after`: the groups behind a history, by induction over the history.
* `Builder.filter_of_history`: groups, text, emptiness and failures behind a history.
-/

namespace Storefront.Filter.Builder

open Storefront.Filter.Expression

/-! ## Calls that succeed -/

/-- Texts, doubles, and integers that are not too long to be written. -/
def HasLiteral : Value → Prop
  | .int n => Value.isLong n = false
  | .float _ | .text _ => True
  | _ => False

/-- The operator of the call is no comparison, or its value has no literal. -/
def Call.IsRefused : Call → Prop
  | .grouped _ operator v => (∀ o : Operator, operator ≠ .text o.symbol) ∨ ¬ HasLiteral v
  | _ => False

theorem eq_symbol_of_ofSymbol? {t : Text} {o : Operator} (h : Operator.ofSymbol? t = some o) :
    t = o.symbol := by
  have hFound := List.find?_some h
  exact beq_iff_eq.1 hFound

theorem read_eq_ok_iff {v : Value} {o : Operator} :
    Operator.read v = .ok o ↔ v = .text o.symbol := by
  constructor
  · intro h
    cases v with
    | text t =>
      cases hSymbol : Operator.ofSymbol? t with
      | none => simp [Operator.read, Value.text?, hSymbol] at h
      | some o' =>
        simp [Operator.read, Value.text?, hSymbol] at h
        rw [← h, ← eq_symbol_of_ofSymbol? hSymbol]
    | _ => simp [Operator.read, Value.text?] at h
  · rintro rfl
    simp [Operator.read, Value.text?, ofSymbol?_symbol]

theorem exists_literal_iff {v : Value} : (∃ l, literal v = .ok l) ↔ HasLiteral v := by
  cases v with
  | int n =>
    cases hLong : Value.isLong n with
    | false => exact iff_of_true ⟨_, literal_int hLong⟩ hLong
    | true => simp [literal, numberLiteral, Value.render?, Value.hasLongInt, HasLiteral, hLong,
        Except.mapError]
  | float x => exact iff_of_true ⟨_, literal_float x⟩ trivial
  | text t => exact iff_of_true ⟨_, rfl⟩ trivial
  | _ => simp [literal, HasLiteral]

/-! ## Entries -/

/-- What a call puts into a filter under a key: one more clause, or a raw expression in the place of
all clauses. -/
structure Entry where
  key : Text
  isRaw : Bool
  text : Text

/-- How an entry changes the clauses of its key. -/
def Entry.change (x : Entry) (clauses : List Text) : List Text :=
  if x.isRaw then [x.text] else clauses ++ [x.text]

/-- The entry of a call, if it succeeds and changes anything. -/
def Call.entry? : Call → Option Entry
  | .grouped key operator v =>
    match Operator.read operator, literal v with
    | .ok op, .ok l => some ⟨key, false, clause key op l⟩
    | _, _ => none
  | .raw key expression => some ⟨key, true, expression⟩
  | .describe => none

/-- A call that adds a clause does what adding it to the filter does, and keeps the filter where that
fails. -/
theorem step_grouped (e : Expression) (key : Text) (operator v : Value) :
    step e (.grouped key operator v) =
      match e.addClause key operator v with
      | .ok e' => (.ok none, e')
      | .error err => (.error err, e) := by
  cases hOperator : Operator.read operator with
  | error err =>
    simp only [step, Call.perform, addGrouped, addClause, hOperator]
    rfl
  | ok op =>
    cases hLiteral : literal v with
    | error err =>
      simp only [step, Call.perform, addGrouped, addClause, hOperator, hLiteral]
      rfl
    | ok l =>
      simp only [step, Call.perform, addGrouped, addClause, hOperator, hLiteral]
      rfl

/-- A call fails and leaves the filter as it was, shows the filter, or makes its entry. -/
theorem step_cases (e : Expression) (c : Call) :
    (c.IsRefused ∧ c.entry? = none ∧ ∃ err, step e c = (.error err, e)) ∨
    (c = .describe ∧ step e c = (.ok (some e.describe), e)) ∨
    (¬ c.IsRefused ∧ c ≠ .describe ∧ ∃ x, c.entry? = some x ∧
      step e c = (.ok none, ⟨update e.groups x.key x.change⟩)) := by
  cases c with
  | describe => exact .inr (.inl ⟨rfl, rfl⟩)
  | raw key expression =>
    exact .inr (.inr ⟨not_false, by rintro ⟨⟩, ⟨key, true, expression⟩, rfl, rfl⟩)
  | grouped key operator v =>
    cases hOperator : Operator.read operator with
    | error err =>
      refine .inl ⟨.inl fun o h => ?_, ?_, err, ?_⟩
      · rw [read_eq_ok_iff.2 h] at hOperator
        cases hOperator
      · simp only [Call.entry?, hOperator]
      · rw [step_grouped, addClause, hOperator]
        rfl
    | ok op =>
      cases hLiteral : literal v with
      | error err =>
        refine .inl ⟨.inr fun h => ?_, ?_, err, ?_⟩
        · obtain ⟨l, hl⟩ := exists_literal_iff.2 h
          rw [hl] at hLiteral
          cases hLiteral
        · simp only [Call.entry?, hOperator, hLiteral]
        · rw [step_grouped, addClause, hOperator, hLiteral]
          rfl
      | ok l =>
        refine .inr (.inr ⟨?_, by rintro ⟨⟩, ⟨key, false, clause key op l⟩, ?_, ?_⟩)
        · rintro (hNone | hNone)
          · exact hNone op (read_eq_ok_iff.1 hOperator)
          · exact hNone (exists_literal_iff.1 ⟨l, hLiteral⟩)
        · simp only [Call.entry?, hOperator, hLiteral]
        · rw [step_grouped, addClause, hOperator, hLiteral]
          rfl

/-- Whether a call fails does not depend on the filter. -/
theorem step_fails_iff (e : Expression) (c : Call) :
    (∃ err, (step e c).1 = .error err) ↔ c.IsRefused := by
  rcases step_cases e c with ⟨hRefused, -, err, hStep⟩ | ⟨rfl, hStep⟩ | ⟨hMade, -, x, -, hStep⟩
  · simp [hStep, hRefused]
  · simp [hStep, Call.IsRefused]
  · simp [hStep, hMade]

theorem entry?_eq_none_iff {c : Call} : c.entry? = none ↔ c.IsRefused ∨ c = .describe := by
  rcases step_cases .empty c with ⟨hRefused, hEntry, -⟩ | ⟨rfl, -⟩ | ⟨hMade, hNot, x, hEntry, -⟩
  · simp [hEntry, hRefused]
  · simp [Call.entry?]
  · simp [hEntry, hMade, hNot]

/-- A call that fails, or shows the filter, leaves the filter as it was. -/
theorem step_of_entry?_eq_none (e : Expression) {c : Call} (h : c.entry? = none) :
    (step e c).2 = e := by
  rcases step_cases e c with ⟨-, -, err, hStep⟩ | ⟨-, hStep⟩ | ⟨-, -, x, hEntry, -⟩
  · rw [hStep]
  · rw [hStep]
  · rw [h] at hEntry
    cases hEntry

theorem step_of_entry?_eq_some (e : Expression) {c : Call} {x : Entry} (h : c.entry? = some x) :
    step e c = (.ok none, ⟨update e.groups x.key x.change⟩) := by
  rcases step_cases e c with ⟨-, hEntry, -⟩ | ⟨rfl, -⟩ | ⟨-, -, y, hEntry, hStep⟩
  · rw [h] at hEntry
    cases hEntry
  · cases h
  · rw [h] at hEntry
    injection hEntry with hEntry
    rw [hEntry, hStep]

/-! ## The entries that count -/

/-- The entries without those that have a raw expression behind them. -/
def sinceLastRaw : List Entry → List Entry
  | [] => []
  | x :: rest => if rest.any (·.isRaw) then sinceLastRaw rest else x :: rest

theorem sinceLastRaw_append_raw (before : List Entry) {x : Entry} (hx : x.isRaw = true)
    {rest : List Entry} (hRest : ∀ y ∈ rest, y.isRaw = false) :
    sinceLastRaw (before ++ x :: rest) = x :: rest := by
  induction before with
  | nil =>
    rw [List.nil_append, sinceLastRaw, if_neg]
    simpa using hRest
  | cons y before ih =>
    rw [List.cons_append, sinceLastRaw, if_pos, ih]
    simp [hx]

theorem sinceLastRaw_of_clauses {xs : List Entry} (h : ∀ x ∈ xs, x.isRaw = false) :
    sinceLastRaw xs = xs := by
  cases xs with
  | nil => rfl
  | cons x xs =>
    rw [sinceLastRaw, if_neg]
    simpa using fun y hy => h y (List.mem_cons_of_mem x hy)

theorem sinceLastRaw_append_clause (xs : List Entry) {x : Entry} (hx : x.isRaw = false) :
    sinceLastRaw (xs ++ [x]) = sinceLastRaw xs ++ [x] := by
  induction xs with
  | nil => rfl
  | cons y xs ih =>
    rw [List.cons_append, sinceLastRaw, sinceLastRaw, List.any_append, ih]
    by_cases hRaw : xs.any (·.isRaw) = true
    · simp [hRaw]
    · simp [hRaw, hx]

/-- The clauses of a key: those from its last raw expression on. -/
def clausesOf (xs : List Entry) (key : Text) : List Text :=
  (sinceLastRaw (xs.filter (·.key = key))).map Entry.text

theorem clausesOf_append_self (xs : List Entry) (x : Entry) :
    clausesOf (xs ++ [x]) x.key = x.change (clausesOf xs x.key) := by
  have hFilter : (xs ++ [x]).filter (·.key = x.key) = xs.filter (·.key = x.key) ++ [x] := by
    simp
  unfold clausesOf Entry.change
  rw [hFilter]
  cases hRaw : x.isRaw with
  | true =>
    rw [sinceLastRaw_append_raw _ hRaw (by simp)]
    rfl
  | false =>
    rw [sinceLastRaw_append_clause _ hRaw, List.map_append]
    rfl

theorem clausesOf_append_of_ne (xs : List Entry) {x : Entry} {key : Text} (h : key ≠ x.key) :
    clausesOf (xs ++ [x]) key = clausesOf xs key := by
  have hFilter : (xs ++ [x]).filter (·.key = key) = xs.filter (·.key = key) := by
    simp [h.symm]
  rw [clausesOf, hFilter, clausesOf]

/-- The keys in the order in which they first came up. -/
def keysOf (xs : List Entry) : List Text := (xs.map Entry.key).eraseDups

theorem mem_keysOf {xs : List Entry} {key : Text} :
    key ∈ keysOf xs ↔ key ∈ xs.map Entry.key := List.mem_eraseDups

theorem keysOf_append (xs : List Entry) (x : Entry) :
    keysOf (xs ++ [x]) = if x.key ∈ keysOf xs then keysOf xs else keysOf xs ++ [x.key] := by
  rw [keysOf, List.map_append, List.eraseDups_append, List.map_singleton, ← keysOf,
    List.removeAll]
  by_cases hMem : x.key ∈ keysOf xs
  · have hElem := List.elem_iff.2 (mem_keysOf.1 hMem)
    rw [if_pos hMem, List.filter_cons_of_neg (by rw [hElem]; decide), List.filter_nil,
      List.eraseDups_nil, List.append_nil]
  · have hElem : List.elem x.key (xs.map Entry.key) = false := by
      rw [← Bool.not_eq_true, List.elem_iff, ← mem_keysOf]
      exact hMem
    rw [if_neg hMem, List.filter_cons_of_pos (by rw [hElem]; rfl), List.filter_nil,
      List.eraseDups_cons, List.filter_nil, List.eraseDups_nil]

theorem nodup_keysOf (xs : List Entry) : (keysOf xs).Nodup := by
  induction xs using List.reverseRecOn with
  | nil => exact List.nodup_nil
  | append_singleton xs x ih =>
    rw [keysOf_append]
    split
    · exact ih
    · rename_i hNew
      exact List.Nodup.append ih (List.nodup_singleton _) (by simpa using hNew)

theorem clausesOf_of_absent {xs : List Entry} {key : Text} (h : key ∉ keysOf xs) :
    clausesOf xs key = [] := by
  have hNone : xs.filter (·.key = key) = [] := by
    rw [List.filter_eq_nil_iff]
    intro x hx hKey
    exact h (mem_keysOf.2 (List.mem_map.2 ⟨x, hx, of_decide_eq_true hKey⟩))
  rw [clausesOf, hNone]
  rfl

/-! ## Groups -/

/-- Groups that are a function of their keys stay so when one key is changed. -/
theorem update_map {keys : List Text} (hNodup : keys.Nodup) {f g : Text → List Text} {key : Text}
    {change : List Text → List Text} (hKey : g key = change (f key))
    (hOther : ∀ k, k ≠ key → g k = f k) (hAbsent : key ∉ keys → f key = []) :
    update (keys.map fun k => (k, f k)) key change =
      (if key ∈ keys then keys else keys ++ [key]).map fun k => (k, g k) := by
  have hSame : ∀ ks : List Text, key ∉ ks →
      ks.map (fun k => (k, g k)) = ks.map fun k => (k, f k) := by
    intro ks hks
    refine List.map_congr_left fun k hk => ?_
    rw [hOther k fun h => hks (h ▸ hk)]
  have hApart : ∀ ks : List Text, key ∉ ks → ∀ g ∈ ks.map fun k => (k, f k), g.1 ≠ key := by
    intro ks hks g hg
    obtain ⟨k, hk, rfl⟩ := List.mem_map.1 hg
    exact fun h => hks (h ▸ hk)
  by_cases hMem : key ∈ keys
  · -- A key that is present stands in one place, and only the group there changes.
    obtain ⟨before, behind, rfl⟩ := List.append_of_mem hMem
    obtain ⟨-, hBehind, hOnce⟩ := List.nodup_append.1 hNodup
    rw [List.nodup_cons] at hBehind
    have hBefore : key ∉ before := fun h => hOnce key h key List.mem_cons_self rfl
    rw [if_pos hMem, List.map_append, List.map_append, List.map_cons, List.map_cons,
      hSame before hBefore, hSame behind hBehind.1, hKey]
    exact update_of_present (hApart before hBefore) _ _ _
  · rw [if_neg hMem, List.map_append, hSame keys hMem, List.map_singleton, hKey, hAbsent hMem]
    exact update_of_absent (hApart keys hMem) _

/-- The entries of a history. -/
def entries (history : List Call) : List Entry := history.filterMap Call.entry?

theorem after_append (history : List Call) (c : Call) :
    after (history ++ [c]) = (step (after history) c).2 := by
  rw [after, List.foldl_append]
  rfl

/-- The groups behind a history, by what its successful calls have put into the filter. -/
theorem groups_after (history : List Call) :
    (after history).groups =
      (keysOf (entries history)).map fun key => (key, clausesOf (entries history) key) := by
  -- The last call is the one that changes the groups, so the history is taken apart from its end.
  induction history using List.reverseRecOn with
  | nil => rfl
  | append_singleton history c ih =>
    rw [after_append, entries, List.filterMap_append, ← entries]
    cases hEntry : c.entry? with
    | none =>
      rw [step_of_entry?_eq_none _ hEntry, List.filterMap_cons_none hEntry, List.filterMap_nil,
        List.append_nil]
      exact ih
    | some x =>
      rw [step_of_entry?_eq_some _ hEntry, List.filterMap_cons_some hEntry, List.filterMap_nil,
        keysOf_append]
      dsimp only
      rw [ih]
      exact update_map (nodup_keysOf _) (clausesOf_append_self _ x)
        (fun k hk => clausesOf_append_of_ne _ hk) clausesOf_of_absent

/-! ## Texts -/

theorem groups_eq_nil_iff (history : List Call) :
    (after history).groups = [] ↔ ∀ c ∈ history, c.IsRefused ∨ c = .describe := by
  have hKeys : keysOf (entries history) = [] ↔ entries history = [] := by
    simp only [List.eq_nil_iff_forall_not_mem (l := keysOf _), mem_keysOf,
      ← List.eq_nil_iff_forall_not_mem, List.map_eq_nil_iff]
  rw [groups_after, List.map_eq_nil_iff, hKeys, entries, List.filterMap_eq_nil_iff]
  exact forall₂_congr fun c _ => entry?_eq_none_iff

theorem render_eq_nil_iff (e : Expression) : e.render = [] ↔ e.groups = [] := by
  constructor
  · intro h
    cases hGroups : e.groups with
    | nil => rfl
    | cons g more =>
      rw [render, hGroups, List.map_cons, Text.join] at h
      cases more <;> simp [renderGroup, Text.ofString, Text.ofChars] at h
  · intro h
    rw [render, h]
    rfl

/-- The filter behind a history, and so behind each part that a history begins with. Its groups are
the keys of the successful calls in the order of their first success, each with the clauses from its
last raw expression on; its text is put together from the groups, and is empty only as long as no
clause was added. Whether a call fails depends on its operator and its value, and a call that fails
leaves the filter as it was. -/
theorem filter_of_history (history : List Call) :
    (after history).groups =
        (keysOf (entries history)).map (fun key => (key, clausesOf (entries history) key)) ∧
    (after history).render =
        Text.join " AND " ((keysOf (entries history)).map fun key =>
          "(" ++ Text.join " OR " (clausesOf (entries history) key) ++ ")") ∧
    ((after history).isEmpty = false ↔ ∃ c ∈ history, ¬ c.IsRefused ∧ c ≠ .describe) ∧
    ((after history).isEmpty = false ↔ (after history).render ≠ []) ∧
    ∀ c, ((∃ err, (step (after history) c).1 = .error err) ↔ c.IsRefused) ∧
      (c.entry? = none ↔ c.IsRefused ∨ c = .describe) ∧
      (c.entry? = none → after (history ++ [c]) = after history) := by
  have hEmpty : (after history).isEmpty = false ↔ (after history).groups ≠ [] := by
    rw [isEmpty, List.isEmpty_eq_false_iff]
  refine ⟨groups_after history, ?_, ?_, ?_, fun c => ⟨step_fails_iff _ c, entry?_eq_none_iff, ?_⟩⟩
  · rw [render, groups_after, List.map_map]
    rfl
  · rw [hEmpty, ne_eq, groups_eq_nil_iff]
    push Not
    rfl
  · rw [hEmpty, ne_eq, ne_eq, render_eq_nil_iff]
  · intro hNone
    rw [after_append]
    exact step_of_entry?_eq_none _ hNone

end Storefront.Filter.Builder
