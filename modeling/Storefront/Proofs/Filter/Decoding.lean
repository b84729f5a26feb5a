import Mathlib
import Storefront.Proofs.Filter.History
import Storefront.Proofs.Number.Integral

/-!
# Decoding filters

A filter whose clauses were all added one by one can be taken apart again: its text determines the
groups, and each clause with its key, its operator and its value. Nothing that stands inside of a
quoted text is taken for a part of the filter, since quotes and backslashes are escaped there.

* `decode?`: the clauses of a filter, group by group, from its text alone.
* `Recovers`: texts come back character by character, numbers with an equal value.
* `exists_literal_of_isReadable`: what the literal of a value decodes to.
* `decode?_groups`: the text of some groups of clauses decodes to these groups.
* `Builder.decode_recovers_clauses`: what a filter decodes to that was built from clauses.
-/

namespace Storefront.Filter

instance : Inhabited Comparison := ⟨⟨[], .eq, .text []⟩⟩

instance : Inhabited Condition := ⟨.compare default⟩

/-- A key that is compared with a value. -/
structure Clause where
  key : Text
  operator : Operator
  value : Value

/-! ## The decoder -/

/-- What a literal stands for: a numeral without a power of ten is an integer, any other one the
nearest double. -/
def Literal.toValue : Literal → Value
  | .number n =>
    if n.exponent = 0 then .int (Binary64.signed n.negative n.digits) else .float n.toBinary64
  | .text t => .text t

def Comparison.clause (c : Comparison) : Clause := ⟨c.field, c.operator, c.literal.toValue⟩

namespace Condition

/-- The clauses of a group, which are alternatives. -/
def clauses? : Condition → Option (List Clause)
  | .compare c => some [c.clause]
  | .or a b => do return (← a.clauses?) ++ (← b.clauses?)
  | .and _ _ => none

/-- The groups of a filter, which are requirements. -/
def groups? : Condition → Option (List (List Clause))
  | .and a b => do return (← a.groups?) ++ (← b.groups?)
  | c => c.clauses?.map ([·])

end Condition

/-- The clauses of a filter, group by group. -/
def decode? (t : Text) : Option (List (List Clause)) :=
  if t = [] then some [] else (Condition.read? t).bind Condition.groups?

/-! ## Values -/

/-- The value of an integer or of a finite double, in the units that doubles are counted in. -/
def units? : Value → Option Int
  | .int n => some (n * Binary64.unitsPerOne)
  | .float x => if x.isFinite then some x.units else none
  | _ => none

/-- The same text, or a number that is equal. -/
inductive Recovers : Value → Value → Prop where
  | text (t : Text) : Recovers (.text t) (.text t)
  | number {v w : Value} {n : Int} (hv : units? v = some n) (hw : units? w = some n) : Recovers v w

/-- Integers that are not too long to be written, finite doubles, and all texts. -/
def IsReadable : Value → Prop
  | .int n => Value.isLong n = false
  | .float x => x.isFinite = true
  | .text _ => True
  | _ => False

instance : DecidablePred IsReadable
  | .int _ | .float _ => inferInstanceAs (Decidable (_ = _))
  | .text _ => isTrue trivial
  | .null | .bool _ | .bytes _ | .list _ | .object _ => isFalse id

theorem toValue_ofInt (n : Int) : (Literal.number (Numeral.ofInt n)).toValue = .int n := by
  have hExponent : (Numeral.ofInt n).exponent = 0 := rfl
  rw [Literal.toValue, if_pos hExponent, Numeral.ofInt, Binary64.signed]
  congr 1
  by_cases hn : n < 0
  · simp only [hn, decide_true, if_true]
    omega
  · simp only [hn, decide_false, Bool.false_eq_true, if_false]
    omega

/-- A double that is no integer has no numeral without a power of ten. -/
theorem toValue_of_toInt?_eq_none {n : Numeral} (hFinite : n.toBinary64.isFinite = true)
    (h : n.toBinary64.toInt? = none) : (Literal.number n).toValue = .float n.toBinary64 := by
  rw [Literal.toValue, if_neg]
  intro hExponent
  obtain ⟨k, hk⟩ := Numeral.exists_toInt?_of_exponent hExponent hFinite
  rw [h] at hk
  cases hk

/-- The literal of a value is there, and decodes to the value. -/
theorem exists_literal_of_isReadable {v : Value} (h : IsReadable v) :
    ∃ t l, literal v = .ok t ∧ IsLiteral t l ∧ Recovers v l.toValue := by
  cases v with
  | int n =>
    refine ⟨_, _, literal_int h, isLiteral_int n, ?_⟩
    rw [toValue_ofInt]
    exact .number rfl rfl
  | float x =>
    have hx : x.isFinite = true := h
    have hUnits : units? (.float x) = some x.units := if_pos hx
    refine ⟨doubleLiteral x, ?_⟩
    rw [literal_float]
    unfold doubleLiteral
    -- A double with an integral value is written as that integer and comes back as one.
    cases hInt : x.toInt? with
    | some n =>
      refine ⟨_, rfl, isLiteral_int n, ?_⟩
      rw [toValue_ofInt]
      refine .number hUnits ?_
      rw [units?, (Binary64.units_of_toInt? hInt).2]
    | none =>
      obtain ⟨n, hLiteral, hValue⟩ := isLiteral_doubleText hx
      subst hValue
      refine ⟨_, rfl, hLiteral, ?_⟩
      rw [toValue_of_toInt?_eq_none hx hInt]
      exact .number hUnits hUnits
  | text t => exact ⟨_, _, rfl, isLiteral_text t, .text t⟩
  | null | bool _ | bytes _ | list _ | object _ => cases h

/-! ## Conditions -/

namespace Condition

/-- What is read off the items is read off the items joined together. -/
theorem read_joined {α β : Type} {read : Condition → Option (List β)}
    {join : Condition → Condition → Condition}
    (hJoin : ∀ {a b xs ys}, read a = some xs → read b = some ys →
      read (join a b) = some (xs ++ ys))
    (condition : α → Condition) (item : α → β) (first : α) (more : List α)
    (h : ∀ a ∈ first :: more, read (condition a) = some [item a]) :
    read (joined join (condition first) (more.map condition)) =
      some ((first :: more).map item) := by
  induction more generalizing first with
  | nil => exact h first List.mem_cons_self
  | cons second more ih =>
    exact hJoin (h first List.mem_cons_self)
      (ih second fun a ha => h a (List.mem_cons_of_mem _ ha))

theorem clauses?_or {a b : Condition} {xs ys : List Clause} (ha : a.clauses? = some xs)
    (hb : b.clauses? = some ys) : (or a b).clauses? = some (xs ++ ys) := by
  rw [clauses?, ha, hb]
  rfl

theorem groups?_and {a b : Condition} {xs ys : List (List Clause)} (ha : a.groups? = some xs)
    (hb : b.groups? = some ys) : (and a b).groups? = some (xs ++ ys) := by
  rw [groups?, ha, hb]
  rfl

/-- The clauses of one group are the only group. -/
theorem groups?_of_clauses? {c : Condition} {xs : List Clause} (h : c.clauses? = some xs) :
    c.groups? = some [xs] := by
  cases c with
  | compare c => rw [groups?, h, Option.map_some]; nofun
  | or a b => rw [groups?, h, Option.map_some]; nofun
  | and a b => cases h

end Condition

section Groups

variable {text : Clause → Text} {comparison : Clause → Comparison}

theorem isAtom_group {g : List Clause} (hne : g ≠ [])
    (h : ∀ c ∈ g, IsAtom (text c) (.compare (comparison c))) :
    ∃ condition, IsAtom (Expression.renderGroup (g.map text)) condition ∧
      condition.groups? = some [g.map fun c => (comparison c).clause] := by
  cases g with
  | nil => exact absurd rfl hne
  | cons first more =>
    have hJoined := join_induction (P := IsRequirements) (Q := IsAlternatives)
      IsRequirements.alternatives IsRequirements.or text (fun c => .compare (comparison c))
      first more fun c hc => (h c hc).requirements
    exact ⟨_, hJoined.group, Condition.groups?_of_clauses? (Condition.read_joined
      Condition.clauses?_or (fun c => .compare (comparison c)) _ first more fun c _ => rfl)⟩

/-- Groups are decoded from their text if each clause is the text of a comparison. -/
theorem decode?_groups {groups : List (List Clause)} (hne : ∀ g ∈ groups, g ≠ [])
    (h : ∀ g ∈ groups, ∀ c ∈ g, IsAtom (text c) (.compare (comparison c))) :
    decode? (Text.join " AND " (groups.map fun g => Expression.renderGroup (g.map text))) =
      some (groups.map fun g => g.map fun c => (comparison c).clause) := by
  cases groups with
  | nil => rfl
  | cons first more =>
    have hAtom : ∀ g ∈ first :: more, ∃ condition,
        IsAtom (Expression.renderGroup (g.map text)) condition ∧
          condition.groups? = some [g.map fun c => (comparison c).clause] :=
      fun g hg => isAtom_group (hne g hg) (h g hg)
    choose! condition hCondition using hAtom
    have hRequirements := join_induction (P := IsAtom) (Q := IsRequirements)
      IsAtom.requirements IsAtom.and (fun g => Expression.renderGroup (g.map text)) condition
      first more fun g hg => (hCondition g hg).1
    have hRead := hRequirements.alternatives.read?
    have hGroups := Condition.read_joined Condition.groups?_and condition
      (fun g => g.map fun c => (comparison c).clause) first more
      fun g hg => (hCondition g hg).2
    rw [decode?, if_neg, hRead, Option.bind_some, hGroups]
    intro hNil
    rw [hNil] at hRead
    cases hRead

end Groups

/-! ## Clauses and calls -/

namespace Clause

/-- The key can be read as the name of a field, and the value as a literal. -/
def IsReadable (c : Clause) : Prop := isName c.key = true ∧ Filter.IsReadable c.value

instance (c : Clause) : Decidable c.IsReadable := inferInstanceAs (Decidable (_ ∧ _))

/-- The same key and operator, and the value is recovered. -/
def Recovers (c d : Clause) : Prop :=
  c.key = d.key ∧ c.operator = d.operator ∧ Filter.Recovers c.value d.value

/-- The call that adds a clause. -/
def call (c : Clause) : Builder.Call := .grouped c.key (.text c.operator.symbol) c.value

/-- Clauses with the same key form a group; groups stand in the order of their first clauses. -/
def groups (clauses : List Clause) : List (List Clause) :=
  (clauses.map Clause.key).eraseDups.map fun key => clauses.filter (·.key = key)

theorem ne_nil_of_mem_groups {clauses g : List Clause} (h : g ∈ groups clauses) : g ≠ [] := by
  obtain ⟨key, hKey, rfl⟩ := List.mem_map.1 h
  obtain ⟨c, hc, rfl⟩ := List.mem_map.1 (List.mem_eraseDups.1 hKey)
  exact List.ne_nil_of_mem (List.mem_filter.2 ⟨hc, decide_eq_true rfl⟩)

theorem mem_of_mem_groups {clauses g : List Clause} {c : Clause} (h : g ∈ groups clauses)
    (hc : c ∈ g) : c ∈ clauses := by
  obtain ⟨key, -, rfl⟩ := List.mem_map.1 h
  exact (List.mem_filter.1 hc).1

/-- A readable clause makes an entry whose text is a comparison that the clause is recovered
from. -/
theorem exists_entry_of_isReadable {c : Clause} (h : c.IsReadable) :
    ∃ text d, c.call.entry? = some ⟨c.key, false, text⟩ ∧ IsAtom text (.compare d) ∧
      c.Recovers d.clause := by
  obtain ⟨t, l, hText, hLiteral, hValue⟩ := exists_literal_of_isReadable h.2
  refine ⟨Expression.clause c.key c.operator t, ⟨c.key, c.operator, l⟩, ?_,
    isAtom_clause h.1 c.operator hLiteral, rfl, rfl, hValue⟩
  rw [call, Builder.Call.entry?, Builder.read_eq_ok_iff.2 rfl, hText]

end Clause

namespace Builder

/-- The text of a filter whose calls have each made one clause. -/
theorem render_after_clauses {clauses : List Clause} {text : Clause → Text}
    (h : ∀ c ∈ clauses, c.call.entry? = some ⟨c.key, false, text c⟩) :
    (after (clauses.map Clause.call)).render =
      Text.join " AND "
        ((Clause.groups clauses).map fun g => Expression.renderGroup (g.map text)) := by
  have hEntries : entries (clauses.map Clause.call) =
      clauses.map fun c => ⟨c.key, false, text c⟩ := by
    rw [entries, List.filterMap_map, ← List.filterMap_eq_map]
    exact List.filterMap_congr h
  have hClauses : ∀ key, clausesOf (clauses.map fun c => ⟨c.key, false, text c⟩) key =
      (clauses.filter (·.key = key)).map text := by
    intro key
    rw [clausesOf, sinceLastRaw_of_clauses, List.filter_map, List.map_map]
    · rfl
    · intro x hx
      obtain ⟨c, -, rfl⟩ := List.mem_map.1 (List.mem_of_mem_filter hx)
      rfl
  rw [Expression.render, groups_after, hEntries, keysOf, List.map_map, List.map_map,
    Clause.groups, List.map_map]
  simp only [Function.comp_def, hClauses]

/-- Clauses that are added one by one are decoded from the text of the filter, in their groups and
in their order. Keys are names, even of connectives, and texts have any characters in them. -/
theorem decode_recovers_clauses {clauses : List Clause} (h : ∀ c ∈ clauses, c.IsReadable) :
    (∀ c ∈ clauses, ∀ e, (step e c.call).1 = .ok none) ∧
      ∃ decoded, decode? (after (clauses.map Clause.call)).render = some decoded ∧
        List.Forall₂ (List.Forall₂ Clause.Recovers) (Clause.groups clauses) decoded := by
  choose! text comparison hClause using fun c hc => Clause.exists_entry_of_isReadable (h c hc)
  refine ⟨fun c hc e => ?_,
    (Clause.groups clauses).map fun g => g.map fun c => (comparison c).clause, ?_, ?_⟩
  · rw [step_of_entry?_eq_some e (hClause c hc).1]
  · rw [render_after_clauses fun c hc => (hClause c hc).1]
    exact decode?_groups (fun g hg => Clause.ne_nil_of_mem_groups hg) fun g hg c hc =>
      (hClause c (Clause.mem_of_mem_groups hg hc)).2.1
  · refine List.forall₂_map_right_iff.2 (List.forall₂_same.2 fun g hg => ?_)
    refine List.forall₂_map_right_iff.2 (List.forall₂_same.2 fun c hc => ?_)
    exact (hClause c (Clause.mem_of_mem_groups hg hc)).2.2

/-- Clauses that look like other parts of a filter: keys that are connectives, and texts with
quotes, backslashes and parentheses in them. -/
def deceptiveClauses : List Clause :=
  [⟨"AND", .eq, .text "\") OR (\\"⟩, ⟨"OR", .ge, .int (-12)⟩,
    ⟨"AND", .ne, .text "\\\" AND \\\\"⟩, ⟨"OR", .lt, .float (Binary64.nearest true 1 4)⟩]

theorem decode_recovers_deceptiveClauses :
    (∀ c ∈ deceptiveClauses, c.IsReadable) ∧
      ∃ decoded, decode? (after (deceptiveClauses.map Clause.call)).render = some decoded ∧
        List.Forall₂ (List.Forall₂ Clause.Recovers) (Clause.groups deceptiveClauses) decoded := by
  have hReadable : ∀ c ∈ deceptiveClauses, c.IsReadable := by decide +kernel
  exact ⟨hReadable, (decode_recovers_clauses hReadable).2⟩

end Builder

end Storefront.Filter
