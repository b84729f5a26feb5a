import Mathlib
import Storefront.Proofs.Log.Hiding
import Storefront.Proofs.Value.Fields

/-!
# What entries say

An entry is put together from the fields that are bound, those of a record, and the event, the level
and the logger. What it says in a field is what was set there last, with the secret masked; and since
a mask replaces nothing but the secret, entries that say different things can be told apart.

* `Line.Says`, `Line.Says.unique`: what a line says in a field.
* `Journal.entryOf`: the entry of a record.
* `Journal.filter_writeAll`: the lines of at least a level are those of the records of at least that
  level.
-/

namespace Storefront.Log

/-! ## What is said -/

namespace Line

/-- The line is an entry with this text in a field, but for the secret, which is masked there. -/
def Says (secret : Text) (line : Line) (name : String) (t : Text) : Prop :=
  ∃ fields, line = .entry fields ∧ Fields.get? fields name = some (.text (replaceSecret secret t))

/-- A line does not say two things in one field. -/
theorem Says.unique {secret : Text} {line : Line} {name : String} {t u : Text}
    (ht : IsStarless t) (hu : IsStarless u) (h : line.Says secret name t)
    (h' : line.Says secret name u) : t = u := by
  obtain ⟨fields, rfl, hFirst⟩ := h
  obtain ⟨_, ⟨⟩, hSecond⟩ := h'
  exact (replaceSecret_inj ht hu).1 (Value.text.inj (Option.some.inj (hFirst.symm.trans hSecond)))

/-- The line is an entry of at least this level. -/
def IsAtLeast (secret : Text) (level : Level) (line : Line) : Prop :=
  ∃ l : Level, level.rank ≤ l.rank ∧ line.Says secret "level" l.name

end Line

theorem Level.isStarless_name (level : Level) : IsStarless (Text.ofString level.name) := by
  cases level <;> decide

theorem Level.name_inj {level level' : Level} :
    Text.ofString level.name = Text.ofString level'.name ↔ level = level' := by
  rw [Text.ofString_inj]
  cases level <;> cases level' <;> decide

namespace Journal

/-! ## Entries -/

variable {j : Journal} {r : Record} {line : Line}

/-- The entry of a record. -/
def entryOf (j : Journal) (r : Record) : Line :=
  .entry (shownFields (maskFields j.secrets.texts (dressed (j.compose r))))

theorem write_eq (j : Journal) (r : Record) :
    j.write r =
      if j.rendering = .json ∧ j.admits r.logger r.level then [j.entryOf r] else [] :=
  rfl

theorem eq_entryOf_of_mem_write (h : line ∈ j.write r) : line = j.entryOf r := by
  rw [write_eq] at h
  split at h
  · exact List.mem_singleton.1 h
  · cases h

/-- What an entry has in a field is what was composed there, decoded, masked and shown. -/
theorem get?_entry {fields : Fields} {secrets : List Text} {name : Text}
    (h : name ∉ droppedFields) :
    Fields.get? (shownFields (maskFields secrets (dressed fields))) name =
      (Fields.get? fields name).map fun v => shown (maskValue secrets (decoded v)) := by
  let kept (name : Text) : Bool := !droppedFields.contains name
  have hKept : kept name = true := by simpa [kept] using h
  have hFilter : Fields.get? (fields.filter fun f => kept f.1) name = Fields.get? fields name :=
    Fields.get?_filter hKept
  rw [shownFields_eq_map, Fields.get?_map, maskFields, Fields.get?_map, dressed, Fields.get?_map,
    hFilter, Option.map_map, Option.map_map]
  rfl

theorem get?_compose (j : Journal) (r : Record) (name : Text) :
    Fields.get? (j.compose r) name =
      if name = "logger" then some (.text (loggerName r.logger))
      else if name = "level" then some (.text r.level.name)
      else if name = "event" then some (.text r.event)
      else Fields.get? (Value.setFields j.context r.fields) name := by
  have hCompose : j.compose r =
      Value.setField (Value.setField (Value.setField (Value.setFields j.context r.fields)
        "event" (.text r.event)) "level" (.text r.level.name))
        "logger" (.text (loggerName r.logger)) := rfl
  rw [hCompose, Fields.get?_setField, Fields.get?_setField, Fields.get?_setField]

/-- A journal with a single secret. -/
def HasSecret (j : Journal) (secret : Text) : Prop := j.secrets = .ofTexts [secret]

variable {secret : Text}

theorem says_entryOf {name : String} {t : Text} (hSecret : j.HasSecret secret)
    (hName : Text.ofString name ∉ droppedFields)
    (h : Fields.get? (j.compose r) name = some (.text t)) : (j.entryOf r).Says secret name t := by
  refine ⟨_, rfl, ?_⟩
  rw [get?_entry hName, h, hSecret, ← maskText_ofTexts_singleton]
  rfl

theorem says_event (hSecret : j.HasSecret secret) (r : Record) :
    (j.entryOf r).Says secret "event" r.event := by
  refine says_entryOf hSecret (by decide) ?_
  rw [get?_compose, if_neg (by decide), if_neg (by decide), if_pos rfl]

theorem says_level (hSecret : j.HasSecret secret) (r : Record) :
    (j.entryOf r).Says secret "level" r.level.name := by
  refine says_entryOf hSecret (by decide) ?_
  rw [get?_compose, if_neg (by decide), if_pos rfl]

/-- The field is neither a part of every entry nor one that entries do not carry. -/
def IsFree (name : String) : Prop :=
  Text.ofString name ∉ droppedFields ∧ name ∉ ["event", "level", "logger"]

theorem get?_compose_of_isFree {name : String} (hFree : IsFree name)
    (hOther : ∀ f ∈ r.fields, f.1 ≠ Text.ofString name) :
    Fields.get? (j.compose r) name = Fields.get? j.context name := by
  have hParts := hFree.2
  simp only [List.mem_cons, List.not_mem_nil, or_false, not_or] at hParts
  rw [get?_compose, Fields.get?_setFields_of_not_mem hOther]
  simp [Text.ofString_inj, hParts]

/-- What is bound is said in every entry whose record has nothing else to say there. -/
theorem says_of_bound {name : String} {t : Text} (hSecret : j.HasSecret secret)
    (hFree : IsFree name) (hBound : Fields.get? j.context name = some (.text t))
    (hOther : ∀ f ∈ r.fields, f.1 ≠ Text.ofString name) :
    (j.entryOf r).Says secret name t := by
  refine says_entryOf hSecret hFree.1 ?_
  rw [get?_compose_of_isFree hFree hOther, hBound]

/-- What nothing is bound to is said in no entry whose record says nothing there. -/
theorem get?_entry_of_not_bound {name : String} (hFree : IsFree name)
    (hBound : Fields.get? j.context name = none)
    (hOther : ∀ f ∈ r.fields, f.1 ≠ Text.ofString name) :
    Fields.get? (shownFields (maskFields j.secrets.texts (dressed (j.compose r)))) name = none := by
  rw [get?_entry hFree.1, get?_compose_of_isFree hFree hOther, hBound]
  rfl

/-! ## Levels -/

theorem isAtLeast_entryOf_iff (hSecret : j.HasSecret secret) {level : Level} :
    (j.entryOf r).IsAtLeast secret level ↔ level.rank ≤ r.level.rank := by
  constructor
  · rintro ⟨l, hRank, hSays⟩
    have hSame := hSays.unique l.isStarless_name r.level.isStarless_name (says_level hSecret r)
    rwa [← Level.name_inj.1 hSame]
  · intro hRank
    exact ⟨r.level, hRank, says_level hSecret r⟩

open scoped Classical in
/-- The lines of at least a level are those of the records of at least that level. -/
theorem filter_writeAll (hSecret : j.HasSecret secret) (level : Level) (rs : List Record) :
    (j.writeAll rs).filter (·.IsAtLeast secret level) =
      j.writeAll (rs.filter (level.rank ≤ ·.level.rank)) := by
  induction rs with
  | nil => rfl
  | cons r rs ih =>
    have hCons (r : Record) (rs : List Record) :
        j.writeAll (r :: rs) = j.write r ++ j.writeAll rs := rfl
    have hWritten : ∀ line ∈ j.write r,
        line.IsAtLeast secret level ↔ level.rank ≤ r.level.rank := by
      intro line hLine
      rw [eq_entryOf_of_mem_write hLine, isAtLeast_entryOf_iff hSecret]
    rw [hCons, List.filter_append, ih, List.filter_cons]
    split
    · rename_i hKept
      rw [hCons, List.filter_eq_self.2]
      intro line hLine
      exact decide_eq_true ((hWritten line hLine).2 (of_decide_eq_true hKept))
    · rename_i hDropped
      rw [List.filter_eq_nil_iff.2, List.nil_append]
      intro line hLine hAtLeast
      exact hDropped (decide_eq_true ((hWritten line hLine).1 (of_decide_eq_true hAtLeast)))

end Journal

end Storefront.Log
