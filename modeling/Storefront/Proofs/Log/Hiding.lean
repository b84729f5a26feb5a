import Mathlib
import Storefront.Log.Session
import Storefront.Proofs.Json.Texts
import Storefront.Proofs.Log.Masking
import Storefront.Proofs.Value.Reading

/-!
# Secrets in written lines

Whichever way a text gets into an entry, it is masked there, so no text that is written has a secret
in it. But what is written as two halves is read as one character: a text that holds such halves alone
is written as a secret would be, and shows it to everyone who reads the line.

* `Line.Writes`, `Line.Shows`: the texts of a line, as they are written and as they are read.
* `Journal.isMasked_of_mem_put`, `isMasked_of_mem_perform`: where the texts of an entry come from.
* `isMasked_run`: the lines of a run, by induction over its steps.
* `not_hides`: a secret that can be read in a line.
* `isMasked_of_configure`: what holds of all lines that a configured journal writes.
-/

namespace Storefront.Log

open Text (joined HasPair)

/-! ## What a line shows -/

namespace Line

/-- A text of an entry, as it is written. -/
def Writes (line : Line) (t : Text) : Prop :=
  ∃ fields name, line = .entry fields ∧ (name, .text t) ∈ fields

/-- A text of an entry, as it is read where the entry was written. -/
def Shows (line : Line) (t : Text) : Prop :=
  ∃ written, line.Writes written ∧
    Json.read (Text.ofString (Json.write (.text written))) = .ok (.text t)

/-- The secret is no part of what is read. -/
def Hides (line : Line) (secret : Text) : Prop := ∀ t, line.Shows t → ¬ secret <:+: t

/-- What is read is what was written, with halves put together. -/
theorem shows_iff {line : Line} {t : Text} :
    line.Shows t ↔ ∃ written, line.Writes written ∧ joined written = t := by
  refine exists_congr fun written => and_congr_right fun _ => ?_
  rw [Json.read_write_text]
  constructor
  · intro h
    exact Value.text.inj (Except.ok.inj h)
  · rintro rfl
    rfl

/-- A line is an entry, and its texts are masked: no secret is part of a text as it is written. A secret
is part of a text as it is read only if it has a character beyond sixteen bits, and the halves of one are
in the text. -/
structure IsMasked (secrets : List Text) (line : Line) : Prop where
  entry : ∃ fields, line = .entry fields
  written : ∀ t, line.Writes t → ∀ s ∈ secrets, s ≠ [] → ¬ s <:+: t
  read : ∀ t, line.Writes t → line.Shows (joined t)
  hidden : ∀ s ∈ secrets, s ≠ [] →
    (∀ p ∈ s, p.toNat < 0x10000) ∨ (∀ t, line.Writes t → ¬ t.HasPair) → line.Hides s

/-- What is masked when it is written is hidden, but for halves that are put together. -/
theorem isMasked_of_writes {secrets : List Text} {fields : Fields}
    (h : ∀ t, (entry fields).Writes t → ∀ s ∈ secrets, s ≠ [] → ¬ s <:+: t) :
    (entry fields).IsMasked secrets where
  entry := ⟨fields, rfl⟩
  written := h
  read t ht := shows_iff.2 ⟨t, ht, rfl⟩
  hidden s hs hNotEmpty hEither t ht hInfix := by
    obtain ⟨written, hWrites, rfl⟩ := shows_iff.1 ht
    have hAbsent := h written hWrites s hs hNotEmpty
    obtain hSmall | hNoPair := hEither
    · exact hAbsent (Text.infix_of_infix_joined hSmall hInfix)
    · rw [Text.joined_of_not_hasPair (hNoPair written hWrites)] at hInfix
      exact hAbsent hInfix

end Line

/-! ## Entries -/

namespace Journal

theorem shownFields_eq_map (fields : Fields) :
    shownFields fields = fields.map fun f => (f.1, shown f.2) := by
  induction fields with
  | nil => rfl
  | cons f fields ih => rw [shownFields, ih, List.map_cons]

/-- Byte strings are decoded before they are masked, so each text that is shown was masked. -/
theorem exists_masked_of_shown {secrets : List Text} {v : Value} {t : Text}
    (h : shown (maskValue secrets (decoded v)) = .text t) : ∃ clear, t = maskText secrets clear := by
  cases v with
  | text clear => exact ⟨clear, (Value.text.inj h).symm⟩
  | bytes b => exact ⟨Text.decodeUtf8 b, (Value.text.inj h).symm⟩
  | null | bool | int | float | list | object => cases h

/-- An entry that is put is masked. -/
theorem isMasked_of_mem_put {j : Journal} {logger : Text} {level : Level} {secrets texts : List Text}
    {fields : Fields} (hTexts : ∀ s ∈ secrets, s ≠ [] → s ∈ texts)
    (hStarless : ∀ s ∈ texts, IsStarless s) {line : Line}
    (h : line ∈ j.put logger level (maskFields texts (dressed fields))) : line.IsMasked secrets := by
  rw [put] at h
  split at h
  · obtain rfl := List.mem_singleton.1 h
    refine Line.isMasked_of_writes ?_
    rintro t ⟨entry, name, hEntry, hMem⟩ s hs hNotEmpty
    obtain rfl := Line.entry.inj hEntry
    rw [shownFields_eq_map, maskFields, dressed] at hMem
    simp only [List.map_map, List.mem_map] at hMem
    obtain ⟨f, -, hField⟩ := hMem
    obtain ⟨clear, rfl⟩ := exists_masked_of_shown (Prod.mk.inj hField).2
    exact not_infix_maskText hStarless (hTexts s hs hNotEmpty) hNotEmpty clear
  · cases h

end Journal

/-! ## Calls -/

/-- The secrets of a journal are texts without stars, and those of a list that are not empty are among
them. -/
structure Journal.Guards (j : Journal) (secrets : List Text) : Prop where
  stranger : j.secrets.stranger = none
  starless : ∀ s ∈ j.secrets.texts, IsStarless s
  texts : ∀ s ∈ secrets, s ≠ [] → s ∈ j.secrets.texts

variable {j : Journal} {secrets : List Text}

theorem exists_dressed_of_compose {c : Call} {context fields : Fields} {logger : Text} {level : Level}
    (h : c.compose context logger level = .ok fields) :
    ∃ composed, fields = Journal.dressed composed := by
  obtain ⟨-, -, h⟩ := bind_eq_ok_iff.1 h
  obtain ⟨⟨filling, others⟩, -, h⟩ := bind_eq_ok_iff.1 h
  obtain ⟨composed, -, h⟩ := bind_eq_ok_iff.1 h
  exact ⟨composed, (Except.ok.inj h).symm⟩

theorem maskWith_of_guards (hGuards : j.Guards secrets) (fields : Fields) :
    maskWith j.secrets fields = .ok (maskFields j.secrets.texts fields) := by
  rw [maskWith, hGuards.stranger]

theorem isMasked_of_mem_perform {c : Call} {lines : List Line} (hGuards : j.Guards secrets)
    (h : c.perform j = .ok lines) {line : Line} (hLine : line ∈ lines) : line.IsMasked secrets := by
  obtain ⟨⟨logger, level, masked⟩, hEntry, rfl⟩ := map_eq_ok_iff.1 h
  obtain ⟨named, -, hEntry⟩ := bind_eq_ok_iff.1 hEntry
  obtain ⟨⟨_, c⟩, -, hEntry⟩ := bind_eq_ok_iff.1 hEntry
  obtain ⟨fields, hFields, hEntry⟩ := bind_eq_ok_iff.1 hEntry
  obtain ⟨_, hMasked, hEntry⟩ := bind_eq_ok_iff.1 hEntry
  cases hEntry
  obtain ⟨composed, rfl⟩ := exists_dressed_of_compose hFields
  rw [maskWith_of_guards hGuards] at hMasked
  obtain rfl := Except.ok.inj hMasked
  exact Journal.isMasked_of_mem_put hGuards.texts hGuards.starless hLine

/-! ## Runs -/

theorem Journal.Guards.step (hGuards : j.Guards secrets) (s : Step) : (j.step s).2.Guards secrets := by
  cases s with
  | bind | clear | call => exact ⟨hGuards.stranger, hGuards.starless, hGuards.texts⟩

theorem isMasked_step (hGuards : j.Guards secrets) (s : Step) :
    ∀ line ∈ (j.step s).1, line.IsMasked secrets := by
  intro line hLine
  cases s with
  | bind | clear => cases hLine
  | call time c =>
    rw [Journal.step] at hLine
    cases hPerform : (c.stamped time).perform j with
    | error e =>
      rw [hPerform] at hLine
      cases hLine
    | ok lines =>
      rw [hPerform] at hLine
      exact isMasked_of_mem_perform hGuards hPerform hLine

theorem isMasked_run (hGuards : j.Guards secrets) (steps : List Step) :
    ∀ line ∈ j.run steps, line.IsMasked secrets := by
  induction steps generalizing j with
  | nil =>
    intro line hLine
    cases hLine
  | cons s steps ih =>
    intro line hLine
    obtain hFirst | hRest := List.mem_append.1 hLine
    · exact isMasked_step hGuards s line hFirst
    · exact ih (hGuards.step s) line hRest

/-! ## Configured journals -/

theorem secrets_configure (j : Journal) (rendering : Rendering) (threshold : Value)
    (secrets : List Text) :
    (j.configure ⟨rendering, threshold, .list (secrets.map .text)⟩).1.secrets = .ofTexts secrets := by
  rw [Journal.configure, read_texts]
  cases Log.threshold threshold with
  | ok | error => rfl

theorem guards_configure (hStarless : ∀ s ∈ secrets, IsStarless s) (j : Journal)
    (rendering : Rendering) (threshold : Value) :
    (j.configure ⟨rendering, threshold, .list (secrets.map .text)⟩).1.Guards secrets := by
  have hSecrets := secrets_configure j rendering threshold secrets
  constructor
  · rw [hSecrets]
    rfl
  · intro s hs
    rw [hSecrets] at hs
    exact hStarless s (List.mem_filter.1 hs).1
  · intro s hs hNotEmpty
    rw [hSecrets]
    refine List.mem_filter.2 ⟨hs, ?_⟩
    rw [Bool.not_eq_true', List.isEmpty_eq_false_iff]
    exact hNotEmpty

/-! ## A secret that can be read -/

/-- A secret that is one character beyond sixteen bits. -/
def smile : Text := "😀"

/-- A call whose event is filled in with both halves of a character. -/
def halvesCall : Call :=
  ⟨.text "app", "info", .text "%c%c", [.int 0xD83D, .int 0xDE00], [], []⟩

/-- The entry of that call. -/
def halvesEntry : Line :=
  .entry [("event", .text [.half 0x3D, .half 0x600]), ("level", .text "info"),
    ("logger", .text "app")]

theorem run_halvesCall :
    (Journal.initial.configure ⟨.json, .text "INFO", .list ([smile].map .text)⟩).1.run
      [.call none halvesCall] = [halvesEntry] := by
  rfl

/-- A secret that is in no text of a line can be read in the line. -/
theorem not_hides : ¬ ∀ (secrets : List Text) (j : Journal) (threshold : Value),
    (∀ s ∈ secrets, IsStarless s) →
    (j.configure ⟨.json, threshold, .list (secrets.map .text)⟩).2 = .ok () →
    ∀ (steps : List Step),
      ∀ line ∈ (j.configure ⟨.json, threshold, .list (secrets.map .text)⟩).1.run steps,
      ∀ s ∈ secrets, s ≠ [] → line.Hides s := by
  intro hAll
  have hStarless : ∀ s ∈ [smile], IsStarless s := by
    rintro s hs
    obtain rfl := List.mem_singleton.1 hs
    rw [IsStarless]
    decide
  have hLine : halvesEntry ∈ (Journal.initial.configure
      ⟨.json, .text "INFO", .list ([smile].map .text)⟩).1.run [.call none halvesCall] := by
    rw [run_halvesCall]
    exact List.mem_singleton_self _
  have hJoined : joined [.half 0x3D, .half 0x600] = smile := by
    decide +kernel
  have hShows : halvesEntry.Shows smile :=
    Line.shows_iff.2 ⟨_, ⟨_, _, rfl, List.mem_cons_self⟩, hJoined⟩
  exact hAll [smile] .initial (.text "INFO") hStarless rfl [.call none halvesCall] halvesEntry hLine
    smile (List.mem_singleton_self _) (List.cons_ne_nil _ _) smile hShows List.infix_rfl

/-! ## All lines -/

/-- All lines that a configured journal writes are masked, whatever is bound and dropped and whichever
calls are made: no secret is part of a text as it is written, nor of a text as it is read, unless the
secret has a character beyond sixteen bits and the text was written with both halves of one. -/
theorem isMasked_of_configure {secrets : List Text} (hStarless : ∀ s ∈ secrets, IsStarless s)
    (j : Journal) (threshold : Value) (steps : List Step) :
    ∀ line ∈ (j.configure ⟨.json, threshold, .list (secrets.map .text)⟩).1.run steps,
      line.IsMasked secrets :=
  isMasked_run (guards_configure hStarless j .json threshold) steps

/-- A token comes in as part of a bound field, as bytes, and as an argument. -/
def leakySteps : List Step :=
  [.bind [("request_id", .text "tok-1")],
   .call (some "2024-05-01T10:00:00Z")
    ⟨.text "app", "info", .text "%s refused", [.text "tok"], [("header", .bytes [0x74, 0x6F, 0x6B])],
      [("count", .int 3)]⟩]

/-- The token is masked wherever it came in. -/
theorem isMasked_of_leakySteps :
    (∀ s ∈ [Text.ofString "tok"], IsStarless s) ∧
    ((Journal.initial.configure
        ⟨.json, .text "INFO", .list ([Text.ofString "tok"].map .text)⟩).1.run leakySteps).length = 1 ∧
    ∀ line ∈ (Journal.initial.configure
        ⟨.json, .text "INFO", .list ([Text.ofString "tok"].map .text)⟩).1.run leakySteps,
      line.IsMasked ["tok"] := by
  have hStarless : ∀ s ∈ [Text.ofString "tok"], IsStarless s := by
    rintro s hs
    obtain rfl := List.mem_singleton.1 hs
    rw [IsStarless]
    decide
  refine ⟨hStarless, ?_, isMasked_of_configure hStarless .initial (.text "INFO") leakySteps⟩
  decide +kernel

end Storefront.Log
