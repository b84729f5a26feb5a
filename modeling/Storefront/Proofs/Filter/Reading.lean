import Mathlib
import Storefront.Proofs.Filter.Grammar
import Storefront.Proofs.Number.Reading

/-!
# Reading filters back

What a filter is made of reads back from its text: words and quoted texts as tokens, comparisons
with connectives between them as conditions, whatever stands behind them.

* `Writes`: a text stands for some tokens; `writes_word`, `writes_textLiteral`, `Writes.blank` and
  `Writes.group` follow the way in which filters are put together.
* `isLiteral_doubleText`, `isLiteral_double`: how doubles read back.
* `IsAtom`, `IsRequirements`, `IsAlternatives`: a text is a condition of one level of the grammar;
  `isAtom_clause`, `IsAtom.and`, `IsRequirements.or` and `IsAlternatives.group` lead from level to
  level, and `join_induction` along the items of a list.
* `IsAlternatives.read?`: such a text reads as its condition.
-/

namespace Storefront.Filter

/-! ## Texts and tokens -/

namespace Token

theorem endWord_nil (ts : List Token) : endWord [] ts = ts := rfl

theorem endWord_of_ne {w : Text} (hw : w ≠ []) (ts : List Token) :
    endWord w ts = .word w :: ts := by
  unfold endWord
  rw [List.isEmpty_eq_false_iff.2 hw]
  rfl

/-- A word ends where the text begins. -/
def Breaks (rest : Text) : Prop := ∀ w, readFrom w rest = (readFrom [] rest).map (endWord w)

theorem breaks_nil : Breaks [] := fun _ => rfl

theorem readFrom_blank (w rest : Text) :
    readFrom w (.char ' ' :: rest) = (readFrom [] rest).map (endWord w) := by
  rw [readFrom, if_pos rfl]

theorem readFrom_opening (w rest : Text) :
    readFrom w (.char '(' :: rest) =
      (readFrom [] rest).map fun ts => endWord w (.opening :: ts) := by
  rw [readFrom, if_neg (by decide), if_pos rfl]

theorem readFrom_closing (w rest : Text) :
    readFrom w (.char ')' :: rest) =
      (readFrom [] rest).map fun ts => endWord w (.closing :: ts) := by
  rw [readFrom, if_neg (by decide), if_neg (by decide), if_pos rfl]

theorem readFrom_quote (w rest : Text) :
    readFrom w (.char '"' :: rest) = (readQuoted false [] rest).map (endWord w) := by
  rw [readFrom, if_neg (by decide), if_neg (by decide), if_neg (by decide), if_pos rfl]

theorem breaks_blank (rest : Text) : Breaks (.char ' ' :: rest) := by
  intro w
  rw [readFrom_blank, readFrom_blank, Option.map_map]
  rfl

theorem breaks_closing (rest : Text) : Breaks (.char ')' :: rest) := by
  intro w
  rw [readFrom_closing, readFrom_closing, Option.map_map]
  rfl

/-- The characters that words are made of. -/
def IsPlain (p : CodePoint) : Prop :=
  p ≠ .char ' ' ∧ p ≠ .char '(' ∧ p ≠ .char ')' ∧ p ≠ .char '"'

theorem readFrom_plain {word : Text} (h : ∀ p ∈ word, IsPlain p) (w rest : Text) :
    readFrom w (word ++ rest) = readFrom (w ++ word) rest := by
  induction word generalizing w with
  | nil => rw [List.append_nil, List.nil_append]
  | cons p word ih =>
    obtain ⟨hBlank, hOpening, hClosing, hQuote⟩ := h p List.mem_cons_self
    rw [List.cons_append, readFrom, if_neg hBlank, if_neg hOpening, if_neg hClosing,
      if_neg hQuote, ih (fun q hq => h q (List.mem_cons_of_mem _ hq)), List.append_assoc,
      List.singleton_append]

theorem readQuoted_escape (t s rest : Text) :
    readQuoted false t (escape s ++ .char '"' :: rest) =
      (readFrom [] rest).map (.text (t ++ s) :: ·) := by
  have hPlain : ¬ (false = true) := Bool.false_ne_true
  induction s generalizing t with
  | nil => rw [escape, List.nil_append, readQuoted, if_neg hPlain, if_pos rfl, List.append_nil]
  | cons p s ih =>
    rw [escape]
    split
    · rw [List.cons_append, readQuoted, if_neg hPlain, if_neg (by decide), if_pos rfl,
        List.cons_append, readQuoted, if_pos rfl, ih, List.append_assoc, List.singleton_append]
    · rename_i hp
      rw [not_or] at hp
      rw [List.cons_append, readQuoted, if_neg hPlain, if_neg hp.2, if_neg hp.1, ih,
        List.append_assoc, List.singleton_append]

end Token

open Token

/-- The text stands for these tokens wherever a word may end behind it. -/
def Writes (t : Text) (ts : List Token) : Prop :=
  ∀ rest, Breaks rest → readFrom [] (t ++ rest) = (readFrom [] rest).map (ts ++ ·)

theorem writes_word {w : Text} (hne : w ≠ []) (h : ∀ p ∈ w, IsPlain p) : Writes w [.word w] := by
  intro rest hRest
  rw [readFrom_plain h, List.nil_append, hRest w]
  congr 1
  funext ts
  exact endWord_of_ne hne ts

theorem writes_textLiteral (t : Text) : Writes (textLiteral t) [.text t] := by
  intro rest _
  rw [textLiteral, List.cons_append, List.append_assoc, List.singleton_append, readFrom_quote,
    readQuoted_escape, Option.map_map, List.nil_append]
  rfl

namespace Writes

theorem blank {s t : Text} {ts us : List Token} (hs : Writes s ts) (ht : Writes t us) :
    Writes (s ++ " " ++ t) (ts ++ us) := by
  intro rest hRest
  have hText : s ++ " " ++ t ++ rest = s ++ (.char ' ' :: (t ++ rest)) := by
    simp [Text.ofString, Text.ofChars]
  rw [hText, hs _ (breaks_blank _), readFrom_blank, ht rest hRest, Option.map_map, Option.map_map]
  congr 1
  funext more
  simp [endWord_nil]

theorem group {t : Text} {ts : List Token} (h : Writes t ts) :
    Writes ("(" ++ t ++ ")") (.opening :: (ts ++ [.closing])) := by
  intro rest _
  have hText : "(" ++ t ++ ")" ++ rest = .char '(' :: (t ++ (.char ')' :: rest)) := by
    simp [Text.ofString, Text.ofChars]
  rw [hText, readFrom_opening, h _ (breaks_closing _), readFrom_closing, Option.map_map,
    Option.map_map]
  congr 1
  funext more
  simp [endWord_nil]

/-- The tokens of a filter are those that its text stands for. -/
theorem read? {t : Text} {ts : List Token} (h : Writes t ts) : Token.read? t = some ts := by
  have hRead := h [] breaks_nil
  rw [List.append_nil] at hRead
  rw [Token.read?, hRead, readFrom, Option.map_some, endWord_nil, List.append_nil]

end Writes

/-! ## Words and literals -/

theorem isPlain_of_isNamePoint {p : CodePoint} (h : isNamePoint p = true) : IsPlain p := by
  refine ⟨?_, ?_, ?_, ?_⟩
  all_goals
    rintro rfl
    revert h
    decide

theorem writes_name {w : Text} (h : isName w = true) : Writes w [.word w] := by
  cases w with
  | nil => cases h
  | cons p rest =>
    simp only [isName, Bool.and_eq_true, List.all_eq_true] at h
    refine writes_word (List.cons_ne_nil p rest) (fun q hq => ?_)
    rcases List.mem_cons.1 hq with rfl | hq
    · exact isPlain_of_isNamePoint h.1.1
    · exact isPlain_of_isNamePoint (h.2 q hq)

theorem writes_symbol (o : Operator) : Writes o.symbol [.word o.symbol] := by
  refine writes_word ?_ ?_
  · cases o <;> decide
  · cases o <;> unfold IsPlain <;> decide

theorem ofSymbol?_symbol (o : Operator) : Operator.ofSymbol? o.symbol = some o := by
  cases o <;> decide

/-- The text is a literal of filters. -/
def IsLiteral (t : Text) (l : Literal) : Prop :=
  ∃ token, Writes t [token] ∧ Literal.ofToken? token = some l

theorem isLiteral_text (t : Text) : IsLiteral (textLiteral t) (.text t) :=
  ⟨.text t, writes_textLiteral t, rfl⟩

theorem chars?_ofChars (cs : List Char) : Text.chars? (Text.ofChars cs) = some cs := by
  induction cs with
  | nil => rfl
  | cons c cs ih =>
    unfold Text.chars? Text.ofChars at ih ⊢
    rw [List.map_cons, List.mapM_cons, ih]
    rfl

theorem isPlain_of_inAlphabet {c : Char} (h : Numeral.InAlphabet c) : IsPlain (.char c) := by
  refine ⟨?_, ?_, ?_, ?_⟩
  all_goals
    intro hc
    injection hc with hc
    rw [hc] at h
    revert h
    unfold Numeral.InAlphabet
    decide

theorem isLiteral_numeral {cs : List Char} {n : Numeral} (h : Numeral.read? cs = some n) :
    IsLiteral (Text.ofChars cs) (.number n) := by
  refine ⟨.word (Text.ofChars cs), writes_word ?_ ?_, ?_⟩
  · rintro hNil
    rw [List.map_eq_nil_iff.1 hNil] at h
    cases h
  · intro p hp
    obtain ⟨c, hc, rfl⟩ := List.mem_map.1 hp
    exact isPlain_of_inAlphabet (Numeral.inAlphabet_of_read? h c hc)
  · rw [Literal.ofToken?, chars?_ofChars, Option.bind_some, h]
    rfl

theorem isLiteral_int (n : Int) : IsLiteral (toString n : String) (.number (Numeral.ofInt n)) :=
  isLiteral_numeral (Numeral.read?_int n)

/-- The text of a finite double is a literal that reads to the double. -/
theorem isLiteral_doubleText {x : Binary64} (hx : x.isFinite = true) :
    ∃ n : Numeral, IsLiteral x.text (.number n) ∧ n.toBinary64 = x := by
  obtain ⟨n, hRead, hValue⟩ := Numeral.exists_read?_chars hx
  have hChars : x.text.toList = x.chars := String.toList_ofList
  refine ⟨n, ?_, hValue⟩
  unfold Text.ofString
  rw [hChars]
  exact isLiteral_numeral hRead

/-- The literal of a finite double reads back to its value. -/
theorem isLiteral_double {x : Binary64} (hx : x.isFinite = true) :
    ∃ n : Numeral, IsLiteral (doubleLiteral x) (.number n) ∧
      n.toBinary64.isFinite = true ∧ n.toBinary64.units = x.units := by
  unfold doubleLiteral
  cases h : x.toInt? with
  | some n => exact ⟨Numeral.ofInt n, isLiteral_int n, Numeral.toBinary64_ofInt h⟩
  | none =>
    obtain ⟨n, hLiteral, hValue⟩ := isLiteral_doubleText hx
    exact ⟨n, hLiteral, by rw [hValue, hx], by rw [hValue]⟩

/-! ## Conditions -/

namespace Condition

/-- Conditions of which the first is always there, joined to the right. -/
def joined (join : Condition → Condition → Condition) : Condition → List Condition → Condition
  | c, [] => c
  | c, d :: more => join c (joined join d more)

theorem holds_joined_or (record : Value) (c : Condition) (more : List Condition) :
    (joined .or c more).holds record = (c :: more).any (·.holds record) := by
  induction more generalizing c with
  | nil => rw [joined, List.any_cons, List.any_nil, Bool.or_false]
  | cons d more ih => simp only [joined, holds, ih, List.any_cons]

end Condition

namespace ConditionReader

/-- The tokens go on with a word. -/
def Begins (w : Text) (ts : List Token) : Prop := ts.head? = some (.word w)

variable {connective : Text} {join : Condition → Condition → Condition} {item : ConditionReader}
  {ts us rest : List Token} {c d : Condition}

theorem chain?_single (n : Nat) (h : item (ts ++ rest) = some (c, rest))
    (hRest : ¬ Begins connective rest) :
    chain? connective join item (n + 1) (ts ++ rest) = some (c, rest) := by
  rw [chain?, h]
  split
  · rename_i hSome
    injection hSome with hSome
    injection hSome with hc hr
    subst hc hr
    rw [if_neg]
    rintro rfl
    exact hRest rfl
  · rfl

theorem chain?_cons {n : Nat}
    (h : item (ts ++ (.word connective :: us ++ rest)) = some (c, .word connective :: us ++ rest))
    (hMore : chain? connective join item n (us ++ rest) = some (d, rest)) :
    chain? connective join item (n + 1) (ts ++ .word connective :: us ++ rest) =
      some (join c d, rest) := by
  rw [List.append_assoc, chain?, h]
  simp only [List.cons_append, if_true]
  rw [hMore]
  rfl

end ConditionReader

open ConditionReader

/-- The text is a comparison, or a condition in parentheses. -/
def IsAtom (t : Text) (c : Condition) : Prop :=
  ∃ ts, Writes t ts ∧ ∀ depth rest, ts.length ≤ depth →
    atom? (alternatives? depth) (ts ++ rest) = some (c, rest)

/-- The text is a chain of requirements. -/
def IsRequirements (t : Text) (c : Condition) : Prop :=
  ∃ ts, Writes t ts ∧ ∀ depth n rest, ts.length ≤ depth → ts.length ≤ n → ¬ Begins "AND" rest →
    chain? "AND" .and (atom? (alternatives? depth)) (n + 1) (ts ++ rest) = some (c, rest)

/-- The text is a chain of alternatives. -/
def IsAlternatives (t : Text) (c : Condition) : Prop :=
  ∃ ts, Writes t ts ∧ ∀ depth m n rest, ts.length ≤ depth → ts.length ≤ m → ts.length ≤ n →
    ¬ Begins "AND" rest → ¬ Begins "OR" rest →
    chain? "OR" .or (chain? "AND" .and (atom? (alternatives? depth)) (m + 1)) (n + 1) (ts ++ rest)
      = some (c, rest)

theorem writes_connective {s t w : Text} {ts us : List Token} (hs : Writes s ts)
    (hw : Writes w [.word w]) (ht : Writes t us) :
    Writes (s ++ (" " ++ w ++ " ") ++ t) (ts ++ .word w :: us) := by
  have hText : s ++ (" " ++ w ++ " ") ++ t = s ++ " " ++ (w ++ " " ++ t) := by
    simp only [List.append_assoc]
  rw [hText]
  exact hs.blank (hw.blank ht)

theorem isAtom_clause {key literal : Text} {l : Literal} (hKey : isName key = true)
    (o : Operator) (hLiteral : IsLiteral literal l) :
    IsAtom (Expression.clause key o literal) (.compare ⟨key, o, l⟩) := by
  obtain ⟨token, hWrites, hToken⟩ := hLiteral
  refine ⟨_, ((writes_name hKey).blank (writes_symbol o)).blank hWrites, fun depth rest _ => ?_⟩
  simp only [List.cons_append, List.nil_append, atom?, comparison?, ofSymbol?_symbol, hToken, hKey,
    if_true]

theorem IsAtom.requirements {t : Text} {c : Condition} (h : IsAtom t c) : IsRequirements t c := by
  obtain ⟨ts, hWrites, hRead⟩ := h
  exact ⟨ts, hWrites, fun depth n rest hDepth _ hRest =>
    chain?_single n (hRead depth rest hDepth) hRest⟩

theorem IsAtom.and {s t : Text} {c d : Condition} (hs : IsAtom s c) (ht : IsRequirements t d) :
    IsRequirements (s ++ " AND " ++ t) (.and c d) := by
  obtain ⟨ts, hTs, hReadTs⟩ := hs
  obtain ⟨us, hUs, hReadUs⟩ := ht
  refine ⟨_, writes_connective hTs (writes_name (w := "AND") (by decide)) hUs,
    fun depth n rest hDepth hn hRest => ?_⟩
  simp only [List.length_append, List.length_cons] at hDepth hn
  obtain ⟨k, rfl⟩ : ∃ k, n = k + 1 := ⟨n - 1, by omega⟩
  exact chain?_cons (hReadTs depth _ (by omega))
    (hReadUs depth k rest (by omega) (by omega) hRest)

theorem not_begins_of_ne {v w : Text} (h : v ≠ w) (ts : List Token) :
    ¬ Begins w (.word v :: ts) := by
  intro hBegins
  injection hBegins with hBegins
  injection hBegins with hBegins
  exact h hBegins

theorem IsRequirements.alternatives {t : Text} {c : Condition} (h : IsRequirements t c) :
    IsAlternatives t c := by
  obtain ⟨ts, hWrites, hRead⟩ := h
  exact ⟨ts, hWrites, fun depth m n rest hDepth hm _ hAnd hOr =>
    chain?_single n (hRead depth m rest hDepth hm hAnd) hOr⟩

theorem IsRequirements.or {s t : Text} {c d : Condition} (hs : IsRequirements s c)
    (ht : IsAlternatives t d) : IsAlternatives (s ++ " OR " ++ t) (.or c d) := by
  obtain ⟨ts, hTs, hReadTs⟩ := hs
  obtain ⟨us, hUs, hReadUs⟩ := ht
  refine ⟨_, writes_connective hTs (writes_name (w := "OR") (by decide)) hUs,
    fun depth m n rest hDepth hm hn hAnd hOr => ?_⟩
  simp only [List.length_append, List.length_cons] at hDepth hm hn
  obtain ⟨k, rfl⟩ : ∃ k, n = k + 1 := ⟨n - 1, by omega⟩
  exact chain?_cons
    (hReadTs depth m _ (by omega) (by omega) (not_begins_of_ne (by decide) _))
    (hReadUs depth m k rest (by omega) (by omega) (by omega) hAnd hOr)

theorem IsAlternatives.group {t : Text} {c : Condition} (h : IsAlternatives t c) :
    IsAtom ("(" ++ t ++ ")") c := by
  obtain ⟨ts, hWrites, hRead⟩ := h
  refine ⟨_, hWrites.group, fun depth rest hDepth => ?_⟩
  simp only [List.length_cons, List.length_append] at hDepth
  obtain ⟨k, rfl⟩ : ∃ k, depth = k + 1 := ⟨depth - 1, by omega⟩
  have hInner := hRead k (ts ++ .closing :: rest).length (ts ++ .closing :: rest).length
    (.closing :: rest) (by omega) (by simp) (by simp) (by simp [Begins]) (by simp [Begins])
  rw [List.cons_append, List.append_assoc, atom?, List.singleton_append, alternatives?, hInner]

/-- A chain of alternatives is read as a condition. -/
theorem IsAlternatives.read? {t : Text} {c : Condition} (h : IsAlternatives t c) :
    Condition.read? t = some c := by
  obtain ⟨ts, hWrites, hRead⟩ := h
  have hWhole := hRead ts.length ts.length ts.length [] le_rfl le_rfl le_rfl (by simp [Begins])
    (by simp [Begins])
  rw [List.append_nil] at hWhole
  rw [Condition.read?, hWrites.read?]
  simp [alternatives?, hWhole]

/-- What holds of the items and of one more item in front holds of the items put together. -/
theorem join_induction {P Q : Text → Condition → Prop} {separator : Text}
    {join : Condition → Condition → Condition} (single : ∀ {t c}, P t c → Q t c)
    (step : ∀ {s t c d}, P s c → Q t d → Q (s ++ separator ++ t) (join c d))
    {α : Type} (text : α → Text) (condition : α → Condition) (first : α) (more : List α)
    (h : ∀ a ∈ first :: more, P (text a) (condition a)) :
    Q (Text.join separator ((first :: more).map text))
      (Condition.joined join (condition first) (more.map condition)) := by
  induction more generalizing first with
  | nil =>
    have hText : Text.join separator ([first].map text) = text first := by simp [Text.join]
    rw [hText]
    exact single (h first List.mem_cons_self)
  | cons second more ih =>
    have hText : Text.join separator ((first :: second :: more).map text)
        = text first ++ separator ++ Text.join separator ((second :: more).map text) := by
      simp [Text.join]
    rw [hText]
    exact step (h first List.mem_cons_self)
      (ih second fun a ha => h a (List.mem_cons_of_mem _ ha))

end Storefront.Filter
