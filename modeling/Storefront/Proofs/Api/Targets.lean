import Mathlib
import Storefront.Api.Target

/-!
# Plain paths

Most paths of requests are made of letters, digits and marks that mean nothing else in an address. They
are decoded to what they are, and shown as they are, whatever query or fragment stands behind them.

* `Text.decodeUtf8_encodeUtf8`: the characters of ASCII survive as bytes.
* `Target.IsPlainPath`: paths without escapes, without an empty part in front and without dots as parts.
* `Target.normalize_of_isPlainPath`, `Target.unescape_of_isPlainPath`: there is nothing to resolve and
  nothing to decode in them.
* `Target.path_parse`, `Target.shownPath_parse`: what is read and what is shown of a plain path.
-/

namespace Storefront

/-! ## Bytes of ASCII -/

namespace Text

theorem pointBytes_of_lt {c : Char} (h : c.toNat < 0x80) :
    pointBytes (.char c) = [UInt8.ofNat c.toNat] := by
  have hNotLong : ¬ 0x7f < c.toNat := by omega
  simp [pointBytes, String.utf8EncodeChar, hNotLong]

theorem decodeUtf8_encodeUtf8 {t : Text} (h : ∀ p ∈ t, p.toNat < 0x80) :
    decodeUtf8 (encodeUtf8 t) = t := by
  induction t with
  | nil => rfl
  | cons p rest ih =>
    obtain ⟨hPoint, hRest⟩ := List.forall_mem_cons.1 h
    cases p with
    | half x =>
      rw [CodePoint.toNat] at hPoint
      omega
    | char c =>
      have hPoint : c.toNat < 0x80 := hPoint
      have hNumber : (UInt8.ofNat c.toNat).toNat = c.toNat :=
        UInt8.toNat_ofNat_of_lt' (Nat.lt_trans hPoint (by decide))
      have hLead : lead (UInt8.ofNat c.toNat).toNat = .whole c := by
        rw [hNumber, lead, if_pos hPoint, Char.ofNat_toNat]
      have hBytes : encodeUtf8 (.char c :: rest) = UInt8.ofNat c.toNat :: encodeUtf8 rest := by
        rw [encodeUtf8, List.flatMap_cons, pointBytes_of_lt hPoint]
        rfl
      have hPieces : pieces (encodeUtf8 (.char c :: rest)) =
          .char c :: pieces (encodeUtf8 rest) := by
        rw [hBytes, pieces, piecesAfter, hLead]
        rfl
      rw [decodeUtf8, hPieces, List.map_cons, ← decodeUtf8, ih hRest]

end Text

namespace Api.Target

/-! ## Plain paths -/

/-- A code point that stands for itself in a path. -/
def IsPathPoint (p : CodePoint) : Prop :=
  (p.char?.any Char.isAlphanum || pathMarks.contains p) = true

instance : DecidablePred IsPathPoint := fun _ => inferInstanceAs (Decidable (_ = true))

/-- The path begins with one slash, all of its code points stand for themselves, and none of its parts
is made of dots. -/
structure IsPlainPath (path : Text) : Prop where
  head : path.head? = some (.char '/')
  tail : path.tail.head? ≠ some (.char '/')
  points : ∀ p ∈ path, IsPathPoint p
  parts : ∀ part ∈ path.splitOn (.char '/'), part ≠ Text.ofString "." ∧ part ≠ Text.ofString ".."

theorem isPlainPath_iff {path : Text} : IsPlainPath path ↔
    path.head? = some (.char '/') ∧ path.tail.head? ≠ some (.char '/') ∧
      (∀ p ∈ path, IsPathPoint p) ∧
      ∀ part ∈ path.splitOn (.char '/'), part ≠ Text.ofString "." ∧ part ≠ Text.ofString ".." :=
  ⟨fun h => ⟨h.head, h.tail, h.points, h.parts⟩, fun h => ⟨h.1, h.2.1, h.2.2.1, h.2.2.2⟩⟩

instance : DecidablePred IsPlainPath := fun _ => decidable_of_iff' _ isPlainPath_iff

theorem IsPathPoint.toNat_lt {p : CodePoint} (h : IsPathPoint p) : p.toNat < 0x80 := by
  rcases Bool.or_eq_true_iff.1 h with hLetter | hMark
  · cases p with
    | half x => cases hLetter
    | char c =>
      have hLetter : c.isAlphanum = true := hLetter
      simp only [Char.isAlphanum, Char.isAlpha, Char.isUpper, Char.isLower, Char.isDigit,
        Bool.or_eq_true, Bool.and_eq_true, decide_eq_true_eq, UInt32.le_iff_toNat_le] at hLetter
      have hNumber : (CodePoint.char c).toNat = c.val.toNat := rfl
      rw [hNumber]
      rcases hLetter with (⟨-, h⟩ | ⟨-, h⟩) | ⟨-, h⟩
      · exact Nat.lt_of_le_of_lt h (by decide)
      · exact Nat.lt_of_le_of_lt h (by decide)
      · exact Nat.lt_of_le_of_lt h (by decide)
  · have hMarks : ∀ p ∈ pathMarks, p.toNat < 0x80 := by decide
    exact hMarks p (List.contains_iff_mem.1 hMark)

theorem IsPathPoint.ne {p : CodePoint} (h : IsPathPoint p) {q : CodePoint} (hq : ¬ IsPathPoint q) :
    p ≠ q := by
  rintro rfl
  exact hq h

theorem escapePoint_of_isPathPoint {p : CodePoint} (h : IsPathPoint p) :
    escapePoint pathMarks p = [p] := if_pos h

/-! ## Reading -/

theorem unescapeBytes_of_not_mem {t : Text} (h : CodePoint.char '%' ∉ t) :
    unescapeBytes t = Text.encodeUtf8 t := by
  fun_induction unescapeBytes t with
  | case1 => rfl
  | case2 => exact absurd List.mem_cons_self h
  | case3 => exact absurd List.mem_cons_self h
  | case4 p rest _ ih =>
    rw [ih fun hMem => h (List.mem_cons_of_mem _ hMem), Text.encodeUtf8, Text.encodeUtf8,
      List.flatMap_cons]

theorem resolveDots_of_ne {parts : List Text}
    (h : ∀ part ∈ parts, part ≠ Text.ofString "." ∧ part ≠ Text.ofString "..") (kept : List Text) :
    resolveDots kept parts = kept.reverse ++ parts := by
  induction parts generalizing kept with
  | nil => rw [resolveDots, List.append_nil]
  | cons part rest ih =>
    obtain ⟨⟨hDot, hDots⟩, hRest⟩ := List.forall_mem_cons.1 h
    rw [resolveDots.eq_def]
    dsimp only
    rw [if_neg hDot, if_neg hDots, ih hRest, List.reverse_cons, List.append_assoc,
      List.singleton_append]

variable {path : Text}

theorem unescape_of_isPlainPath (h : IsPlainPath path) : unescape path = path := by
  have hPercent : CodePoint.char '%' ∉ path :=
    fun hMem => (h.points _ hMem).ne (q := .char '%') (by decide) rfl
  rw [unescape, unescapeBytes_of_not_mem hPercent,
    Text.decodeUtf8_encodeUtf8 fun p hp => (h.points p hp).toNat_lt]

theorem normalize_of_isPlainPath (h : IsPlainPath path) : normalize path = path := by
  obtain ⟨rest, rfl⟩ := List.head?_eq_some_iff.1 h.head
  have hFront : List.dropWhile (· == .char '/') (.char '/' :: rest) = rest := by
    have hSlash : List.dropWhile (· == CodePoint.char '/') (.char '/' :: rest) =
        List.dropWhile (· == .char '/') rest := rfl
    rw [hSlash]
    cases rest with
    | nil => rfl
    | cons p rest =>
      have hNext : p ≠ .char '/' := fun hSame => h.tail (congrArg some hSame)
      rw [List.dropWhile_cons_of_neg (by simpa using hNext)]
  have hParts : Text.join "/" (resolveDots [] ((.char '/' :: rest).splitOn (.char '/'))) =
      .char '/' :: rest := by
    rw [resolveDots_of_ne h.parts]
    exact List.intercalate_splitOn _
  rw [normalize, hFront, hParts]
  rfl

theorem splitScheme_of_head {t : Text} (h : t.head? = some (.char '/')) : splitScheme t = ([], t) := by
  obtain ⟨rest, rfl⟩ := List.head?_eq_some_iff.1 h
  rfl

theorem splitAuthority_of_tail {t : Text} (h : t.tail.head? ≠ some (.char '/')) :
    splitAuthority t = ([], t) := by
  rw [splitAuthority.eq_def]
  split
  · exact absurd rfl h
  · rfl

theorem takeWhile_append (h : IsPlainPath path) {q : CodePoint} (hq : ¬ IsPathPoint q) (rest : Text) :
    (path ++ rest).takeWhile (· != q) = path ++ rest.takeWhile (· != q) :=
  List.takeWhile_append_of_pos fun p hp => bne_iff_ne.2 ((h.points p hp).ne hq)

/-- Behind a path there is nothing, a query or a fragment. -/
def EndsPath (rest : Text) : Prop := ∀ p ∈ rest.head?, p = .char '?' ∨ p = .char '#'

theorem endsPath_nil : EndsPath [] := by
  rintro p ⟨⟩

theorem endsPath_query (query : Text) : EndsPath (.char '?' :: query) := by
  rintro p ⟨⟩
  exact .inl rfl

/-- A plain path is read as it is. -/
theorem path_parse (h : IsPlainPath path) {rest : Text} (hRest : EndsPath rest) :
    (parse (path ++ rest)).path = path := by
  -- What stands behind the path until a fragment is nothing or a query.
  obtain ⟨behind, hBehind, hEnd, hQuery⟩ : ∃ behind, rest.takeWhile (· != .char '#') = behind ∧
      behind.head? ≠ some (.char '/') ∧ behind.takeWhile (· != .char '?') = [] := by
    cases rest with
    | nil => exact ⟨_, rfl, by decide, rfl⟩
    | cons p rest =>
      rcases hRest p rfl with rfl | rfl
      · exact ⟨_, rfl, by simp, rfl⟩
      · exact ⟨_, rfl, by simp, rfl⟩
  have hHead : (path ++ behind).head? = some (.char '/') := by
    rw [List.head?_append, h.head, Option.some_or]
  have hTail : (path ++ behind).tail.head? ≠ some (.char '/') := by
    obtain ⟨more, rfl⟩ := List.head?_eq_some_iff.1 h.head
    cases more with
    | nil => exact hEnd
    | cons p more => exact h.tail
  have hPath : (path ++ behind).takeWhile (· != .char '?') = path := by
    rw [takeWhile_append h (by decide), hQuery, List.append_nil]
  simp only [parse, takeWhile_append h (q := .char '#') (by decide), hBehind,
    splitScheme_of_head hHead, splitAuthority_of_tail hTail, hPath, normalize_of_isPlainPath h,
    unescape_of_isPlainPath h]

theorem path_parse_self (h : IsPlainPath path) : (parse path).path = path := by
  have hPath := path_parse h endsPath_nil
  rwa [List.append_nil] at hPath

/-- A plain path is shown as it is. -/
theorem shownPath_parse (h : IsPlainPath path) {rest : Text} (hRest : EndsPath rest) :
    (parse (path ++ rest)).shownPath = path := by
  have hShown : path.flatMap (escapePoint pathMarks) = path.flatMap ([·]) :=
    List.flatMap_congr fun p hp => escapePoint_of_isPathPoint (h.points p hp)
  rw [shownPath, path_parse h hRest, hShown, List.flatMap_singleton']

example : (parse "/live?x=1").shownPath = "/live" := by decide +kernel

theorem shownPath_parse_self (h : IsPlainPath path) : (parse path).shownPath = path := by
  have hShown := shownPath_parse h endsPath_nil
  rwa [List.append_nil] at hShown

end Api.Target

end Storefront
