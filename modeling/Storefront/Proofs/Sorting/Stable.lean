import Mathlib
import Storefront.Proofs.Sorting.Merging

/-!
# The sort is stable

Whichever runs are merged first, only neighbours are, so the runs that wait hold the items of each key
in their order at any time. When one run is left, it is the sorted list.

* `Keys.joinRuns_spec`: two runs make one.
* `Keys.push_spec`, `Keys.collapse_spec`: runs that wait, and the run that is left of them.
* `Keys.sortBy_spec`: the list is sorted, and items of one key keep their order.
-/

namespace Storefront.Sorting

namespace Keys

variable {α κ : Type} [LinearOrder κ] {lt : α → α → Bool} {K : Keys lt κ} {xs ys : List α}

open Pending (prefersSecond)

/-! ## Two runs -/

/-- Two runs are merged from either side, where the last item of the first goes behind all of the
second and the head of the second in front of all of the first. -/
theorem mergeFrom_spec (side : Side) (patience : Patience) (hxs : K.IsRun xs) (hys : K.IsRun ys)
    (hLast : ∀ a ∈ xs.getLast?, ∀ b ∈ ys, lt b a = true)
    (hHead : ∀ b ∈ ys.head?, ∀ a ∈ xs, lt b a = true) :
    K.IsRun (mergeFrom side lt patience xs ys).2 ∧
      K.Alike (mergeFrom side lt patience xs ys).2 (xs ++ ys) := by
  have hKeyed : ∀ x ∈ xs ++ ys, K.HasKey x := List.forall_mem_append.2 ⟨hxs.keyed, hys.keyed⟩
  rw [mergeFrom.eq_def]
  cases side with
  | front =>
    have hWhole : K.Merges .front (xs ++ ys) ⟨xs, ys, []⟩ :=
      ⟨hKeyed, .refl _, hxs.sorted, hys.sorted, hLast⟩
    have hBegun := hWhole.takeSecond 1 fun b hb => hHead b (by simpa [List.take_one] using hb)
    obtain ⟨hMerged, hSettled⟩ :=
      hBegun.merge (xs.length + ys.length) (.steps 0 0) patience (Pending.size_takeSecond_le _ 1)
    exact hMerged.finish hSettled
  | back =>
    have hWhole : K.Merges .back (xs ++ ys).reverse ⟨xs.reverse, ys.reverse, []⟩ := by
      refine ⟨fun x hx => hKeyed x (List.mem_reverse.1 hx), ?_, ?_, ?_, ?_⟩
      · exact .of_eq List.reverse_append.symm
      · exact List.pairwise_reverse.2 hxs.sorted
      · exact List.pairwise_reverse.2 hys.sorted
      · intro b hb a ha
        have hBelow := hHead b (by simpa using hb) a (List.mem_reverse.1 ha)
        simp [prefersSecond, hBelow]
    have hBegun := hWhole.takeFirst 1 fun a ha b hb => by
      have hBelow := hLast a (by simpa [List.take_one] using ha) b (List.mem_reverse.1 hb)
      simp [prefersSecond, hBelow]
    have hSize := Pending.size_takeFirst_le ⟨xs.reverse, ys.reverse, []⟩ 1
    simp only [Pending.size, List.length_reverse] at hSize
    obtain ⟨hMerged, hSettled⟩ :=
      hBegun.merge (xs.length + ys.length) (.steps 0 0) patience (by simpa [Pending.size] using hSize)
    have hEnd := hMerged.finish hSettled
    rwa [Side.view, List.reverse_reverse] at hEnd

/-- What stays in front and what stays behind goes around a merged run. -/
theorem around_spec {front left right behind merged : List α} (hxs : K.IsRun (front ++ left))
    (hys : K.IsRun (right ++ behind)) (hMerged : K.IsRun merged)
    (hAlike : K.Alike merged (left ++ right))
    (hFront : ∀ a ∈ front, ∀ b ∈ right ++ behind, K.key a ≤ K.key b)
    (hBehind : ∀ a ∈ left, ∀ b ∈ behind, K.key a ≤ K.key b) :
    K.IsRun (front ++ merged ++ behind) ∧
      K.Alike (front ++ merged ++ behind) (front ++ left ++ (right ++ behind)) := by
  obtain ⟨hFrontRun, -, hFrontLeft⟩ := IsRun.append_iff.1 hxs
  obtain ⟨-, hBehindRun, hRightBehind⟩ := IsRun.append_iff.1 hys
  have hBegin : K.IsRun (front ++ merged) := by
    apply IsRun.append_iff.2 ⟨hFrontRun, hMerged, _⟩
    intro a ha b hb
    obtain hb | hb := List.mem_append.1 (hAlike.mem_iff.1 hb)
    · exact hFrontLeft a ha b hb
    · exact hFront a ha b (List.mem_append_left behind hb)
  constructor
  · apply IsRun.append_iff.2 ⟨hBegin, hBehindRun, _⟩
    intro a ha b hb
    obtain ha | ha := List.mem_append.1 ha
    · exact hFront a ha b (List.mem_append_right right hb)
    · obtain ha | ha := List.mem_append.1 (hAlike.mem_iff.1 ha)
      · exact hBehind a ha b hb
      · exact hRightBehind a ha b hb
  · have hAll := (hAlike.append_left front).append_right behind
    simpa only [List.append_assoc] using hAll

/-- A leap over the first run finds what stays in front of an item of the second. -/
theorem stays_spec {b : α} (hxs : K.IsRun xs) (hb : K.HasKey b) {stays : Nat}
    (hStays : leap Side.front.half (fun a => !lt b a) xs = stays) :
    (∀ a ∈ xs.take stays, K.key a ≤ K.key b) ∧ ∀ a ∈ xs.drop stays, lt b a = true := by
  obtain ⟨hHolds, hFails⟩ := leap_isCut Side.front.half_lt (hxs.holdsInFront hb)
  rw [hStays] at hHolds hFails
  constructor
  · intro a ha
    rw [← K.not_lt_iff hb (hxs.keyed a (List.mem_of_mem_take ha))]
    simpa using hHolds a ha
  · intro a ha
    simpa using hFails a ha

/-- A leap over the second run from the back finds what stays behind an item of the first. -/
theorem follows_spec {a : α} (hys : K.IsRun ys) (ha : K.HasKey a) {reach : Nat}
    (hReach : ys.length - leap Side.back.half (fun b => !lt b a) ys.reverse = reach) :
    (∀ b ∈ ys.take reach, lt b a = true) ∧ ∀ b ∈ ys.drop reach, K.key a ≤ K.key b := by
  obtain ⟨hHolds, hFails⟩ := leap_isCut Side.back.half_lt (hys.holdsInFront_reverse ha)
  rw [List.take_reverse, hReach] at hHolds
  rw [List.drop_reverse, hReach] at hFails
  constructor
  · intro b hb
    simpa using hFails b (List.mem_reverse.2 hb)
  · intro b hb
    rw [← K.not_lt_iff (hys.keyed b (List.mem_of_mem_drop hb)) ha]
    simpa using hHolds b (List.mem_reverse.2 hb)

/-- Two runs that follow each other make one, in which the items of each key stand as before. -/
theorem joinRuns_spec (patience : Patience) (hxs : K.IsRun xs) (hys : K.IsRun ys) :
    K.IsRun (joinRuns lt patience xs ys).2 ∧ K.Alike (joinRuns lt patience xs ys).2 (xs ++ ys) := by
  rw [joinRuns.eq_def]
  cases ys with
  | nil => exact ⟨hxs, .of_eq (List.append_nil xs).symm⟩
  | cons b rest =>
    dsimp only
    generalize hStays : leap Side.front.half (fun a => !lt b a) xs = stays
    obtain ⟨hFront, hAbove⟩ := stays_spec hxs (hys.keyed b List.mem_cons_self) hStays
    have hFrontAll : ∀ a ∈ xs.take stays, ∀ c ∈ b :: rest, K.key a ≤ K.key c := fun a ha c hc =>
      (hFront a ha).trans (hys.head_le hc)
    split
    · rename_i hNone
      have hAll : xs.take stays = xs := by
        rw [List.getLast?_eq_none_iff] at hNone
        simpa [hNone] using List.take_append_drop stays xs
      rw [hAll] at hFrontAll
      exact ⟨IsRun.append_iff.2 ⟨hxs, hys, hFrontAll⟩, .refl _⟩
    · rename_i a hLast
      generalize hReach : (b :: rest).length -
        leap Side.back.half (fun b => !lt b a) (b :: rest).reverse = reach
      have hLeftRun := hxs.sublist (List.drop_sublist stays xs)
      have hRightRun := hys.sublist (List.take_sublist reach (b :: rest))
      obtain ⟨hBelow, hBehind⟩ :=
        follows_spec hys (hLeftRun.keyed a (List.mem_of_getLast? hLast)) hReach
      have hBehindAll : ∀ c ∈ xs.drop stays, ∀ d ∈ (b :: rest).drop reach, K.key c ≤ K.key d :=
        fun c hc d hd => (hLeftRun.le_getLast hLast hc).trans (hBehind d hd)
      have hMerged (side : Side) := mergeFrom_spec side patience hLeftRun hRightRun
        (fun c hc => by
          obtain rfl : a = c := Option.some.inj (hLast.symm.trans hc)
          exact hBelow)
        (fun c hc => by
          have hHead : c ∈ [b] := by
            rw [List.head?_take] at hc
            split at hc
            · cases hc
            · exact Option.mem_toList.2 hc
          rwa [List.mem_singleton.1 hHead])
      have hAround {merged : List α} (hRun : K.IsRun merged)
          (hAlike : K.Alike merged (xs.drop stays ++ (b :: rest).take reach)) :
          K.IsRun (xs.take stays ++ merged ++ (b :: rest).drop reach) ∧
            K.Alike (xs.take stays ++ merged ++ (b :: rest).drop reach) (xs ++ b :: rest) := by
        rw [← List.take_append_drop stays xs] at hxs
        rw [← List.take_append_drop reach (b :: rest)] at hys hFrontAll
        have hSpec := around_spec hxs hys hRun hAlike hFrontAll hBehindAll
        rwa [List.take_append_drop, List.take_append_drop] at hSpec
      split
      · rename_i hEmpty
        apply hAround hLeftRun
        rw [List.isEmpty_iff.1 hEmpty, List.append_nil]
        exact .refl _
      · split
        · exact hAround (hMerged .front).1 (hMerged .front).2
        · exact hAround (hMerged .back).1 (hMerged .back).2

end Keys

/-! ## All runs -/

/-- The items of the runs that wait, in the order of the list: the run that came last is the first
one here. -/
def Waiting.inOrder {α : Type} (ws : List (Waiting α)) : List α := ws.reverse.flatMap (·.items)

@[simp] theorem Waiting.inOrder_cons {α : Type} (w : Waiting α) (ws : List (Waiting α)) :
    Waiting.inOrder (w :: ws) = Waiting.inOrder ws ++ w.items := by
  simp [Waiting.inOrder]

namespace Keys

variable {α κ : Type} [LinearOrder κ] {lt : α → α → Bool} {K : Keys lt κ}

/-- The runs that wait are runs. -/
def AreRuns (K : Keys lt κ) (ws : List (Waiting α)) : Prop := ∀ w ∈ ws, K.IsRun w.items

/-- Two neighbours may become one. -/
theorem joined_spec (patience : Patience) {y x : Waiting α} {rest : List (Waiting α)}
    (h : AreRuns K (y :: x :: rest)) :
    AreRuns K ({ x with items := (joinRuns lt patience x.items y.items).2 } :: rest) ∧
      K.Alike
        (Waiting.inOrder ({ x with items := (joinRuns lt patience x.items y.items).2 } :: rest))
        (Waiting.inOrder (y :: x :: rest)) := by
  obtain ⟨hy, hRest⟩ := List.forall_mem_cons.1 h
  obtain ⟨hx, hRest⟩ := List.forall_mem_cons.1 hRest
  obtain ⟨hJoined, hAlike⟩ := joinRuns_spec patience hx hy
  refine ⟨List.forall_mem_cons.2 ⟨hJoined, hRest⟩, ?_⟩
  simp only [Waiting.inOrder_cons, List.append_assoc]
  exact hAlike.append_left _

theorem mergeDeeper_spec (depth : Nat) (patience : Patience) (last : Waiting α)
    (ws : List (Waiting α)) (h : AreRuns K (last :: ws)) :
    AreRuns K (State.mergeDeeper lt depth patience last ws).waiting ∧
      K.Alike (Waiting.inOrder (State.mergeDeeper lt depth patience last ws).waiting)
        (Waiting.inOrder (last :: ws)) := by
  have hSame (ws : List (Waiting α)) :
      Waiting.inOrder ({ last with depth := depth } :: ws) = Waiting.inOrder (last :: ws) := by
    rw [Waiting.inOrder_cons, Waiting.inOrder_cons]
  induction ws generalizing patience last with
  | nil => exact ⟨List.forall_mem_singleton.2 (h last List.mem_cons_self), .of_eq (hSame [])⟩
  | cons previous rest ih =>
    rw [State.mergeDeeper]
    split
    · obtain ⟨hJoined, hAlike⟩ := joined_spec patience h
      obtain ⟨hRuns, hAll⟩ := ih (joinRuns lt patience previous.items last.items).1 _ hJoined
        fun _ => by rw [Waiting.inOrder_cons, Waiting.inOrder_cons]
      exact ⟨hRuns, hAll.trans hAlike⟩
    · obtain ⟨hLast, hRest⟩ := List.forall_mem_cons.1 h
      exact ⟨List.forall_mem_cons.2 ⟨hLast, hRest⟩, .of_eq (hSame _)⟩

theorem push_spec (total : Nat) {s : State α} {run : List α} (hRun : K.IsRun run)
    (h : AreRuns K s.waiting) :
    AreRuns K (State.push lt total s run).waiting ∧
      K.Alike (Waiting.inOrder (State.push lt total s run).waiting)
        (Waiting.inOrder s.waiting ++ run) := by
  rw [State.push.eq_def]
  split
  · rename_i hNone
    rw [hNone, Waiting.inOrder_cons]
    exact ⟨List.forall_mem_singleton.2 hRun, .refl _⟩
  · rename_i last rest hSome
    rw [hSome] at h ⊢
    obtain ⟨hRuns, hAlike⟩ := mergeDeeper_spec
      (borderDepth total last.start last.items.length run.length) s.patience last rest h
    refine ⟨List.forall_mem_cons.2 ⟨hRun, hRuns⟩, ?_⟩
    rw [Waiting.inOrder_cons]
    exact hAlike.append_right run

theorem foldl_push_spec (total : Nat) (runs : List (List α)) (s : State α)
    (hRuns : ∀ run ∈ runs, K.IsRun run) (h : AreRuns K s.waiting) :
    AreRuns K (runs.foldl (State.push lt total) s).waiting ∧
      K.Alike (Waiting.inOrder (runs.foldl (State.push lt total) s).waiting)
        (Waiting.inOrder s.waiting ++ runs.flatten) := by
  induction runs generalizing s with
  | nil => exact ⟨h, .of_eq (List.append_nil _).symm⟩
  | cons run runs ih =>
    obtain ⟨hRun, hRuns⟩ := List.forall_mem_cons.1 hRuns
    obtain ⟨hPushed, hAlike⟩ := push_spec total hRun h
    obtain ⟨hAll, hAllAlike⟩ := ih _ hRuns hPushed
    refine ⟨hAll, hAllAlike.trans ?_⟩
    rw [List.flatten_cons, ← List.append_assoc]
    exact hAlike.append_right _

/-- Every merge leaves one run less, so as much fuel as there are runs is enough. -/
theorem collapse_spec (fuel : Nat) (patience : Patience) (ws : List (Waiting α))
    (hFuel : ws.length ≤ fuel) (h : AreRuns K ws) :
    K.IsRun (State.collapse lt fuel patience ws) ∧
      K.Alike (State.collapse lt fuel patience ws) (Waiting.inOrder ws) := by
  induction fuel generalizing patience ws with
  | zero =>
    rw [List.length_eq_zero_iff.1 (Nat.le_zero.1 hFuel)]
    exact ⟨.nil, .refl _⟩
  | succ fuel ih =>
    match ws with
    | [] => exact ⟨.nil, .refl _⟩
    | [z] =>
      rw [Waiting.inOrder_cons]
      exact ⟨h z (List.mem_singleton_self z), .refl _⟩
    | [z, y] =>
      obtain ⟨hJoined, hAlike⟩ := joined_spec patience h
      rw [Waiting.inOrder_cons] at hAlike
      exact ⟨hJoined _ List.mem_cons_self, hAlike⟩
    | z :: y :: x :: rest =>
      rw [State.collapse.eq_def]
      dsimp only
      split
      · obtain ⟨hz, hFront⟩ := List.forall_mem_cons.1 h
        obtain ⟨hJoined, hAlike⟩ := joined_spec patience hFront
        have hRuns : AreRuns K (z :: _ :: rest) := List.forall_mem_cons.2 ⟨hz, hJoined⟩
        obtain ⟨hRun, hAll⟩ :=
          ih (joinRuns lt patience x.items y.items).1 _ (by simpa using hFuel) hRuns
        refine ⟨hRun, hAll.trans ?_⟩
        rw [Waiting.inOrder_cons z, Waiting.inOrder_cons z]
        exact hAlike.append_right z.items
      · obtain ⟨hJoined, hAlike⟩ := joined_spec patience h
        obtain ⟨hRun, hAll⟩ :=
          ih (joinRuns lt patience y.items z.items).1 _ (by simpa using hFuel) hJoined
        exact ⟨hRun, hAll.trans hAlike⟩

variable {xs : List α}

/-- Where all items have keys, the list is sorted by them, and items of one key stand in the order
in which they stood before. -/
theorem sortBy_spec (h : ∀ x ∈ xs, K.HasKey x) :
    K.IsRun (sortBy lt xs) ∧ K.Alike (sortBy lt xs) xs := by
  obtain ⟨hRuns, hCut⟩ := cutRuns_spec h
  obtain ⟨hWaiting, hPushed⟩ :=
    foldl_push_spec xs.length (cutRuns lt xs) ⟨[], 7⟩ hRuns (List.forall_mem_nil _)
  obtain ⟨hRun, hAlike⟩ := collapse_spec _
    ((cutRuns lt xs).foldl (State.push lt xs.length) ⟨[], 7⟩).patience _ le_rfl hWaiting
  exact ⟨hRun, hAlike.trans (hPushed.trans hCut)⟩

end Keys

end Storefront.Sorting
