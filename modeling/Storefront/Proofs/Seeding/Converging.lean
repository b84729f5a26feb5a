import Mathlib
import Storefront.Proofs.Catalog.Products
import Storefront.Proofs.Seeding.Sending

/-!
# Seeding again and again

A run stores each record of the catalog under an id of its own. It does not matter how large the
batches are, how often the catalog is stored, or how far the runs before it came.

* `stockRecord`, `IsStock`: the records of a catalog, one for each color, size and price.
* `did_runWith_of_answered`, `did_runWith_of_failsAt`: what runs send that succeed, and that fail at a
  batch.
* `leads_of_answered`: what is stored after a run that succeeds.
* `exists_of_mayLeave`: what may be stored after a run that fails at a batch.
* `seeding_converges`: all runs that succeed end in one content.
-/

namespace Storefront.Seeding

open Index (Call ClientError Content Script)

/-! ## Records -/

/-- The record of a product. Its id says the color, the size and the place of the price; it holds the codes
of the color and the size with the price, and all that is known about the product. -/
def stockRecord (c : Color) (s : Size) (i : Nat) (price : Price) : VectorRecord where
  id := .text (Catalog.idText c s i)
  vector := .list [.int c.code, .int s.code, .float price.amount]
  metadata := .object
    [("id", .text (Catalog.idText c s i)),
     ("name", .text (Text.ofString (c.title ++ " shirt (" ++ s.name ++ ")"))),
     ("imageId", .text (Text.ofString ("/" ++ c.name ++ "_" ++ s.name ++ ".png"))),
     ("color", .text (Text.ofString c.name)),
     ("size", .text (Text.ofString s.name)),
     ("price", .float price.amount)]

theorem toRecord_product (c : Color) (s : Size) (i : Nat) (price : Price) :
    (Catalog.product c s i price).toRecord = stockRecord c s i price := by
  have hName : (Catalog.product c s i price).name =
      Text.ofString (c.title ++ " shirt (" ++ s.name ++ ")") := by
    simp [Catalog.product, Text.ofString, Text.ofChars]
  have hImage : (Catalog.product c s i price).imageId =
      Text.ofString ("/" ++ c.name ++ "_" ++ s.name ++ ".png") := by
    simp [Catalog.product, Text.ofString, Text.ofChars]
  have hId : (Catalog.product c s i price).id = Catalog.idText c s i := Catalog.productId_eq c s i
  rw [Product.toRecord, Product.metadata, hName, hImage, hId]
  rfl

/-- There is one record for each color, size and price, sorted by color, then by size and then by the
place of the price. -/
structure IsStock (records : List VectorRecord) (prices : List Price) : Prop where
  length : records.length = 15 * prices.length
  place : ∀ {a b i c s price}, Color.all[a]? = some c → Size.all[b]? = some s →
    prices[i]? = some price →
      records[(a * 3 + b) * prices.length + i]? = some (stockRecord c s i price)

theorem isStock_catalog (prices : List Price) : IsStock (catalog prices) prices where
  length := by rw [catalog, List.length_map, Catalog.length_products]
  place hc hs hi := by
    have hPlace := Catalog.getElem?_products (Catalog.getElem?_variants hc hs) hi
    rw [catalog, List.getElem?_map, hPlace, Option.map_some, toRecord_product]

/-! ## Runs -/

/-- What is stored before and after a run that succeeds. -/
def Run.Leads {α : Type} (r : Run α) (before after : Content) : Prop :=
  (∃ a, r.result = .ok a) ∧ before.carryOutAll r.calls = after

/-- What may be stored after a run. Where it ends at a call that failed, this call may have been
carried out in part. -/
inductive Run.MayLeave {α : Type} (r : Run α) (before : Content) : Content → Prop
  | whole (h : ∀ e, r.result ≠ .error (.index e)) : r.MayLeave before (before.carryOutAll r.calls)
  | inPart (e : ClientError) (calls : List Call) (last : Call) (after : Content)
      (hResult : r.result = .error (.index e)) (hCalls : r.calls = calls ++ [last])
      (hLast : (before.carryOutAll calls).MayLeave last after) : r.MayLeave before after

/-- A run in batches of a size, perhaps after the index is cleared. -/
def runInBatches (prices : List Price) (environment : Settings.Environment) (reset : Bool)
    (size : Int) (replies : Replies) : Run Unit :=
  runWith prices ⟨false, reset, some size⟩ environment replies

/-- Records in batches of a size. -/
def batchesOf (records : List VectorRecord) (size : Int) : List (List VectorRecord) :=
  Catalog.batches size.toNat records

/-- The index is cleared, if that was asked for, and answers the first `count` calls for batches. -/
structure Replies.Answers (replies : Replies) (reset : Bool) (count : Nat) : Prop where
  clearing : reset = true → (replies.reset.reply 0).IsValue
  storing : ∀ n < count, (replies.upsert.reply n).IsValue

/-- No call of a run fails. -/
def Replies.AnswersAll (replies : Replies) (records : List VectorRecord) (reset : Bool) (size : Int) :
    Prop :=
  replies.Answers reset (batchesOf records size).length

/-- The call for a batch, counted from zero, is the first that fails. -/
structure Replies.FailsAt (replies : Replies) (records : List VectorRecord) (reset : Bool) (size : Int)
    (k : Nat) (f : Index.Fault) : Prop where
  answers : replies.Answers reset k
  lt : k < (batchesOf records size).length
  fault : replies.upsert.reply k = .fault f

/-- The calls of a run up to some batch. -/
def callsUpTo (records : List VectorRecord) (reset : Bool) (size : Int) (count : Nat) : List Call :=
  (if reset then [.reset] else []) ++ ((batchesOf records size).take count).map .upsert

section

variable {prices : List Price} {environment : Settings.Environment} {reset : Bool} {size : Int}
  {replies : Replies}

theorem did_runWith_of_answered (h : IsConfigured environment) (hSize : 1 ≤ size)
    (hAnswers : replies.AnswersAll (catalog prices) reset size) :
    (runInBatches prices environment reset size replies).Did
      (callsUpTo (catalog prices) reset size (batchesOf (catalog prices) size).length) (.ok ()) := by
  have hBatches : (writeBatches ⟨false, reset, some size⟩ replies.upsert (catalog prices)).Did
      ((batchesOf (catalog prices) size).map .upsert) (.ok ()) := by
    have hStore := (did_store hAnswers.storing 0).bind
      (f := fun _ => Run.report "Seeding complete" [("count", .int (catalog prices).length)])
      (Run.did_report _ _)
    rw [List.append_nil] at hStore
    exact (Run.did_ofExcept _ (batchSize_of_le rfl hSize)).after hStore
  rw [callsUpTo, List.take_length]
  exact did_runWith h rfl (did_writeRecords hAnswers.clearing hBatches)

theorem did_runWith_of_failsAt {k : Nat} {f : Index.Fault} (h : IsConfigured environment)
    (hSize : 1 ≤ size) (hFails : replies.FailsAt (catalog prices) reset size k f) :
    (runInBatches prices environment reset size replies).Did (callsUpTo (catalog prices) reset size (k + 1))
      (.error (.index (.ofFault "upsert" f))) := by
  have hBatches : (writeBatches ⟨false, reset, some size⟩ replies.upsert (catalog prices)).Did
      (((batchesOf (catalog prices) size).take (k + 1)).map .upsert)
      (.error (.index (.ofFault "upsert" f))) :=
    (Run.did_ofExcept _ (batchSize_of_le rfl hSize)).after
      (did_store_fault hFails.answers.storing hFails.lt hFails.fault 0).stop
  exact did_runWith h rfl (did_writeRecords hFails.answers.clearing hBatches)

/-! ## What is stored -/

/-- What is left to store records over. -/
def cleared (reset : Bool) (c : Content) : Content := if reset then .empty else c

theorem carryOutAll_callsUpTo (c : Content) (records : List VectorRecord) (count : Nat) :
    c.carryOutAll (callsUpTo records reset size count) =
      (cleared reset c).putAll ((batchesOf records size).take count).flatten := by
  rw [callsUpTo, Content.carryOutAll_append, Content.carryOutAll_upserts, cleared]
  cases reset <;> rfl

/-- A run that succeeds stores the catalog. -/
theorem leads_of_answered (h : IsConfigured environment) (hSize : 1 ≤ size)
    (hAnswers : replies.AnswersAll (catalog prices) reset size) (c : Content) :
    (runInBatches prices environment reset size replies).Leads c
      ((cleared reset c).putAll (catalog prices)) := by
  obtain ⟨hCalls, hResult⟩ := did_runWith_of_answered h hSize hAnswers
  refine ⟨⟨(), hResult⟩, ?_⟩
  rw [hCalls, carryOutAll_callsUpTo, List.take_length, batchesOf, Catalog.flatten_batches]

/-- A run that fails at a batch leaves some records of the catalog over what it found. -/
theorem exists_of_mayLeave {k : Nat} {f : Index.Fault} (h : IsConfigured environment)
    (hSize : 1 ≤ size) (hFails : replies.FailsAt (catalog prices) reset size k f) {c left : Content}
    (hLeft : (runInBatches prices environment reset size replies).MayLeave c left) :
    ∃ stored, stored ⊆ catalog prices ∧ left = (cleared reset c).putAll stored := by
  obtain ⟨hCalls, hResult⟩ := did_runWith_of_failsAt h hSize hFails
  obtain hOther | ⟨e, before, last, _, -, hSplit, hPart⟩ := hLeft
  · exact absurd hResult (hOther _)
  have hk := hFails.lt
  -- The call that failed is the one for the batch at `k`.
  have hTake : callsUpTo (catalog prices) reset size (k + 1) =
      callsUpTo (catalog prices) reset size k ++ [.upsert (batchesOf (catalog prices) size)[k]] := by
    rw [callsUpTo, callsUpTo, List.take_succ_eq_append_getElem hk, List.map_append,
      List.append_assoc]
    rfl
  rw [hCalls, hTake] at hSplit
  obtain ⟨rfl, hLast⟩ := List.append_inj' hSplit rfl
  obtain rfl := (List.cons.inj hLast).1
  obtain ⟨part, hSubset, rfl⟩ := hPart
  have hStored : ((batchesOf (catalog prices) size).take k).flatten ++ part ⊆
      (batchesOf (catalog prices) size).flatten := by
    refine List.append_subset.2 ⟨?_, ?_⟩
    · exact ((List.take_sublist k _).flatten).subset
    · intro r hr
      exact List.mem_flatten_of_mem (List.getElem_mem hk) (hSubset hr)
  rw [batchesOf, Catalog.flatten_batches] at hStored
  refine ⟨_, hStored, ?_⟩
  rw [carryOutAll_callsUpTo, batchesOf, Content.putAll, Content.putAll, Content.putAll, List.foldl_append]

/-- The catalog takes the place of whatever part of it was stored. -/
theorem putAll_cleared (c : Content) {stored : List VectorRecord}
    (h : stored ⊆ catalog prices) :
    (cleared reset ((cleared reset c).putAll stored)).putAll (catalog prices) =
      (cleared reset c).putAll (catalog prices) := by
  cases reset with
  | true => rfl
  | false => exact Content.putAll_putAll c h

end

/-! ## One content -/

/-- All runs that succeed end in one content: what was stored, or nothing after a removal, with one record
over it for each color, size and price. Batches may have any size, another run changes nothing, and a dry
run sends nothing. A run that fails at a batch has tried the batches up to this one, and whatever it
leaves, a run that succeeds behind it ends in the same content. -/
theorem seeding_converges {environment : Settings.Environment} (h : IsConfigured environment)
    (prices : List Price) (reset : Bool) (c : Content) :
    ∃ records seeded, IsStock records prices ∧ (cleared reset c).IsOverwritten records seeded ∧
      (∀ size replies, 1 ≤ size → replies.AnswersAll records reset size →
        (runInBatches prices environment reset size replies).Leads c seeded ∧
        (runInBatches prices environment reset size replies).Leads seeded seeded) ∧
      (∀ size replies, (runWith prices ⟨true, reset, size⟩ environment replies).calls = []) ∧
      ∀ size replies k f, 1 ≤ size → replies.FailsAt records reset size k f →
        Catalog.IsPartition size.toNat records (batchesOf records size) ∧
        (runInBatches prices environment reset size replies).Did
          (callsUpTo records reset size (k + 1)) (.error (.index (.ofFault "upsert" f))) ∧
        ∀ left, (runInBatches prices environment reset size replies).MayLeave c left →
          ∀ size' replies', 1 ≤ size' → replies'.AnswersAll records reset size' →
            (runInBatches prices environment reset size' replies').Leads left seeded := by
  refine ⟨catalog prices, (cleared reset c).putAll (catalog prices), isStock_catalog prices,
    isOverwritten_putAll _ prices, ?_, ?_, ?_⟩
  · intro size replies hSize hAnswers
    have hAgain := leads_of_answered h hSize hAnswers ((cleared reset c).putAll (catalog prices))
    rw [putAll_cleared c (List.Subset.refl _)] at hAgain
    exact ⟨leads_of_answered h hSize hAnswers c, hAgain⟩
  · intro size replies
    obtain ⟨s, hSettings, -⟩ := h
    exact (did_dryRun rfl hSettings).calls
  · intro size replies k f hSize hFails
    have hPositive : 0 < size.toNat := by omega
    refine ⟨Catalog.isPartition_batches hPositive _, did_runWith_of_failsAt h hSize hFails, ?_⟩
    intro left hLeft size' replies' hSize' hAnswers
    obtain ⟨stored, hStored, rfl⟩ := exists_of_mayLeave h hSize hFails hLeft
    have hLater := leads_of_answered h hSize' hAnswers ((cleared reset c).putAll stored)
    rw [putAll_cleared c hStored] at hLater
    exact hLater

/-- A catalog with one price. -/
def cheapPrices : List Price := [Price.ofCents 999]

/-- An index that holds a record of another catalog, and an outdated one. -/
def usedContent : Content :=
  Content.empty.putAll
    [⟨.text "hat-1", .list [], .null⟩, ⟨.text "blue-M-0", .list [], .text "outdated"⟩]

/-- An index that loses the second batch. -/
def forgetful : Replies :=
  ⟨.steady Script.success, .sequence [Script.success, .fault ⟨.timeout .write, "slow"⟩]⟩

def reliable : Replies := ⟨.steady Script.success, .steady Script.success⟩

theorem isValue_reliable (n : Nat) : (reliable.upsert.reply n).IsValue := by
  induction n with
  | zero => exact ⟨_, rfl⟩
  | succ n ih => exact ih

theorem answersAll_reliable (records : List VectorRecord) (reset : Bool) (size : Int) :
    reliable.AnswersAll records reset size := ⟨fun _ => ⟨_, rfl⟩, fun n _ => isValue_reliable n⟩

theorem failsAt_forgetful {records : List VectorRecord} (h : IsStock records cheapPrices) :
    forgetful.FailsAt records true 4 1 ⟨.timeout .write, "slow"⟩ where
  answers := by
    refine ⟨fun _ => ⟨_, rfl⟩, fun n hn => ?_⟩
    obtain rfl : n = 0 := by omega
    exact ⟨_, rfl⟩
  lt := by
    have hCount := (Catalog.isPartition_batches (show 0 < (4 : Int).toNat by decide) records).count
    rw [batchesOf, hCount, h.length, Catalog.lt_ceilDiv_iff (by decide)]
    decide
  fault := rfl

/-- A run that loses its second batch is made up for by a run in one batch. -/
theorem seeding_converges_of_forgetful : ∃ records seeded, IsStock records cheapPrices ∧
    (cleared true usedContent).IsOverwritten records seeded ∧
      (runInBatches cheapPrices Settings.shopVariables true 100 reliable).Leads usedContent seeded ∧
      ∀ left, (runInBatches cheapPrices Settings.shopVariables true 4 forgetful).MayLeave
          usedContent left →
        (runInBatches cheapPrices Settings.shopVariables true 100 reliable).Leads left seeded := by
  obtain ⟨s, hSettings, hConfigured, -⟩ := Settings.exists_shop
  have hShop : IsConfigured Settings.shopVariables := ⟨s, hSettings, hConfigured⟩
  obtain ⟨records, seeded, hStock, hSeeded, hRuns, -, hFails⟩ :=
    seeding_converges hShop cheapPrices true usedContent
  have hReliable := answersAll_reliable records true 100
  obtain ⟨hFirst, -⟩ := hRuns 100 reliable (by decide) hReliable
  obtain ⟨-, -, hLater⟩ := hFails 4 forgetful 1 _ (by decide) (failsAt_forgetful hStock)
  exact ⟨records, seeded, hStock, hSeeded, hFirst,
    fun left hLeft => hLater left hLeft 100 reliable (by decide) hReliable⟩

end Storefront.Seeding
