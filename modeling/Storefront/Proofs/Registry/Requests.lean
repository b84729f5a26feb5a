import Mathlib
import Storefront.Registry
import Storefront.Proofs.Value.Reading

/-!
# Requests for shared objects

A request finds an object in its cell or makes it now. What ties the cells to each other and to the past
is that the log of everything that was made names the object that a cell holds, and no other one.

* `Cell.Follows`, `Agrees`: the cells hold what the log says.
* `Keeps`, `Grows`: what every step keeps, and what a request adds.
* `getSettings_cases`, `getFromSettings_cases`, `getServiceClient_cases`: all that a request can do.
* `isSound_getSettings`, `isSound_getFromSettings`, `isSound_getServiceClient`: each request adds only
  what the settings in force describe, and leaves the cells in agreement.
-/

namespace Storefront.Registry

open Index (Connection)

variable {α β : Type} {r r' r'' : Registry}

/-! ## Actions -/

namespace Action

theorem bind_of_ok {a : Action α} {x : α} (h : a.answer r = .ok x) (f : α → Action β) :
    (a >>= f).answer r = (f x).answer (a.after r) ∧
      (a >>= f).after r = (f x).after (a.after r) := by
  have hRun : a.run.run r = (.ok x, a.after r) := Prod.ext h rfl
  have hBind : (a >>= f).run.run r = (f x).run.run (a.after r) := by
    change (ExceptT.bindCont f (a.run.run r).1).run (a.run.run r).2 = _
    rw [hRun]
    rfl
  exact ⟨congrArg Prod.fst hBind, congrArg Prod.snd hBind⟩

theorem bind_of_error {a : Action α} {e : RegistryError} (h : a.answer r = .error e)
    (f : α → Action β) : (a >>= f).answer r = .error e ∧ (a >>= f).after r = a.after r := by
  have hRun : a.run.run r = (.error e, a.after r) := Prod.ext h rfl
  have hBind : (a >>= f).run.run r = (.error e, a.after r) := by
    change (ExceptT.bindCont f (a.run.run r).1).run (a.run.run r).2 = _
    rw [hRun]
    rfl
  exact ⟨congrArg Prod.fst hBind, congrArg Prod.snd hBind⟩

end Action

/-! ## Cells -/

theorem orElse_of_some {there : Registry → Option (Made α)} {m : Made α} (h : there r = some m)
    (a : Action (Made α)) : (orElse there a).answer r = .ok m ∧ (orElse there a).after r = r := by
  have hRun : (orElse there a).run.run r = ((there r).elim a pure).run.run r := rfl
  rw [h] at hRun
  exact ⟨congrArg Prod.fst hRun, congrArg Prod.snd hRun⟩

theorem orElse_of_none {there : Registry → Option (Made α)} (h : there r = none)
    (a : Action (Made α)) :
    (orElse there a).answer r = a.answer r ∧ (orElse there a).after r = a.after r := by
  have hRun : (orElse there a).run.run r = ((there r).elim a pure).run.run r := rfl
  rw [h] at hRun
  exact ⟨congrArg Prod.fst hRun, congrArg Prod.snd hRun⟩

section

variable {cell : Cell α} {maker : Action α}

theorem once_of_some {m : Made α} (h : cell.read r = some m) :
    (once cell maker).answer r = .ok m ∧ (once cell maker).after r = r :=
  orElse_of_some h _

/-- A maker that fails leaves nothing in the cell. -/
theorem once_of_error {e : RegistryError} (h : cell.read r = none) (hMaker : maker.answer r = .error e) :
    (once cell maker).answer r = .error e ∧ (once cell maker).after r = maker.after r := by
  obtain ⟨hAnswer, hAfter⟩ := orElse_of_none h (maker >>= keep cell)
  obtain ⟨hError, hLeft⟩ := Action.bind_of_error hMaker (keep cell)
  exact ⟨hAnswer.trans hError, hAfter.trans hLeft⟩

theorem once_of_ok {value : α} (h : cell.read r = none) (hMaker : maker.answer r = .ok value) :
    (once cell maker).answer r = .ok ⟨(maker.after r).made.length, value⟩ ∧
      (once cell maker).after r = cell.fill value (maker.after r) := by
  obtain ⟨hAnswer, hAfter⟩ := orElse_of_none h (maker >>= keep cell)
  obtain ⟨hOk, hLeft⟩ := Action.bind_of_ok hMaker (keep cell)
  exact ⟨hAnswer.trans hOk, hAfter.trans hLeft⟩

end

/-! ## Agreement with the log -/

/-- Where a log ends in a new object, this is the only thing that it says more. -/
theorem getElem?_append_eq_some_iff {made : List Object} {new o : Object} {n : Nat} :
    (made ++ [new])[n]? = some o ↔ made[n]? = some o ∨ (n = made.length ∧ o = new) := by
  rw [List.getElem?_append]
  by_cases hn : n < made.length
  · rw [if_pos hn]
    constructor
    · exact .inl
    · rintro (h | ⟨rfl, -⟩)
      · exact h
      · omega
  · rw [if_neg hn, List.getElem?_singleton]
    have hOld : made[n]? = none := List.getElem?_eq_none (Nat.not_lt.1 hn)
    rw [hOld]
    constructor
    · intro h
      split at h
      · exact .inr ⟨by omega, (Option.some.inj h).symm⟩
      · cases h
    · rintro (h | ⟨rfl, rfl⟩)
      · cases h
      · rw [if_pos (Nat.sub_self _)]

namespace Cell

/-- A cell holds exactly the objects of its kind that were made. -/
def Follows (cell : Cell α) (r : Registry) : Prop :=
  ∀ n a, r.made[n]? = some (cell.object a) ↔ cell.read r = some ⟨n, a⟩

variable {cell : Cell α} {other : Cell β}

theorem made_fill (cell : Cell α) (a : α) (r : Registry) :
    (cell.fill a r).made = r.made ++ [cell.object a] := cell.made_write _ _

theorem read_fill (cell : Cell α) (a : α) (r : Registry) :
    cell.read (cell.fill a r) = some ⟨r.made.length, a⟩ := cell.read_write _ _

/-- An empty cell goes on following the log when it is filled. -/
theorem Follows.fill (h : cell.Follows r) (hNone : cell.read r = none) (a : α) :
    cell.Follows (cell.fill a r) := by
  intro n b
  have hOld : r.made[n]? ≠ some (cell.object b) := by
    rw [Ne, h, hNone]
    rintro ⟨⟩
  rw [made_fill, read_fill, getElem?_append_eq_some_iff, or_iff_right hOld]
  constructor
  · rintro ⟨rfl, hb⟩
    rw [cell.object_injective b a hb]
  · intro hb
    cases hb
    exact ⟨rfl, rfl⟩

/-- A cell does not follow what is put into cells for other kinds. -/
theorem Follows.fill_other (h : cell.Follows r) (b : β)
    (hRead : cell.read (other.fill b r) = cell.read r)
    (hObject : ∀ a, cell.object a ≠ other.object b) : cell.Follows (other.fill b r) := by
  intro n a
  rw [made_fill, hRead, getElem?_append_eq_some_iff, h, or_iff_left]
  rintro ⟨-, ha⟩
  exact hObject a ha

end Cell

/-- The cells hold what the log says: the client and the service are in their cells exactly if they were
made, and the service holds the shared client. -/
structure Agrees (r : Registry) : Prop where
  settings : ∀ m, r.settings = some m → r.made[m.serial]? = some (.settings m.value)
  client : Cell.client.Follows r
  service : Cell.service.Follows r
  held : ∀ m, r.held = some m → r.client = some m

theorem agrees_initial (environment : Settings.Environment) : (initial environment).Agrees where
  settings := by rintro m ⟨⟩
  client n c := by simp [initial, Cell.client]
  service n s := by simp [initial, Cell.service]
  held := by rintro m ⟨⟩

theorem agrees_fill_settings (h : r.Agrees) (s : Settings) : (Cell.settings.fill s r).Agrees where
  settings := by
    rintro m hm
    obtain rfl := Option.some.inj hm
    exact getElem?_append_eq_some_iff.2 (.inr ⟨rfl, rfl⟩)
  client := h.client.fill_other s rfl (by rintro c ⟨⟩)
  service := h.service.fill_other s rfl (by rintro v ⟨⟩)
  held := h.held

theorem agrees_fill_client (h : r.Agrees) (hNone : r.client = none) (c : Connection) :
    (Cell.client.fill c r).Agrees where
  settings m hm := getElem?_append_eq_some_iff.2 (.inl (h.settings m hm))
  client := h.client.fill hNone c
  service := h.service.fill_other c rfl (by rintro v ⟨⟩)
  held m hm := by
    have hc := h.held m hm
    rw [hNone] at hc
    cases hc

theorem agrees_fill_service (h : r.Agrees) (hNone : r.service = none) (v : SearchService) :
    (Cell.service.fill v r).Agrees where
  settings m hm := getElem?_append_eq_some_iff.2 (.inl (h.settings m hm))
  client := h.client.fill_other v rfl (by rintro c ⟨⟩)
  service := h.service.fill hNone v
  held := h.held

/-! ## What is kept -/

/-- The settings in force: the shared ones, or else those that the environment describes. -/
def inForce (r : Registry) : Except RegistryError Settings :=
  match r.settings with
  | some m => .ok m.value
  | none => makeSettings r.environment

/-- An object is what the settings in force describe. -/
def Describes (r : Registry) : Object → Prop
  | .settings s => r.inForce = .ok s
  | .client c => ∃ s, r.inForce = .ok s ∧ makeClient s = .ok c
  | .service v => ∃ s, r.inForce = .ok s ∧ makeService s = .ok v

theorem describes_congr (h : r.inForce = r'.inForce) (o : Object) : r.Describes o ↔ r'.Describes o := by
  cases o with
  | settings | client | service => simp only [Describes, h]

/-- What every step keeps: the client, the service, and the log. -/
structure Keeps (r r' : Registry) : Prop where
  client : ∀ m, r.client = some m → r'.client = some m
  service : ∀ m, r.service = some m → r'.service = some m
  made : r.made <+: r'.made

theorem Keeps.refl (r : Registry) : Keeps r r := ⟨fun _ h => h, fun _ h => h, List.prefix_rfl⟩

theorem Keeps.trans (h : Keeps r r') (h' : Keeps r' r'') : Keeps r r'' :=
  ⟨fun m hm => h'.client m (h.client m hm), fun m hm => h'.service m (h.service m hm),
    h.made.trans h'.made⟩

/-- What a request does: it keeps the settings as well, and adds only what they describe. -/
structure Grows (r r' : Registry) : Prop extends Keeps r r' where
  settings : ∀ m, r.settings = some m → r'.settings = some m
  inForce : r'.inForce = r.inForce
  described : ∀ n o, r.made.length ≤ n → r'.made[n]? = some o → r.Describes o

theorem Grows.refl (r : Registry) : Grows r r where
  toKeeps := .refl r
  settings _ h := h
  inForce := rfl
  described n o hn ho := by
    rw [List.getElem?_eq_none hn] at ho
    cases ho

theorem Grows.trans (h : Grows r r') (h' : Grows r' r'') : Grows r r'' where
  toKeeps := h.toKeeps.trans h'.toKeeps
  settings m hm := h'.settings m (h.settings m hm)
  inForce := h'.inForce.trans h.inForce
  described n o hn ho := by
    by_cases hOld : n < r'.made.length
    · obtain ⟨new, hMade⟩ := h'.made
      rw [← hMade, List.getElem?_append_left hOld] at ho
      exact h.described n o hn ho
    · exact (describes_congr h.inForce o).1 (h'.described n o (Nat.not_lt.1 hOld) ho)

/-- A new object at the end of a log is what the settings in force describe. -/
theorem described_of_append {o : Object} (ho : r.Describes o) (n : Nat) (o' : Object)
    (hn : r.made.length ≤ n) (h : (r.made ++ [o])[n]? = some o') : r.Describes o' := by
  obtain hOld | ⟨-, rfl⟩ := getElem?_append_eq_some_iff.1 h
  · rw [List.getElem?_eq_none hn] at hOld
    cases hOld
  · exact ho

theorem grows_fill_settings {s : Settings} (hNone : r.settings = none) (h : r.inForce = .ok s) :
    Grows r (Cell.settings.fill s r) where
  client _ hm := hm
  service _ hm := hm
  made := List.prefix_append _ _
  settings m hm := by
    rw [hNone] at hm
    cases hm
  inForce := h.symm
  described := described_of_append h

theorem grows_fill_client {c : Connection} (hNone : r.client = none)
    (h : r.Describes (.client c)) : Grows r (Cell.client.fill c r) where
  client m hm := by
    rw [hNone] at hm
    cases hm
  service _ hm := hm
  made := List.prefix_append _ _
  settings _ hm := hm
  inForce := rfl
  described := described_of_append h

theorem grows_fill_service {v : SearchService} (hNone : r.service = none)
    (h : r.Describes (.service v)) : Grows r (Cell.service.fill v r) where
  client _ hm := hm
  service m hm := by
    rw [hNone] at hm
    cases hm
  made := List.prefix_append _ _
  settings _ hm := hm
  inForce := rfl
  described := described_of_append h

/-! ## Requests -/

/-- A request adds only what the settings in force describe, and keeps the cells in agreement. -/
def IsSound (a : Action α) : Prop :=
  ∀ r : Registry, r.Agrees → r.Grows (a.after r) ∧ (a.after r).Agrees

theorem getSettings_cases (r : Registry) :
    (∃ m, r.settings = some m ∧ getSettings.answer r = .ok m ∧ getSettings.after r = r) ∨
    (∃ e, r.settings = none ∧ makeSettings r.environment = .error e ∧
      getSettings.answer r = .error e ∧ getSettings.after r = r) ∨
    (∃ s, r.settings = none ∧ makeSettings r.environment = .ok s ∧
      getSettings.answer r = .ok ⟨r.made.length, s⟩ ∧
      getSettings.after r = Cell.settings.fill s r) := by
  cases hCell : r.settings with
  | some m => exact .inl ⟨m, rfl, once_of_some hCell⟩
  | none =>
    cases hMake : makeSettings r.environment with
    | error e => exact .inr (.inl ⟨e, rfl, rfl, once_of_error hCell hMake⟩)
    | ok s => exact .inr (.inr ⟨s, rfl, rfl, once_of_ok hCell hMake⟩)

/-- A request for the settings is answered with the settings in force. -/
theorem map_getSettings (r : Registry) : (getSettings.answer r).map Made.value = r.inForce := by
  obtain ⟨m, hCell, hAnswer, -⟩ | ⟨e, hCell, hMake, hAnswer, -⟩ | ⟨s, hCell, hMake, hAnswer, -⟩ :=
    getSettings_cases r
  · rw [hAnswer, inForce, hCell]
    rfl
  · rw [hAnswer, inForce, hCell, hMake]
    rfl
  · rw [hAnswer, inForce, hCell, hMake]
    rfl

/-- The settings that were answered are in their cell. -/
theorem settings_of_answer {m : Made Settings} (h : getSettings.answer r = .ok m) :
    (getSettings.after r).settings = some m := by
  obtain ⟨m', hCell, hAnswer, hAfter⟩ | ⟨e, -, -, hAnswer, -⟩ | ⟨s, -, -, hAnswer, hAfter⟩ :=
    getSettings_cases r
  · rw [hAnswer] at h
    cases h
    rw [hAfter]
    exact hCell
  · rw [hAnswer] at h
    cases h
  · rw [hAnswer] at h
    cases h
    rw [hAfter]
    rfl

theorem isSound_getSettings : IsSound getSettings := by
  intro r hAgrees
  obtain ⟨m, -, -, hAfter⟩ | ⟨e, -, -, -, hAfter⟩ | ⟨s, hCell, hMake, -, hAfter⟩ :=
    getSettings_cases r
  · rw [hAfter]
    exact ⟨.refl r, hAgrees⟩
  · rw [hAfter]
    exact ⟨.refl r, hAgrees⟩
  · rw [hAfter]
    have hForce : r.inForce = .ok s := by
      rw [inForce, hCell]
      exact hMake
    exact ⟨grows_fill_settings hCell hForce, agrees_fill_settings hAgrees s⟩

/-- What a maker gives for the shared settings. -/
theorem maker_of_getSettings (maker : Settings → Except RegistryError α) (r : Registry) :
    (do ofExcept (maker (← getSettings).value) : Action α).answer r = r.inForce >>= maker ∧
      (do ofExcept (maker (← getSettings).value) : Action α).after r = getSettings.after r := by
  rw [← map_getSettings]
  cases h : getSettings.answer r with
  | ok m => exact Action.bind_of_ok h fun m => ofExcept (maker m.value)
  | error e => exact Action.bind_of_error h fun m => ofExcept (maker m.value)

section

variable {cell : Cell α} {maker : Settings → Except RegistryError α}

/-- A request for an object that is made from the settings finds it in its cell, or fails and leaves the
cell as it is, or makes it now. -/
theorem getFromSettings_cases (cell : Cell α) (maker : Settings → Except RegistryError α)
    (r : Registry) :
    (∃ m, cell.read r = some m ∧ (getFromSettings cell maker).answer r = .ok m ∧
      (getFromSettings cell maker).after r = r) ∨
    (∃ e, cell.read r = none ∧ r.inForce >>= maker = .error e ∧
      (getFromSettings cell maker).answer r = .error e ∧
      (getFromSettings cell maker).after r = getSettings.after r) ∨
    (∃ a, cell.read r = none ∧ r.inForce >>= maker = .ok a ∧
      (getFromSettings cell maker).answer r = .ok ⟨(getSettings.after r).made.length, a⟩ ∧
      (getFromSettings cell maker).after r = cell.fill a (getSettings.after r)) := by
  obtain ⟨hMaker, hLeft⟩ := maker_of_getSettings maker r
  cases hRead : cell.read r with
  | some m => exact .inl ⟨m, rfl, once_of_some hRead⟩
  | none =>
    cases hMade : r.inForce >>= maker with
    | error e =>
      obtain ⟨hAnswer, hAfter⟩ := once_of_error hRead (hMaker.trans hMade)
      exact .inr (.inl ⟨e, rfl, rfl, hAnswer, hAfter.trans hLeft⟩)
    | ok a =>
      obtain ⟨hAnswer, hAfter⟩ := once_of_ok hRead (hMaker.trans hMade)
      rw [hLeft] at hAnswer hAfter
      exact .inr (.inr ⟨a, rfl, rfl, hAnswer, hAfter⟩)

/-- What was answered is in the cell. -/
theorem read_of_answer {m : Made α} (h : (getFromSettings cell maker).answer r = .ok m) :
    cell.read ((getFromSettings cell maker).after r) = some m := by
  obtain ⟨m', hRead, hAnswer, hAfter⟩ | ⟨e, -, -, hAnswer, -⟩ | ⟨a, -, -, hAnswer, hAfter⟩ :=
    getFromSettings_cases cell maker r
  · rw [hAnswer] at h
    cases h
    rw [hAfter]
    exact hRead
  · rw [hAnswer] at h
    cases h
  · rw [hAnswer] at h
    cases h
    rw [hAfter]
    exact cell.read_fill a _

/-- A request that fails has found an empty cell and leaves it empty. -/
theorem read_of_error (hRead : cell.read (getSettings.after r) = cell.read r) {e : RegistryError}
    (h : (getFromSettings cell maker).answer r = .error e) :
    cell.read r = none ∧ cell.read ((getFromSettings cell maker).after r) = none := by
  obtain ⟨m, -, hAnswer, -⟩ | ⟨e', hNone, -, -, hAfter⟩ | ⟨a, -, -, hAnswer, -⟩ :=
    getFromSettings_cases cell maker r
  · cases hAnswer.symm.trans h
  · rw [hAfter, hRead]
    exact ⟨hNone, hNone⟩
  · cases hAnswer.symm.trans h

/-- A request is sound if the object that it makes fits into an empty cell. -/
theorem isSound_getFromSettings
    (hRead : ∀ r, cell.read (getSettings.after r) = cell.read r)
    (hFill : ∀ r a, r.Agrees → cell.read r = none → r.inForce >>= maker = .ok a →
      r.Grows (cell.fill a r) ∧ (cell.fill a r).Agrees) : IsSound (getFromSettings cell maker) := by
  intro r hAgrees
  obtain ⟨hGrows, hNext⟩ := isSound_getSettings r hAgrees
  obtain ⟨m, -, -, hAfter⟩ | ⟨e, -, -, -, hAfter⟩ | ⟨a, hNone, hMade, -, hAfter⟩ :=
    getFromSettings_cases cell maker r
  · rw [hAfter]
    exact ⟨.refl r, hAgrees⟩
  · rw [hAfter]
    exact ⟨hGrows, hNext⟩
  · rw [hAfter]
    rw [← hGrows.inForce] at hMade
    obtain ⟨hMore, hLast⟩ := hFill _ a hNext ((hRead r).trans hNone) hMade
    exact ⟨hGrows.trans hMore, hLast⟩

end

/-- A request for the settings leaves alone what does not depend on their cell. -/
theorem congr_getSettings {f : Registry → β} (hFill : ∀ s r, f (Cell.settings.fill s r) = f r)
    (r : Registry) : f (getSettings.after r) = f r := by
  obtain ⟨m, -, -, hAfter⟩ | ⟨e, -, -, -, hAfter⟩ | ⟨s, -, -, -, hAfter⟩ := getSettings_cases r
  · rw [hAfter]
  · rw [hAfter]
  · rw [hAfter, hFill]

/-- A request for an object leaves alone what depends neither on its cell nor on that of the settings. -/
theorem congr_getFromSettings {f : Registry → β} {cell : Cell α}
    {maker : Settings → Except RegistryError α} (hSettings : ∀ r, f (getSettings.after r) = f r)
    (hFill : ∀ a r, f (cell.fill a r) = f r) (r : Registry) :
    f ((getFromSettings cell maker).after r) = f r := by
  obtain ⟨m, -, -, hAfter⟩ | ⟨e, -, -, -, hAfter⟩ | ⟨a, -, -, -, hAfter⟩ :=
    getFromSettings_cases cell maker r
  · rw [hAfter]
  · rw [hAfter, hSettings]
  · rw [hAfter, hFill, hSettings]

theorem client_getSettings (r : Registry) : (getSettings.after r).client = r.client :=
  congr_getSettings (fun _ _ => rfl) r

theorem service_getSettings (r : Registry) : (getSettings.after r).service = r.service :=
  congr_getSettings (fun _ _ => rfl) r

theorem held_getSettings (r : Registry) : (getSettings.after r).held = r.held :=
  congr_getSettings (fun _ _ => rfl) r

theorem client_getService (r : Registry) : (getService.after r).client = r.client :=
  congr_getFromSettings client_getSettings (fun _ _ => rfl) r

theorem service_getClient (r : Registry) : (getClient.after r).service = r.service :=
  congr_getFromSettings service_getSettings (fun _ _ => rfl) r

theorem held_getClient (r : Registry) : (getClient.after r).held = r.held :=
  congr_getFromSettings held_getSettings (fun _ _ => rfl) r

theorem isSound_getClient : IsSound getClient := by
  refine isSound_getFromSettings client_getSettings ?_
  intro r c hAgrees hNone hMade
  exact ⟨grows_fill_client hNone (bind_eq_ok_iff.1 hMade), agrees_fill_client hAgrees hNone c⟩

theorem isSound_getService : IsSound getService := by
  refine isSound_getFromSettings service_getSettings ?_
  intro r v hAgrees hNone hMade
  exact ⟨grows_fill_service hNone (bind_eq_ok_iff.1 hMade), agrees_fill_service hAgrees hNone v⟩

/-! ## The client of the service -/

/-- The service holds the shared client, or asks for it now. -/
theorem getHeld_cases (h : r.Agrees) :
    getHeld.answer r = getClient.answer r ∧
      (getHeld.after r = getClient.after r ∨
        ∃ m, getClient.answer r = .ok m ∧
          getHeld.after r = { getClient.after r with held := some m }) := by
  cases hHeld : r.held with
  | some m =>
    obtain ⟨hAnswer, hAfter⟩ := orElse_of_some hHeld (getClient >>= hold)
    obtain ⟨hClient, hLeft⟩ : getClient.answer r = .ok m ∧ getClient.after r = r :=
      once_of_some (h.held m hHeld)
    exact ⟨hAnswer.trans hClient.symm, .inl (hAfter.trans hLeft.symm)⟩
  | none =>
    obtain ⟨hAnswer, hAfter⟩ := orElse_of_none hHeld (getClient >>= hold)
    cases hClient : getClient.answer r with
    | error e =>
      obtain ⟨hError, hLeft⟩ := Action.bind_of_error hClient hold
      exact ⟨hAnswer.trans hError, .inl (hAfter.trans hLeft)⟩
    | ok m =>
      obtain ⟨hOk, hLeft⟩ := Action.bind_of_ok hClient hold
      exact ⟨hAnswer.trans hOk, .inr ⟨m, rfl, hAfter.trans hLeft⟩⟩

theorem isSound_getHeld : IsSound getHeld := by
  intro r hAgrees
  obtain ⟨hGrows, hNext⟩ := isSound_getClient r hAgrees
  obtain ⟨-, hAfter | ⟨m, hClient, hAfter⟩⟩ := getHeld_cases hAgrees
  · rw [hAfter]
    exact ⟨hGrows, hNext⟩
  · have hCell : (getClient.after r).client = some m := read_of_answer hClient
    rw [hAfter]
    refine ⟨⟨⟨hGrows.client, hGrows.service, hGrows.made⟩, hGrows.settings, hGrows.inForce,
      hGrows.described⟩, ?_⟩
    refine ⟨hNext.settings, hNext.client, hNext.service, ?_⟩
    intro m' hm'
    obtain rfl := Option.some.inj hm'
    exact hCell

/-- The service's client is the shared client, asked for after the service. -/
theorem getServiceClient_cases (h : r.Agrees) :
    (∃ e, getService.answer r = .error e ∧ getServiceClient.answer r = .error e ∧
      getServiceClient.after r = getService.after r) ∨
    (∃ m, getService.answer r = .ok m ∧
      getServiceClient.answer r = getClient.answer (getService.after r) ∧
      getServiceClient.after r = getHeld.after (getService.after r)) := by
  obtain ⟨-, hNext⟩ := isSound_getService r h
  cases hService : getService.answer r with
  | error e => exact .inl ⟨e, rfl, Action.bind_of_error hService fun _ => getHeld⟩
  | ok m =>
    obtain ⟨hAnswer, hAfter⟩ := Action.bind_of_ok hService fun _ => getHeld
    obtain ⟨hHeld, -⟩ := getHeld_cases hNext
    exact .inr ⟨m, rfl, hAnswer.trans hHeld, hAfter⟩

theorem isSound_getServiceClient : IsSound getServiceClient := by
  intro r hAgrees
  obtain ⟨hGrows, hNext⟩ := isSound_getService r hAgrees
  obtain ⟨e, -, -, hAfter⟩ | ⟨m, -, -, hAfter⟩ := getServiceClient_cases hAgrees
  · rw [hAfter]
    exact ⟨hGrows, hNext⟩
  · obtain ⟨hMore, hLast⟩ := isSound_getHeld _ hNext
    rw [hAfter]
    exact ⟨hGrows.trans hMore, hLast⟩

end Storefront.Registry
