import Mathlib
import Storefront.Proofs.Registry.Requests
import Storefront.Proofs.Settings.Usable

/-!
# The life of shared objects

Whatever is asked for, in whatever order, and whatever happens to the environment in between, there is
one client and one service.

* `step_cases`: a step is a sound request, or changes nothing but the settings or the environment.
* `agrees_afterAll`, `keeps_afterAll`: what a sequence of steps keeps, by induction over the steps.
* `grows_afterAll`: what a sequence of requests keeps besides.
* `IsShared`, `LifeCycle`: what holds of a shared object, and of all of them.
* `life_cycle`: the life of the shared objects from the first step on.
-/

namespace Storefront.Registry

open Index (Connection)

variable {α : Type} {r : Registry}

/-! ## Steps -/

/-- The step asks for an object. -/
def Step.IsRequest : Step → Prop
  | .settings | .client | .service | .serviceClient => True
  | .clearSettings | .setEnvironment _ => False

theorem grows_step (h : r.Agrees) {step : Step} (hStep : step.IsRequest) :
    r.Grows (step.after r) ∧ (step.after r).Agrees := by
  cases step with
  | settings => exact isSound_getSettings r h
  | client => exact isSound_getClient r h
  | service => exact isSound_getService r h
  | serviceClient => exact isSound_getServiceClient r h
  | clearSettings | setEnvironment _ => cases hStep

/-- A step is a sound request, or changes nothing but the settings or the environment. -/
theorem step_cases (h : r.Agrees) (step : Step) :
    (r.Grows (step.after r) ∧ (step.after r).Agrees) ∨
    (step = .clearSettings ∧ step.after r = { r with settings := none }) ∨
    (∃ environment, step.after r = { r with environment }) := by
  cases step with
  | settings | client | service | serviceClient => exact .inl (grows_step h trivial)
  | clearSettings => exact .inr (.inl ⟨rfl, rfl⟩)
  | setEnvironment environment => exact .inr (.inr ⟨environment, rfl⟩)

theorem agrees_step (h : r.Agrees) (step : Step) : (step.after r).Agrees := by
  obtain ⟨-, hNext⟩ | ⟨-, hAfter⟩ | ⟨environment, hAfter⟩ := step_cases h step
  · exact hNext
  · rw [hAfter]
    exact ⟨by rintro m ⟨⟩, h.client, h.service, h.held⟩
  · rw [hAfter]
    exact ⟨h.settings, h.client, h.service, h.held⟩

theorem keeps_step (h : r.Agrees) (step : Step) : r.Keeps (step.after r) := by
  obtain ⟨hGrows, -⟩ | ⟨-, hAfter⟩ | ⟨environment, hAfter⟩ := step_cases h step
  · exact hGrows.toKeeps
  · rw [hAfter]
    exact ⟨fun _ hm => hm, fun _ hm => hm, List.prefix_rfl⟩
  · rw [hAfter]
    exact ⟨fun _ hm => hm, fun _ hm => hm, List.prefix_rfl⟩

/-- A step adds only what the settings in force describe. -/
theorem described_step (h : r.Agrees) (step : Step) (n : Nat) (o : Object) (hn : r.made.length ≤ n)
    (ho : (step.after r).made[n]? = some o) : r.Describes o := by
  obtain ⟨hGrows, -⟩ | ⟨-, hAfter⟩ | ⟨environment, hAfter⟩ := step_cases h step
  · exact hGrows.described n o hn ho
  · rw [hAfter] at ho
    exact (Grows.refl r).described n o hn ho
  · rw [hAfter] at ho
    exact (Grows.refl r).described n o hn ho

theorem settings_step (h : r.Agrees) {step : Step} (hStep : step ≠ .clearSettings)
    {m : Made Settings} (hm : r.settings = some m) : (step.after r).settings = some m := by
  obtain ⟨hGrows, -⟩ | ⟨hClear, -⟩ | ⟨environment, hAfter⟩ := step_cases h step
  · exact hGrows.settings m hm
  · exact absurd hClear hStep
  · rw [hAfter]
    exact hm

/-! ## Sequences of steps -/

theorem agrees_afterAll (h : r.Agrees) (steps : List Step) : (r.afterAll steps).Agrees := by
  induction steps generalizing r with
  | nil => exact h
  | cons step steps ih => exact ih (agrees_step h step)

theorem keeps_afterAll (h : r.Agrees) (steps : List Step) : r.Keeps (r.afterAll steps) := by
  induction steps generalizing r with
  | nil => exact .refl r
  | cons step steps ih => exact (keeps_step h step).trans (ih (agrees_step h step))

/-- Requests leave the settings in force, and add only what they describe. -/
theorem grows_afterAll (h : r.Agrees) {steps : List Step} (hSteps : ∀ step ∈ steps, step.IsRequest) :
    r.Grows (r.afterAll steps) := by
  induction steps generalizing r with
  | nil => exact .refl r
  | cons step steps ih =>
    obtain ⟨hStep, hRest⟩ := List.forall_mem_cons.1 hSteps
    obtain ⟨hGrows, hNext⟩ := grows_step h hStep
    exact hGrows.trans (ih hNext hRest)

theorem settings_afterAll (h : r.Agrees) {steps : List Step} (hSteps : Step.clearSettings ∉ steps)
    {m : Made Settings} (hm : r.settings = some m) : (r.afterAll steps).settings = some m := by
  induction steps generalizing r with
  | nil => exact hm
  | cons step steps ih =>
    obtain ⟨hStep, hRest⟩ := not_or.1 (mt List.mem_cons.2 hSteps)
    exact ih (agrees_step h step) hRest (settings_step h (Ne.symm hStep) hm)

/-! ## The life of the shared objects -/

/-- There is one object of a kind. Once it is made, every request is answered with this object. Before
that, a request tries to make it from the settings in force, and nothing is kept of a failure. -/
structure IsShared (object : α → Object) (request : Action (Made α))
    (maker : Settings → Except RegistryError α) (r : Registry) : Prop where
  one : ∀ (n n' : Nat) a a', r.made[n]? = some (object a) → r.made[n']? = some (object a') → n = n'
  answered : ∀ m, request.answer r = .ok m → (request.after r).made[m.serial]? = some (object m.value)
  shared : ∀ (n : Nat) a, r.made[n]? = some (object a) → ∀ later,
    request.answer (r.afterAll later) = .ok ⟨n, a⟩
  tried : (∀ (n : Nat) a, r.made[n]? ≠ some (object a)) →
    (request.answer r).map Made.value = r.inForce >>= maker
  refused : ∀ e, request.answer r = .error e →
    ∀ (n : Nat) a, (request.after r).made[n]? ≠ some (object a)

/-- What holds of the shared objects, whatever happened so far and whatever happens later. -/
structure LifeCycle (r : Registry) : Prop where
  client : IsShared .client getClient makeClient r
  service : IsShared .service getService makeService r
  /-- A client keeps the address and the timeout of the settings in force when it was made. -/
  clientSettings : ∀ (step : Step) (n : Nat) c, r.made.length ≤ n →
    (step.after r).made[n]? = some (.client c) → ∃ s, r.inForce = .ok s ∧
      c.url = s.indexUrl ∧ c.token = s.indexToken ∧ c.timeout = s.timeoutSeconds
  /-- A service keeps the order and the number of results of the settings in force when it was made. -/
  serviceSettings : ∀ (step : Step) (n : Nat) v, r.made.length ≤ n →
    (step.after r).made[n]? = some (.service v) → ∃ s strategy, r.inForce = .ok s ∧
      OrderingStrategy.ofValue (.text s.orderingStrategy) = .ok strategy ∧
      v.order = ⟨strategy, .float s.averagePrice, .float s.maxPrice⟩ ∧ v.topK = s.topK
  /-- The settings in force are those that a request is answered with. -/
  settingsInForce : (getSettings.answer r).map Made.value = r.inForce
  /-- Until they are forgotten, the settings are one object. -/
  settingsKept : ∀ m, getSettings.answer r = .ok m → ∀ later, Step.clearSettings ∉ later →
    getSettings.answer ((getSettings.after r).afterAll later) = .ok m
  settingsAnswered : ∀ m, getSettings.answer r = .ok m →
    (getSettings.after r).made[m.serial]? = some (.settings m.value)
  /-- Once they are forgotten, the settings are a new object. -/
  settingsRenewed : ∀ m, getSettings.answer (clearSettings.after r) = .ok m → m.serial = r.made.length
  settingsFailed : ∀ e, getSettings.answer r = .error e →
    getSettings.after r = r ∧ makeSettings r.environment = .error e
  /-- The client of the service is the shared client. -/
  serviceClient : getServiceClient.answer r =
    getService.answer r >>= fun _ => getClient.answer (getService.after r)
  serviceFailed : ∀ e, getService.answer r = .error e → getServiceClient.after r = getService.after r
  serviceClientAnswered : ∀ m, getServiceClient.answer r = .ok m →
    (getServiceClient.after r).made[m.serial]? = some (.client m.value)
  serviceClientShared : ∀ (n : Nat) c, r.made[n]? = some (.client c) → ∀ later m,
    getServiceClient.answer (r.afterAll later) = .ok m → m = ⟨n, c⟩
  serviceClientRefused : ∀ e, getServiceClient.answer r = .error e → ∀ (n : Nat) c,
    (getServiceClient.after r).made[n]? = some (.client c) → r.made[n]? = some (.client c)

section

variable {cell : Cell α} {maker : Settings → Except RegistryError α}

/-- An object whose cell follows the log is shared. -/
theorem isShared_of_follows (hFollows : cell.Follows r)
    (hAfter : cell.Follows ((getFromSettings cell maker).after r))
    (hRead : cell.read (getSettings.after r) = cell.read r)
    (hKept : ∀ later m, cell.read r = some m → cell.read (r.afterAll later) = some m) :
    IsShared cell.object (getFromSettings cell maker) maker r where
  one n n' a a' h h' := by
    have hCell := (hFollows n a).1 h
    rw [(hFollows n' a').1 h'] at hCell
    cases hCell
    rfl
  answered m h := (hAfter m.serial m.value).2 (read_of_answer h)
  shared n a h later := (once_of_some (hKept later _ ((hFollows n a).1 h))).1
  tried h := by
    obtain ⟨m, hCell, -, -⟩ | ⟨e, -, hMade, hAnswer, -⟩ | ⟨a, -, hMade, hAnswer, -⟩ :=
      getFromSettings_cases cell maker r
    · exact absurd ((hFollows m.serial m.value).2 hCell) (h _ _)
    · rw [hAnswer, hMade]
      rfl
    · rw [hAnswer, hMade]
      rfl
  refused e h n a hMade := by
    have hCell := (hAfter n a).1 hMade
    rw [(read_of_error hRead h).2] at hCell
    cases hCell

end

/-- A client that is made is what the settings say. -/
theorem eq_of_makeClient {s : Settings} {c : Connection} (h : makeClient s = .ok c) :
    c.url = s.indexUrl ∧ c.token = s.indexToken ∧ c.timeout = s.timeoutSeconds := by
  have hMake : (if s.indexUrl.isEmpty || s.indexToken.isEmpty
      then .error Index.BackendError.notConfigured
      else .ok ⟨s.indexUrl, s.indexToken, s.timeoutSeconds⟩) = Except.ok c := mapError_eq_ok_iff.1 h
  split at hMake
  · cases hMake
  · cases hMake
    exact ⟨rfl, rfl, rfl⟩

theorem exists_of_makeService {s : Settings} {v : SearchService} (h : makeService s = .ok v) :
    ∃ strategy, OrderingStrategy.ofValue (.text s.orderingStrategy) = .ok strategy ∧
      v.order = ⟨strategy, .float s.averagePrice, .float s.maxPrice⟩ ∧ v.topK = s.topK := by
  obtain ⟨strategy, hStrategy, hService⟩ := bind_eq_ok_iff.1 (mapError_eq_ok_iff.1 h)
  cases hService
  exact ⟨strategy, hStrategy, rfl, rfl⟩

/-- The settings that were answered are shared until they are forgotten. -/
theorem getSettings_afterAll (h : r.Agrees) {m : Made Settings} (hm : getSettings.answer r = .ok m)
    {later : List Step} (hLater : Step.clearSettings ∉ later) :
    getSettings.answer ((getSettings.after r).afterAll later) = .ok m := by
  obtain ⟨-, hNext⟩ := isSound_getSettings r h
  exact (once_of_some (settings_afterAll hNext hLater (settings_of_answer hm))).1

theorem getServiceClient_eq (h : r.Agrees) : getServiceClient.answer r =
    getService.answer r >>= fun _ => getClient.answer (getService.after r) := by
  obtain ⟨e, hService, hAnswer, -⟩ | ⟨m, hService, hAnswer, -⟩ := getServiceClient_cases h
  · rw [hAnswer, hService]
    rfl
  · rw [hAnswer, hService]
    rfl

/-- The service's client is in the cell of the shared client. -/
theorem client_of_getServiceClient (h : r.Agrees) {m : Made Connection}
    (hm : getServiceClient.answer r = .ok m) : (getServiceClient.after r).client = some m := by
  obtain ⟨-, hNext⟩ := isSound_getService r h
  obtain ⟨e, -, hAnswer, -⟩ | ⟨m', -, hAnswer, hAfter⟩ := getServiceClient_cases h
  · rw [hAnswer] at hm
    cases hm
  · rw [hAnswer] at hm
    have hCell : (getClient.after (getService.after r)).client = some m := read_of_answer hm
    rw [hAfter]
    obtain ⟨-, hHeld | ⟨_, -, hHeld⟩⟩ := getHeld_cases hNext
    · rw [hHeld]
      exact hCell
    · rw [hHeld]
      exact hCell

/-- A request for the service's client that fails leaves the cell of the shared client as it is. -/
theorem client_of_refused (h : r.Agrees) {e : RegistryError}
    (he : getServiceClient.answer r = .error e) : (getServiceClient.after r).client = r.client := by
  obtain ⟨-, hNext⟩ := isSound_getService r h
  obtain ⟨e', -, -, hAfter⟩ | ⟨m, -, hAnswer, hAfter⟩ := getServiceClient_cases h
  · rw [hAfter]
    exact client_getService r
  · rw [hAnswer] at he
    obtain ⟨hNone, hLeft⟩ := read_of_error (client_getSettings _) he
    obtain ⟨-, hHeld | ⟨m', hClient, -⟩⟩ := getHeld_cases hNext
    · rw [hAfter, hHeld, ← client_getService r]
      exact hLeft.trans hNone.symm
    · cases hClient.symm.trans he

theorem lifeCycle_of_agrees (h : r.Agrees) : r.LifeCycle where
  client := isShared_of_follows h.client (isSound_getClient r h).2.client (client_getSettings r)
    fun later => (keeps_afterAll h later).client
  service := isShared_of_follows h.service (isSound_getService r h).2.service (service_getSettings r)
    fun later => (keeps_afterAll h later).service
  clientSettings step n c hn hc := by
    obtain ⟨s, hForce, hMade⟩ := described_step h step n _ hn hc
    exact ⟨s, hForce, eq_of_makeClient hMade⟩
  serviceSettings step n v hn hv := by
    obtain ⟨s, hForce, hMade⟩ := described_step h step n _ hn hv
    obtain ⟨strategy, hService⟩ := exists_of_makeService hMade
    exact ⟨s, strategy, hForce, hService⟩
  settingsInForce := map_getSettings r
  settingsKept m hm later hLater := getSettings_afterAll h hm hLater
  settingsAnswered m hm := (isSound_getSettings r h).2.settings m (settings_of_answer hm)
  settingsRenewed m hm := by
    obtain ⟨m', hCell, -, -⟩ | ⟨e, -, -, hAnswer, -⟩ | ⟨s, -, -, hAnswer, -⟩ :=
      getSettings_cases (clearSettings.after r)
    · cases hCell
    · cases hAnswer.symm.trans hm
    · cases hAnswer.symm.trans hm
      rfl
  settingsFailed e he := by
    obtain ⟨m, -, hAnswer, -⟩ | ⟨e', -, hMake, hAnswer, hAfter⟩ | ⟨s, -, -, hAnswer, -⟩ :=
      getSettings_cases r
    · cases hAnswer.symm.trans he
    · cases hAnswer.symm.trans he
      exact ⟨hAfter, hMake⟩
    · cases hAnswer.symm.trans he
  serviceClient := getServiceClient_eq h
  serviceFailed e he := by
    obtain ⟨_, -, -, hAfter⟩ | ⟨m, hService, -, -⟩ := getServiceClient_cases h
    · exact hAfter
    · cases hService.symm.trans he
  serviceClientAnswered m hm := by
    obtain ⟨-, hNext⟩ := isSound_getServiceClient r h
    exact (hNext.client m.serial m.value).2 (client_of_getServiceClient h hm)
  serviceClientShared n c hc later m hm := by
    have hLater := agrees_afterAll h later
    have hCell := (keeps_afterAll h later).client _ ((h.client n c).1 hc)
    have hKept := (isSound_getServiceClient _ hLater).1.client _ hCell
    rw [client_of_getServiceClient hLater hm] at hKept
    exact Option.some.inj hKept
  serviceClientRefused e he n c hc := by
    obtain ⟨-, hNext⟩ := isSound_getServiceClient r h
    have hCell := (hNext.client n c).1 hc
    exact (h.client n c).2 ((client_of_refused h he).symm.trans hCell)

/-- Whatever was asked for and whatever became of the settings and the environment, the shared objects
go on as they are to: there is one client and one service, each as the settings described it when it
was made, every request gives these objects, and a failure leaves nothing behind. -/
theorem life_cycle (environment : Settings.Environment) (steps : List Step) :
    ((initial environment).afterAll steps).LifeCycle :=
  lifeCycle_of_agrees (agrees_afterAll (agrees_initial environment) steps)

/-- Settings, a service and a client are made for the first request, and nothing for the second. -/
example : ((initial Settings.shopVariables).afterAll
    [.serviceClient, .clearSettings, .client]).made.length = 3 := by
  decide +kernel

end Storefront.Registry
