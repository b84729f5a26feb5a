import Storefront.Search.Service

/-!
# Objects that are made once

Settings, the client of the index and the search service are made when they are first asked for and
shared from then on. A failure is not kept: whoever asks next tries again. Only the settings can be
forgotten, so a client or a service outlives the settings that it was made from.

Every object has a serial number, which tells a shared object from a new one that is equal to it: its
position among all the objects that were made.

* `Registry`: the cells for objects, and all the objects that were made.
* `Registry.once`: what a cell holds, or else what is made now.
* `Registry.getSettings`, `Registry.getClient`, `Registry.getService`, `Registry.getServiceClient`: the
  requests for objects.
* `Registry.Step`: what happens to the registry.
-/

namespace Storefront

open Index (BackendError Connection)

/-- An object with its serial number. -/
structure Made (α : Type) where
  serial : Nat
  value : α

/-- An object of one of the kinds that are made. -/
inductive Object where
  | settings (s : Settings)
  | client (c : Connection)
  | service (s : SearchService)

/-- The environment, what is shared, and all the objects that were made. The service holds a client
once it has asked for it. -/
structure Registry where
  environment : Settings.Environment
  settings : Option (Made Settings)
  client : Option (Made Connection)
  service : Option (Made SearchService)
  held : Option (Made Connection)
  made : List Object

/-- Why an object cannot be made. -/
inductive RegistryError where
  | settings (e : SettingsError)
  | backend (e : BackendError)
  | strategy (e : StrategyError)

namespace Registry

/-- An action on the registry; what was made stays made when a later step fails. -/
abbrev Action (α : Type) := ExceptT RegistryError (StateM Registry) α

def initial (environment : Settings.Environment) : Registry :=
  ⟨environment, none, none, none, none, []⟩

/-! ## Cells -/

/-- A cell for an object of one kind. -/
structure Cell (α : Type) where
  object : α → Object
  read : Registry → Option (Made α)
  write : Made α → Registry → Registry
  object_injective : ∀ a b, object a = object b → a = b
  read_write : ∀ m r, read (write m r) = some m
  made_write : ∀ m r, (write m r).made = r.made

namespace Cell

def settings : Cell Settings where
  object := .settings
  read := Registry.settings
  write m r := { r with settings := some m }
  object_injective _ _ h := Object.settings.inj h
  read_write _ _ := rfl
  made_write _ _ := rfl

def client : Cell Connection where
  object := .client
  read := Registry.client
  write m r := { r with client := some m }
  object_injective _ _ h := Object.client.inj h
  read_write _ _ := rfl
  made_write _ _ := rfl

def service : Cell SearchService where
  object := .service
  read := Registry.service
  write m r := { r with service := some m }
  object_injective _ _ h := Object.service.inj h
  read_write _ _ := rfl
  made_write _ _ := rfl

/-- A new object in its cell. -/
def fill {α : Type} (cell : Cell α) (value : α) (r : Registry) : Registry :=
  cell.write ⟨r.made.length, value⟩ { r with made := r.made ++ [cell.object value] }

end Cell

/-- Puts a new object in its cell. -/
def keep {α : Type} (cell : Cell α) (value : α) : Action (Made α) := do
  let r ← get
  set (cell.fill value r)
  pure ⟨r.made.length, value⟩

/-- What is there already, or else what an action gives. -/
def orElse {α : Type} (there : Registry → Option (Made α)) (a : Action (Made α)) :
    Action (Made α) := do
  (there (← get)).elim a pure

/-- What a cell holds, or else what is made now, and what the cell holds from then on. -/
def once {α : Type} (cell : Cell α) (maker : Action α) : Action (Made α) :=
  orElse cell.read do keep cell (← maker)

/-- Takes an outcome over. -/
def ofExcept {α : Type} (result : Except RegistryError α) : Action α := ExceptT.mk (pure result)

/-! ## Makers -/

def makeSettings (environment : Settings.Environment) : Except RegistryError Settings :=
  (Settings.fromEnvironment environment).mapError .settings

def makeClient (s : Settings) : Except RegistryError Connection :=
  (Connection.make "" "" s).mapError .backend

def makeService (s : Settings) : Except RegistryError SearchService :=
  (SearchService.ofSettings s).mapError .strategy

/-! ## Requests -/

/-- The shared settings. -/
def getSettings : Action (Made Settings) :=
  once .settings do ofExcept (makeSettings (← get).environment)

/-- An object that is made from the shared settings. -/
def getFromSettings {α : Type} (cell : Cell α) (maker : Settings → Except RegistryError α) :
    Action (Made α) :=
  once cell do ofExcept (maker (← getSettings).value)

/-- The shared client. -/
def getClient : Action (Made Connection) := getFromSettings .client makeClient

/-- The shared service. -/
def getService : Action (Made SearchService) := getFromSettings .service makeService

/-- Gives the service a client to hold. -/
def hold (made : Made Connection) : Action (Made Connection) := do
  modify fun r => { r with held := some made }
  pure made

/-- The client that the service holds; it asks for the shared client when it holds none. -/
def getHeld : Action (Made Connection) := orElse Registry.held do hold (← getClient)

/-- The client of the shared service. -/
def getServiceClient : Action (Made Connection) := do
  let _ ← getService
  getHeld

/-- Forgets the settings. -/
def clearSettings : Action Unit := modify fun r => { r with settings := none }

/-- Replaces the environment; what was made stays as it is. -/
def setEnvironment (environment : Settings.Environment) : Action Unit :=
  modify fun r => { r with environment := environment }

/-! ## Steps -/

namespace Action

variable {α : Type}

/-- What an action gives. -/
def answer (a : Action α) (r : Registry) : Except RegistryError α := (a.run.run r).1

/-- What an action leaves. -/
def after (a : Action α) (r : Registry) : Registry := (a.run.run r).2

end Action

/-- What can happen to the registry. -/
inductive Step where
  | settings
  | client
  | service
  | serviceClient
  | clearSettings
  | setEnvironment (environment : Settings.Environment)

/-- What a step leaves, whether its request is answered or fails. -/
def Step.after (r : Registry) : Step → Registry
  | .settings => getSettings.after r
  | .client => getClient.after r
  | .service => getService.after r
  | .serviceClient => getServiceClient.after r
  | .clearSettings => Registry.clearSettings.after r
  | .setEnvironment environment => (Registry.setEnvironment environment).after r

/-- What a sequence of steps leaves. -/
def afterAll (r : Registry) (steps : List Step) : Registry := steps.foldl Step.after r

end Registry

end Storefront
