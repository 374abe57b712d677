/-
# The methods of the registry

The methods as they change the registry statement by statement, with every exception that the
dictionary and the list under it can raise. What was written before an exception stays written.
In a consistent registry none of the inner exceptions is raised, a method that raises has
written nothing, and the others do what `RegistryOperation.perform` says.
-/

import LLMRouting.Registry.ModelRegistry

namespace LLMRouting

open LLMRouting.Data

/-- `UnknownProviderError`, and what `del`, a subscript and `list.remove` raise. -/
inductive RegistryException
  | unknownProvider (providerId : String)
  | keyError (providerId : String)
  | valueError
  deriving DecidableEq, Repr

/-- Code that works on a registry: an exception leaves the registry as it is by then. -/
abbrev RegistryM (μ : Type) : Type → Type := ExceptT RegistryException (StateM (ModelRegistry μ))

namespace RegistryM

variable {μ : Type}

/-- Run a method on a registry: what it returns or raises, and the registry afterwards. -/
def runOn {α : Type} (method : RegistryM μ α) (registry : ModelRegistry μ) :
    Except RegistryException α × ModelRegistry μ :=
  method.run.run registry

/-- `self._providers[provider_id]` -/
def subscript (providerId : String) : RegistryM μ (ProviderConfig μ) := do
  match (← get).providers.get? providerId with
  | some provider => return provider
  | none => throw (.keyError providerId)

/-- `self._providers[provider_id] = provider` -/
def assign (providerId : String) (provider : ProviderConfig μ) : RegistryM μ Unit :=
  modify fun registry =>
    { registry with providers := registry.providers.set providerId provider }

/-- `del self._providers[provider_id]` -/
def delete (providerId : String) : RegistryM μ Unit := do
  if providerId ∈ (← get).providers.keys then
    modify fun registry => { registry with providers := registry.providers.erase providerId }
  else throw (.keyError providerId)

/-- `self._order.append(provider_id)` -/
def append (providerId : String) : RegistryM μ Unit :=
  modify fun registry => { registry with order := registry.order ++ [providerId] }

/-- `self._order.remove(provider_id)` -/
def removeFirst (providerId : String) : RegistryM μ Unit := do
  if providerId ∈ (← get).order then
    modify fun registry => { registry with order := registry.order.erase providerId }
  else throw .valueError

def register (provider : ProviderConfig μ) : RegistryM μ Unit := do
  if provider.id ∉ (← get).providers.keys then append provider.id
  assign provider.id provider

def getProvider (providerId : String) : RegistryM μ (ProviderConfig μ) :=
  tryCatch (subscript providerId) fun
    | .keyError _ => throw (.unknownProvider providerId)
    | other => throw other

def remove (providerId : String) : RegistryM μ Unit := do
  let _ ← getProvider providerId
  delete providerId
  removeFirst providerId

def listProviders : RegistryM μ (List (ProviderConfig μ)) := do
  (← get).order.mapM subscript

def isEnabled (providerId : String) : RegistryM μ Bool := do
  return (← getProvider providerId).enabled

def enable (providerId : String) : RegistryM μ Unit := do
  assign providerId { ← getProvider providerId with enabled := true }

def disable (providerId : String) : RegistryM μ Unit := do
  assign providerId { ← getProvider providerId with enabled := false }

def availableForRouter (excluded : List String) : RegistryM μ (List AvailableProvider) := do
  return ((← listProviders).filter fun provider =>
    provider.enabled && decide (provider.id ∉ excluded)).map fun provider =>
      { id := provider.id, capabilities := provider.capabilities }

end RegistryM

/-- The method an operation calls. -/
def RegistryOperation.method {μ : Type} : RegistryOperation μ → RegistryM μ Unit
  | .register provider => RegistryM.register provider
  | .remove providerId => RegistryM.remove providerId
  | .enable providerId => RegistryM.enable providerId
  | .disable providerId => RegistryM.disable providerId

/-- The id an operation is about. -/
def RegistryOperation.providerId {μ : Type} : RegistryOperation μ → String
  | .register provider => provider.id
  | .remove providerId | .enable providerId | .disable providerId => providerId

namespace RegistryM

variable {μ α β : Type} {registry after : ModelRegistry μ} {providerId : String}

theorem runOn_bind_of_ok {first : RegistryM μ α} {next : α → RegistryM μ β} {value : α}
    (h : first.runOn registry = (.ok value, after)) :
    (first >>= next).runOn registry = (next value).runOn after := by
  simp only [runOn, ExceptT.run_bind, StateT.run_bind] at h ⊢
  rw [h]
  rfl

theorem runOn_bind_of_error {first : RegistryM μ α} {next : α → RegistryM μ β}
    {exception : RegistryException} (h : first.runOn registry = (.error exception, after)) :
    (first >>= next).runOn registry = (.error exception, after) := by
  simp only [runOn, ExceptT.run_bind, StateT.run_bind] at h ⊢
  rw [h]
  rfl

theorem runOn_tryCatch_of_ok {first : RegistryM μ α} {handler : RegistryException → RegistryM μ α}
    {value : α} (h : first.runOn registry = (.ok value, after)) :
    (tryCatch first handler).runOn registry = (.ok value, after) := by
  simp only [runOn, ExceptT.run_tryCatch, StateT.run_bind] at h ⊢
  rw [h]
  rfl

theorem runOn_tryCatch_of_error {first : RegistryM μ α}
    {handler : RegistryException → RegistryM μ α}
    {exception : RegistryException} (h : first.runOn registry = (.error exception, after)) :
    (tryCatch first handler).runOn registry = (handler exception).runOn after := by
  simp only [runOn, ExceptT.run_tryCatch, StateT.run_bind] at h ⊢
  rw [h]
  rfl

theorem get_bind_runOn (next : ModelRegistry μ → RegistryM μ β) :
    (get >>= next).runOn registry = (next registry).runOn registry :=
  runOn_bind_of_ok rfl

theorem subscript_runOn_of_some {provider : ProviderConfig μ}
    (h : registry.providers.get? providerId = some provider) :
    (subscript providerId).runOn registry = (.ok provider, registry) := by
  rw [subscript, get_bind_runOn, h]
  rfl

theorem subscript_runOn_of_none (h : registry.providers.get? providerId = none) :
    (subscript providerId).runOn registry = (.error (.keyError providerId), registry) := by
  rw [subscript, get_bind_runOn, h]
  rfl

theorem register_runOn (provider : ProviderConfig μ) :
    (register provider).runOn registry = (.ok (), registry.register provider) := by
  rw [register, get_bind_runOn, ModelRegistry.register]
  by_cases hnew : provider.id ∉ registry.providers.keys
  · rw [if_pos hnew, if_pos hnew]
    rfl
  · rw [if_neg hnew, if_neg hnew]
    rfl

theorem getProvider_runOn_of_some {provider : ProviderConfig μ}
    (h : registry.getProvider? providerId = some provider) :
    (getProvider providerId).runOn registry = (.ok provider, registry) :=
  runOn_tryCatch_of_ok (subscript_runOn_of_some h)

theorem getProvider_runOn_of_none (h : registry.getProvider? providerId = none) :
    (getProvider providerId).runOn registry = (.error (.unknownProvider providerId), registry) :=
  runOn_tryCatch_of_error (subscript_runOn_of_none h)

/-- `enable` and `disable` are lookups followed by an assignment. -/
theorem setEnabled_runOn (enabled : Bool) {provider : ProviderConfig μ}
    (h : registry.getProvider? providerId = some provider) :
    (getProvider providerId >>= fun provider =>
        assign providerId { provider with enabled := enabled }).runOn registry =
      (.ok (), { registry with
        providers := registry.providers.set providerId { provider with enabled := enabled } }) :=
  runOn_bind_of_ok (getProvider_runOn_of_some h)

/-- What a registered provider's removal leaves; the list has the id, so `list.remove` finds it. -/
theorem remove_runOn (hregistry : registry.Consistent) {provider : ProviderConfig μ}
    (h : registry.getProvider? providerId = some provider) :
    (remove providerId).runOn registry =
      (.ok (), { providers := registry.providers.erase providerId
                 order := registry.order.erase providerId }) := by
  have hkey : providerId ∈ registry.providers.keys := Dict.mem_keys_iff.mpr ⟨provider, h⟩
  have horder : providerId ∈ registry.order := (hregistry.mem_order providerId).mpr hkey
  rw [remove, runOn_bind_of_ok (getProvider_runOn_of_some h)]
  have hdelete : (delete providerId).runOn registry =
      (.ok (), { registry with providers := registry.providers.erase providerId }) := by
    rw [delete, get_bind_runOn, if_pos hkey]
    rfl
  rw [runOn_bind_of_ok hdelete, removeFirst, get_bind_runOn, if_pos horder]
  rfl

/-- A method on a consistent registry raises for an unknown id only, and has changed nothing
then; otherwise it does what the operation says. -/
theorem method_runOn_of_some (hregistry : registry.Consistent) {operation : RegistryOperation μ}
    (h : operation.perform registry = some after) :
    operation.method.runOn registry = (.ok (), after) := by
  cases operation with
  | register provider =>
      cases h
      exact register_runOn provider
  | remove providerId =>
      obtain ⟨provider, hprovider, rfl⟩ := Option.map_eq_some_iff.mp h
      exact remove_runOn hregistry hprovider
  | enable providerId =>
      obtain ⟨provider, hprovider, rfl⟩ := Option.map_eq_some_iff.mp h
      exact setEnabled_runOn true hprovider
  | disable providerId =>
      obtain ⟨provider, hprovider, rfl⟩ := Option.map_eq_some_iff.mp h
      exact setEnabled_runOn false hprovider

theorem method_runOn_of_none {operation : RegistryOperation μ}
    (h : operation.perform registry = none) :
    operation.method.runOn registry =
      (.error (.unknownProvider operation.providerId), registry) := by
  cases operation with
  | register provider => cases h
  | remove providerId =>
      exact runOn_bind_of_error (getProvider_runOn_of_none (Option.map_eq_none_iff.mp h))
  | enable providerId =>
      exact runOn_bind_of_error (getProvider_runOn_of_none (Option.map_eq_none_iff.mp h))
  | disable providerId =>
      exact runOn_bind_of_error (getProvider_runOn_of_none (Option.map_eq_none_iff.mp h))

/-- A change of the registry is what the method leaves, whether it raises or not. -/
theorem change_table (registry : Registry μ) (operation : RegistryOperation μ) :
    (registry.change operation).table = (operation.method.runOn registry.table).2 := by
  rw [Registry.change]
  split
  · rename_i table hperform
    rw [method_runOn_of_some registry.consistent hperform]
  · rename_i hperform
    rw [method_runOn_of_none hperform]

private theorem mapM_subscript_runOn {ids : List String}
    (h : ∀ id ∈ ids, id ∈ registry.providers.keys) :
    (ids.mapM subscript).runOn registry =
      (.ok (ids.filterMap registry.providers.get?), registry) := by
  induction ids with
  | nil => rfl
  | cons id rest ih =>
      obtain ⟨provider, hprovider⟩ := Dict.mem_keys_iff.mp (h id List.mem_cons_self)
      have hrest := ih fun other hother => h other (List.mem_cons_of_mem id hother)
      rw [List.mapM_cons, runOn_bind_of_ok (subscript_runOn_of_some hprovider),
        runOn_bind_of_ok hrest, List.filterMap_cons_some hprovider]
      rfl

/-- The list has no id that the dictionary lacks, so listing never fails. -/
theorem listProviders_runOn (registry : Registry μ) :
    listProviders.runOn registry.table = (.ok registry.listProviders, registry.table) := by
  rw [listProviders, get_bind_runOn]
  exact mapM_subscript_runOn fun id hid => (registry.consistent.mem_order id).mp hid

theorem availableForRouter_runOn (registry : Registry μ) (excluded : List String) :
    (availableForRouter excluded).runOn registry.table =
      (.ok (registry.availableForRouter excluded), registry.table) := by
  rw [availableForRouter, runOn_bind_of_ok (listProviders_runOn registry)]
  rfl

end RegistryM

end LLMRouting
