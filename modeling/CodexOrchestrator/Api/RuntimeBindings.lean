import Mathlib.Logic.Function.Basic
import CodexOrchestrator.Lib.Raise

/-!
# Runtime bindings — the services that an application object carries

`app/api/runtime_bindings.py`.  An object's attributes are a function of their names; an attribute
that is missing reads as `None`, so it is not told apart from one that holds `None`.  The two
services live on the same objects, and `β` is the type of both.
-/

namespace CodexOrchestrator

/-- `getattr(obj, name, None)`, for every name. -/
abbrev Attributes (β : Type) := String → Option β

/-- An application object: its own attributes, and those of its `state` if it has one. -/
structure AppObject (β : Type) where
  attributes : Attributes β
  state : Option (Attributes β)

structure Request (β : Type) where
  app : Option (AppObject β)

inductive Owner where
  | app | state
  deriving DecidableEq, Repr

/-- An attribute of the application object or of its state. -/
abbrev Place := Owner × String

section Attributes

variable {β : Type}

def AppObject.getAttr (app : AppObject β) : Place → Option β
  | (.app, name) => app.attributes name
  | (.state, name) => app.state.bind fun state => state name

/-- `setattr`, or `delattr` for `none`; there is nothing to set on a missing state. -/
def AppObject.setAttr (app : AppObject β) (place : Place) (value : Option β) : AppObject β :=
  match place with
  | (.app, name) => { app with attributes := Function.update app.attributes name value }
  | (.state, name) => { app with state := app.state.map (Function.update · name value) }

end Attributes

/-! ## The specs -/

structure BindingSpec where
  stateBindingAttr : String
  stateInitialAttr : String
  appInitialAttr : String
  stateBootstrapAttr : Option String := none
  appBootstrapAttr : Option String := none

/-- The slots of a binding, in the order in which they are read. -/
def BindingSpec.slots (spec : BindingSpec) : List Place :=
  [(.state, spec.stateBindingAttr), (.state, spec.stateInitialAttr), (.app, spec.appInitialAttr)] ++
    spec.stateBootstrapAttr.toList.map (Prod.mk .state) ++
    spec.appBootstrapAttr.toList.map (Prod.mk .app)

def authBindingSpec : BindingSpec where
  stateBindingAttr := "auth_service"
  stateInitialAttr := "_initial_auth_service"
  stateBootstrapAttr := some "_bootstrap_auth_service"
  appInitialAttr := "_initial_auth_service"
  appBootstrapAttr := some "_bootstrap_auth_service"

def orchestratorBindingSpec : BindingSpec where
  stateBindingAttr := "orchestrator"
  stateInitialAttr := "_initial_orchestrator"
  stateBootstrapAttr := some "_bootstrap_orchestrator"
  appInitialAttr := "_initial_orchestrator"
  appBootstrapAttr := some "_bootstrap_orchestrator"

/-! ## Binding and resolving -/

section Bindings

variable {β : Type}

/-- `if attr is not None: setattr(obj, attr, binding)`. -/
def AppObject.setIfNamed (app : AppObject β) (owner : Owner) (attr : Option String) (binding : β) :
    AppObject β :=
  match attr with
  | some name => app.setAttr (owner, name) (some binding)
  | none => app

def bindAppScopedBinding (app : Option (AppObject β)) (binding : β) (spec : BindingSpec) :
    Option (AppObject β) :=
  app.map fun app =>
    let app := app.setAttr (.app, spec.appInitialAttr) (some binding)
    let app := app.setIfNamed .app spec.appBootstrapAttr binding
    match app.state with
    | none => app
    | some _ =>
        let app := app.setAttr (.state, spec.stateBindingAttr) (some binding)
        let app := app.setAttr (.state, spec.stateInitialAttr) (some binding)
        app.setIfNamed .state spec.stateBootstrapAttr binding

/-- What a resolve returns, the application object after it, and whether the fallback was called. -/
structure Resolution (β : Type) where
  binding : β
  app : Option (AppObject β)
  calledFallback : Bool

/-- The first slot that holds something; with none, the fallback, which may raise. -/
def resolveAppScopedBinding (request : Option (Request β)) (spec : BindingSpec)
    (fallbackResolver : Unit → Except PyError β) : Except PyError (Resolution β) :=
  let app := request.bind Request.app
  let syncBinding := fun binding => bindAppScopedBinding app binding spec
  match spec.slots.findSome? fun slot => app.bind fun app => app.getAttr slot with
  | some binding => .ok { binding, app := syncBinding binding, calledFallback := false }
  | none => do
      let resolvedBinding ← fallbackResolver ()
      return { binding := resolvedBinding, app := syncBinding resolvedBinding, calledFallback := true }

def resolveAuthServiceBinding (request : Option (Request β))
    (fallbackResolver : Unit → Except PyError β) : Except PyError (Resolution β) :=
  resolveAppScopedBinding request authBindingSpec fallbackResolver

def resolveOrchestratorBinding (request : Option (Request β))
    (fallbackResolver : Unit → Except PyError β) : Except PyError (Resolution β) :=
  resolveAppScopedBinding request orchestratorBindingSpec fallbackResolver

def bindAuthServiceBinding (app : Option (AppObject β)) (authService : β) :
    Option (AppObject β) :=
  bindAppScopedBinding app authService authBindingSpec

def bindOrchestratorBinding (app : Option (AppObject β)) (orchestrator : β) :
    Option (AppObject β) :=
  bindAppScopedBinding app orchestrator orchestratorBindingSpec

end Bindings

/-! ## What stands in an attribute after a write -/

section Reads

variable {β : Type} {app : AppObject β}

@[simp] theorem AppObject.isSome_state_setAttr (app : AppObject β) (place : Place)
    (value : Option β) : (app.setAttr place value).state.isSome = app.state.isSome := by
  obtain ⟨owner, name⟩ := place
  cases owner with
  | app => rfl
  | state => exact Option.isSome_map

@[simp] theorem AppObject.isSome_state_setIfNamed (app : AppObject β) (owner : Owner)
    (attr : Option String) (binding : β) :
    (app.setIfNamed owner attr binding).state.isSome = app.state.isSome := by
  cases attr with
  | none => rfl
  | some name => exact app.isSome_state_setAttr _ _

theorem AppObject.getAttr_setAttr (hstate : app.state.isSome) (place : Place) (value : Option β)
    (other : Place) : (app.setAttr place value).getAttr other =
      if other = place then value else app.getAttr other := by
  obtain ⟨state, hstate⟩ := Option.isSome_iff_exists.mp hstate
  obtain ⟨owner, name⟩ := place
  obtain ⟨owner', name'⟩ := other
  cases owner <;> cases owner' <;>
    simp [AppObject.setAttr, AppObject.getAttr, hstate, Function.update_apply]

theorem AppObject.getAttr_setIfNamed (hstate : app.state.isSome) (owner : Owner)
    (attr : Option String) (binding : β) (place : Place) :
    (app.setIfNamed owner attr binding).getAttr place =
      if place ∈ attr.toList.map (Prod.mk owner) then some binding else app.getAttr place := by
  cases attr with
  | none => rfl
  | some name =>
      rw [AppObject.setIfNamed, AppObject.getAttr_setAttr hstate]
      simp only [Option.toList_some, List.map_cons, List.map_nil, List.mem_singleton]

/-- A bind writes the slots of its spec, and nothing else. -/
theorem getAttr_bindAppScopedBinding (hstate : app.state.isSome) (binding : β)
    (spec : BindingSpec) : ∃ app', bindAppScopedBinding (some app) binding spec = some app' ∧
      app'.state.isSome ∧ ∀ place, app'.getAttr place =
        if place ∈ spec.slots then some binding else app.getAttr place := by
  have hset : ((app.setAttr (.app, spec.appInitialAttr) (some binding)).setIfNamed .app
      spec.appBootstrapAttr binding).state.isSome := by simpa using hstate
  obtain ⟨state, hstate'⟩ := Option.isSome_iff_exists.mp hset
  unfold bindAppScopedBinding
  rw [Option.map_some]
  dsimp only
  rw [hstate']
  refine ⟨_, rfl, by simpa using hstate, fun place => ?_⟩
  dsimp only
  rw [AppObject.getAttr_setIfNamed (by simpa using hstate),
    AppObject.getAttr_setAttr (by simpa using hstate),
    AppObject.getAttr_setAttr (by simpa using hstate),
    AppObject.getAttr_setIfNamed (by simpa using hstate),
    AppObject.getAttr_setAttr hstate]
  simp only [BindingSpec.slots, List.mem_append, List.mem_cons, List.not_mem_nil, or_false]
  grind

end Reads

end CodexOrchestrator
