import CodexOrchestrator.Api.RuntimeBindings
import CodexOrchestrator.Lib.Runs

/-!
# BindingRecovery — a runtime binding survives the loss of some of its slots

A binding stands in five slots, three on the state and two on the application object.  A resolve
reads the first that holds something and writes it to all of them, so as long as one slot is left
the binding comes back, and the fallback is not asked.  The slots of the two bindings are disjoint.
-/

namespace CodexOrchestrator

/-! ## Steps on an application object -/

/-- The two services that are bound to an application object. -/
inductive RuntimeBinding where
  | authService | orchestrator
  deriving DecidableEq, Repr

def RuntimeBinding.spec : RuntimeBinding → BindingSpec
  | .authService => authBindingSpec
  | .orchestrator => orchestratorBindingSpec

/-- A slot of the binding. -/
abbrev RuntimeBinding.Slot (which : RuntimeBinding) := {place : Place // place ∈ which.spec.slots}

/-- The first slot, which the application itself reads and writes. -/
def RuntimeBinding.stateBinding (which : RuntimeBinding) : Place :=
  (.state, which.spec.stateBindingAttr)

inductive BindingStep (β : Type) where
  | bind (which : RuntimeBinding) (binding : β)
  | resolve (which : RuntimeBinding) (fallbackResolver : Unit → Except PyError β)
  | clear (which : RuntimeBinding) (slot : which.Slot)
  | replace (which : RuntimeBinding) (binding : β)

section Steps

variable {β : Type}

/-- The binding that a step is on. -/
def BindingStep.which : BindingStep β → RuntimeBinding
  | .bind which _ => which
  | .resolve which _ => which
  | .clear which _ => which
  | .replace which _ => which

/-- A resolve for a request to the application. -/
def resolveOn (which : RuntimeBinding) (fallbackResolver : Unit → Except PyError β)
    (app : AppObject β) : Except PyError (Resolution β) :=
  match which with
  | .authService => resolveAuthServiceBinding (some ⟨some app⟩) fallbackResolver
  | .orchestrator => resolveOrchestratorBinding (some ⟨some app⟩) fallbackResolver

def bindOn (which : RuntimeBinding) (binding : β) (app : AppObject β) : Option (AppObject β) :=
  match which with
  | .authService => bindAuthServiceBinding (some app) binding
  | .orchestrator => bindOrchestratorBinding (some app) binding

/-- The application object after a step; a resolve whose fallback raises leaves it as it is. -/
def applyStep (app : AppObject β) : BindingStep β → AppObject β
  | .bind which binding => (bindOn which binding app).getD app
  | .resolve which fallbackResolver =>
      match resolveOn which fallbackResolver app with
      | .ok resolution => resolution.app.getD app
      | .error _ => app
  | .clear _ slot => app.setAttr slot none
  | .replace which binding => app.setAttr which.stateBinding (some binding)

/-- All five slots hold the binding. -/
def AllHold (which : RuntimeBinding) (b : β) (app : AppObject β) : Prop :=
  ∀ slot : which.Slot, app.getAttr slot = some b

/-- Every slot holds the binding or nothing. -/
def OnlyHolds (which : RuntimeBinding) (b : β) (app : AppObject β) : Prop :=
  ∀ slot : which.Slot, app.getAttr slot = some b ∨ app.getAttr slot = none

/-- At least one slot holds the binding. -/
def SomeHolds (which : RuntimeBinding) (b : β) (app : AppObject β) : Prop :=
  ∃ slot : which.Slot, app.getAttr slot = some b

/-- The resolve returns the binding without a call of the fallback, and all slots hold it after. -/
def ResolvesTo (which : RuntimeBinding) (b : β) (fallbackResolver : Unit → Except PyError β)
    (app : AppObject β) : Prop :=
  ∃ app', resolveOn which fallbackResolver app =
      .ok { binding := b, app := some app', calledFallback := false } ∧ AllHold which b app'

/-- The step leaves the binding bound to `b`: a bind of it, or a resolve that returns it. -/
def Establishes (which : RuntimeBinding) (b : β) (app : AppObject β) (step : BindingStep β) : Prop :=
  step = .bind which b ∨ ∃ fallbackResolver resolution, step = .resolve which fallbackResolver ∧
    resolveOn which fallbackResolver app = .ok resolution ∧ resolution.binding = b

/-- The step writes another binding into a slot: a bind, or a replacement of the state binding. -/
def Overwrites (which : RuntimeBinding) (b : β) (step : BindingStep β) : Prop :=
  ∃ c, c ≠ b ∧ (step = .bind which c ∨ step = .replace which c)

/-- What a step writes. -/
def Writes (app : AppObject β) (step : BindingStep β) (value : Option β) : Prop :=
  match step with
  | .bind _ binding => value = some binding
  | .resolve which fallbackResolver => ∃ resolution,
      resolveOn which fallbackResolver app = .ok resolution ∧ value = some resolution.binding
  | .clear _ _ => value = none
  | .replace _ binding => value = some binding

end Steps

/-! ## One step -/

section OneStep

variable {β : Type} {app : AppObject β} {which other : RuntimeBinding} {b c : β}

theorem resolveOn_eq (which : RuntimeBinding) (fallbackResolver : Unit → Except PyError β)
    (app : AppObject β) : resolveOn which fallbackResolver app =
      resolveAppScopedBinding (some ⟨some app⟩) which.spec fallbackResolver := by
  cases which <;> rfl

theorem bindOn_eq (which : RuntimeBinding) (binding : β) (app : AppObject β) :
    bindOn which binding app = bindAppScopedBinding (some app) binding which.spec := by
  cases which <;> rfl

/-- The two bindings have no slot in common. -/
theorem slots_disjoint (h : which ≠ other) : ∀ place ∈ which.spec.slots,
    place ∉ other.spec.slots := by
  revert h
  cases which <;> cases other <;> decide

/-- The state binding is read first. -/
theorem exists_slots_eq (which : RuntimeBinding) :
    ∃ rest, which.spec.slots = which.stateBinding :: rest := by
  cases which <;> exact ⟨_, rfl⟩

theorem stateBinding_mem (which : RuntimeBinding) : which.stateBinding ∈ which.spec.slots := by
  obtain ⟨rest, hslots⟩ := exists_slots_eq which
  exact hslots ▸ List.mem_cons_self

/-- A resolve with at least one slot left. -/
theorem resolveOn_of_some (hstate : app.state.isSome)
    (fallbackResolver : Unit → Except PyError β)
    (hfound : which.spec.slots.findSome? app.getAttr = some b) :
    ResolvesTo which b fallbackResolver app := by
  obtain ⟨app', happ', -, hget⟩ := getAttr_bindAppScopedBinding hstate b which.spec
  refine ⟨app', ?_, fun slot => ?_⟩
  · rw [resolveOn_eq, resolveAppScopedBinding]
    dsimp only [Option.bind_some]
    rw [hfound]
    dsimp only
    rw [happ']
  · rw [hget, if_pos slot.2]

/-- The slot that is read first wins, and with no other value in the slots any slot does. -/
theorem resolveOn_of_recoverable (hstate : app.state.isSome) (honly : OnlyHolds which b app)
    (hsome : SomeHolds which b app) (fallbackResolver : Unit → Except PyError β) :
    ResolvesTo which b fallbackResolver app := by
  refine resolveOn_of_some hstate fallbackResolver ?_
  cases hfound : which.spec.slots.findSome? app.getAttr with
  | none =>
      obtain ⟨slot, hslot⟩ := hsome
      rw [List.findSome?_eq_none_iff.mp hfound slot slot.2] at hslot
      cases hslot
  | some found =>
      obtain ⟨place, hplace, hget⟩ := List.exists_of_findSome?_eq_some hfound
      rcases honly ⟨place, hplace⟩ with hb | hnone
      · exact hget.symm.trans hb
      · rw [hnone] at hget
        cases hget

/-- What a resolve returns stands in all five slots after it, and nothing else is written. -/
theorem getAttr_of_resolveOn (hstate : app.state.isSome)
    {fallbackResolver : Unit → Except PyError β} {resolution : Resolution β}
    (h : resolveOn which fallbackResolver app = .ok resolution) :
    ∃ app', resolution.app = some app' ∧ app'.state.isSome ∧ ∀ place, app'.getAttr place =
      if place ∈ which.spec.slots then some resolution.binding else app.getAttr place := by
  rw [resolveOn_eq, resolveAppScopedBinding] at h
  dsimp only at h
  split at h
  · rw [← Except.ok.inj h]
    exact getAttr_bindAppScopedBinding hstate _ _
  · obtain ⟨binding, -, h⟩ := Raise.bind_eq_ok.mp h
    rw [← Except.ok.inj h]
    exact getAttr_bindAppScopedBinding hstate _ _

theorem applyStep_bind (hstate : app.state.isSome) (which : RuntimeBinding) (b : β) :
    (applyStep app (.bind which b)).state.isSome ∧
      ∀ place, (applyStep app (.bind which b)).getAttr place =
        if place ∈ which.spec.slots then some b else app.getAttr place := by
  obtain ⟨app', happ', hget⟩ := getAttr_bindAppScopedBinding hstate b which.spec
  rw [applyStep, bindOn_eq, happ']
  exact hget

/-- The step lemma: a step leaves the state there is, and what it changes is a slot of its binding
    and what it writes. -/
theorem applyStep_spec (hstate : app.state.isSome) (step : BindingStep β) :
    (applyStep app step).state.isSome ∧ ∀ place,
      (applyStep app step).getAttr place = app.getAttr place ∨
      place ∈ step.which.spec.slots ∧ Writes app step ((applyStep app step).getAttr place) := by
  -- a write to the slots of the binding
  have hwritten : ∀ {app' : AppObject β} {slots : List Place} {value : Option β},
      slots ⊆ step.which.spec.slots → Writes app step value →
      (∀ place, app'.getAttr place = if place ∈ slots then value else app.getAttr place) →
      ∀ place, app'.getAttr place = app.getAttr place ∨
        place ∈ step.which.spec.slots ∧ Writes app step (app'.getAttr place) := by
    intro app' slots value hslots hvalue hget place
    rw [hget]
    split
    · rename_i hplace
      exact .inr ⟨hslots hplace, hvalue⟩
    · exact .inl rfl
  cases step with
  | bind which b =>
      obtain ⟨hstate', hget⟩ := applyStep_bind hstate which b
      exact ⟨hstate', hwritten (List.Subset.refl _) rfl hget⟩
  | resolve which fallbackResolver =>
      rw [applyStep]
      cases hresolved : resolveOn which fallbackResolver app with
      | error error => exact ⟨hstate, fun place => .inl rfl⟩
      | ok resolution =>
          obtain ⟨app', happ', hstate', hget⟩ := getAttr_of_resolveOn hstate hresolved
          dsimp only
          rw [happ']
          exact ⟨hstate', hwritten (List.Subset.refl _) ⟨resolution, hresolved, rfl⟩ hget⟩
  | clear which slot =>
      have hslots : [slot.1] ⊆ which.spec.slots := List.cons_subset.mpr ⟨slot.2, List.nil_subset _⟩
      refine ⟨by simpa [applyStep] using hstate, hwritten hslots rfl fun place => ?_⟩
      rw [applyStep, AppObject.getAttr_setAttr hstate]
      simp only [List.mem_singleton]
  | replace which c =>
      have hslots : [which.stateBinding] ⊆ which.spec.slots :=
        List.cons_subset.mpr ⟨stateBinding_mem which, List.nil_subset _⟩
      refine ⟨by simpa [applyStep] using hstate, hwritten hslots rfl fun place => ?_⟩
      rw [applyStep, AppObject.getAttr_setAttr hstate]
      simp only [List.mem_singleton]

/-- A step on the other binding leaves the slots of this one as they are. -/
theorem getAttr_applyStep_of_ne (hstate : app.state.isSome) {step : BindingStep β}
    (h : step.which ≠ which) (slot : which.Slot) :
    (applyStep app step).getAttr slot = app.getAttr slot := by
  rcases (applyStep_spec hstate step).2 slot with hsame | ⟨hslot, -⟩
  · exact hsame
  · exact absurd slot.2 (slots_disjoint h slot hslot)

/-- After a bind of `b`, or a resolve that returned it, all slots hold it. -/
theorem allHold_of_establishes (hstate : app.state.isSome) {first : BindingStep β}
    (h : Establishes which b app first) : AllHold which b (applyStep app first) := by
  intro slot
  rcases h with rfl | ⟨fallbackResolver, resolution, rfl, hresolved, hb⟩
  · rw [(applyStep_bind hstate which b).2, if_pos slot.2]
  · obtain ⟨app', happ', -, hget⟩ := getAttr_of_resolveOn hstate hresolved
    rw [applyStep, hresolved]
    dsimp only
    rw [happ', Option.getD_some, hget, if_pos slot.2, hb]

/-- A step that overwrites nothing, and resolves only while a slot is left, writes nothing but
    `b`. -/
theorem OnlyHolds.applyStep (honly : OnlyHolds which b app) (hstate : app.state.isSome)
    {step : BindingStep β} (hkeeps : ¬ Overwrites which b step)
    (hleft : ∀ fallbackResolver, step = .resolve which fallbackResolver → SomeHolds which b app) :
    OnlyHolds which b (applyStep app step) := by
  intro slot
  by_cases hwhich : step.which = which
  · rcases (applyStep_spec hstate step).2 slot with hsame | ⟨-, hwrites⟩
    · rw [hsame]
      exact honly slot
    · subst hwhich
      cases step with
      | bind which c =>
          by_cases hc : c = b
          · exact .inl (hwrites.trans (congrArg some hc))
          · exact absurd ⟨c, hc, .inl rfl⟩ hkeeps
      | resolve which fallbackResolver =>
          -- with a slot left the resolve returns `b`
          obtain ⟨app', hresolved, -⟩ := resolveOn_of_recoverable hstate honly
            (hleft fallbackResolver rfl) fallbackResolver
          obtain ⟨resolution, hresolved', hvalue⟩ := hwrites
          rw [BindingStep.which, hresolved'] at hresolved
          rw [Except.ok.inj hresolved] at hvalue
          exact .inl hvalue
      | clear which slot => exact .inr hwrites
      | replace which c =>
          by_cases hc : c = b
          · exact .inl (hwrites.trans (congrArg some hc))
          · exact absurd ⟨c, hc, .inr rfl⟩ hkeeps
  · rw [getAttr_applyStep_of_ne hstate hwhich slot]
    exact honly slot

theorem findSome?_congr {α : Type} {f g : α → Option β} {items : List α}
    (h : ∀ item ∈ items, f item = g item) : items.findSome? f = items.findSome? g := by
  induction items with
  | nil => rfl
  | cons item rest ih =>
      rw [List.findSome?_cons, List.findSome?_cons, h item List.mem_cons_self,
        ih fun other hother => h other (List.mem_cons_of_mem _ hother)]

/-- What a resolve returns, and whether it asks the fallback, depends on the slots alone. -/
theorem resolveOn_congr {app' : AppObject β}
    (h : ∀ slot : which.Slot, app'.getAttr slot = app.getAttr slot)
    (fallbackResolver : Unit → Except PyError β) :
    (resolveOn which fallbackResolver app').map (fun r => (r.binding, r.calledFallback)) =
      (resolveOn which fallbackResolver app).map fun r => (r.binding, r.calledFallback) := by
  have hfound : which.spec.slots.findSome? app'.getAttr = which.spec.slots.findSome? app.getAttr :=
    findSome?_congr fun place hplace => h ⟨place, hplace⟩
  rw [resolveOn_eq, resolveOn_eq, resolveAppScopedBinding, resolveAppScopedBinding]
  dsimp only [Option.bind_some]
  rw [hfound]
  cases which.spec.slots.findSome? app.getAttr with
  | some found => rfl
  | none => cases fallbackResolver () <;> rfl

end OneStep

/-! ## Runs -/

section Runs

variable {β : Type} {app : AppObject β} {which : RuntimeBinding} {b c : β}

theorem isSome_state_after (hstate : app.state.isSome) (steps : List (BindingStep β)) :
    (Runs.after applyStep app steps).state.isSome :=
  @Runs.invariant _ _ applyStep app (fun app => app.state.isSome) hstate
    (fun _ step hs => (applyStep_spec hs step).1) steps

/-- While nothing overwrites the binding and every resolve finds a slot left, the slots hold it or
    nothing. -/
theorem onlyHolds_after (hstate : app.state.isSome) (honly : OnlyHolds which b app)
    {steps : List (BindingStep β)} (hkeeps : ∀ step ∈ steps, ¬ Overwrites which b step)
    (hleft : Runs.EachStep applyStep app (fun app step => ∀ fallbackResolver,
      step = .resolve which fallbackResolver → SomeHolds which b app) steps) :
    OnlyHolds which b (Runs.after applyStep app steps) := by
  induction steps using List.reverseRecOn with
  | nil => exact honly
  | append_singleton steps step ih =>
      rw [Runs.after_concat]
      have hbefore := ih (fun other hother => hkeeps other (List.mem_append_left _ hother))
        hleft.of_concat.1
      exact hbefore.applyStep (isSome_state_after hstate steps)
        (hkeeps step (List.mem_append_right _ (List.mem_singleton_self _))) hleft.of_concat.2

/-- A replacement of the state binding outlives every step that does not write it. -/
theorem getAttr_after_replace (hstate : app.state.isSome) (which : RuntimeBinding) (c : β)
    {between : List (BindingStep β)}
    (h : ∀ step ∈ between, step.which ≠ which ∨
      ∃ slot : which.Slot, slot.1 ≠ which.stateBinding ∧ step = .clear which slot) :
    (Runs.after applyStep (applyStep app (.replace which c)) between).getAttr which.stateBinding =
      some c := by
  have hreplaced := (applyStep_spec hstate (.replace which c)).1
  induction between using List.reverseRecOn with
  | nil =>
      rw [Runs.after, List.foldl_nil, applyStep, AppObject.getAttr_setAttr hstate, if_pos rfl]
  | append_singleton between step ih =>
      have hbefore := ih fun other hother => h other (List.mem_append_left _ hother)
      have hstate' := isSome_state_after hreplaced between
      rw [Runs.after_concat, ← hbefore]
      rcases h step (List.mem_append_right _ (List.mem_singleton_self _)) with
        hother | ⟨slot, hslot, rfl⟩
      · exact getAttr_applyStep_of_ne hstate' hother ⟨_, stateBinding_mem which⟩
      · rw [applyStep, AppObject.getAttr_setAttr hstate', if_neg (Ne.symm hslot)]

/-- A runtime binding survives every partial loss of its slots, a replacement of the state binding
    reaches all of them, and the two bindings do not meet. -/
theorem binding_survives (hstate : app.state.isSome) (which : RuntimeBinding) :
    (∀ b first, Establishes which b app first →
      AllHold which b (applyStep app first) ∧
      (∀ steps, Runs.EachStep applyStep (applyStep app first) (fun app step =>
          ∀ fallbackResolver, step = .resolve which fallbackResolver →
            SomeHolds which b app ∧ OnlyHolds which b app) steps →
        Runs.EachStep applyStep (applyStep app first) (fun app step =>
          ∀ fallbackResolver, step = .resolve which fallbackResolver →
            ResolvesTo which b fallbackResolver app) steps) ∧
      ∀ steps, (∀ step ∈ steps, ¬ Overwrites which b step) →
        Runs.EachStep applyStep (applyStep app first) (fun app step =>
          ∀ fallbackResolver, step = .resolve which fallbackResolver →
            SomeHolds which b app) steps →
        Runs.EachStep applyStep (applyStep app first) (fun app step =>
          ∀ fallbackResolver, step = .resolve which fallbackResolver →
            ResolvesTo which b fallbackResolver app) steps) ∧
    (∀ c between, (∀ step ∈ between, step.which ≠ which ∨
        ∃ slot : which.Slot, slot.1 ≠ which.stateBinding ∧ step = .clear which slot) →
      ∀ fallbackResolver, ResolvesTo which c fallbackResolver
        (Runs.after applyStep (applyStep app (.replace which c)) between)) ∧
    ∀ step : BindingStep β, step.which ≠ which → ∀ fallbackResolver,
      (resolveOn which fallbackResolver (applyStep app step)).map
          (fun r => (r.binding, r.calledFallback)) =
        (resolveOn which fallbackResolver app).map fun r => (r.binding, r.calledFallback) := by
  refine ⟨fun b first hfirst => ⟨allHold_of_establishes hstate hfirst, ?_, ?_⟩, ?_, ?_⟩
  · intro steps hleft before step after hsteps fallbackResolver hresolve
    obtain ⟨hsome, honly⟩ := hleft before step after hsteps fallbackResolver hresolve
    exact resolveOn_of_recoverable
      (isSome_state_after (applyStep_spec hstate first).1 before) honly hsome fallbackResolver
  · intro steps hkeeps hleft before step after hsteps fallbackResolver hresolve
    have hstate' := (applyStep_spec hstate first).1
    have hsome := hleft before step after hsteps fallbackResolver hresolve
    -- nothing but `b` was written since the slots were filled
    subst hsteps
    have honly := onlyHolds_after hstate'
      (fun slot => .inl (allHold_of_establishes hstate hfirst slot))
      (fun other hother => hkeeps other (List.mem_append_left _ hother)) hleft.of_append
    exact resolveOn_of_recoverable (isSome_state_after hstate' before) honly hsome fallbackResolver
  · intro c between hbetween fallbackResolver
    refine resolveOn_of_some
      (isSome_state_after (applyStep_spec hstate (.replace which c)).1 between) fallbackResolver ?_
    have hget := getAttr_after_replace hstate which c hbetween
    obtain ⟨rest, hslots⟩ := exists_slots_eq which
    rw [hslots, List.findSome?_cons_of_isSome (by rw [hget]; rfl), hget]
  · intro step hother fallbackResolver
    exact resolveOn_congr (fun slot => getAttr_applyStep_of_ne hstate hother slot) fallbackResolver

/-- An application with a state on which nothing is bound. -/
def freshApp : AppObject String where
  attributes := fun _ => none
  state := some fun _ => none

/-- The slot of the authentication service that the application itself holds. -/
def appInitialSlot : RuntimeBinding.authService.Slot :=
  ⟨(.app, "_initial_auth_service"), by decide⟩

/-- A bound service comes back after one of its slots was cleared. -/
theorem binding_survives_fresh :
    ResolvesTo .authService "service" (fun _ => .ok "fallback")
      (applyStep (applyStep freshApp (.bind .authService "service"))
        (.clear .authService appInitialSlot)) := by
  obtain ⟨hbound, -, -⟩ := binding_survives (rfl : freshApp.state.isSome = true) .authService
  obtain ⟨-, -, hkept⟩ := hbound "service" (.bind .authService "service") (.inl rfl)
  refine hkept [.clear .authService appInitialSlot,
    .resolve .authService fun _ => .ok "fallback"] ?_ ?_ [.clear .authService appInitialSlot]
    _ [] rfl _ rfl
  · simp [Overwrites]
  · refine (Runs.EachStep.nil.concat ?_).concat ?_
    · intro fallbackResolver hresolve
      cases hresolve
    · intro fallbackResolver _
      exact ⟨⟨_, stateBinding_mem .authService⟩, by decide +kernel⟩

end Runs

end CodexOrchestrator
