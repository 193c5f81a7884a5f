import Mathlib.Data.List.Basic
import Mathlib.Data.List.Induction

/-!
# Runs — finite runs of a system that takes calls one after another

A system is a state type with a step function.  The rules carry an invariant over a whole run, from
what one step preserves; a condition on the steps may depend on the state a step starts from.  A log
that records each step as a pair of states is a walk when every step starts where the one before it
ended.
-/

namespace Runs

universe u v

variable {S : Type u} {C : Type v} (step : S → C → S) (init : S)

/-- The state after a run. -/
def after (calls : List C) : S := calls.foldl step init

@[simp] theorem after_concat (calls : List C) (call : C) :
    after step init (calls ++ [call]) = step (after step init calls) call := by
  rw [after, List.foldl_append]
  rfl

/-- Every step of the run meets `cond` in the state it starts from. -/
def EachStep (cond : S → C → Prop) (calls : List C) : Prop :=
  ∀ before call later, calls = before ++ call :: later → cond (after step init before) call

variable {step init}

theorem EachStep.of_concat {cond : S → C → Prop} {calls : List C} {call : C}
    (h : EachStep step init cond (calls ++ [call])) :
    EachStep step init cond calls ∧ cond (after step init calls) call := by
  refine ⟨fun before c later he => ?_, h calls call [] rfl⟩
  apply h before c (later ++ [call])
  rw [he, List.append_assoc, List.cons_append]

theorem EachStep.of_append {cond : S → C → Prop} {front back : List C}
    (h : EachStep step init cond (front ++ back)) : EachStep step init cond front := by
  intro before call later he
  apply h before call (later ++ back)
  rw [he, List.append_assoc, List.cons_append]

theorem EachStep.of_cons {cond : S → C → Prop} {call : C} {calls : List C}
    (h : EachStep step init cond (call :: calls)) :
    cond init call ∧ EachStep step (step init call) cond calls := by
  refine ⟨h [] call calls rfl, fun before c later he => ?_⟩
  exact h (call :: before) c later (by rw [he, List.cons_append])

theorem EachStep.nil {cond : S → C → Prop} : EachStep step init cond [] := by
  intro before call later he
  cases before <;> cases he

theorem EachStep.cons {cond : S → C → Prop} {call : C} {calls : List C} (hfirst : cond init call)
    (h : EachStep step (step init call) cond calls) : EachStep step init cond (call :: calls) := by
  intro before c later he
  cases before with
  | nil =>
      cases he
      exact hfirst
  | cons first before =>
      obtain ⟨rfl, hcalls⟩ := List.cons.inj he
      exact h before c later hcalls

theorem EachStep.mono {cond cond' : S → C → Prop} {calls : List C}
    (h : EachStep step init cond calls) (hle : ∀ s call, cond s call → cond' s call) :
    EachStep step init cond' calls :=
  fun before call later he => hle _ call (h before call later he)

/-- A condition that is decided for each step is decided along a run. -/
instance EachStep.decidable {cond : S → C → Prop} [∀ s call, Decidable (cond s call)] :
    (init : S) → (calls : List C) → Decidable (EachStep step init cond calls)
  | _, [] => isTrue EachStep.nil
  | init, call :: calls =>
      have : Decidable (EachStep step (step init call) cond calls) :=
        EachStep.decidable (step init call) calls
      decidable_of_iff (cond init call ∧ EachStep step (step init call) cond calls)
        ⟨fun h => h.2.cons h.1, EachStep.of_cons⟩

/-- A condition on the calls alone. -/
theorem EachStep.of_forall {cond : C → Prop} {calls : List C} (h : ∀ call ∈ calls, cond call) :
    EachStep step init (fun _ => cond) calls := by
  intro before call later he
  exact h call (he ▸ List.mem_append_right before List.mem_cons_self)

theorem EachStep.concat {cond : S → C → Prop} {calls : List C} {call : C}
    (h : EachStep step init cond calls) (hlast : cond (after step init calls) call) :
    EachStep step init cond (calls ++ [call]) := by
  intro before c later he
  induction later using List.reverseRecOn with
  | nil =>
      obtain ⟨rfl, hc⟩ := List.append_inj' he rfl
      rw [← List.singleton_injective hc]
      exact hlast
  | append_singleton later last _ =>
      rw [← List.cons_append, ← List.append_assoc] at he
      obtain ⟨hcalls, -⟩ := List.append_inj' he rfl
      exact h before c later hcalls

/-- The invariant rule: what holds at the start and is kept by every step that meets the condition
    holds at the end of every run whose steps meet it. -/
theorem invariant_of_steps {inv : S → Prop} {cond : S → C → Prop} (hinit : inv init)
    (hstep : ∀ s call, inv s → cond s call → inv (step s call)) (calls : List C)
    (h : EachStep step init cond calls) : inv (after step init calls) := by
  induction calls using List.reverseRecOn with
  | nil => exact hinit
  | append_singleton calls call ih =>
      rw [after_concat]
      exact hstep _ _ (ih h.of_concat.1) h.of_concat.2

/-- The invariant rule without a condition. -/
theorem invariant {inv : S → Prop} (hinit : inv init)
    (hstep : ∀ s call, inv s → inv (step s call)) (calls : List C) :
    inv (after step init calls) :=
  invariant_of_steps hinit (fun s call hs (_ : True) => hstep s call hs) calls
    (fun _ _ _ _ => trivial)

/-- The trace rule: a fact that relates a state to the calls that led there. -/
theorem trace_invariant {inv : List C → S → Prop} {cond : S → C → Prop} (hinit : inv [] init)
    (hstep : ∀ calls call, inv calls (after step init calls) → cond (after step init calls) call →
      inv (calls ++ [call]) (step (after step init calls) call)) (calls : List C)
    (h : EachStep step init cond calls) : inv calls (after step init calls) := by
  induction calls using List.reverseRecOn with
  | nil => exact hinit
  | append_singleton calls call ih =>
      rw [after_concat]
      exact hstep calls call (ih h.of_concat.1) h.of_concat.2

/-- `path` leads from `start` to the last index along edges of `edge`. -/
inductive Walk {α : Type u} (edge : α → α → Prop) (start : α) : List (α × α) → α → Prop where
  | nil : Walk edge start [] start
  | concat {path : List (α × α)} {a b : α} (before : Walk edge start path a) (next : edge a b) :
      Walk edge start (path ++ [(a, b)]) b

end Runs
