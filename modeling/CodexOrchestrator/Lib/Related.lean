import CodexOrchestrator.Lib.Raise

/-!
# Related — two runs of fallible code, side by side

Two computations are related when both answer, with related answers, or both raise, with related
exceptions.  A sequence is related when its steps are, so a fact about two runs of a long function is
put together from one lemma for each function that it calls.
-/

namespace Raise

variable {ε ε' α α' β β' : Type}

inductive Related (raised : ε → ε' → Prop) (answered : α → α' → Prop) :
    Except ε α → Except ε' α' → Prop where
  | ok {a : α} {a' : α'} (answers : answered a a') : Related raised answered (.ok a) (.ok a')
  | error {e : ε} {e' : ε'} (raises : raised e e') : Related raised answered (.error e) (.error e')

namespace Related

variable {raised : ε → ε' → Prop} {answered : α → α' → Prop} {answered' : β → β' → Prop}
  {x : Except ε α} {x' : Except ε' α'}

theorem bind {f : α → Except ε β} {f' : α' → Except ε' β'} (hx : Related raised answered x x')
    (hf : ∀ a a', answered a a' → Related raised answered' (f a) (f' a')) :
    Related raised answered' (x >>= f) (x' >>= f') := by
  cases hx with
  | ok answers => exact hf _ _ answers
  | error raises => exact .error raises

/-- The same, when the second steps need to know what the first ones answered. -/
theorem bind_of_eq {f : α → Except ε β} {f' : α' → Except ε' β'} (hx : Related raised answered x x')
    (hf : ∀ a a', x = .ok a → x' = .ok a' → answered a a' →
      Related raised answered' (f a) (f' a')) :
    Related raised answered' (x >>= f) (x' >>= f') := by
  cases hx with
  | ok answers => exact hf _ _ rfl rfl answers
  | error raises => exact .error raises

theorem ite {c c' : Prop} [Decidable c] [Decidable c'] {y : Except ε α} {y' : Except ε' α'}
    (hc : c ↔ c') (hx : c → Related raised answered x x')
    (hy : ¬ c → Related raised answered y y') :
    Related raised answered (if c then x else y) (if c' then x' else y') := by
  by_cases h : c
  · rw [if_pos h, if_pos (hc.mp h)]
    exact hx h
  · rw [if_neg h, if_neg (mt hc.mpr h)]
    exact hy h

theorem raiseIf {c c' : Prop} [Decidable c] [Decidable c'] {e : ε} {e' : ε'} (hc : c ↔ c')
    (he : raised e e') :
    Related raised (fun _ _ => True) (Raise.raiseIf c e) (Raise.raiseIf c' e') :=
  .ite hc (fun _ => .error he) fun _ => .ok trivial

theorem of_ok {a : α} {a' : α'} (h : Related raised answered (.ok a) (.ok a')) : answered a a' := by
  cases h with
  | ok answers => exact answers

end Related

end Raise
