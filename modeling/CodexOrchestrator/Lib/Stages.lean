/-!
# Stages — functions that may raise, each applied to what the one before it returned

`Chain` says of a run that no stage raises and that a relation holds between what each of them is
given and what it returns; the rules take a chain apart at any place and put two together.
-/

namespace Stages

variable {α ε : Type}

def run : List (α → Except ε α) → α → Except ε α
  | [], source => .ok source
  | stage :: rest, source => stage source >>= run rest

/-- The stages run through from `source` to `final`, each of them in the relation. -/
inductive Chain (R : α → α → Prop) : List (α → Except ε α) → α → α → Prop
  | nil (source : α) : Chain R [] source source
  | cons {stage : α → Except ε α} {rest : List (α → Except ε α)} {source out final : α}
      (ran : stage source = .ok out) (step : R source out) (onward : Chain R rest out final) :
      Chain R (stage :: rest) source final

variable {R : α → α → Prop} {stages before after : List (α → Except ε α)} {source mid final : α}

theorem run_append (before after : List (α → Except ε α)) (source : α) :
    run (before ++ after) source = run before source >>= run after := by
  induction before generalizing source with
  | nil => rfl
  | cons stage before ih =>
      rw [List.cons_append, run, run]
      cases stage source with
      | error error => rfl
      | ok out => exact ih out

theorem Chain.run_eq (h : Chain R stages source final) : run stages source = .ok final := by
  induction h with
  | nil => rfl
  | cons ran _ _ ih =>
      rw [run, ran]
      exact ih

theorem Chain.append (h : Chain R before source mid) (h' : Chain R after mid final) :
    Chain R (before ++ after) source final := by
  induction h with
  | nil => exact h'
  | cons ran step _ ih => exact .cons ran step (ih h')

/-- A chain can be taken apart at any place. -/
theorem Chain.split (h : Chain R (before ++ after) source final) :
    ∃ mid, Chain R before source mid ∧ Chain R after mid final := by
  induction before generalizing source with
  | nil => exact ⟨source, .nil source, h⟩
  | cons stage before ih =>
      cases h with
      | cons ran step onward =>
          obtain ⟨mid, hbefore, hafter⟩ := ih onward
          exact ⟨mid, .cons ran step hbefore, hafter⟩

/-- What each stage does, a whole chain does. -/
theorem Chain.lift {S : α → α → Prop} (hrefl : ∀ a, S a a)
    (htrans : ∀ a b c, R a b → S b c → S a c) (h : Chain R stages source final) :
    S source final := by
  induction h with
  | nil source => exact hrefl source
  | cons _ step _ ih => exact htrans _ _ _ step ih

end Stages
