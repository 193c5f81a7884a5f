/-!
# Raise — Python code that raises, as `Except`

The kinds of exception that code written against the standard library raises, a guard
(`if c: raise e`), and the inversion lemmas that take a sequence of fallible steps apart.
-/

/-- An exception, with its message. -/
inductive PyError where
  | valueError (message : String)
  | lookupError (message : String)
  | permissionError (message : String)
  | keyError (key : String)
  /-- Any other exception class. -/
  | other (className message : String)
  deriving DecidableEq, Repr

namespace Raise

variable {ε α β : Type}

/-- `if c: raise e`. -/
def raiseIf (c : Prop) [Decidable c] (e : ε) : Except ε Unit :=
  if c then .error e else .ok ()

theorem bind_eq_ok {x : Except ε α} {f : α → Except ε β} {b : β} :
    (x >>= f) = .ok b ↔ ∃ a, x = .ok a ∧ f a = .ok b := by
  cases x with
  | error e => simp [bind, Except.bind]
  | ok a => simp [bind, Except.bind]

theorem bind_eq_error {x : Except ε α} {f : α → Except ε β} {e : ε} :
    (x >>= f) = .error e ↔ x = .error e ∨ ∃ a, x = .ok a ∧ f a = .error e := by
  cases x with
  | error e' => simp [bind, Except.bind]
  | ok a => simp [bind, Except.bind]

theorem raiseIf_eq_ok {c : Prop} [Decidable c] {e : ε} {u : Unit} :
    raiseIf c e = .ok u ↔ ¬ c := by
  unfold raiseIf
  split <;> simp [*]

theorem raiseIf_eq_error {c : Prop} [Decidable c] {e e' : ε} :
    raiseIf c e = .error e' ↔ c ∧ e = e' := by
  unfold raiseIf
  split <;> simp [*]

/-- A step that cannot raise passes its value on. -/
theorem ok_bind (a : α) (f : α → Except ε β) : (Except.ok a >>= f) = f a := rfl

theorem error_bind (e : ε) (f : α → Except ε β) : (Except.error e >>= f) = .error e := rfl

theorem raiseIf_of_not {c : Prop} [Decidable c] {e : ε} (h : ¬ c) : raiseIf c e = .ok () :=
  if_neg h

/-- A sequence answers when each of its steps does. -/
theorem exists_ok_bind {x : Except ε α} {f : α → Except ε β} (hx : ∃ a, x = .ok a)
    (hf : ∀ a, ∃ b, f a = .ok b) : ∃ b, (x >>= f) = .ok b := by
  obtain ⟨a, rfl⟩ := hx
  exact hf a

/-- Whatever the computation raises satisfies `P`. -/
def RaisesOnly (P : ε → Prop) (x : Except ε α) : Prop := ∀ e, x = .error e → P e

theorem RaisesOnly.ok {P : ε → Prop} (a : α) : RaisesOnly P (.ok a : Except ε α) :=
  fun _ h => by cases h

theorem RaisesOnly.error {P : ε → Prop} {e : ε} (h : P e) :
    RaisesOnly P (.error e : Except ε α) :=
  fun _ he => Except.error.inj he ▸ h

theorem RaisesOnly.raiseIf {P : ε → Prop} {c : Prop} [Decidable c] {e : ε} (h : P e) :
    RaisesOnly P (Raise.raiseIf c e) := by
  intro e' he
  rw [← (raiseIf_eq_error.mp he).2]
  exact h

theorem RaisesOnly.bind {P : ε → Prop} {x : Except ε α} {f : α → Except ε β}
    (hx : RaisesOnly P x) (hf : ∀ a, x = .ok a → RaisesOnly P (f a)) : RaisesOnly P (x >>= f) := by
  intro e he
  rcases bind_eq_error.mp he with h | ⟨a, ha, h⟩
  · exact hx e h
  · exact hf a ha e h

/-- What the computation returns satisfies `Q`, and what it raises satisfies `P`. -/
structure Ends (Q : α → Prop) (P : ε → Prop) (x : Except ε α) : Prop where
  returns : ∀ a, x = .ok a → Q a
  raises : RaisesOnly P x

section Ends

variable {P : ε → Prop} {Q : α → Prop}

theorem Ends.ok {a : α} (h : Q a) : Ends Q P (.ok a : Except ε α) where
  returns _ he := Except.ok.inj he ▸ h
  raises := .ok a

theorem Ends.error {e : ε} (h : P e) : Ends Q P (.error e : Except ε α) where
  returns _ he := by cases he
  raises := .error h

theorem RaisesOnly.ends {x : Except ε α} (h : RaisesOnly P x) : Ends (fun _ => True) P x where
  returns _ _ := trivial
  raises := h

theorem Ends.bind {R : β → Prop} {x : Except ε α} {f : α → Except ε β} (hx : Ends Q P x)
    (hf : ∀ a, x = .ok a → Q a → Ends R P (f a)) : Ends R P (x >>= f) where
  returns b hb := by
    obtain ⟨a, ha, hfa⟩ := bind_eq_ok.mp hb
    exact (hf a ha (hx.returns a ha)).returns b hfa
  raises := hx.raises.bind fun a ha => (hf a ha (hx.returns a ha)).raises

theorem Ends.mono {Q' : α → Prop} {P' : ε → Prop} {x : Except ε α} (h : Ends Q P x)
    (hQ : ∀ a, Q a → Q' a) (hP : ∀ e, P e → P' e) : Ends Q' P' x where
  returns a ha := hQ a (h.returns a ha)
  raises e he := hP e (h.raises e he)

end Ends

end Raise
