import Mathlib.Data.List.Basic

/-!
# Loops — `for` loops over a list that is edited while it is read

A loop `for x in xs: body(x)` whose body edits the list in place, at the position it is reading, is a
fold over the positions.  The rule here carries an invariant that sees the list cut at the loop's
position.
-/

namespace Loops

variable {α σ : Type*}

/-- The invariant rule of a loop over positions: `inv seen rest s` holds before the loop reads `rest`
    with `seen` behind it, and each round moves one element over. -/
theorem foldl_zipIdx_inv {xs : List α} (body : σ → α × Nat → σ) (inv : List α → List α → σ → Prop)
    (hbody : ∀ seen x rest s, xs = seen ++ x :: rest → inv seen (x :: rest) s →
      inv (seen ++ [x]) rest (body s (x, seen.length)))
    (rest seen : List α) (s : σ) (hxs : xs = seen ++ rest) (h : inv seen rest s) :
    inv xs [] ((rest.zipIdx seen.length).foldl body s) := by
  induction rest generalizing seen s with
  | nil =>
      rw [hxs, List.append_nil]
      exact h
  | cons x rest ih =>
      have hnext := ih (seen ++ [x]) _ (by rw [hxs, List.append_assoc, List.singleton_append])
        (hbody seen x rest s hxs h)
      rw [List.length_append, List.length_singleton] at hnext
      rw [List.zipIdx_cons, List.foldl_cons]
      exact hnext

/-- The rule at the start of a loop. -/
theorem foldl_zipIdx (body : σ → α × Nat → σ) (inv : List α → List α → σ → Prop) (xs : List α)
    (hbody : ∀ seen x rest s, xs = seen ++ x :: rest → inv seen (x :: rest) s →
      inv (seen ++ [x]) rest (body s (x, seen.length)))
    (s : σ) (h : inv [] xs s) : inv xs [] (xs.zipIdx.foldl body s) :=
  foldl_zipIdx_inv body inv hbody xs [] s rfl h

/-- The rule of a loop that reads only the positions at which `test` held at the start. -/
theorem foldl_filter_zipIdx (test : α → Bool) (body : σ → α × Nat → σ)
    (inv : List α → List α → σ → Prop) (xs : List α)
    (hskip : ∀ seen x rest s, xs = seen ++ x :: rest → test x = false → inv seen (x :: rest) s →
      inv (seen ++ [x]) rest s)
    (hbody : ∀ seen x rest s, xs = seen ++ x :: rest → test x = true → inv seen (x :: rest) s →
      inv (seen ++ [x]) rest (body s (x, seen.length)))
    (s : σ) (h : inv [] xs s) :
    inv xs [] ((xs.zipIdx.filter fun entry => test entry.1).foldl body s) := by
  rw [List.foldl_filter]
  refine foldl_zipIdx _ inv xs (fun seen x rest s hxs hs => ?_) s h
  dsimp only
  split
  · rename_i htest
    exact hbody seen x rest s hxs htest hs
  · rename_i htest
    exact hskip seen x rest s hxs (Bool.eq_false_iff.mpr htest) hs

/-- Writing at the position of the cut. -/
theorem set_at_cut (seen rest : List α) (x y : α) :
    (seen ++ x :: rest).set seen.length y = seen ++ y :: rest := by
  simp

theorem get_at_cut (seen rest : List α) (x : α) :
    (seen ++ x :: rest)[seen.length]? = some x := by
  simp

theorem modify_at_cut (seen rest : List α) (x : α) (f : α → α) :
    (seen ++ x :: rest).modify seen.length f = seen ++ f x :: rest := by
  induction seen with
  | nil => rfl
  | cons y seen ih => rw [List.cons_append, List.length_cons, List.modify_succ_cons, ih]; rfl

/-! ## A loop that keeps what it has not seen -/

variable [DecidableEq α]

/-- The loop that appends the elements it has not seen, with `seen` behind it. -/
def distinctFrom (seen : List α) : List α → List α
  | [] => []
  | x :: rest => if x ∈ seen then distinctFrom seen rest else x :: distinctFrom (x :: seen) rest

/-- The elements of a list, each at its first place. -/
def distinct (xs : List α) : List α := distinctFrom [] xs

theorem mem_distinctFrom {seen xs : List α} {y : α} :
    y ∈ distinctFrom seen xs ↔ y ∈ xs ∧ y ∉ seen := by
  induction xs generalizing seen with
  | nil => simp [distinctFrom]
  | cons x rest ih =>
      rw [distinctFrom]
      by_cases hx : x ∈ seen
      · rw [if_pos hx, ih, List.mem_cons]
        -- an element of the rest that is not seen is not `x`
        constructor
        · exact fun h => ⟨.inr h.1, h.2⟩
        · rintro ⟨rfl | h, hy⟩
          · exact absurd hx hy
          · exact ⟨h, hy⟩
      · rw [if_neg hx, List.mem_cons, ih, List.mem_cons, List.mem_cons]
        by_cases hy : y = x
        · subst hy
          simp [hx]
        · simp [hy]

theorem nodup_distinctFrom (seen xs : List α) : (distinctFrom seen xs).Nodup := by
  induction xs generalizing seen with
  | nil => exact List.nodup_nil
  | cons x rest ih =>
      rw [distinctFrom]
      split
      · exact ih seen
      · refine List.nodup_cons.mpr ⟨fun h => ?_, ih (x :: seen)⟩
        exact (mem_distinctFrom.mp h).2 List.mem_cons_self

theorem mem_distinct {xs : List α} {y : α} : y ∈ distinct xs ↔ y ∈ xs := by
  rw [distinct, mem_distinctFrom]
  simp

theorem nodup_distinct (xs : List α) : (distinct xs).Nodup := nodup_distinctFrom [] xs

end Loops
