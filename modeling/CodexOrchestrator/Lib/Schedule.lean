import Mathlib.Data.List.Induction

/-!
# Schedule — traces of tasks that run on the outputs of other tasks

A task starts, finishes, or is put back so that it has to run again.  In a legal trace a task starts
when everything it depends on is finished, and finishes while nothing that depends on it is under way
or finished.  Then whatever is finished was made from the last version of what it depends on.
-/

namespace Schedule

universe u

inductive Move where
  | start | finish | putBack
  deriving DecidableEq, Repr

variable {T : Type u}

/-- The last `finish` of `d` stands in front of the last `start` of `t`. -/
def Precedes (trace : List (T × Move)) (d t : T) : Prop :=
  ∃ before after, trace = before ++ (t, .start) :: after ∧ (d, .finish) ∈ before ∧
    (t, .start) ∉ after ∧ (d, .finish) ∉ after

theorem Precedes.concat {trace : List (T × Move)} {d t : T} (h : Precedes trace d t)
    {entry : T × Move} (hstart : entry ≠ (t, .start)) (hfinish : entry ≠ (d, .finish)) :
    Precedes (trace ++ [entry]) d t := by
  obtain ⟨before, after, rfl, hmem, hnostart, hnofinish⟩ := h
  refine ⟨before, after ++ [entry], by rw [List.append_assoc, List.cons_append], hmem, ?_, ?_⟩
  · rw [List.mem_append, List.mem_singleton, not_or]
    exact ⟨hnostart, hstart.symm⟩
  · rw [List.mem_append, List.mem_singleton, not_or]
    exact ⟨hnofinish, hfinish.symm⟩

variable [DecidableEq T]

/-- The last move of a task; a task that never moved has been put back. -/
def lastMove (trace : List (T × Move)) (t : T) : Move :=
  trace.foldl (fun move entry => if entry.1 = t then entry.2 else move) .putBack

/-- `dependsOn t d`: the task `t` reads the output of `d`. -/
inductive Legal (dependsOn : T → T → Prop) : List (T × Move) → Prop where
  | nil : Legal dependsOn []
  | start {trace : List (T × Move)} {t : T} (before : Legal dependsOn trace)
      (ready : ∀ d, dependsOn t d → lastMove trace d = .finish) :
      Legal dependsOn (trace ++ [(t, .start)])
  | finish {trace : List (T × Move)} {t : T} (before : Legal dependsOn trace)
      (running : lastMove trace t = .start)
      (unused : ∀ u, dependsOn u t → lastMove trace u = .putBack) :
      Legal dependsOn (trace ++ [(t, .finish)])
  | putBack {trace : List (T × Move)} {t : T} (before : Legal dependsOn trace) :
      Legal dependsOn (trace ++ [(t, .putBack)])

variable {dependsOn : T → T → Prop} {trace before after : List (T × Move)} {t d : T} {move : Move}

@[simp] theorem lastMove_nil (t : T) : lastMove [] t = .putBack := rfl

@[simp] theorem lastMove_concat (trace : List (T × Move)) (entry : T × Move) (t : T) :
    lastMove (trace ++ [entry]) t = if entry.1 = t then entry.2 else lastMove trace t := by
  rw [lastMove, List.foldl_append]
  rfl

/-- A task that is finished has a `finish` in the trace. -/
theorem mem_of_lastMove (h : lastMove trace t = move) (hmove : move ≠ .putBack) :
    (t, move) ∈ trace := by
  induction trace using List.reverseRecOn with
  | nil => exact absurd h.symm hmove
  | append_singleton trace entry ih =>
      rw [lastMove_concat] at h
      split at h
      · rename_i ht
        rw [← ht, ← h]
        exact List.mem_append_right _ List.mem_cons_self
      · exact List.mem_append_left _ (ih h)

/-- A legal trace goes on with tasks that are put back. -/
theorem Legal.putBacks (h : Legal dependsOn trace) {moves : List (T × Move)}
    (hmoves : ∀ entry ∈ moves, entry.2 = .putBack) : Legal dependsOn (trace ++ moves) := by
  induction moves generalizing trace with
  | nil =>
      rw [List.append_nil]
      exact h
  | cons entry rest ih =>
      have hentry : entry = (entry.1, .putBack) := Prod.ext rfl (hmoves entry List.mem_cons_self)
      have hnext : Legal dependsOn (trace ++ [entry]) := by
        rw [hentry]
        exact h.putBack
      have hrest := ih hnext fun e hmem => hmoves e (List.mem_cons_of_mem _ hmem)
      rw [List.append_assoc, List.singleton_append] at hrest
      exact hrest

/-- Every part at the front of a legal trace is legal. -/
theorem Legal.front (h : Legal dependsOn (before ++ after)) : Legal dependsOn before := by
  induction after using List.reverseRecOn with
  | nil =>
      rw [List.append_nil] at h
      exact h
  | append_singleton after entry ih =>
      apply ih
      rw [← List.append_assoc] at h
      generalize hwhole : before ++ after ++ [entry] = whole at h
      cases h with
      | nil => exact absurd hwhole (by simp)
      | start hbefore ready => rwa [(List.append_inj' hwhole rfl).1]
      | finish hbefore running unused => rwa [(List.append_inj' hwhole rfl).1]
      | putBack hbefore => rwa [(List.append_inj' hwhole rfl).1]

/-- When a task starts, everything it depends on is finished. -/
theorem Legal.ready (h : Legal dependsOn (before ++ (t, .start) :: after)) (hd : dependsOn t d) :
    lastMove before d = .finish := by
  have hfront : Legal dependsOn (before ++ [(t, .start)]) := by
    rw [← List.singleton_append, ← List.append_assoc] at h
    exact h.front
  -- the last move of the front is the start, which only its own rule allows
  generalize hwhole : before ++ [(t, Move.start)] = whole at hfront
  cases hfront with
  | nil => exact absurd hwhole (by simp)
  | start hbefore ready =>
      obtain ⟨rfl, hentry⟩ := List.append_inj' hwhole rfl
      have ht := congrArg Prod.fst (List.cons.inj hentry).1
      dsimp only at ht
      rw [ht] at hd
      exact ready d hd
  | finish hbefore running unused =>
      have hentry := (List.append_inj' hwhole rfl).2
      cases hentry
  | putBack hbefore =>
      have hentry := (List.append_inj' hwhole rfl).2
      cases hentry

/-- A task that is under way or finished started after the last `finish` of what it depends on. -/
theorem Legal.precedes (h : Legal dependsOn trace) (hd : dependsOn t d)
    (hmoved : lastMove trace t ≠ .putBack) : Precedes trace d t := by
  induction h with
  | nil => exact absurd rfl hmoved
  | @start trace x before ready ih =>
      by_cases hx : x = t
      · subst hx
        exact ⟨trace, [], rfl, mem_of_lastMove (ready d hd) (by decide), List.not_mem_nil,
          List.not_mem_nil⟩
      · rw [lastMove_concat, if_neg hx] at hmoved
        exact (ih hmoved).concat (fun he => hx (congrArg Prod.fst he)) fun he => by cases he
  | @finish trace x before running unused ih =>
      have hother : x ≠ d := by
        rintro rfl
        -- `t` depends on the task that finishes, so it has been put back
        rw [lastMove_concat] at hmoved
        split at hmoved
        · rename_i hx
          have hput := unused t hd
          rw [← (hx : x = t), running] at hput
          cases hput
        · exact hmoved (unused t hd)
      -- the task that finishes was running, and the others did not move
      have hmoved' : lastMove trace t ≠ .putBack := by
        rw [lastMove_concat] at hmoved
        split at hmoved
        · rename_i hx
          rw [← (hx : x = t), running]
          decide
        · exact hmoved
      exact (ih hmoved').concat (fun he => by cases he) fun he => hother (congrArg Prod.fst he)
  | @putBack trace x before ih =>
      rw [lastMove_concat] at hmoved
      split at hmoved
      · exact absurd rfl hmoved
      · exact (ih hmoved).concat (fun he => by cases he) fun he => by cases he

end Schedule
