import CodexOrchestrator.Lib.Table

/-!
# Upsert — a table with a unique index, and `INSERT ... ON CONFLICT DO UPDATE`

The index is a field of the table, so a table with two rows under one key cannot be built.  An
assignment is the `SET` list of a statement: it leaves the key of a row alone.  A statement is
described by what it does to the row of each key.
-/

/-- The rows of a table with a unique index on `key`. -/
structure Indexed {ρ κ : Type} (key : ρ → κ) where
  rows : List ρ
  unique : (rows.map key).Nodup

namespace Indexed

variable {ρ κ : Type} {key : ρ → κ}

/-- A `SET` list that does not assign the key. -/
structure Assignment (key : ρ → κ) where
  set : ρ → ρ
  key_set : ∀ row, key (set row) = key row

def empty : Indexed key := ⟨[], List.nodup_nil⟩

/-- An order in which the database reads the rows. -/
structure Scan (table : Indexed key) where
  rows : List ρ
  perm : rows.Perm table.rows

variable [DecidableEq κ]

/-- `SELECT ... WHERE key = k`. -/
def get? (table : Indexed key) (k : κ) : Option ρ :=
  table.rows.find? fun row => key row = k

@[simp] theorem get?_empty (k : κ) : (empty : Indexed key).get? k = none := rfl

theorem key_of_get? {table : Indexed key} {k : κ} {row : ρ} (h : table.get? k = some row) :
    key row = k :=
  of_decide_eq_true (List.find?_some h :)

theorem get?_eq_some_iff {table : Indexed key} {k : κ} {row : ρ} :
    table.get? k = some row ↔ row ∈ table.rows ∧ key row = k := by
  constructor
  · intro h
    exact ⟨List.mem_of_find?_eq_some h, key_of_get? h⟩
  · rintro ⟨hmem, rfl⟩
    exact Table.find?_of_nodup table.unique hmem

theorem get?_eq_none_iff {table : Indexed key} {k : κ} :
    table.get? k = none ↔ ∀ row ∈ table.rows, key row ≠ k := by
  simp [get?]

/-- There is no second row under a key. -/
theorem filter_key (table : Indexed key) (k : κ) :
    table.rows.filter (fun row => key row = k) = (table.get? k).toList := by
  have hunique := table.unique
  unfold get?
  generalize table.rows = rows at hunique ⊢
  induction rows with
  | nil => rfl
  | cons row rest ih =>
      rw [List.map_cons, List.nodup_cons] at hunique
      by_cases hk : key row = k
      · have hrest : rest.filter (fun other => key other = k) = [] := by
          rw [List.filter_eq_nil_iff]
          intro other hother hsame
          rw [← hk] at hsame
          exact hunique.1 (of_decide_eq_true hsame ▸ List.mem_map_of_mem hother)
        rw [List.filter_cons_of_pos (by simpa using hk), List.find?_cons_of_pos (by simpa using hk),
          hrest, Option.toList_some]
      · rw [List.filter_cons_of_neg (by simpa using hk), List.find?_cons_of_neg (by simpa using hk),
          ih hunique.2]

/-! ## The statements -/

/-- `UPDATE ... SET ... WHERE key = k AND cond`. -/
def updateWhere (table : Indexed key) (k : κ) (cond : ρ → Bool) (assignment : Assignment key) :
    Indexed key where
  rows := table.rows.map fun row => if key row = k ∧ cond row = true then assignment.set row else row
  unique := by
    rw [List.map_map]
    refine (congrArg List.Nodup (List.map_congr_left fun row _ => ?_)).mpr table.unique
    rw [Function.comp_apply]
    split
    · exact assignment.key_set row
    · rfl

theorem get?_updateWhere (table : Indexed key) (k other : κ) (cond : ρ → Bool)
    (assignment : Assignment key) :
    (table.updateWhere k cond assignment).get? other =
      if other = k then
        (table.get? k).map fun row => if cond row then assignment.set row else row
      else table.get? other := by
  have hkey : ∀ row, key (if key row = k ∧ cond row = true then assignment.set row else row) =
      key row := by
    intro row
    split
    · exact assignment.key_set row
    · rfl
  have hfind : (table.updateWhere k cond assignment).get? other = (table.get? other).map fun row =>
      if key row = k ∧ cond row = true then assignment.set row else row := by
    rw [get?, updateWhere, List.find?_map]
    simp only [Function.comp_def, hkey]
    rfl
  rw [hfind]
  split
  · rename_i hother
    subst hother
    refine Option.map_congr fun row hrow => ?_
    simp [key_of_get? hrow]
  · rename_i hother
    rw [Option.map_congr (g := id), Option.map_id, id]
    intro row hrow
    rw [if_neg, id]
    exact fun h => hother ((key_of_get? hrow).symm.trans h.1)

/-- `INSERT ... ON CONFLICT (key) DO UPDATE SET ... WHERE cond`. -/
def insertOnConflict (table : Indexed key) (values : ρ) (assignment : Assignment key)
    (cond : ρ → Bool) : Indexed key :=
  if h : key values ∈ table.rows.map key then
    table.updateWhere (key values) cond assignment
  else
    ⟨table.rows ++ [values], by
      rw [List.map_append]
      exact List.nodup_append.mpr ⟨table.unique, List.nodup_singleton _, fun a ha b hb he =>
        h (List.mem_singleton.mp hb ▸ he ▸ ha)⟩⟩

/-- The row of the key is the inserted one, or the old one after the assignment; every other row is
    what it was. -/
theorem get?_insertOnConflict (table : Indexed key) (values : ρ) (assignment : Assignment key)
    (cond : ρ → Bool) (k : κ) :
    (table.insertOnConflict values assignment cond).get? k =
      if k = key values then
        some ((table.get? k).elim values fun row => if cond row then assignment.set row else row)
      else table.get? k := by
  unfold insertOnConflict
  split
  · rename_i hmem
    rw [get?_updateWhere]
    split
    · rename_i hk
      subst hk
      obtain ⟨row, hrow, hkey⟩ := List.mem_map.mp hmem
      rw [get?_eq_some_iff.mpr ⟨hrow, hkey⟩]
      rfl
    · rfl
  · rename_i hmem
    rw [get?, List.find?_append]
    split
    · rename_i hk
      subst hk
      have hnone : table.get? (key values) = none :=
        get?_eq_none_iff.mpr fun row hrow he => hmem (he ▸ List.mem_map_of_mem hrow)
      rw [← get?, hnone]
      simp
    · rename_i hk
      rw [← get?]
      simp [Ne.symm hk]

end Indexed
