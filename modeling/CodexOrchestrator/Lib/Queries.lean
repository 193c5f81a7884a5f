import CodexOrchestrator.Lib.Upsert
import Mathlib.Algebra.BigOperators.Group.List.Basic
import Mathlib.Algebra.GroupWithZero.Nat
import Mathlib.Data.List.Dedup
import Mathlib.Data.List.Induction

/-!
# Queries — histories of upserts, and what a table answers after them

The row of a key is what the statements on that key alone have made of it.  A query filters the rows,
and orders or counts them; the order in which a table stores its rows does not show when the column
that they are ordered by tells them apart.
-/

/-- What is filtered out of a history after one more entry. -/
theorem Query.filter_concat {α : Type} (cond : α → Prop) [DecidablePred cond] (history : List α)
    (entry : α) : (history ++ [entry]).filter (fun a => cond a) =
      if cond entry then history.filter (fun a => cond a) ++ [entry]
      else history.filter fun a => cond a := by
  rw [List.filter_append, List.filter_singleton]
  split
  · rename_i h
    rw [decide_eq_true h, cond_true]
  · rename_i h
    rw [decide_eq_false h, cond_false, List.append_nil]

namespace Indexed

variable {ρ κ : Type} {key : ρ → κ}

/-! ## Histories -/

/-- An `INSERT ... ON CONFLICT DO UPDATE` without a condition. -/
structure Upsert (key : ρ → κ) where
  values : ρ
  assignment : Assignment key

/-- The `SET` list of a `DO NOTHING`. -/
def Assignment.nothing (key : ρ → κ) : Assignment key := ⟨id, fun _ => rfl⟩

section Histories

variable [DecidableEq κ]

def Upsert.execute (statement : Upsert key) (table : Indexed key) : Indexed key :=
  table.insertOnConflict statement.values statement.assignment fun _ => true

/-- What the statement makes of the row of its key. -/
def Upsert.effect (statement : Upsert key) (row : Option ρ) : Option ρ :=
  some (row.elim statement.values statement.assignment.set)

/-- The statements one after another, on an empty table. -/
def upsertAll (statements : List (Upsert key)) : Indexed key :=
  statements.foldl (fun table statement => statement.execute table) empty

def statementsOn (k : κ) (statements : List (Upsert key)) : List (Upsert key) :=
  statements.filter fun statement => key statement.values = k

/-- The row of the key, by its statements alone. -/
def rowAfter (k : κ) (statements : List (Upsert key)) : Option ρ :=
  (statementsOn k statements).foldl (fun row statement => statement.effect row) none

theorem statementsOn_concat (k : κ) (statements : List (Upsert key)) (statement : Upsert key) :
    statementsOn k (statements ++ [statement]) =
      if key statement.values = k then statementsOn k statements ++ [statement]
      else statementsOn k statements :=
  Query.filter_concat (fun statement : Upsert key => key statement.values = k) statements statement

theorem rowAfter_concat (k : κ) (statements : List (Upsert key)) (statement : Upsert key) :
    rowAfter k (statements ++ [statement]) =
      if key statement.values = k then statement.effect (rowAfter k statements)
      else rowAfter k statements := by
  rw [rowAfter, statementsOn_concat]
  split
  · rw [List.foldl_append, ← rowAfter]
    rfl
  · rfl

theorem get?_upsertAll (statements : List (Upsert key)) (k : κ) :
    (upsertAll statements).get? k = rowAfter k statements := by
  induction statements using List.reverseRecOn with
  | nil => rfl
  | append_singleton statements statement ih =>
      have hstep : upsertAll (statements ++ [statement]) =
          statement.execute (upsertAll statements) := by
        rw [upsertAll, List.foldl_append]
        rfl
      rw [hstep, Upsert.execute, get?_insertOnConflict, rowAfter_concat, ih]
      by_cases hk : k = key statement.values
      · rw [if_pos hk, if_pos hk.symm, Upsert.effect]
        simp
      · rw [if_neg hk, if_neg fun he => hk he.symm]

theorem mem_rows_iff {table : Indexed key} {row : ρ} :
    row ∈ table.rows ↔ table.get? (key row) = some row := by
  rw [get?_eq_some_iff]
  exact (and_iff_left rfl).symm

theorem mem_upsertAll {statements : List (Upsert key)} {row : ρ} :
    row ∈ (upsertAll statements).rows ↔ rowAfter (key row) statements = some row := by
  rw [mem_rows_iff, get?_upsertAll]

/-- A key has a row when a statement was made on it. -/
theorem rowAfter_eq_none_iff {k : κ} {statements : List (Upsert key)} :
    rowAfter k statements = none ↔ ∀ statement ∈ statements, key statement.values ≠ k := by
  induction statements using List.reverseRecOn with
  | nil => simp [rowAfter, statementsOn]
  | append_singleton statements statement ih =>
      rw [rowAfter_concat, List.forall_mem_append, List.forall_mem_singleton]
      split
      · rename_i hk
        exact iff_of_false (fun h => by cases h) fun h => h.2 hk
      · rename_i hk
        rw [ih]
        exact (and_iff_left hk).symm

theorem key_of_rowAfter {k : κ} {statements : List (Upsert key)} {row : ρ}
    (h : rowAfter k statements = some row) : key row = k := by
  rw [← get?_upsertAll] at h
  exact key_of_get? h

/-- Statements that overwrite leave the values of the last one. -/
theorem rowAfter_of_overwrites {k : κ} {statements : List (Upsert key)}
    (h : ∀ statement ∈ statements, ∀ row, key row = key statement.values →
      statement.assignment.set row = statement.values) :
    rowAfter k statements = (statementsOn k statements).getLast?.map Upsert.values := by
  induction statements using List.reverseRecOn with
  | nil => rfl
  | append_singleton statements statement ih =>
      rw [List.forall_mem_append, List.forall_mem_singleton] at h
      rw [rowAfter_concat, statementsOn_concat]
      split
      · rename_i hk
        rw [List.getLast?_concat, Option.map_some, Upsert.effect]
        cases hrow : rowAfter k statements with
        | none => rfl
        | some row =>
            rw [Option.elim_some, h.2 row ((key_of_rowAfter hrow).trans hk.symm)]
      · exact ih h.1

end Histories

/-- A query on the rows counts the keys whose row it finds. -/
theorem length_filter_rows [DecidableEq κ] (table : Indexed key) (keys : List κ)
    (hkeys : ∀ row ∈ table.rows, key row ∈ keys) (cond : ρ → Bool) :
    (table.rows.filter cond).length =
      (keys.dedup.filter fun k => (table.get? k).any cond).length := by
  have hnodup : ((table.rows.filter cond).map key).Nodup :=
    table.unique.sublist (List.filter_sublist.map key)
  rw [← List.length_map (f := key)]
  refine List.Perm.length_eq ((List.perm_ext_iff_of_nodup hnodup
    (keys.nodup_dedup.filter _)).mpr fun k => ?_)
  rw [List.mem_filter, List.mem_dedup, List.mem_map, Option.any_eq_true]
  constructor
  · rintro ⟨row, hrow, rfl⟩
    obtain ⟨hmem, hcond⟩ := List.mem_filter.mp hrow
    exact ⟨hkeys row hmem, row, mem_rows_iff.mp hmem, hcond⟩
  · rintro ⟨-, row, hrow, hcond⟩
    obtain ⟨hmem, hkey⟩ := get?_eq_some_iff.mp hrow
    exact ⟨row, List.mem_filter.mpr ⟨hmem, hcond⟩, hkey⟩

end Indexed

/-! ## Ordered queries -/

namespace Query

variable {ρ τ : Type} [LinearOrder τ] (column : ρ → τ)

/-- `ORDER BY column ASC`. -/
def orderBy (rows : List ρ) : List ρ := Table.orderById column (fun a b => a ≤ b) rows

/-- `ORDER BY column DESC`. -/
def orderByDesc (rows : List ρ) : List ρ := Table.orderById column (fun a b => b ≤ a) rows

theorem orderBy_perm (rows : List ρ) : (orderBy column rows).Perm rows :=
  Table.orderById_perm column _ rows

theorem orderByDesc_perm (rows : List ρ) : (orderByDesc column rows).Perm rows :=
  Table.orderById_perm column _ rows

theorem orderBy_pairwise (rows : List ρ) :
    (orderBy column rows).Pairwise fun a b => column a ≤ column b := by
  have h := Table.orderById_pairwise column (fun a b => decide (a ≤ b))
    (fun a b => by simpa using le_total a b) (fun a b c => by simpa using le_trans) rows
  exact h.imp of_decide_eq_true

theorem orderByDesc_pairwise (rows : List ρ) :
    (orderByDesc column rows).Pairwise fun a b => column b ≤ column a := by
  have h := Table.orderById_pairwise column (fun a b => decide (b ≤ a))
    (fun a b => by simpa using le_total b a)
    (fun a b c => by simpa using fun hab hbc => le_trans hbc hab) rows
  exact h.imp of_decide_eq_true

variable {column} {rows rows' : List ρ}

/-- The column tells the rows apart. -/
def Distinguishes (column : ρ → τ) (rows : List ρ) : Prop :=
  ∀ a ∈ rows, ∀ b ∈ rows, column a = column b → a = b

/-- The order in which the rows are stored does not matter. -/
theorem orderBy_congr (hcolumn : Distinguishes column rows) (h : rows.Perm rows') :
    orderBy column rows = orderBy column rows' := by
  refine List.Perm.eq_of_pairwise (fun a b ha hb hab hba => ?_) (orderBy_pairwise column rows)
    (orderBy_pairwise column rows') ?_
  · have hb' : b ∈ rows := h.mem_iff.mpr ((orderBy_perm column rows').mem_iff.mp hb)
    exact hcolumn a ((orderBy_perm column rows).mem_iff.mp ha) b hb' (le_antisymm hab hba)
  · exact (orderBy_perm column rows).trans (h.trans (orderBy_perm column rows').symm)

/-- `ORDER BY column DESC LIMIT 1` is a row with the greatest value. -/
theorem greatest_of_head? {row : ρ} (h : (orderByDesc column rows).head? = some row) :
    row ∈ rows ∧ ∀ other ∈ rows, column other ≤ column row := by
  have hperm := orderByDesc_perm column rows
  have horder := orderByDesc_pairwise column rows
  obtain ⟨rest, hrest⟩ := List.head?_eq_some_iff.mp h
  rw [hrest] at hperm horder
  refine ⟨hperm.mem_iff.mp List.mem_cons_self, fun other hother => ?_⟩
  rcases List.mem_cons.mp (hperm.mem_iff.mpr hother) with rfl | hlater
  · exact le_refl _
  · exact (List.pairwise_cons.mp horder).1 other hlater

theorem head?_eq_none_iff : (orderByDesc column rows).head? = none ↔ rows = [] := by
  rw [List.head?_eq_none_iff]
  constructor
  · intro h
    have hperm := orderByDesc_perm column rows
    rw [h] at hperm
    exact hperm.symm.eq_nil
  · rintro rfl
    rfl

theorem head?_eq_some_iff (hcolumn : Distinguishes column rows) {row : ρ} :
    (orderByDesc column rows).head? = some row ↔
      row ∈ rows ∧ ∀ other ∈ rows, column other ≤ column row := by
  refine ⟨greatest_of_head?, fun ⟨hmem, hgreatest⟩ => ?_⟩
  cases hhead : (orderByDesc column rows).head? with
  | none =>
      rw [head?_eq_none_iff.mp hhead] at hmem
      cases hmem
  | some first =>
      obtain ⟨hfirst, hall⟩ := greatest_of_head? hhead
      rw [hcolumn first hfirst row hmem (le_antisymm (hgreatest first hfirst) (hall row hmem))]

/-! ## Counting queries -/

/-- Rows counted for several values of a column are counted for each of the values. -/
theorem length_filter_mem {κ : Type} [DecidableEq κ] (column : ρ → κ) (cond : ρ → Prop)
    [DecidablePred cond] {values : List κ} (h : values.Nodup) (rows : List ρ) :
    (rows.filter fun row => column row ∈ values ∧ cond row).length =
      (values.map fun value =>
        (rows.filter fun row => column row = value ∧ cond row).length).sum := by
  induction values with
  | nil => simp
  | cons value values ih =>
      rw [List.nodup_cons] at h
      rw [List.map_cons, List.sum_cons, ← ih h.2]
      simp only [← List.countP_eq_length_filter]
      rw [List.countP_eq_countP_filter_add rows _ fun row => decide (column row = value),
        List.countP_filter, List.countP_filter]
      congr 1
      · refine List.countP_congr fun row _ => ?_
        simp only [Bool.and_eq_true, decide_eq_true_eq, List.mem_cons]
        exact ⟨fun ⟨⟨_, hcond⟩, he⟩ => ⟨he, hcond⟩, fun ⟨he, hcond⟩ => ⟨⟨.inl he, hcond⟩, he⟩⟩
      · refine List.countP_congr fun row _ => ?_
        simp only [Bool.and_eq_true, Bool.not_eq_true', decide_eq_true_eq, decide_eq_false_iff_not,
          List.mem_cons]
        constructor
        · exact fun ⟨⟨hmem, hcond⟩, hne⟩ => ⟨hmem.resolve_left hne, hcond⟩
        · exact fun ⟨hmem, hcond⟩ => ⟨⟨.inr hmem, hcond⟩, fun he => h.1 (he ▸ hmem)⟩

end Query
