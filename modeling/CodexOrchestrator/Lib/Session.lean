import CodexOrchestrator.Lib.Upsert
import Mathlib.Logic.Function.Basic

/-!
# Session — a table, and the objects that a unit of work holds of its rows

A session gives out one object for a row.  While the object is held, every query that finds the row
gives out that object again, with the values that it has, whatever a statement has written to the row
since.  A flush writes the columns in which a changed object differs from what was loaded, and no
others.  Each operation is described by what it does to the row and the object of each key.
-/

/-- The value of a column after a flush: what is stored stays, unless the object changed it. -/
def Column.write {α : Type} [DecidableEq α] (loaded changed stored : α) : α :=
  if changed = loaded then stored else changed

namespace Column

variable {α : Type} [DecidableEq α]

@[simp] theorem write_unchanged (loaded stored : α) : write loaded loaded stored = stored := if_pos rfl

@[simp] theorem write_stored (loaded changed : α) : write loaded changed loaded = changed := by
  unfold write
  split
  · rename_i h
    exact h.symm
  · rfl

theorem write_cases (loaded changed stored : α) :
    write loaded changed stored = changed ∨ changed = loaded ∧ write loaded changed stored = stored := by
  unfold write
  split
  · rename_i h
    exact .inr ⟨h, rfl⟩
  · exact .inl rfl

end Column

/-- How a flush writes the columns of a row. -/
structure Columns {ρ κ : Type} (key : ρ → κ) where
  write : (loaded changed stored : ρ) → ρ
  key_write : ∀ loaded changed stored, key changed = key loaded →
    key (write loaded changed stored) = key stored
  write_stored : ∀ loaded changed, write loaded changed loaded = changed

/-- What a session knows of one key. -/
@[ext] structure Slot (ρ : Type) where
  row : Option ρ := none
  held : Option ρ := none

namespace Slot

variable {ρ κ : Type} {key : ρ → κ}

/-- The object that is given out for the row. -/
def object (slot : Slot ρ) (row : ρ) : ρ := slot.held.getD row

/-- A query finds the row, if there is one. -/
def load (slot : Slot ρ) : Slot ρ :=
  match slot.row with
  | none => slot
  | some row => { slot with held := some (slot.object row) }

/-- An upsert writes the row, and a query finds it. -/
def upsert (values : ρ) (set : ρ → ρ) (slot : Slot ρ) : Slot ρ :=
  load { slot with row := some (slot.row.elim values set) }

/-- The object is changed, and flushed. -/
def modify (columns : Columns key) (set : ρ → ρ) (slot : Slot ρ) : Slot ρ :=
  match slot.row with
  | none => slot
  | some row =>
      ⟨some (columns.write (slot.object row) (set (slot.object row)) row),
        some (set (slot.object row))⟩

/-- The held object, if there is one, is the row as it is stored. -/
def UpToDate (slot : Slot ρ) : Prop := ∀ object ∈ slot.held, slot.row = some object

theorem UpToDate.object_eq {slot : Slot ρ} (h : slot.UpToDate) {row : ρ} (hrow : slot.row = some row) :
    slot.object row = row := by
  unfold object
  cases hheld : slot.held with
  | none => rfl
  | some held => exact Option.some.inj ((h held hheld).symm.trans hrow)

end Slot

/-- A table, and the objects that are held of its rows. -/
structure Session {ρ κ : Type} (key : ρ → κ) where
  table : Indexed key
  held : κ → Option ρ
  held_key : ∀ k object, held k = some object → key object = k

namespace Session

variable {ρ κ : Type} {key : ρ → κ}

/-- A session that holds nothing yet. -/
def start (table : Indexed key) : Session key := ⟨table, fun _ => none, fun _ _ h => nomatch h⟩

def empty : Session key := start Indexed.empty

/-- The object that the session gives out for a row that a query found. -/
def object (session : Session key) (row : ρ) : ρ := (session.held (key row)).getD row

def objects (session : Session key) (rows : List ρ) : List ρ := rows.map session.object

theorem key_object (session : Session key) (row : ρ) : key (session.object row) = key row := by
  unfold object
  cases hheld : session.held (key row) with
  | none => rfl
  | some held => exact session.held_key _ held hheld

/-- A statement that writes to the table; no object notices. -/
def execute (statement : Indexed key → Indexed key) (session : Session key) : Session key :=
  { session with table := statement session.table }

variable [DecidableEq κ]

def slot (session : Session key) (k : κ) : Slot ρ := ⟨session.table.get? k, session.held k⟩

theorem object_eq_slot (session : Session key) (row : ρ) :
    session.object row = (session.slot (key row)).object row := rfl

@[simp] theorem slot_empty (k : κ) : (empty : Session key).slot k = {} := rfl

/-- The session keeps the object under its key. -/
def hold (object : ρ) (session : Session key) : Session key where
  table := session.table
  held := Function.update session.held (key object) (some object)
  held_key k other h := by
    by_cases hk : k = key object
    · subst hk
      rw [Function.update_self] at h
      rw [← Option.some.inj h]
    · rw [Function.update_of_ne hk] at h
      exact session.held_key k other h

/-- Nobody refers to the object of the key any more, or it is expired. -/
def release (k : κ) (session : Session key) : Session key where
  table := session.table
  held := Function.update session.held k none
  held_key other object h := by
    by_cases hk : other = k
    · subst hk
      rw [Function.update_self] at h
      cases h
    · rw [Function.update_of_ne hk] at h
      exact session.held_key other object h

/-- The query for a key: what it gives out, and the session that holds it. -/
def get (k : κ) (session : Session key) : Option ρ × Session key :=
  match session.table.get? k with
  | none => (none, session)
  | some row => (some (session.object row), session.hold (session.object row))

/-- The held object of the key takes the values of `changed`, and is flushed. -/
def flush (columns : Columns key) (changed : ρ) (session : Session key) : Session key :=
  match hheld : session.held (key changed) with
  | none => session
  | some loaded =>
      (session.execute fun table => table.updateWhere (key changed) (fun _ => true)
        ⟨columns.write loaded changed, fun stored => columns.key_write loaded changed stored
          (session.held_key _ loaded hheld).symm⟩).hold changed

/-! ## What an operation does to each key -/

theorem slot_hold (object : ρ) (session : Session key) (k : κ) :
    (session.hold object).slot k =
      if k = key object then { session.slot k with held := some object } else session.slot k := by
  unfold slot hold
  dsimp only
  split
  · rename_i hk
    rw [hk, Function.update_self]
  · rename_i hk
    rw [Function.update_of_ne hk]

theorem slot_release (k other : κ) (session : Session key) :
    (session.release k).slot other =
      if other = k then { session.slot other with held := none } else session.slot other := by
  unfold slot release
  dsimp only
  split
  · rename_i hk
    rw [hk, Function.update_self]
  · rename_i hk
    rw [Function.update_of_ne hk]

theorem get_of_none {session : Session key} {k : κ} (h : session.table.get? k = none) :
    session.get k = (none, session) := by
  rw [get, h]

theorem get_of_some {session : Session key} {k : κ} {row : ρ} (h : session.table.get? k = some row) :
    session.get k = (some (session.object row), session.hold (session.object row)) := by
  rw [get, h]

theorem object_of_get? {session : Session key} {k : κ} {row : ρ}
    (h : session.table.get? k = some row) : session.object row = (session.slot k).object row := by
  rw [← Indexed.key_of_get? h]
  rfl

theorem key_object_of_get? {session : Session key} {k : κ} {row : ρ}
    (h : session.table.get? k = some row) : key (session.object row) = k :=
  (session.key_object row).trans (Indexed.key_of_get? h)

theorem get_fst (k : κ) (session : Session key) :
    (session.get k).1 = (session.slot k).row.map (session.slot k).object := by
  cases hrow : session.table.get? k with
  | none =>
      rw [get_of_none hrow, slot, hrow]
      rfl
  | some row =>
      rw [get_of_some hrow, object_of_get? hrow, slot, hrow]
      rfl

theorem slot_get (k other : κ) (session : Session key) :
    (session.get k).2.slot other =
      if other = k then (session.slot other).load else session.slot other := by
  cases hrow : session.table.get? k with
  | none =>
      rw [get_of_none hrow]
      split
      · rename_i hk
        rw [hk, Slot.load, slot, hrow]
      · rfl
  | some row =>
      rw [get_of_some hrow]
      dsimp only
      rw [slot_hold, key_object_of_get? hrow]
      split
      · rename_i hk
        rw [hk, object_of_get? hrow, Slot.load, slot, hrow]
      · rfl

/-- An upsert of a row, and the query for its key. -/
theorem slot_upsert_get (values : ρ) (assignment : Indexed.Assignment key) (session : Session key) :
    ∃ object read, (session.execute fun table =>
        table.insertOnConflict values assignment fun _ => true).get (key values) = (some object, read) ∧
      ∀ k, read.slot k = if k = key values then (session.slot k).upsert values assignment.set
        else session.slot k := by
  let written := session.execute fun table => table.insertOnConflict values assignment fun _ => true
  have hslot : ∀ k, written.slot k = if k = key values then
      { session.slot k with row := some ((session.slot k).row.elim values assignment.set) }
      else session.slot k := fun k => by
    unfold slot written execute
    dsimp only
    rw [Indexed.get?_insertOnConflict]
    split <;> rfl
  have hfound : (written.get (key values)).1.isSome := by
    rw [get_fst, hslot, if_pos rfl]
    rfl
  obtain ⟨object, hobject⟩ := Option.isSome_iff_exists.mp hfound
  refine ⟨object, (written.get (key values)).2, Prod.ext hobject rfl, fun k => ?_⟩
  rw [slot_get, hslot]
  split
  · rfl
  · rfl

theorem slot_flush (columns : Columns key) {changed loaded : ρ} {session : Session key}
    (hheld : session.held (key changed) = some loaded) (k : κ) :
    (session.flush columns changed).slot k =
      if k = key changed then
        ⟨(session.slot k).row.map (columns.write loaded changed), some changed⟩
      else session.slot k := by
  have hflush : ∃ assignment : Indexed.Assignment key,
      assignment.set = columns.write loaded changed ∧ session.flush columns changed =
        (session.execute fun table => table.updateWhere (key changed) (fun _ => true)
          assignment).hold changed := by
    unfold flush
    split
    · rename_i hnone
      cases hnone.symm.trans hheld
    · rename_i object hobject
      cases hobject.symm.trans hheld
      exact ⟨_, rfl, rfl⟩
  obtain ⟨assignment, hset, hflush⟩ := hflush
  rw [hflush, slot_hold]
  unfold slot execute
  dsimp only
  rw [Indexed.get?_updateWhere, hset]
  split
  · rename_i hk
    subst hk
    rfl
  · rfl

/-- A query for a key whose result, if there is one, is changed and flushed. -/
theorem slot_get_flush (columns : Columns key) (set : ρ → ρ)
    (hset : ∀ object, key (set object) = key object) (k other : κ) (session : Session key)
    {next : Session key} (hnone : (session.get k).1 = none → next = (session.get k).2)
    (hsome : ∀ object, (session.get k).1 = some object →
      next = (session.get k).2.flush columns (set object)) :
    next.slot other =
      if other = k then (session.slot other).modify columns set else session.slot other := by
  cases hrow : session.table.get? k with
  | none =>
      rw [get_of_none hrow] at hnone
      rw [hnone rfl]
      split
      · rename_i hk
        rw [hk, Slot.modify, slot, hrow]
      · rfl
  | some row =>
      have hkey : key (set (session.object row)) = k :=
        (hset (session.object row)).trans (key_object_of_get? hrow)
      have hheld : (session.hold (session.object row)).held (key (set (session.object row))) =
          some (session.object row) := by
        rw [hset]
        exact Function.update_self ..
      rw [get_of_some hrow] at hsome
      rw [hsome _ rfl, slot_flush columns hheld, hkey, slot_hold, key_object_of_get? hrow]
      split
      · rename_i hk
        rw [hk, object_of_get? hrow, Slot.modify, slot, hrow]
        rfl
      · rfl

end Session
