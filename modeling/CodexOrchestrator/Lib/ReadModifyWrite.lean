import Mathlib.Logic.Function.Basic
import CodexOrchestrator.Lib.Runs

/-!
# ReadModifyWrite — clients that update one cell without a version check

Each client has a list of transactions.  A transaction takes two steps: one reads the cell, a later
one writes back a function of what was read, if it writes at all.  Between the two steps other clients
may write; the later write then overwrites theirs.  The rule of this file is for the interleavings in
which no write falls between the two steps of a writing transaction.
-/

namespace ReadModifyWrite

open Function Runs

universe u v w

variable {S : Type u} {V : Type v} {C : Type w}

/-- A cell inside a store. -/
structure Cell (S : Type u) (V : Type v) where
  get : S → Option V
  put : S → V → S
  get_put : ∀ s v, get (put s v) = some v

/-- What a transaction writes for what it read; `none` writes nothing. -/
abbrev Txn (V : Type v) := V → Option V

/-- A client: the transactions it has still to do, and what it last read, with the number of writes
    to the cell at that moment. -/
structure Client (V : Type v) where
  todo : List (Txn V)
  snapshot : Option (Option V × Nat) := none

structure State (S : Type u) (V : Type v) (C : Type w) where
  store : S
  writes : Nat := 0
  clients : C → Client V

variable (cell : Cell S V) [DecidableEq C]

/-- The next step of client `c`. -/
def step (s : State S V C) (c : C) : State S V C :=
  match (s.clients c).todo, (s.clients c).snapshot with
  | [], _ => s
  | txn :: rest, none =>
      { s with clients := update s.clients c ⟨txn :: rest, some (cell.get s.store, s.writes)⟩ }
  | txn :: rest, some (seen, _) =>
      match seen.bind txn with
      | none => { s with clients := update s.clients c ⟨rest, none⟩ }
      | some v =>
          { store := cell.put s.store v
            writes := s.writes + 1
            clients := update s.clients c ⟨rest, none⟩ }

/-- A step of client `c` that writes does so for the value that is still in the cell: nobody wrote
    since `c` read. -/
def Fresh (s : State S V C) (c : C) : Prop :=
  ∀ txn rest seen writes, (s.clients c).todo = txn :: rest →
    (s.clients c).snapshot = some (seen, writes) → (seen.bind txn).isSome → writes = s.writes

/-- The client has read nothing, or nobody wrote since it read. -/
def UpToDate (s : State S V C) (c : C) : Prop :=
  ∀ snapshot ∈ (s.clients c).snapshot, snapshot.2 = s.writes

instance (s : State S V C) (c : C) : Decidable (UpToDate s c) :=
  inferInstanceAs (Decidable (∀ snapshot ∈ (s.clients c).snapshot, snapshot.2 = s.writes))

omit [DecidableEq C] in
theorem UpToDate.fresh {s : State S V C} {c : C} (h : UpToDate s c) : Fresh s c :=
  fun _ _ _ _ _ hsnapshot _ => h _ hsnapshot

/-- What every reachable state satisfies: a snapshot that is as old as the last write is the content
    of the cell, and the transactions that are left all move along `R`. -/
structure Consistent (R : V → V → Prop) (s : State S V C) : Prop where
  snapshots : ∀ c seen writes, (s.clients c).snapshot = some (seen, writes) →
    writes ≤ s.writes ∧ (writes = s.writes → seen = cell.get s.store)
  moves : ∀ c, ∀ txn ∈ (s.clients c).todo, ∀ v v', txn v = some v' → R v v'

variable {cell} {R : V → V → Prop} {s : State S V C} {c : C}

/-- A client that reads, or that ends a transaction, leaves the other clients alone. -/
theorem Consistent.update_client {client : Client V} (h : Consistent cell R s)
    (hsnapshot : ∀ seen writes, client.snapshot = some (seen, writes) →
      writes ≤ s.writes ∧ (writes = s.writes → seen = cell.get s.store))
    (htodo : ∀ txn ∈ client.todo, txn ∈ (s.clients c).todo) :
    Consistent cell R { s with clients := update s.clients c client } := by
  constructor
  · intro d seen writes hd
    dsimp only at hd
    by_cases he : d = c
    · subst he
      rw [update_self] at hd
      exact hsnapshot seen writes hd
    · rw [update_of_ne he] at hd
      exact h.snapshots d seen writes hd
  · intro d txn hd v v' hv
    dsimp only at hd
    by_cases he : d = c
    · subst he
      rw [update_self] at hd
      exact h.moves d txn (htodo txn hd) v v' hv
    · rw [update_of_ne he] at hd
      exact h.moves d txn hd v v' hv

omit [DecidableEq C] in
/-- A write makes every other snapshot old. -/
theorem Consistent.write (h : Consistent cell R s) (v : V) :
    Consistent cell R { s with store := cell.put s.store v, writes := s.writes + 1 } := by
  constructor
  · intro d seen writes hd
    have hle := (h.snapshots d seen writes hd).1
    refine ⟨Nat.le_succ_of_le hle, fun he => ?_⟩
    exact absurd (he ▸ hle) (Nat.not_succ_le_self _)
  · exact h.moves

/-- The two things a step can do to the cell: nothing, or a write of one transaction of the client. -/
theorem step_cases (h : Consistent cell R s) :
    Consistent cell R (step cell s c) ∧
    ((step cell s c).store = s.store ∨
      ∃ txn rest seen writes v, (s.clients c).todo = txn :: rest ∧
        (s.clients c).snapshot = some (seen, writes) ∧ seen.bind txn = some v ∧
        (step cell s c).store = cell.put s.store v) := by
  unfold step
  split
  · exact ⟨h, .inl rfl⟩
  · rename_i txn rest htodo hsnapshot
    refine ⟨h.update_client ?_ ?_, .inl rfl⟩
    · intro seen writes he
      cases he
      exact ⟨Nat.le_refl _, fun _ => rfl⟩
    · rw [htodo]
      exact fun _ hmem => hmem
  · rename_i txn rest seen writes htodo hsnapshot
    -- the second half of a transaction takes it from the list, whether it writes or not
    have hrest : ∀ t ∈ rest, t ∈ (s.clients c).todo := by
      rw [htodo]
      exact fun t ht => List.mem_cons_of_mem _ ht
    split
    · exact ⟨h.update_client (fun _ _ he => by cases he) hrest, .inl rfl⟩
    · rename_i v hv
      have hwritten := h.write v
      refine ⟨hwritten.update_client (fun _ _ he => by cases he) hrest, .inr ?_⟩
      exact ⟨txn, rest, seen, writes, v, htodo, hsnapshot, hv, rfl⟩

/-- A fresh step moves the cell along `R`, or leaves it. -/
theorem step_moves (h : Consistent cell R s) (hfresh : Fresh s c) {v : V}
    (hv : cell.get s.store = some v) :
    ∃ v', cell.get (step cell s c).store = some v' ∧ (v' = v ∨ R v v') := by
  rcases (step_cases (c := c) h).2 with hsame | ⟨txn, rest, seen, writes, v', htodo, hsnapshot, hbind, hput⟩
  · exact ⟨v, by rw [hsame, hv], .inl rfl⟩
  · have hwrites : writes = s.writes :=
      hfresh txn rest seen writes htodo hsnapshot (by rw [hbind]; rfl)
    have hseen : seen = some v := by
      rw [(h.snapshots c seen writes hsnapshot).2 hwrites, hv]
    rw [hseen, Option.bind_some] at hbind
    have hmem : txn ∈ (s.clients c).todo := by
      rw [htodo]
      exact List.mem_cons_self
    exact ⟨v', by rw [hput, cell.get_put], .inr (h.moves c txn hmem v v' hbind)⟩

/-- The rule: in an interleaving of fresh steps, the content of the cell only moves along `R`. -/
theorem content_moves (hrefl : ∀ v, R v v) (htrans : ∀ a b c, R a b → R b c → R a c)
    (h : Consistent cell R s) (earlier later : List C)
    (hfresh : EachStep (step cell) s Fresh (earlier ++ later)) {v : V}
    (hv : cell.get (after (step cell) s earlier).store = some v) :
    ∃ v', cell.get (after (step cell) s (earlier ++ later)).store = some v' ∧ R v v' := by
  induction later using List.reverseRecOn with
  | nil =>
      rw [List.append_nil]
      exact ⟨v, hv, hrefl v⟩
  | append_singleton later c ih =>
      rw [← List.append_assoc] at hfresh ⊢
      obtain ⟨hbefore, hstep⟩ := hfresh.of_concat
      -- the relation holds up to the last step, and the last step moves along it
      obtain ⟨v₁, hv₁, hR₁⟩ := ih hbefore
      have hconsistent : Consistent cell R (after (step cell) s (earlier ++ later)) :=
        invariant h (fun _ _ hs => (step_cases hs).1) _
      obtain ⟨v₂, hv₂, hR₂⟩ := step_moves hconsistent hstep hv₁
      refine ⟨v₂, by rw [after_concat, hv₂], ?_⟩
      rcases hR₂ with rfl | hR₂
      · exact hR₁
      · exact htrans _ _ _ hR₁ hR₂

end ReadModifyWrite
