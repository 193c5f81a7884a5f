import Mathlib.Logic.Function.Basic
import CodexOrchestrator.Lib.Runs

/-!
# Transactions — clients that share a keyed store without locks

Each client has a list of actions.  An action takes two steps: the first reads what is stored under
the key of the action, the second writes what the action makes of it, if it writes at all.  Between
the two steps other clients may write, and the second step then overwrites what they wrote.

Three rules: what every action keeps of every single value holds in every interleaving; an
interleaving in which no action writes for an outdated value is a serial run; clients that work on
different keys do not notice each other.
-/

namespace Transactions

open Function Runs

universe u v w x

variable {A : Type u} {K : Type v} {V : Type w} {C : Type x}

/-- What is stored under each key. -/
abbrev Store (K : Type v) (V : Type w) := K → Option V

/-- The key of an action, and what it writes for what it read; `none` writes nothing. -/
structure Protocol (A : Type u) (K : Type v) (V : Type w) where
  key : A → K
  write : A → Option V → Option V

/-- A client: the actions it has still to do, and what it read for the first of them. -/
structure Client (A : Type u) (V : Type w) where
  todo : List A
  seen : Option (Option V) := none

structure State (A : Type u) (K : Type v) (V : Type w) (C : Type x) where
  store : Store K V
  clients : C → Client A V

/-- Clients none of which has begun. -/
def start (store : Store K V) (todo : C → List A) : State A K V C where
  store := store
  clients c := { todo := todo c }

variable [DecidableEq K] [DecidableEq C] (p : Protocol A K V)

def put (store : Store K V) (key : K) : Option V → Store K V
  | none => store
  | some v => update store key (some v)

/-- Both steps of an action at once. -/
def execute (store : Store K V) (action : A) : Store K V :=
  put store (p.key action) (p.write action (store (p.key action)))

/-- The next step of client `c`. -/
def step (s : State A K V C) (c : C) : State A K V C :=
  match s.clients c with
  | ⟨[], _⟩ => s
  | ⟨action :: rest, none⟩ =>
      { s with clients := update s.clients c ⟨action :: rest, some (s.store (p.key action))⟩ }
  | ⟨action :: rest, some seen⟩ =>
      { store := put s.store (p.key action) (p.write action seen)
        clients := update s.clients c ⟨rest, none⟩ }

/-- What a step can do. -/
inductive Stepped (s : State A K V C) (c : C) : State A K V C → Prop where
  | idle (h : (s.clients c).todo = []) : Stepped s c s
  | read {action : A} {rest : List A} (h : s.clients c = ⟨action :: rest, none⟩) :
      Stepped s c
        { s with clients := update s.clients c ⟨action :: rest, some (s.store (p.key action))⟩ }
  | write {action : A} {rest : List A} {seen : Option V}
      (h : s.clients c = ⟨action :: rest, some seen⟩) :
      Stepped s c
        { store := put s.store (p.key action) (p.write action seen)
          clients := update s.clients c ⟨rest, none⟩ }

theorem stepped (s : State A K V C) (c : C) : Stepped p s c (step p s c) := by
  unfold step
  split
  · rename_i h
    exact .idle (by rw [h])
  · rename_i h
    exact .read h
  · rename_i h
    exact .write h

omit [DecidableEq C] in
theorem put_of_ne (store : Store K V) {key other : K} (value : Option V) (h : other ≠ key) :
    put store key value other = store other := by
  cases value with
  | none => rfl
  | some v => exact update_of_ne h (some v) store

omit [DecidableEq C] in
/-- What is stored after a write is the written value, or was stored before. -/
theorem put_eq_some {store : Store K V} {key other : K} {value : Option V} {v : V}
    (h : put store key value other = some v) :
    (other = key ∧ value = some v) ∨ store other = some v := by
  cases value with
  | none => exact .inr h
  | some written =>
      by_cases he : other = key
      · subst he
        rw [put, update_self] at h
        exact .inl ⟨rfl, h⟩
      · rw [put_of_ne store (some written) he] at h
        exact .inr h

variable {p} {s : State A K V C} {c : C}

/-! ## Invariants of the values -/

/-- The action keeps `inv`: it writes a value that has it when the value that it read had it. -/
def Preserves (p : Protocol A K V) (inv : K → V → Prop) (action : A) : Prop :=
  ∀ seen v, (∀ x, seen = some x → inv (p.key action) x) → p.write action seen = some v →
    inv (p.key action) v

/-- What a client has read has `inv`, and what it has still to do keeps it. -/
structure ClientHolds (p : Protocol A K V) (inv : K → V → Prop) (client : Client A V) : Prop where
  seen : ∀ action rest v, client = ⟨action :: rest, some (some v)⟩ → inv (p.key action) v
  preserves : ∀ action ∈ client.todo, Preserves p inv action

/-- Every value in the system has `inv`, and every action that is left keeps it. -/
structure Holds (p : Protocol A K V) (inv : K → V → Prop) (s : State A K V C) : Prop where
  stored : ∀ key v, s.store key = some v → inv key v
  clients : ∀ c, ClientHolds p inv (s.clients c)

theorem Holds.step {inv : K → V → Prop} (h : Holds p inv s) (c : C) :
    Holds p inv (step p s c) := by
  have hclient := h.clients c
  have hstep := stepped p s c
  generalize Transactions.step p s c = s' at hstep ⊢
  cases hstep with
  | idle hidle => exact h
  | @read action rest hread =>
      refine ⟨h.stored, (forall_update_iff s.clients fun _ client =>
        ClientHolds p inv client).mpr ⟨⟨fun action' rest' v he => ?_, ?_⟩, fun d _ => h.clients d⟩⟩
      · simp only [Client.mk.injEq, List.cons.injEq, Option.some.injEq] at he
        obtain ⟨⟨rfl, rfl⟩, hv⟩ := he
        exact h.stored _ v hv
      · rw [hread] at hclient
        exact hclient.preserves
  | @write action rest seen hwrite =>
      rw [hwrite] at hclient
      refine ⟨fun key v hv => ?_, (forall_update_iff s.clients fun _ client =>
        ClientHolds p inv client).mpr ⟨⟨fun _ _ _ he => ?_, fun action' hmem => ?_⟩,
          fun d _ => h.clients d⟩⟩
      · rcases put_eq_some hv with ⟨rfl, hwritten⟩ | hv
        · refine hclient.preserves action List.mem_cons_self seen v (fun x hx => ?_) hwritten
          subst hx
          exact hclient.seen action rest x rfl
        · exact h.stored key v hv
      · cases he
      · exact hclient.preserves action' (List.mem_cons_of_mem _ hmem)

/-- What every action keeps holds of every value in the system, in every interleaving. -/
theorem holds_of_preserves {inv : K → V → Prop} {store : Store K V} {todo : C → List A}
    (hstore : ∀ key v, store key = some v → inv key v)
    (htodo : ∀ c, ∀ action ∈ todo c, Preserves p inv action) (schedule : List C) :
    Holds p inv (after (step p) (start store todo) schedule) := by
  have hstart : Holds p inv (start store todo) :=
    ⟨hstore, fun c => ⟨fun _ _ _ he => (nomatch congrArg Client.seen he), htodo c⟩⟩
  exact invariant hstart (fun _ c h => h.step c) schedule

/-! ## Serial runs -/

/-- The action that a step of client `c` ends. -/
def ending (s : State A K V C) (c : C) : Option A :=
  match s.clients c with
  | ⟨action :: _, some _⟩ => some action
  | _ => none

/-- The actions that a schedule ends, in their order, each with its client. -/
def commits (p : Protocol A K V) (s : State A K V C) : List C → List (C × A)
  | [] => []
  | c :: schedule =>
      ((ending s c).map (Prod.mk c)).toList ++ commits p (step p s c) schedule

/-- A step that ends an action does so for the value that is still stored. -/
def Current (p : Protocol A K V) (s : State A K V C) (c : C) : Prop :=
  ∀ action rest seen, s.clients c = ⟨action :: rest, some seen⟩ → seen = s.store (p.key action)

/-- The store after a current step: the action that it ends is executed at once. -/
theorem store_of_current (h : Current p s c) : (step p s c).store =
    after (execute p) s.store (ending s c).toList := by
  have hstep := stepped p s c
  generalize step p s c = s' at hstep ⊢
  cases hstep with
  | idle hidle =>
      unfold ending
      split
      · rename_i hc
        rw [hc] at hidle
        cases hidle
      · rfl
  | read hread =>
      unfold ending
      rw [hread]
      rfl
  | @write action rest seen hwrite =>
      unfold ending
      rw [hwrite]
      have hseen := h action rest seen hwrite
      subst hseen
      rfl

/-- An interleaving of current steps stores what its actions store one after another. -/
theorem store_of_eachStep {schedule : List C} (h : EachStep (step p) s (Current p) schedule) :
    (after (step p) s schedule).store =
      after (execute p) s.store ((commits p s schedule).map Prod.snd) := by
  induction schedule generalizing s with
  | nil => rfl
  | cons c schedule ih =>
      obtain ⟨hcurrent, hrest⟩ := h.of_cons
      have hstore := store_of_current hcurrent
      have hsame : ((ending s c).map (Prod.mk c)).toList.map Prod.snd = (ending s c).toList := by
        cases ending s c <;> rfl
      calc (after (step p) s (c :: schedule)).store
        _ = after (execute p) (step p s c).store
              ((commits p (step p s c) schedule).map Prod.snd) := ih hrest
        _ = after (execute p) s.store
              ((ending s c).toList ++ (commits p (step p s c) schedule).map Prod.snd) := by
            rw [hstore, after, after, after, ← List.foldl_append]
        _ = after (execute p) s.store ((commits p s (c :: schedule)).map Prod.snd) := by
            rw [commits, List.map_append, hsame]

/-- What a step takes from the list of its client. -/
theorem todo_step (p : Protocol A K V) (s : State A K V C) (c d : C) :
    (s.clients d).todo = (if d = c then (ending s c).toList else []) ++
      ((step p s c).clients d).todo := by
  have hstep := stepped p s c
  generalize step p s c = s' at hstep ⊢
  by_cases he : d = c
  · subst he
    rw [if_pos rfl]
    cases hstep with
    | idle hidle =>
        unfold ending
        split
        · rename_i hc
          rw [hc] at hidle
          cases hidle
        · rfl
    | read hread => simp [ending, hread]
    | write hwrite => simp [ending, hwrite]
  · rw [if_neg he, List.nil_append]
    cases hstep with
    | idle hidle => rfl
    | read hread => simp [he]
    | write hwrite => simp [he]

/-- The actions of one client end in the order of its list. -/
theorem todo_eq_commits (p : Protocol A K V) (s : State A K V C) (schedule : List C) (d : C) :
    (s.clients d).todo = ((commits p s schedule).filter fun commit => commit.1 = d).map Prod.snd ++
      ((after (step p) s schedule).clients d).todo := by
  induction schedule generalizing s with
  | nil => rfl
  | cons c schedule ih =>
      have hfirst : (((ending s c).map (Prod.mk c)).toList.filter fun commit => commit.1 = d).map
          Prod.snd = if d = c then (ending s c).toList else [] := by
        by_cases he : d = c
        · subst he
          cases ending s d <;> simp
        · cases ending s c <;> simp [he, Ne.symm he]
      rw [todo_step p s c d, commits, List.filter_append, List.map_append, hfirst,
        List.append_assoc, ih (step p s c)]
      rfl

/-! ## One client at a time -/

/-- A step that begins an action finds no other client between its two steps on the same key. -/
def Exclusive (p : Protocol A K V) (s : State A K V C) (c : C) : Prop :=
  ∀ action rest, s.clients c = ⟨action :: rest, none⟩ →
    ∀ d other rest' seen, s.clients d = ⟨other :: rest', some seen⟩ → p.key other ≠ p.key action

/-- The clients between their two steps hold what is stored, and they are on different keys. -/
structure Undisturbed (p : Protocol A K V) (s : State A K V C) : Prop where
  current : ∀ c, Current p s c
  apart : ∀ c d action other rest rest' seen seen', c ≠ d →
    s.clients c = ⟨action :: rest, some seen⟩ → s.clients d = ⟨other :: rest', some seen'⟩ →
    p.key action ≠ p.key other

theorem Undisturbed.step (h : Undisturbed p s) (hexclusive : Exclusive p s c) :
    Undisturbed p (step p s c) := by
  have hstep := stepped p s c
  generalize Transactions.step p s c = s' at hstep ⊢
  cases hstep with
  | idle hidle => exact h
  | @read action rest hread =>
      have hfree := hexclusive action rest hread
      refine ⟨fun d other rest' seen hd => ?_,
        fun d e first second rest' rest'' seen seen' hne hd he => ?_⟩
      · by_cases hdc : d = c
        · subst hdc
          simp only [update_self, Client.mk.injEq, List.cons.injEq, Option.some.injEq] at hd
          obtain ⟨⟨rfl, -⟩, rfl⟩ := hd
          rfl
        · dsimp only at hd
          rw [update_of_ne hdc] at hd
          exact h.current d other rest' seen hd
      · dsimp only at hd he
        by_cases hdc : d = c
        · subst hdc
          rw [update_of_ne hne.symm] at he
          simp only [update_self, Client.mk.injEq, List.cons.injEq] at hd
          obtain ⟨⟨rfl, -⟩, -⟩ := hd
          exact (hfree e second rest'' seen' he).symm
        · rw [update_of_ne hdc] at hd
          by_cases hec : e = c
          · subst hec
            simp only [update_self, Client.mk.injEq, List.cons.injEq] at he
            obtain ⟨⟨rfl, -⟩, -⟩ := he
            exact hfree d first rest' seen hd
          · rw [update_of_ne hec] at he
            exact h.apart d e first second rest' rest'' seen seen' hne hd he
  | @write action rest seen hwrite =>
      -- the client that wrote is between no steps any more
      have hother : ∀ d other rest' seen', update s.clients c ⟨rest, none⟩ d =
          ⟨other :: rest', some seen'⟩ → d ≠ c ∧ s.clients d = ⟨other :: rest', some seen'⟩ := by
        intro d other rest' seen' hd
        by_cases hdc : d = c
        · subst hdc
          rw [update_self] at hd
          exact nomatch congrArg Client.seen hd
        · rw [update_of_ne hdc] at hd
          exact ⟨hdc, hd⟩
      refine ⟨fun d other rest' seen' hd => ?_,
        fun d e first second rest' rest'' seen' seen'' hne hd he => ?_⟩
      · obtain ⟨hdc, hd⟩ := hother d other rest' seen' hd
        have hkey := h.apart d c other action rest' rest seen' seen hdc hd hwrite
        rw [h.current d other rest' seen' hd]
        exact (put_of_ne s.store _ hkey).symm
      · obtain ⟨-, hd⟩ := hother d first rest' seen' hd
        obtain ⟨-, he⟩ := hother e second rest'' seen'' he
        exact h.apart d e first second rest' rest'' seen' seen'' hne hd he

/-- Where no two clients are between their steps on one key at a time, every step is current. -/
theorem current_of_exclusive {store : Store K V} {todo : C → List A} {schedule : List C}
    (h : EachStep (step p) (start store todo) (Exclusive p) schedule) :
    EachStep (step p) (start store todo) (Current p) schedule := by
  have hstart : Undisturbed p (start store todo) :=
    ⟨fun _ _ _ _ he => (nomatch congrArg Client.seen he),
      fun _ _ _ _ _ _ _ _ _ he => nomatch congrArg Client.seen he⟩
  intro before c later he
  subst he
  have hundisturbed := invariant_of_steps hstart (fun _ _ hs hc => Undisturbed.step hs hc) before
    h.of_append
  exact hundisturbed.current c

/-- No client is between its two steps. -/
def Idle (s : State A K V C) : Prop := ∀ c, (s.clients c).seen = none

omit [DecidableEq K] [DecidableEq C] in
theorem Idle.exclusive (h : Idle s) (c : C) : Exclusive p s c := by
  intro action rest _ d other rest' seen hd
  have hnone := h d
  rw [hd] at hnone
  cases hnone

theorem store_of_seen {action : A} {rest : List A} {seen : Option V}
    (h : s.clients c = ⟨action :: rest, some seen⟩) :
    (step p s c).store = put s.store (p.key action) (p.write action seen) := by
  unfold step
  rw [h]

theorem clients_of_seen {action : A} {rest : List A} {seen : Option V}
    (h : s.clients c = ⟨action :: rest, some seen⟩) :
    (step p s c).clients = update s.clients c ⟨rest, none⟩ := by
  unfold step
  rw [h]

/-- Both steps of a client from an idle state: it finds nobody in its way, and leaves the state idle. -/
theorem Idle.turn (h : Idle s) (c : C) :
    Exclusive p (step p s c) c ∧ Idle (step p (step p s c) c) := by
  rcases hclient : s.clients c with ⟨todo, seen⟩
  have hnone : seen = none := by
    rw [← h c, hclient]
  subst hnone
  cases todo with
  | nil =>
      have hstep : step p s c = s := by
        unfold step
        rw [hclient]
      rw [hstep, hstep]
      exact ⟨h.exclusive c, h⟩
  | cons action rest =>
      have hread : step p s c = { s with
          clients := update s.clients c ⟨action :: rest, some (s.store (p.key action))⟩ } := by
        unfold step
        rw [hclient]
      have hmiddle : (step p s c).clients c = ⟨action :: rest, some (s.store (p.key action))⟩ := by
        rw [hread]
        exact update_self ..
      refine ⟨fun other rest' hc => ?_, fun d => ?_⟩
      · rw [hmiddle] at hc
        exact nomatch congrArg Client.seen hc
      · rw [clients_of_seen hmiddle, hread]
        by_cases hd : d = c
        · rw [hd, update_self]
        · simpa only [update_of_ne hd] using h d

/-- Clients that take turns, each with both steps of an action at once, are on no key together. -/
theorem exclusive_of_turns {store : Store K V} {todo : C → List A} (turns : List C) :
    EachStep (step p) (start store todo) (Exclusive p) (turns.flatMap fun c => [c, c]) := by
  suffices hturns : ∀ s : State A K V C, Idle s →
      EachStep (step p) s (Exclusive p) (turns.flatMap fun c => [c, c]) from
    hturns (start store todo) fun _ => rfl
  induction turns with
  | nil => exact fun s _ => EachStep.nil
  | cons c turns ih =>
      intro s hidle
      obtain ⟨hexclusive, hidle'⟩ := hidle.turn (p := p) c
      exact (EachStep.cons (hidle.exclusive c) (EachStep.cons hexclusive (ih _ hidle')))

/-! ## Clients on different keys -/

/-- Every action that a client has still to do is on the key of the client. -/
def Keyed (p : Protocol A K V) (key : C → Option K) (s : State A K V C) : Prop :=
  ∀ c, ∀ action ∈ (s.clients c).todo, some (p.key action) = key c

/-- Two states that the clients on key `k` cannot tell apart. -/
structure Alike (key : C → Option K) (k : K) (s s' : State A K V C) : Prop where
  stored : s.store k = s'.store k
  clients : ∀ c, key c = some k → s.clients c = s'.clients c

theorem Keyed.step {key : C → Option K} (h : Keyed p key s) (c : C) : Keyed p key (step p s c) := by
  intro d action hmem
  refine h d action ?_
  rw [todo_step p s c d]
  exact List.mem_append_right _ hmem

/-- A step of a client on another key changes nothing for the clients on `k`. -/
theorem Alike.other {key : C → Option K} {k : K} {s' : State A K V C} (h : Alike key k s s')
    (hkeyed : Keyed p key s) (hc : key c ≠ some k) : Alike key k (step p s c) s' := by
  have hstep := stepped p s c
  generalize step p s c = t at hstep ⊢
  have hclients : ∀ client d, key d = some k → update s.clients c client d = s'.clients d := by
    intro client d hd
    have hdc : d ≠ c := fun he => hc (he ▸ hd)
    rw [update_of_ne hdc, h.clients d hd]
  cases hstep with
  | idle hidle => exact h
  | read hread => exact ⟨h.stored, hclients _⟩
  | @write action rest seen hwrite =>
      refine ⟨?_, hclients _⟩
      have hkey : k ≠ p.key action := by
        rintro rfl
        refine hc (hkeyed c action ?_).symm
        rw [hwrite]
        exact List.mem_cons_self
      exact (put_of_ne s.store _ hkey).trans h.stored

/-- A step of a client on `k` does the same in both states. -/
theorem Alike.same {key : C → Option K} {k : K} {s' : State A K V C} (h : Alike key k s s')
    (hkeyed : Keyed p key s) (hc : key c = some k) :
    Alike key k (step p s c) (step p s' c) := by
  have hclient := h.clients c hc
  have hclients : ∀ client d, key d = some k →
      update s.clients c client d = update s'.clients c client d := by
    intro client d hd
    by_cases hdc : d = c
    · rw [hdc, update_self, update_self]
    · rw [update_of_ne hdc, update_of_ne hdc, h.clients d hd]
  have hkey : ∀ action rest seen, s.clients c = ⟨action :: rest, seen⟩ → p.key action = k := by
    intro action rest seen he
    have hmem := hkeyed c action (by rw [he]; exact List.mem_cons_self)
    rw [hc] at hmem
    exact Option.some.inj hmem
  unfold step
  rw [← hclient]
  split
  · exact h
  · rename_i action rest he
    rw [hkey action rest none he, ← h.stored]
    exact ⟨h.stored, hclients _⟩
  · rename_i action rest seen he
    refine ⟨?_, hclients _⟩
    rw [hkey action rest (some seen) he]
    cases p.write action seen with
    | none => exact h.stored
    | some v => exact (update_self k (some v) s.store).trans (update_self k (some v) s'.store).symm

/-- What is stored under a key depends on the steps of the clients on that key alone. -/
theorem stored_of_keyed (key : C → Option K) {store : Store K V} {todo : C → List A}
    (htodo : ∀ c, ∀ action ∈ todo c, some (p.key action) = key c) (schedule : List C) (k : K) :
    (after (step p) (start store todo) schedule).store k =
      (after (step p) (start store todo) (schedule.filter fun c => key c = some k)).store k := by
  suffices halike : ∀ s s' : State A K V C, Keyed p key s → Alike key k s s' →
      Alike key k (after (step p) s schedule)
        (after (step p) s' (schedule.filter fun c => key c = some k)) from
    (halike (start store todo) (start store todo) htodo ⟨rfl, fun _ _ => rfl⟩).stored
  induction schedule with
  | nil => exact fun s s' _ h => h
  | cons c schedule ih =>
      intro s s' hkeyed h
      by_cases hc : key c = some k
      · rw [List.filter_cons_of_pos (by simpa using hc)]
        exact ih _ _ (hkeyed.step c) (h.same hkeyed hc)
      · rw [List.filter_cons_of_neg (by simpa using hc)]
        exact ih _ _ (hkeyed.step c) (h.other hkeyed hc)

end Transactions
