import Mathlib.Data.List.Sort

/-!
# Table — rows under a primary key

A row belongs to an owner, and its key is an id together with the owner.  Replacing the rows of an
owner is deleting them and inserting the new ones; reading them back orders them by id.
-/

namespace Table

/-- How a table reads the key of a row. -/
structure Key (α ι κ : Type) where
  id : α → ι
  owner : α → κ

variable {α ι κ : Type} [DecidableEq κ]

/-- A row is found under its key when no other has the key. -/
theorem find?_of_nodup {β μ : Type} [DecidableEq μ] {key : β → μ} {rows : List β}
    (h : (rows.map key).Nodup) {row : β} (hmem : row ∈ rows) :
    rows.find? (fun other => key other = key row) = some row := by
  induction rows with
  | nil => cases hmem
  | cons other rest ih =>
      rw [List.map_cons, List.nodup_cons] at h
      rcases List.mem_cons.mp hmem with rfl | hrest
      · exact List.find?_cons_of_pos (decide_eq_true rfl)
      · have hne : ¬ key other = key row := fun he => h.1 (he ▸ List.mem_map_of_mem hrest)
        rw [List.find?_cons_of_neg (by simpa using hne)]
        exact ih h.2 hrest

/-! ## Deleting and reading the rows of an owner -/

section Owners

variable (key : Key α ι κ)

/-- `DELETE FROM ... WHERE owner = k`. -/
def deleteOwner (k : κ) (rows : List α) : List α :=
  rows.filter fun row => key.owner row ≠ k

/-- The rows in the order of their ids. -/
def orderById {β : Type} (id : β → ι) (le : ι → ι → Bool) (rows : List β) : List β :=
  rows.insertionSort fun a b => le (id a) (id b)

/-- `SELECT ... WHERE owner = k ORDER BY id`. -/
def selectOwner (le : ι → ι → Bool) (k : κ) (rows : List α) : List α :=
  orderById key.id le (rows.filter fun row => key.owner row = k)

theorem filter_deleteOwner_self (k : κ) (rows : List α) :
    (deleteOwner key k rows).filter (fun row => key.owner row = k) = [] := by
  rw [List.filter_eq_nil_iff]
  intro row hrow hsame
  exact of_decide_eq_true (List.mem_filter.mp hrow).2 (of_decide_eq_true hsame)

theorem find?_deleteOwner_self (k : κ) (rows : List α) :
    (deleteOwner key k rows).find? (fun row => key.owner row = k) = none := by
  rw [List.find?_eq_none]
  intro row hrow hsame
  exact of_decide_eq_true (List.mem_filter.mp hrow).2 (of_decide_eq_true hsame)

theorem find?_deleteOwner_of_ne {k k' : κ} (h : k' ≠ k) (rows : List α) :
    (deleteOwner key k rows).find? (fun row => key.owner row = k') =
      rows.find? fun row => key.owner row = k' := by
  rw [deleteOwner, List.find?_filter]
  refine congrArg (List.find? · rows) (funext fun row => ?_)
  by_cases hsame : key.owner row = k'
  · simp [hsame, h]
  · simp [hsame]

/-- The rows of the owner are the new ones. -/
theorem filter_replaced {k : κ} (rows : List α) {new : List α}
    (howner : ∀ row ∈ new, key.owner row = k) :
    (deleteOwner key k rows ++ new).filter (fun row => key.owner row = k) = new := by
  rw [List.filter_append, filter_deleteOwner_self, List.nil_append]
  exact List.filter_eq_self.mpr fun row hrow => decide_eq_true (howner row hrow)

/-- What is read back for the owner is what was put in, in the order of the ids. -/
theorem selectOwner_replaced (le : ι → ι → Bool) {k : κ} (rows : List α) {new : List α}
    (howner : ∀ row ∈ new, key.owner row = k) :
    selectOwner key le k (deleteOwner key k rows ++ new) = orderById key.id le new := by
  rw [selectOwner, filter_replaced key rows howner]

/-- Another owner reads what it read before. -/
theorem selectOwner_of_ne (le : ι → ι → Bool) {k k' : κ} (h : k' ≠ k) (rows : List α) {new : List α}
    (howner : ∀ row ∈ new, key.owner row = k) :
    selectOwner key le k' (deleteOwner key k rows ++ new) = selectOwner key le k' rows := by
  have hnew : new.filter (fun row => key.owner row = k') = [] := by
    rw [List.filter_eq_nil_iff]
    intro row hrow hsame
    exact h ((of_decide_eq_true hsame).symm.trans (howner row hrow))
  have hold : (deleteOwner key k rows).filter (fun row => key.owner row = k') =
      rows.filter fun row => key.owner row = k' := by
    rw [deleteOwner, List.filter_filter]
    refine List.filter_congr fun row _ => ?_
    by_cases hsame : key.owner row = k'
    · simp [hsame, h]
    · simp [hsame]
  rw [selectOwner, List.filter_append, hnew, hold, List.append_nil, selectOwner]

end Owners

section Order

variable {β : Type} (id : β → ι) (le : ι → ι → Bool)

theorem orderById_perm (rows : List β) : (orderById id le rows).Perm rows :=
  List.perm_insertionSort _ rows

/-- Ordering rows made from values is ordering the values. -/
theorem orderById_map {γ : Type} (row : β → γ) (id' : γ → ι) (h : ∀ b, id' (row b) = id b)
    (values : List β) : orderById id' le (values.map row) = (orderById id le values).map row := by
  symm
  refine List.map_insertionSort _ _ row values fun a _ b _ => ?_
  rw [h, h]

/-- Under a total order of the ids, an earlier row never has a greater id. -/
theorem orderById_pairwise (htotal : ∀ a b, le a b = true ∨ le b a = true)
    (htrans : ∀ a b c, le a b = true → le b c = true → le a c = true) (rows : List β) :
    (orderById id le rows).Pairwise fun a b => le (id a) (id b) = true := by
  have : Std.Total fun a b : β => le (id a) (id b) = true := ⟨fun a b => htotal _ _⟩
  have : IsTrans β fun a b => le (id a) (id b) = true := ⟨fun a b c => htrans _ _ _⟩
  exact List.pairwise_insertionSort _ rows

/-- In a list in order, what may not come after comes before. -/
theorem idxOf_lt_of_pairwise [DecidableEq ι] {ids : List ι} {a b : ι}
    (htotal : ∀ a b, le a b = true ∨ le b a = true)
    (h : ids.Pairwise fun a b => le a b = true) (ha : a ∈ ids) (hlater : le b a = false) :
    ids.idxOf a < ids.idxOf b := by
  have hne : a ≠ b := by
    rintro rfl
    rcases htotal a a with hle | hle <;> rw [hlater] at hle <;> cases hle
  induction ids with
  | nil => cases ha
  | cons x rest ih =>
      rw [List.pairwise_cons] at h
      by_cases hxa : x = a
      · rw [hxa, List.idxOf_cons_self, List.idxOf_cons_ne _ hne]
        exact Nat.succ_pos _
      · have hrest : a ∈ rest := (List.mem_cons.mp ha).resolve_left (Ne.symm hxa)
        have hxb : x ≠ b := by
          rintro rfl
          have hle := h.1 a hrest
          rw [hlater] at hle
          cases hle
        rw [List.idxOf_cons_ne _ hxa, List.idxOf_cons_ne _ hxb]
        exact Nat.succ_lt_succ (ih h.2 hrest)

end Order

/-! ## Inserting under the primary key -/

section Insertion

variable [DecidableEq ι] (key : Key α ι κ)

/-- `INSERT INTO ...`; `none` when the key of the row is taken. -/
def insertRow (rows : List α) (row : α) : Option (List α) :=
  if rows.any fun old => key.id old = key.id row ∧ key.owner old = key.owner row then none
  else some (rows ++ [row])

def insertRows : List α → List α → Option (List α)
  | rows, [] => some rows
  | rows, row :: rest => (insertRow key rows row).bind fun rows => insertRows rows rest

variable {key}

theorem insertRow_of_free {rows : List α} {row : α}
    (h : ∀ old ∈ rows, key.owner old = key.owner row → key.id old ≠ key.id row) :
    insertRow key rows row = some (rows ++ [row]) := by
  rw [insertRow, if_neg]
  intro htaken
  obtain ⟨old, hmem, hkey⟩ := List.any_eq_true.mp htaken
  obtain ⟨hid, howner⟩ := of_decide_eq_true hkey
  exact h old hmem howner hid

/-- Rows with distinct ids go in next to rows of other owners. -/
theorem insertRows_of_free {k : κ} {rows new : List α} (hrows : ∀ row ∈ rows, key.owner row = k →
      ∀ row' ∈ new, key.id row ≠ key.id row')
    (howner : ∀ row ∈ new, key.owner row = k) (hdistinct : (new.map key.id).Nodup) :
    insertRows key rows new = some (rows ++ new) := by
  induction new generalizing rows with
  | nil => rw [insertRows, List.append_nil]
  | cons row rest ih =>
      rw [List.map_cons, List.nodup_cons] at hdistinct
      have hfirst : insertRow key rows row = some (rows ++ [row]) := by
        refine insertRow_of_free fun old hold hsame => ?_
        rw [howner row List.mem_cons_self] at hsame
        exact hrows old hold hsame row List.mem_cons_self
      have hrest : insertRows key (rows ++ [row]) rest = some ((rows ++ [row]) ++ rest) := by
        refine ih (fun old hold hsame row' hrow' => ?_)
          (fun row' hrow' => howner row' (List.mem_cons_of_mem _ hrow')) hdistinct.2
        rcases List.mem_append.mp hold with hold | hold
        · exact hrows old hold hsame row' (List.mem_cons_of_mem _ hrow')
        · -- the row just inserted has another id than the rest
          rw [List.mem_singleton.mp hold]
          exact fun he => hdistinct.1 (he ▸ List.mem_map_of_mem hrow')
      rw [insertRows, hfirst, Option.bind_some, hrest, List.append_assoc, List.singleton_append]

/-- The rows of an owner can be replaced by any rows with distinct ids. -/
theorem insertRows_deleteOwner {k : κ} (rows : List α) {new : List α}
    (howner : ∀ row ∈ new, key.owner row = k) (hdistinct : (new.map key.id).Nodup) :
    insertRows key (deleteOwner key k rows) new = some (deleteOwner key k rows ++ new) := by
  refine insertRows_of_free (fun row hrow hsame => ?_) howner hdistinct
  exact absurd hsame (of_decide_eq_true (List.mem_filter.mp hrow).2)

end Insertion

end Table
