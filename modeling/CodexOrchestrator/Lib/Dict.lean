import Mathlib.Data.List.Induction
import Mathlib.Data.List.Nodup

/-!
# Dict — a Python `dict` with string keys

The entries stand in insertion order, and no key stands twice: the structure carries that as a field,
so a value with a repeated key cannot be built.
-/

universe u

/-- A `dict[str, α]`. -/
structure Dict (α : Type u) where
  entries : List (String × α)
  nodup : (entries.map Prod.fst).Nodup
  deriving DecidableEq

namespace Dict

variable {α : Type u}

/-- `{}`. -/
def empty : Dict α := ⟨[], List.nodup_nil⟩

def keys (d : Dict α) : List String := d.entries.map Prod.fst

/-- `d.get(key)`. -/
def get? (d : Dict α) (key : String) : Option α :=
  d.entries.lookup key

/-- Overwrite the entry of a key that is present; the other entries keep their places. -/
def replaceEntry (key : String) (value : α) (entry : String × α) : String × α :=
  if entry.1 = key then (key, value) else entry

theorem map_fst_replaceEntry (key : String) (value : α) (entries : List (String × α)) :
    (entries.map (replaceEntry key value)).map Prod.fst = entries.map Prod.fst := by
  rw [List.map_map]
  apply List.map_congr_left
  intro entry _
  unfold Function.comp replaceEntry
  split
  · rename_i h
    exact h.symm
  · rfl

/-- `d[key] = value`: a present key keeps its place, a new one comes last. -/
def set (d : Dict α) (key : String) (value : α) : Dict α :=
  if h : key ∈ d.keys then
    ⟨d.entries.map (replaceEntry key value), by
      rw [map_fst_replaceEntry]
      exact d.nodup⟩
  else
    ⟨d.entries ++ [(key, value)], by
      rw [List.map_append]
      exact List.nodup_append.mpr ⟨d.nodup, List.nodup_singleton _, by
        intro a ha b hb
        rw [List.map_singleton, List.mem_singleton] at hb
        rw [hb]
        intro he
        subst he
        exact h ha⟩⟩

theorem lookup_cons_self (key : String) (value : α) (rest : List (String × α)) :
    ((key, value) :: rest).lookup key = some value := by
  simp

theorem lookup_cons_of_ne {key other : String} (value : α) (rest : List (String × α))
    (h : other ≠ key) : ((key, value) :: rest).lookup other = rest.lookup other := by
  rw [List.lookup_cons, beq_false_of_ne h]

theorem lookup_map_replaceEntry (key other : String) (value : α) (entries : List (String × α)) :
    (entries.map (replaceEntry key value)).lookup other =
      if other = key then (entries.lookup other).map fun _ => value else entries.lookup other := by
  induction entries with
  | nil => simp
  | cons entry rest ih =>
      obtain ⟨k, v⟩ := entry
      rw [List.map_cons]
      by_cases hk : k = key
      · subst hk
        rw [replaceEntry, if_pos rfl]
        by_cases ho : other = k
        · subst ho
          rw [if_pos rfl, lookup_cons_self, lookup_cons_self, Option.map_some]
        · rw [lookup_cons_of_ne _ _ ho, lookup_cons_of_ne _ _ ho, ih]
      · rw [replaceEntry, if_neg hk]
        by_cases ho : other = k
        · subst ho
          rw [if_neg hk, lookup_cons_self, lookup_cons_self]
        · rw [lookup_cons_of_ne _ _ ho, lookup_cons_of_ne _ _ ho, ih]

theorem lookup_isSome_iff (key : String) (entries : List (String × α)) :
    (entries.lookup key).isSome ↔ key ∈ entries.map Prod.fst := by
  induction entries with
  | nil => simp
  | cons entry rest ih =>
      obtain ⟨k, v⟩ := entry
      by_cases hk : key = k
      · subst hk
        simp
      · rw [lookup_cons_of_ne _ _ hk, ih]
        simp [hk]

theorem get?_set (d : Dict α) (key other : String) (value : α) :
    (d.set key value).get? other = if other = key then some value else d.get? other := by
  unfold set get?
  split
  · rename_i h
    rw [lookup_map_replaceEntry]
    by_cases ho : other = key
    · subst ho
      obtain ⟨v, hv⟩ := Option.isSome_iff_exists.mp ((lookup_isSome_iff other d.entries).mpr h)
      simp [hv]
    · simp [ho]
  · rename_i h
    rw [List.lookup_append]
    by_cases ho : other = key
    · subst ho
      have hn : d.entries.lookup other = none := by
        rw [← Option.not_isSome_iff_eq_none, lookup_isSome_iff]
        exact h
      simp [hn]
    · rw [lookup_cons_of_ne _ _ ho]
      simp [ho]

@[simp] theorem get?_set_self (d : Dict α) (key : String) (value : α) :
    (d.set key value).get? key = some value := by
  rw [get?_set, if_pos rfl]

theorem get?_set_of_ne (d : Dict α) {key other : String} (value : α) (h : other ≠ key) :
    (d.set key value).get? other = d.get? other := by
  rw [get?_set, if_neg h]

example : ((empty.set "a" 1).set "b" 2).set "a" 3 = ⟨[("a", 3), ("b", 2)], by decide⟩ := by decide

/-! ## Setting one entry after another -/

section SetEach

variable {ι : Type}

/-- `d[key] = value` for every item that gives an entry; the other items are skipped. -/
def setEach (entryOf : ι → Option (String × α)) (d : Dict α) (items : List ι) : Dict α :=
  items.foldl (fun d item => (entryOf item).elim d fun entry => d.set entry.1 entry.2) d

/-- The entry is that of the last item that gives the key one. -/
def LastEntry (entryOf : ι → Option (String × α)) (items : List ι) (key : String) (value : α) :
    Prop :=
  ∃ before item after, items = before ++ item :: after ∧ entryOf item = some (key, value) ∧
    ∀ later ∈ after, ∀ other, entryOf later ≠ some (key, other)

variable (entryOf : ι → Option (String × α))

theorem lastEntry_concat (items : List ι) (item : ι) (key : String) (value : α) :
    LastEntry entryOf (items ++ [item]) key value ↔ entryOf item = some (key, value) ∨
      (∀ other, entryOf item ≠ some (key, other)) ∧ LastEntry entryOf items key value := by
  constructor
  · rintro ⟨before, last, after, hitems, hlast, hafter⟩
    rcases List.eq_nil_or_concat' after with rfl | ⟨after, final, rfl⟩
    · have hsame := (List.append_inj' hitems rfl).2
      rw [List.singleton_inj] at hsame
      exact .inl (hsame ▸ hlast)
    · rw [← List.cons_append, ← List.append_assoc] at hitems
      have hsame := List.append_inj' hitems rfl
      rw [List.singleton_inj] at hsame
      refine .inr ⟨?_, before, last, after, hsame.1, hlast, ?_⟩
      · exact hsame.2 ▸ hafter final (List.mem_append_right _ List.mem_cons_self)
      · exact fun later hlater => hafter later (List.mem_append_left _ hlater)
  · rintro (hitem | ⟨hitem, before, last, after, rfl, hlast, hafter⟩)
    · exact ⟨items, item, [], rfl, hitem, fun later hlater => absurd hlater List.not_mem_nil⟩
    · refine ⟨before, last, after ++ [item], by simp, hlast, fun later hlater => ?_⟩
      rcases List.mem_append.mp hlater with hlater | hlater
      · exact hafter later hlater
      · exact List.mem_singleton.mp hlater ▸ hitem

theorem exists_lastEntry {items : List ι} {item : ι} {key : String} {value : α}
    (hmem : item ∈ items) (hitem : entryOf item = some (key, value)) :
    ∃ last, LastEntry entryOf items key last := by
  induction items using List.reverseRecOn with
  | nil => exact absurd hmem List.not_mem_nil
  | append_singleton items final ih =>
      by_cases hfinal : ∃ other, entryOf final = some (key, other)
      · obtain ⟨other, hother⟩ := hfinal
        exact ⟨other, (lastEntry_concat ..).mpr (.inl hother)⟩
      · rw [not_exists] at hfinal
        rcases List.mem_append.mp hmem with hmem | hmem
        · obtain ⟨last, hlast⟩ := ih hmem
          exact ⟨last, (lastEntry_concat ..).mpr (.inr ⟨hfinal, hlast⟩)⟩
        · exact absurd (List.mem_singleton.mp hmem ▸ hitem) (hfinal value)

/-- A later entry of a key overrides an earlier one. -/
theorem get?_setEach (items : List ι) (key : String) (value : α) :
    (setEach entryOf empty items).get? key = some value ↔ LastEntry entryOf items key value := by
  induction items using List.reverseRecOn with
  | nil =>
      constructor
      · intro h
        cases h
      · rintro ⟨before, item, after, hitems, -⟩
        simp at hitems
  | append_singleton items item ih =>
      rw [lastEntry_concat, ← ih, setEach, List.foldl_concat]
      cases hitem : entryOf item with
      | none => simp [setEach]
      | some entry =>
          obtain ⟨other, otherValue⟩ := entry
          rw [Option.elim_some, get?_set]
          by_cases hkey : key = other
          · simp [hkey]
          · simp [hkey, setEach, Ne.symm hkey]

/-- Items that give no entry may as well be left out. -/
theorem setEach_filter (d : Dict α) (items : List ι) :
    setEach entryOf d (items.filter fun item => (entryOf item).isSome) = setEach entryOf d items := by
  rw [setEach, List.foldl_filter]
  refine congrArg (List.foldl · d items) (funext₂ fun d item => ?_)
  cases entryOf item <;> rfl

end SetEach

/-! ## Content and order -/

/-- `d == d'`: the same keys with the same values, in whatever order they were inserted. -/
def Same (d d' : Dict α) : Prop := ∀ key, d.get? key = d'.get? key

theorem Same.refl (d : Dict α) : Same d d := fun _ => rfl

theorem Same.symm {d d' : Dict α} (h : Same d d') : Same d' d := fun key => (h key).symm

theorem Same.trans {d d' d'' : Dict α} (h : Same d d') (h' : Same d' d'') : Same d d'' :=
  fun key => (h key).trans (h' key)

theorem lookup_eq_some_iff_mem {entries : List (String × α)}
    (h : (entries.map Prod.fst).Nodup) (key : String) (value : α) :
    entries.lookup key = some value ↔ (key, value) ∈ entries := by
  induction entries with
  | nil => simp
  | cons entry rest ih =>
      obtain ⟨k, v⟩ := entry
      rw [List.map_cons, List.nodup_cons] at h
      by_cases hk : key = k
      · subst hk
        -- the rest has no other entry under the key
        have hrest : (key, value) ∉ rest := fun hm => h.1 (List.mem_map.mpr ⟨_, hm, rfl⟩)
        rw [lookup_cons_self, List.mem_cons, or_iff_left hrest]
        simp [eq_comm]
      · rw [lookup_cons_of_ne _ _ hk, ih h.2, List.mem_cons]
        simp [hk]

theorem get?_eq_some_iff_mem (d : Dict α) (key : String) (value : α) :
    d.get? key = some value ↔ (key, value) ∈ d.entries :=
  lookup_eq_some_iff_mem d.nodup key value

theorem get?_eq_none_iff (d : Dict α) (key : String) : d.get? key = none ↔ key ∉ d.keys := by
  rw [← Option.not_isSome_iff_eq_none, get?, lookup_isSome_iff, keys]

/-- Two orders of the same entries are the same mapping. -/
theorem same_of_perm {d d' : Dict α} (h : d.entries.Perm d'.entries) : Same d d' := by
  intro key
  apply Option.ext
  intro value
  rw [get?_eq_some_iff_mem, get?_eq_some_iff_mem]
  exact h.mem_iff

/-- The same mapping with one of its entries in front. -/
theorem exists_same_cons {d : Dict α} {entry : String × α} (h : entry ∈ d.entries) :
    ∃ d' : Dict α, Same d d' ∧ ∃ rest, d'.entries = entry :: rest := by
  obtain ⟨before, after, hsplit⟩ := List.append_of_mem h
  have hperm : d.entries.Perm (entry :: (before ++ after)) := by
    rw [hsplit]
    exact List.perm_middle
  exact ⟨⟨entry :: (before ++ after), (hperm.map Prod.fst).nodup_iff.mp d.nodup⟩,
    same_of_perm hperm, _, rfl⟩

end Dict
