import Mathlib.Data.Fintype.Card
import Mathlib.Data.List.Lex
import Mathlib.Data.List.Perm.Subperm
import Mathlib.Data.Set.Finite.Basic
import Mathlib.Logic.Relation
import Mathlib.Order.WellFounded

/-!
# Topological — the least order of a list that respects its dependencies

Each item of a list depends on some items of the list.  The greedy order takes, again and again, the
first item of the list that is not taken and whose dependencies are.  It takes every item exactly
when no item depends on itself, and then it is the least order that respects the dependencies: no
other has an earlier item of the list at the first place where they differ.
-/

namespace Topological

variable {ι : Type} (deps : ι → List ι)

/-- With `done` before it, each item of the order comes after what it depends on. -/
def Legal : List ι → List ι → Prop
  | _, [] => True
  | done, a :: rest => (∀ d ∈ deps a, d ∈ done) ∧ Legal (done ++ [a]) rest

/-- What an item of the list depends on is in the list. -/
def Closed (items : List ι) : Prop := ∀ a ∈ items, ∀ d ∈ deps a, d ∈ items

/-- No item of the list depends on itself, directly or through others. -/
def Acyclic (items : List ι) : Prop :=
  ∀ a ∈ items, ¬ Relation.TransGen (fun a d => d ∈ deps a) a a

/-- The item is not taken, and all that it depends on is. -/
def IsReady (done : List ι) (a : ι) : Prop := a ∉ done ∧ ∀ d ∈ deps a, d ∈ done

variable {deps} {items done order : List ι} {a b d : ι} {rounds : Nat}

theorem Legal.mem_before {before after : List ι}
    (h : Legal deps done (before ++ a :: after)) (hd : d ∈ deps a) : d ∈ done ++ before := by
  induction before generalizing done with
  | nil =>
      rw [List.append_nil]
      exact h.1 d hd
  | cons b before ih =>
      have hmem := ih h.2
      rwa [List.append_assoc, List.singleton_append] at hmem

theorem legal_of_mem_before
    (h : ∀ before a after, order = before ++ a :: after → ∀ d ∈ deps a, d ∈ done ++ before) :
    Legal deps done order := by
  induction order generalizing done with
  | nil => trivial
  | cons b rest ih =>
      constructor
      · intro d hd
        have hmem := h [] b rest rfl d hd
        rwa [List.append_nil] at hmem
      · apply ih
        intro before a after hrest d hd
        have hmem := h (b :: before) a after (by rw [hrest, List.cons_append]) d hd
        rwa [List.append_assoc, List.singleton_append]

/-- The items of a legal order are closed under what they depend on. -/
theorem Legal.mem_of_mem (h : Legal deps [] order) (ha : a ∈ order) (hd : d ∈ deps a) :
    d ∈ order := by
  obtain ⟨before, after, rfl⟩ := List.append_of_mem ha
  have hbefore := h.mem_before hd
  rw [List.nil_append] at hbefore
  exact List.mem_append_left _ hbefore

theorem Legal.concat (h : Legal deps done order) (ha : ∀ d ∈ deps a, d ∈ done ++ order) :
    Legal deps done (order ++ [a]) := by
  induction order generalizing done with
  | nil =>
      rw [List.append_nil] at ha
      exact ⟨ha, trivial⟩
  | cons b rest ih =>
      refine ⟨h.1, ih h.2 fun d hd => ?_⟩
      rw [List.append_assoc, List.singleton_append]
      exact ha d hd

/-- What can be taken after one more item: what could be taken before, and what waited for that item
    alone. -/
theorem isReady_concat (hdone : Legal deps [] done) (hb : IsReady deps done b) :
    IsReady deps (done ++ [b]) a ↔
      (IsReady deps done a ∧ a ≠ b) ∨ (b ∈ deps a ∧ ∀ d ∈ deps a, d ∈ done ++ [b]) := by
  constructor
  · rintro ⟨hnew, hdeps⟩
    rw [List.mem_append, List.mem_singleton, not_or] at hnew
    by_cases hwaits : b ∈ deps a
    · exact .inr ⟨hwaits, hdeps⟩
    · refine .inl ⟨⟨hnew.1, fun d hd => ?_⟩, hnew.2⟩
      rcases List.mem_append.mp (hdeps d hd) with hold | hlast
      · exact hold
      · exact absurd (List.mem_singleton.mp hlast ▸ hd) hwaits
  · rintro (⟨⟨hnew, hdeps⟩, hne⟩ | ⟨hwaits, hdeps⟩)
    · refine ⟨?_, fun d hd => List.mem_append_left _ (hdeps d hd)⟩
      rw [List.mem_append, List.mem_singleton, not_or]
      exact ⟨hnew, hne⟩
    · -- an item that waits for the one just taken is not taken, and is another one
      refine ⟨fun hmem => hb.1 ?_, hdeps⟩
      rcases List.mem_append.mp hmem with hold | hlast
      · exact hdone.mem_of_mem hold hwaits
      · exact hb.2 b (List.mem_singleton.mp hlast ▸ hwaits)

/-- All the items are taken once as many are taken as there are. -/
theorem mem_of_length_le (hnodup : done.Nodup) (hsubset : done ⊆ items)
    (hlength : items.length ≤ done.length) : ∀ a ∈ items, a ∈ done :=
  fun _ ha => ((List.subperm_of_subset hnodup hsubset).perm_of_length_le hlength).mem_iff.mpr ha

/-- Taking an item that can be taken does not take it twice. -/
theorem IsReady.nodup_concat (h : IsReady deps done a) (hnodup : done.Nodup) :
    (done ++ [a]).Nodup := by
  rw [← List.concat_eq_append]
  exact hnodup.concat h.1

variable (deps) [DecidableEq ι]

/-- Each item of the order comes after what it depends on. -/
def Respects (order : List ι) : Prop :=
  ∀ a ∈ order, ∀ d ∈ deps a, order.idxOf d < order.idxOf a

instance (done : List ι) (a : ι) : Decidable (IsReady deps done a) :=
  inferInstanceAs (Decidable (_ ∧ _))

/-- The first item of the list that can be taken. -/
def next? (items done : List ι) : Option ι :=
  items.find? fun a => IsReady deps done a

/-- What the next rounds take. -/
def greedyFrom (items : List ι) : Nat → List ι → List ι
  | 0, _ => []
  | rounds + 1, done =>
      match next? deps items done with
      | none => []
      | some a => a :: greedyFrom items rounds (done ++ [a])

def greedy (items : List ι) : List ι := greedyFrom deps items items.length []

variable {deps}

/-! ## Orders that respect the dependencies -/

/-- In a list without repetitions, what stands before an item has a smaller index. -/
theorem mem_before_iff {before after : List ι} (hnodup : (before ++ a :: after).Nodup) :
    d ∈ before ↔ (before ++ a :: after).idxOf d < (before ++ a :: after).idxOf a := by
  have ha : a ∉ before := by
    intro hmem
    exact (List.nodup_append.mp hnodup).2.2 a hmem a List.mem_cons_self rfl
  rw [List.idxOf_append_of_notMem ha, List.idxOf_cons_self, Nat.add_zero]
  constructor
  · intro hd
    rw [List.idxOf_append_of_mem hd]
    exact List.idxOf_lt_length_of_mem hd
  · intro hlt
    by_contra hd
    rw [List.idxOf_append_of_notMem hd] at hlt
    exact absurd hlt (Nat.not_lt.mpr (Nat.le_add_right _ _))

theorem legal_iff_respects (hnodup : order.Nodup) : Legal deps [] order ↔ Respects deps order := by
  constructor
  · intro h a ha d hd
    obtain ⟨before, after, rfl⟩ := List.append_of_mem ha
    exact (mem_before_iff hnodup).mp (h.mem_before hd)
  · intro h
    apply legal_of_mem_before
    rintro before a after rfl d hd
    exact (mem_before_iff hnodup).mpr (h a (by simp) d hd)

/-- Along a chain of dependencies the index goes down, so none leads back. -/
theorem Respects.acyclic (h : Respects deps order) (hclosed : Closed deps order) :
    Acyclic deps order := by
  have hdown : ∀ {a d}, Relation.TransGen (fun a d => d ∈ deps a) a d → a ∈ order →
      d ∈ order ∧ order.idxOf d < order.idxOf a := by
    intro a d hchain ha
    induction hchain with
    | single hd => exact ⟨hclosed a ha _ hd, h a ha _ hd⟩
    | tail _ hd ih =>
        obtain ⟨hmem, hlt⟩ := ih
        exact ⟨hclosed _ hmem _ hd, (h _ hmem _ hd).trans hlt⟩
  intro a ha hchain
  exact absurd (hdown hchain ha).2 (Nat.lt_irrefl _)

/-! ## The greedy order -/

theorem next?_eq_some (h : next? deps items done = some a) : a ∈ items ∧ IsReady deps done a := by
  have hready := List.find?_some h
  exact ⟨List.mem_of_find?_eq_some h, of_decide_eq_true hready⟩

theorem next?_eq_none (h : next? deps items done = none) : ∀ a ∈ items, ¬ IsReady deps done a :=
  fun a ha hready => List.find?_eq_none.mp h a ha (decide_eq_true hready)

/-- The item taken stands first among those that can be taken. -/
theorem idxOf_next?_le (h : next? deps items done = some a) (hb : b ∈ items)
    (hready : IsReady deps done b) : items.idxOf a ≤ items.idxOf b := by
  obtain ⟨-, before, after, hitems, hbefore⟩ := List.find?_eq_some_iff_append.mp h
  subst hitems
  have hb' : b ∉ before := by
    intro hmem
    have hnot := hbefore b hmem
    rw [Bool.not_eq_true', decide_eq_false_iff_not] at hnot
    exact hnot hready
  by_cases ha : a ∈ before
  · rw [List.idxOf_append_of_mem ha, List.idxOf_append_of_notMem hb']
    exact (List.idxOf_lt_length_of_mem ha).le.trans (Nat.le_add_right _ _)
  · rw [List.idxOf_append_of_notMem ha, List.idxOf_append_of_notMem hb', List.idxOf_cons_self]
    exact Nat.le_add_right _ _

theorem greedyFrom_subset : greedyFrom deps items rounds done ⊆ items := by
  induction rounds generalizing done with
  | zero => exact List.nil_subset _
  | succ rounds ih =>
      unfold greedyFrom
      split
      · exact List.nil_subset _
      · rename_i a hnext
        exact List.cons_subset.mpr ⟨(next?_eq_some hnext).1, ih⟩

theorem nodup_greedyFrom (h : done.Nodup) : (done ++ greedyFrom deps items rounds done).Nodup := by
  induction rounds generalizing done with
  | zero =>
      rw [greedyFrom, List.append_nil]
      exact h
  | succ rounds ih =>
      unfold greedyFrom
      split
      · rw [List.append_nil]
        exact h
      · rename_i a hnext
        have hrest := ih ((next?_eq_some hnext).2.nodup_concat h)
        rwa [List.append_assoc, List.singleton_append] at hrest

theorem legal_greedyFrom : Legal deps done (greedyFrom deps items rounds done) := by
  induction rounds generalizing done with
  | zero => trivial
  | succ rounds ih =>
      unfold greedyFrom
      split
      · trivial
      · rename_i a hnext
        exact ⟨(next?_eq_some hnext).2.2, ih⟩

/-- An order of the same items that respects the dependencies is not before the greedy one. -/
theorem greedyFrom_le (hlegal : Legal deps done order) (hnodup : (done ++ order).Nodup)
    (hperm : (greedyFrom deps items rounds done).Perm order) :
    (greedyFrom deps items rounds done).map items.idxOf ≤ order.map items.idxOf := by
  induction rounds generalizing done order with
  | zero =>
      rw [List.nil_perm.mp hperm, greedyFrom]
  | succ rounds ih =>
      have hsubset : order ⊆ items := fun x hx => greedyFrom_subset (hperm.mem_iff.mpr hx)
      unfold greedyFrom at hperm ⊢
      split at hperm
      · rw [List.nil_perm.mp hperm]
      · rename_i a hnext
        cases order with
        | nil => cases hperm.length_eq
        | cons b rest =>
            -- the first item of the other order could be taken too
            have hb : IsReady deps done b := by
              refine ⟨fun hmem => ?_, hlegal.1⟩
              exact (List.nodup_append.mp hnodup).2.2 b hmem b List.mem_cons_self rfl
            have hle := idxOf_next?_le hnext (hsubset List.mem_cons_self) hb
            rw [List.map_cons, List.map_cons]
            rcases Nat.lt_or_eq_of_le hle with hlt | heq
            · exact le_of_lt (List.Lex.rel hlt)
            · have hab : a = b := (List.idxOf_inj (next?_eq_some hnext).1).mp heq
              subst hab
              have hrest : (done ++ [a] ++ rest).Nodup := by
                rw [List.append_assoc, List.singleton_append]
                exact hnodup
              rw [heq]
              exact List.cons_le_cons _ (ih hlegal.2 hrest hperm.cons_inv)

/-- A list that respects its dependencies is taken in its own order. -/
theorem greedyFrom_of_legal {rest : List ι} (hnodup : (done ++ rest).Nodup)
    (hlegal : Legal deps done rest) : greedyFrom deps (done ++ rest) rest.length done = rest := by
  induction rest generalizing done with
  | nil => rfl
  | cons a rest ih =>
      have ha : IsReady deps done a := by
        refine ⟨fun hmem => ?_, hlegal.1⟩
        exact (List.nodup_append.mp hnodup).2.2 a hmem a List.mem_cons_self rfl
      have hnext : next? deps (done ++ a :: rest) done = some a := by
        refine List.find?_eq_some_iff_append.mpr ⟨decide_eq_true ha, done, rest, rfl, ?_⟩
        intro x hx
        rw [Bool.not_eq_true', decide_eq_false_iff_not]
        exact fun hready => hready.1 hx
      have happend : done ++ a :: rest = (done ++ [a]) ++ rest := by
        rw [List.append_assoc, List.singleton_append]
      rw [List.length_cons, greedyFrom, hnext]
      dsimp only
      rw [happend]
      rw [happend] at hnodup
      rw [ih hnodup hlegal.2]

theorem greedy_of_respects (hnodup : items.Nodup) (h : Respects deps items) :
    greedy deps items = items := by
  have hnil : ([] ++ items).Nodup := hnodup
  exact greedyFrom_of_legal hnil ((legal_iff_respects hnodup).mpr h)

/-! ## What the greedy order leaves out -/

/-- Without a cycle some item can be taken as long as one is left. -/
theorem exists_ready (hacyclic : Acyclic deps items) (hclosed : Closed deps items) (ha : a ∈ items)
    (hleft : a ∉ done) : ∃ b ∈ items, IsReady deps done b := by
  let Chain : {x // x ∈ items} → {x // x ∈ items} → Prop := fun x y =>
    Relation.TransGen (fun a d => d ∈ deps a) y.1 x.1
  have htrans : IsTrans _ Chain := ⟨fun _ _ _ hxy hyz => hyz.trans hxy⟩
  have hirrefl : Std.Irrefl Chain := ⟨fun x => hacyclic x.1 x.2⟩
  have hfinite : Finite {x // x ∈ items} := (List.finite_toSet items).to_subtype
  have hwf : WellFounded Chain := Finite.wellFounded_of_trans_of_irrefl Chain
  -- a last one in the chains of items that are left
  obtain ⟨b, hb, hleast⟩ := hwf.has_min {x | x.1 ∉ done} ⟨⟨a, ha⟩, hleft⟩
  refine ⟨b.1, b.2, hb, fun d hd => ?_⟩
  by_contra hd'
  exact hleast ⟨d, hclosed b.1 b.2 d hd⟩ hd' (.single hd)

theorem mem_greedyFrom (hacyclic : Acyclic deps items) (hclosed : Closed deps items)
    (hnodup : done.Nodup) (hsubset : done ⊆ items) (hrounds : items.length ≤ done.length + rounds) :
    ∀ a ∈ items, a ∈ done ++ greedyFrom deps items rounds done := by
  induction rounds generalizing done with
  | zero =>
      rw [greedyFrom, List.append_nil]
      exact mem_of_length_le hnodup hsubset hrounds
  | succ rounds ih =>
      unfold greedyFrom
      split
      · rename_i hnext
        intro a ha
        rw [List.append_nil]
        by_contra hleft
        obtain ⟨b, hb, hready⟩ := exists_ready hacyclic hclosed ha hleft
        exact next?_eq_none hnext b hb hready
      · rename_i a hnext
        obtain ⟨hmem, hready⟩ := next?_eq_some hnext
        have hall := ih (hready.nodup_concat hnodup)
          (List.append_subset.mpr ⟨hsubset, by simpa using hmem⟩)
          (by rw [List.length_append, List.length_singleton]; omega)
        rwa [List.append_assoc, List.singleton_append] at hall

theorem nodup_greedy : (greedy deps items).Nodup := by
  have h : ([] ++ greedy deps items).Nodup := nodup_greedyFrom List.nodup_nil
  rwa [List.nil_append] at h

/-- The greedy order is an order of all the items exactly when there is no cycle. -/
theorem greedy_perm_iff (hnodup : items.Nodup) (hclosed : Closed deps items) :
    (greedy deps items).Perm items ↔ Acyclic deps items := by
  constructor
  · intro hperm
    have hrespects := (legal_iff_respects nodup_greedy).mp
      (legal_greedyFrom : Legal deps [] (greedy deps items))
    have hacyclic := hrespects.acyclic fun a ha d hd =>
      hperm.mem_iff.mpr (hclosed a (hperm.mem_iff.mp ha) d hd)
    exact fun a ha => hacyclic a (hperm.mem_iff.mpr ha)
  · intro hacyclic
    have hall := mem_greedyFrom hacyclic hclosed List.nodup_nil (List.nil_subset _)
      (Nat.le_add_left items.length _)
    rw [List.nil_append] at hall
    exact (List.perm_ext_iff_of_nodup nodup_greedy hnodup).mpr
      fun a => ⟨fun ha => greedyFrom_subset ha, hall a⟩

/-- More rounds than items take nothing more. -/
theorem greedyFrom_of_le (hnodup : done.Nodup) (hsubset : done ⊆ items)
    (hrounds : items.length ≤ done.length + rounds) (more : Nat) :
    greedyFrom deps items (rounds + more) done = greedyFrom deps items rounds done := by
  induction rounds generalizing done with
  | zero =>
      cases more with
      | zero => rfl
      | succ more =>
          rw [Nat.zero_add, greedyFrom, greedyFrom]
          split
          · rfl
          · rename_i a hnext
            obtain ⟨hmem, hready⟩ := next?_eq_some hnext
            exact absurd (mem_of_length_le hnodup hsubset hrounds a hmem) hready.1
  | succ rounds ih =>
      rw [Nat.succ_add, greedyFrom, greedyFrom]
      split
      · rfl
      · rename_i a hnext
        obtain ⟨hmem, hready⟩ := next?_eq_some hnext
        rw [ih (hready.nodup_concat hnodup) (List.append_subset.mpr ⟨hsubset, by simpa using hmem⟩)
          (by rw [List.length_append, List.length_singleton]; omega)]

end Topological
