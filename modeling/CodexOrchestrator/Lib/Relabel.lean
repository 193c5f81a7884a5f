import CodexOrchestrator.Lib.Dict
import CodexOrchestrator.Lib.Raise
import CodexOrchestrator.Lib.Stages

/-!
# Relabel — pipelines of dicts, where each builder copies the last dict and adds a label

A builder makes a new dict: it copies keys that must be there, adds at most one label, which a
literal table gives for a label it has copied, and copies some further keys if they are there.
`relabel` is the abstract view of a pipeline, the labels alone; `runBuilders_of_relabel` says that
the pipeline follows it, whatever else its dicts hold.
-/

/-- A value of these dicts: a string, or an object that holds a dict itself. -/
inductive DictValue (α : Type) where
  | text (s : String)
  | object (a : α)

namespace Dict

variable {β : Type}

/-- `d[key]`. -/
def getItem (d : Dict β) (key : String) : Except PyError β :=
  match d.get? key with
  | some value => .ok value
  | none => .error (.keyError key)

/-- `target[key] = source[key]` for each of the keys in turn. -/
def copyKeys (source : Dict β) : List String → Dict β → Except PyError (Dict β)
  | [], target => .ok target
  | key :: rest, target => do
      let value ← source.getItem key
      copyKeys source rest (target.set key value)

/-- `if key in source: target[key] = source[key]`. -/
def copyPresent (source : Dict β) : List String → Dict β → Dict β
  | [], target => target
  | key :: rest, target =>
      match source.get? key with
      | some value => copyPresent source rest (target.set key value)
      | none => copyPresent source rest target

theorem getItem_eq_ok {d : Dict β} {key : String} {value : β} :
    d.getItem key = .ok value ↔ d.get? key = some value := by
  unfold getItem
  cases d.get? key with
  | none => simp
  | some v => simp

theorem copyKeys_ok {source : Dict β} {keys : List String}
    (h : ∀ key ∈ keys, (source.get? key).isSome) (target : Dict β) :
    ∃ out, copyKeys source keys target = .ok out ∧
      ∀ key, out.get? key = if key ∈ keys then source.get? key else target.get? key := by
  induction keys generalizing target with
  | nil => exact ⟨target, rfl, fun key => by simp⟩
  | cons first rest ih =>
      obtain ⟨value, hvalue⟩ := Option.isSome_iff_exists.mp (h first List.mem_cons_self)
      obtain ⟨out, hout, hget⟩ := ih (fun key hkey => h key (List.mem_cons_of_mem _ hkey))
        (target.set first value)
      refine ⟨out, ?_, fun key => ?_⟩
      · unfold copyKeys
        rw [getItem_eq_ok.mpr hvalue, Raise.ok_bind, hout]
      · rw [hget, get?_set]
        -- a later copy of the same key wins, with the same value
        by_cases hrest : key ∈ rest
        · rw [if_pos hrest, if_pos (List.mem_cons_of_mem _ hrest)]
        · by_cases hfirst : key = first
          · subst hfirst
            rw [if_neg hrest, if_pos rfl, if_pos List.mem_cons_self, hvalue]
          · rw [if_neg hrest, if_neg hfirst, if_neg (by simp [hfirst, hrest])]

theorem get?_copyPresent (source : Dict β) (keys : List String) (target : Dict β) (key : String) :
    (copyPresent source keys target).get? key =
      if key ∈ keys then (source.get? key).or (target.get? key) else target.get? key := by
  induction keys generalizing target with
  | nil => simp [copyPresent]
  | cons first rest ih =>
      unfold copyPresent
      cases hvalue : source.get? first with
      | none =>
          rw [ih]
          by_cases hfirst : key = first
          · subst hfirst
            simp [hvalue]
          · simp [hfirst]
      | some value =>
          rw [ih, get?_set]
          by_cases hfirst : key = first
          · subst hfirst
            simp [hvalue]
          · simp [hfirst]

end Dict

namespace Relabel

variable {α : Type}

/-- What a builder adds: under `key`, the entry of `table` at the label that stands under `reads`. -/
structure Label where
  key : String
  reads : String
  table : Dict String

/-- `table[source[reads]]`. -/
def Label.find (label : Label) (source : Dict (DictValue α)) : Except PyError String := do
  match ← source.getItem label.reads with
  | .text s => label.table.getItem s
  | .object _ => .error (.other "TypeError" "unhashable type: 'dict'")

/-- One builder of a pipeline.  Its label's key is new, so that nothing copied is overwritten. -/
structure Builder where
  copied : List String
  present : List String
  label? : Option Label
  fresh : ∀ label ∈ label?, label.key ∉ copied ++ present

/-- The keys that a builder's dict has for certain. -/
def Builder.keys (builder : Builder) : List String :=
  builder.copied ++ builder.label?.toList.map Label.key

def Builder.addLabel (builder : Builder) (source copies : Dict (DictValue α)) :
    Except PyError (Dict (DictValue α)) :=
  match builder.label? with
  | none => .ok copies
  | some label => do
      let value ← label.find source
      return copies.set label.key (.text value)

/-- The dict that a builder builds from the last one. -/
def Builder.build (builder : Builder) (source : Dict (DictValue α)) :
    Except PyError (Dict (DictValue α)) := do
  let copies ← Dict.copyKeys source builder.copied .empty
  let labelled ← builder.addLabel source copies
  return Dict.copyPresent source builder.present labelled

/-- The builders of a pipeline, one after the other. -/
def runBuilders : List Builder → Dict (DictValue α) → Except PyError (Dict (DictValue α))
  | [], source => .ok source
  | builder :: rest, source => do
      let built ← builder.build source
      runBuilders rest built

/-! ### The labels alone -/

def Builder.relabel (builder : Builder) (labels : List (String × String)) :
    Option (List (String × String)) :=
  match builder.label? with
  | none => some labels
  | some label => do
      let s ← labels.lookup label.reads
      let value ← label.table.get? s
      return (label.key, value) :: labels

/-- The labels after a pipeline, the newest first. -/
def relabel : List Builder → List (String × String) → Option (List (String × String))
  | [], labels => some labels
  | builder :: rest, labels => do
      let next ← builder.relabel labels
      relabel rest next

/-! ### The simulation -/

/-- Each builder copies exactly the keys that the one before it leaves. -/
def Linked : List String → List Builder → Prop
  | _, [] => True
  | keys, builder :: rest => builder.copied = keys ∧ Linked builder.keys rest

/-- The dict has the keys, and the labels stand under theirs. -/
structure Carries (source : Dict (DictValue α)) (keys : List String)
    (labels : List (String × String)) : Prop where
  has : ∀ key ∈ keys, (source.get? key).isSome
  shows : ∀ key s, labels.lookup key = some s → key ∈ keys ∧ source.get? key = some (.text s)

/-- `out` has the same values as `source` under the keys. -/
def Keeps (keys : List String) (source out : Dict (DictValue α)) : Prop :=
  ∀ key ∈ keys, out.get? key = source.get? key

theorem Keeps.refl (keys : List String) (source : Dict (DictValue α)) : Keeps keys source source :=
  fun _ _ => rfl

theorem Keeps.trans {keys more : List String} {a b c : Dict (DictValue α)} (hab : Keeps keys a b)
    (hbc : Keeps more b c) (h : keys ⊆ more) : Keeps keys a c := by
  intro key hkey
  rw [hbc key (h hkey), hab key hkey]

/-- A dict that carries no label yet. -/
theorem Carries.nil {source : Dict (DictValue α)} {keys : List String}
    (h : ∀ key ∈ keys, (source.get? key).isSome) : Carries source keys [] where
  has := h
  shows := by
    intro key s hlabel
    cases hlabel

theorem Carries.of_keeps {source out : Dict (DictValue α)} {keys : List String}
    {labels : List (String × String)} (h : Carries source keys labels)
    (hk : Keeps keys source out) : Carries out keys labels where
  has := by
    intro key hkey
    rw [hk key hkey]
    exact h.has key hkey
  shows := by
    intro key s hlabel
    obtain ⟨hkey, hget⟩ := h.shows key s hlabel
    rw [hk key hkey]
    exact ⟨hkey, hget⟩

/-- A new label under a new key. -/
theorem Carries.cons {source : Dict (DictValue α)} {keys : List String}
    {labels : List (String × String)} (h : Carries source keys labels) {key value : String}
    (hvalue : source.get? key = some (.text value)) :
    Carries source (keys ++ [key]) ((key, value) :: labels) where
  has := by
    intro k hk
    rcases List.mem_append.mp hk with hold | hnew
    · exact h.has k hold
    · rw [List.mem_singleton.mp hnew, hvalue]
      rfl
  shows := by
    intro k s hlabel
    by_cases hk : k = key
    · subst hk
      rw [Dict.lookup_cons_self] at hlabel
      rw [← Option.some.inj hlabel]
      exact ⟨List.mem_append_right _ (List.mem_singleton.mpr rfl), hvalue⟩
    · rw [Dict.lookup_cons_of_ne _ _ hk] at hlabel
      obtain ⟨hold, hget⟩ := h.shows k s hlabel
      exact ⟨List.mem_append_left _ hold, hget⟩

/-- The label that a builder adds is the abstract one. -/
theorem Builder.addLabel_of_relabel {builder : Builder} {source copies : Dict (DictValue α)}
    {labels next : List (String × String)} (h : Carries source builder.copied labels)
    (hcopied : Keeps builder.copied source copies) (hl : builder.relabel labels = some next) :
    ∃ labelled, builder.addLabel source copies = .ok labelled ∧ Carries labelled builder.keys next ∧
      Keeps builder.copied source labelled := by
  unfold Builder.addLabel Builder.keys
  unfold Builder.relabel at hl
  cases hlabel : builder.label? with
  | none =>
      rw [hlabel] at hl
      rw [← Option.some.inj hl, Option.toList_none, List.map_nil, List.append_nil]
      exact ⟨copies, rfl, h.of_keeps hcopied, hcopied⟩
  | some label =>
      rw [hlabel] at hl
      obtain ⟨s, hs, hl⟩ := Option.bind_eq_some_iff.mp hl
      obtain ⟨value, hvalue, hl⟩ := Option.bind_eq_some_iff.mp hl
      have hfind : label.find source = .ok value := by
        unfold Label.find
        rw [Dict.getItem_eq_ok.mpr (h.shows _ _ hs).2, Raise.ok_bind]
        exact Dict.getItem_eq_ok.mpr hvalue
      -- the label is not among the copied keys, so writing it keeps them
      have hset : Keeps builder.copied source (copies.set label.key (.text value)) := by
        intro key hkey
        have hne : key ≠ label.key := by
          intro he
          subst he
          exact builder.fresh label hlabel (List.mem_append_left _ hkey)
        rw [Dict.get?_set_of_ne _ _ hne]
        exact hcopied key hkey
      refine ⟨copies.set label.key (.text value), ?_, ?_, hset⟩
      · show (label.find source >>= _) = _
        rw [hfind]
        rfl
      · rw [← Option.some.inj hl]
        exact (h.of_keeps hset).cons (Dict.get?_set_self _ _ _)

/-- The keys that are copied if they are there leave the others as they stand. -/
theorem Builder.keeps_copyPresent {builder : Builder} {source labelled : Dict (DictValue α)}
    (h : Keeps builder.copied source labelled) :
    Keeps builder.keys labelled (Dict.copyPresent source builder.present labelled) := by
  intro key hkey
  rw [Dict.get?_copyPresent]
  split
  · rename_i hpresent
    rcases List.mem_append.mp hkey with hcopied | hadded
    · rw [h key hcopied, Option.or_self]
    · obtain ⟨label, hlabel, hkey⟩ := List.mem_map.mp hadded
      subst hkey
      exact absurd (List.mem_append_right _ hpresent)
        (builder.fresh label (Option.mem_toList.mp hlabel))
  · rfl

/-- One builder: its dict has the abstract labels, and what it copies is kept. -/
theorem Builder.build_of_relabel {builder : Builder} {source : Dict (DictValue α)}
    {labels next : List (String × String)} (h : Carries source builder.copied labels)
    (hl : builder.relabel labels = some next) :
    ∃ out, builder.build source = .ok out ∧ Carries out builder.keys next ∧
      Keeps builder.copied source out := by
  obtain ⟨copies, hcopies, hget⟩ := Dict.copyKeys_ok h.has Dict.empty
  have hcopied : Keeps builder.copied source copies := by
    intro key hkey
    rw [hget, if_pos hkey]
  obtain ⟨labelled, hlabelled, hcarries, hkeeps⟩ := Builder.addLabel_of_relabel h hcopied hl
  have hpresent := Builder.keeps_copyPresent hkeeps
  refine ⟨_, ?_, hcarries.of_keeps hpresent,
    hkeeps.trans hpresent (List.subset_append_left _ _)⟩
  unfold Builder.build
  rw [hcopies, Raise.ok_bind, hlabelled]
  rfl

/-- A whole pipeline: it runs through, its last dict has the labels of the abstract pipeline, and
    what the first builder copies is still there. -/
theorem runBuilders_of_relabel {builders : List Builder} {keys : List String}
    {source : Dict (DictValue α)} {labels last : List (String × String)} (hlinked : Linked keys builders)
    (h : Carries source keys labels) (hl : relabel builders labels = some last) :
    ∃ out, runBuilders builders source = .ok out ∧ Keeps keys source out ∧
      ∀ key s, last.lookup key = some s → out.get? key = some (.text s) := by
  induction builders generalizing keys source labels with
  | nil =>
      rw [← Option.some.inj hl]
      exact ⟨source, rfl, Keeps.refl keys source, fun key s hs => (h.shows key s hs).2⟩
  | cons builder rest ih =>
      obtain ⟨hcopied, hrest⟩ := hlinked
      subst hcopied
      obtain ⟨next, hnext, hl⟩ := Option.bind_eq_some_iff.mp hl
      -- one builder, then the rest of the pipeline on what it built
      obtain ⟨built, hbuilt, hcarries, hkeeps⟩ := Builder.build_of_relabel h hnext
      obtain ⟨out, hout, hkept, hshows⟩ := ih hrest hcarries hl
      refine ⟨out, ?_, hkeeps.trans hkept (List.subset_append_left _ _), hshows⟩
      unfold runBuilders
      rw [hbuilt, Raise.ok_bind, hout]

/-! ### What a pipeline keeps -/

/-- The dict has no other keys. -/
def Within (keys : List String) (source : Dict (DictValue α)) : Prop :=
  ∀ key, source.get? key ≠ none → key ∈ keys

/-- `out` has what `source` has and at most one key more, which is none of `optional`. -/
structure Extends (optional : List String) (source out : Dict (DictValue α)) : Prop where
  kept : ∀ key value, source.get? key = some value → out.get? key = some value
  absent : ∀ key ∈ optional, source.get? key = none → out.get? key = none
  atMostOne : ∀ key key', source.get? key = none → out.get? key ≠ none →
    source.get? key' = none → out.get? key' ≠ none → key = key'

/-- Adding the label writes no other key. -/
theorem Builder.get?_addLabel {builder : Builder} {source copies labelled : Dict (DictValue α)}
    (h : builder.addLabel source copies = .ok labelled) {key : String}
    (hkey : ∀ label ∈ builder.label?, key ≠ label.key) : labelled.get? key = copies.get? key := by
  unfold Builder.addLabel at h
  cases hlabel : builder.label? with
  | none =>
      rw [hlabel] at h
      rw [Except.ok.inj h]
  | some label =>
      rw [hlabel] at h
      dsimp only at h
      cases hfind : label.find source with
      | error error =>
          rw [hfind] at h
          cases h
      | ok value =>
          rw [hfind] at h
          rw [← Except.ok.inj h]
          exact Dict.get?_set_of_ne _ _ (hkey label hlabel)

/-- What a builder's dict has under each key, the label's aside. -/
theorem Builder.get?_build {builder : Builder} {source out : Dict (DictValue α)}
    (has : ∀ key ∈ builder.copied, (source.get? key).isSome)
    (h : builder.build source = .ok out) {key : String}
    (hkey : ∀ label ∈ builder.label?, key ≠ label.key) :
    out.get? key = if key ∈ builder.copied ++ builder.present then source.get? key else none := by
  obtain ⟨copies, hcopies, hget⟩ := Dict.copyKeys_ok has Dict.empty
  unfold Builder.build at h
  rw [hcopies, Raise.ok_bind] at h
  cases hlabelled : builder.addLabel source copies with
  | error error =>
      rw [hlabelled] at h
      cases h
  | ok labelled =>
      rw [hlabelled] at h
      have hcopied : labelled.get? key = if key ∈ builder.copied then source.get? key else none := by
        rw [Builder.get?_addLabel hlabelled hkey, hget]
        rfl
      rw [← Except.ok.inj h, Dict.get?_copyPresent, hcopied]
      by_cases hpresent : key ∈ builder.present
      · rw [if_pos hpresent, if_pos (List.mem_append_right _ hpresent)]
        split
        · exact Option.or_self
        · exact Option.or_none
      · rw [if_neg hpresent]
        simp only [List.mem_append, hpresent, or_false]

/-- A dict that agrees with the last one on all its keys and has at most one other key. -/
theorem extends_of_same {keys optional more : List String} {source out : Dict (DictValue α)}
    (hwithin : Within (keys ++ optional) source) (hmore : more.length ≤ 1)
    (hsame : ∀ key ∈ keys ++ optional, out.get? key = source.get? key)
    (hnew : ∀ key, key ∉ keys ++ optional → out.get? key ≠ none → key ∈ more) :
    Extends optional source out ∧ Within ((keys ++ more) ++ optional) out := by
  -- a key that was not there is the other one
  have hadded : ∀ key, source.get? key = none → out.get? key ≠ none → key ∈ more := by
    intro key hnone hout
    refine hnew key (fun hkey => hout ?_) hout
    rw [hsame key hkey, hnone]
  refine ⟨⟨?_, ?_, ?_⟩, ?_⟩
  · intro key value hvalue
    rw [hsame key (hwithin key (by rw [hvalue]; simp)), hvalue]
  · intro key hkey hnone
    rw [hsame key (List.mem_append_right _ hkey), hnone]
  · intro key key' hnone hout hnone' hout'
    obtain ⟨single, hsingle⟩ := List.length_eq_one_iff.mp
      (Nat.le_antisymm hmore (List.length_pos_of_mem (hadded key hnone hout)))
    have hkey := hadded key hnone hout
    have hkey' := hadded key' hnone' hout'
    rw [hsingle, List.mem_singleton] at hkey hkey'
    rw [hkey, hkey']
  · intro key hout
    by_cases hkey : key ∈ keys ++ optional
    · rcases List.mem_append.mp hkey with hold | hoptional
      · exact List.mem_append_left _ (List.mem_append_left _ hold)
      · exact List.mem_append_right _ hoptional
    · exact List.mem_append_left _ (List.mem_append_right _ (hnew key hkey hout))

/-- A builder that copies all that there is loses nothing and adds its label at most. -/
theorem Builder.extends_of_build {builder : Builder} {source out : Dict (DictValue α)}
    (has : ∀ key ∈ builder.copied, (source.get? key).isSome)
    (hwithin : Within (builder.copied ++ builder.present) source)
    (h : builder.build source = .ok out) :
    Extends builder.present source out ∧ Within (builder.keys ++ builder.present) out := by
  refine extends_of_same hwithin ?_ ?_ ?_
  · cases builder.label? <;> simp
  · intro key hkey
    rw [Builder.get?_build has h, if_pos hkey]
    rintro label hlabel rfl
    exact builder.fresh label hlabel hkey
  · intro key hkey hout
    by_contra hother
    refine hout ?_
    rw [Builder.get?_build has h, if_neg hkey]
    rintro label hlabel rfl
    exact hother (List.mem_map_of_mem (Option.mem_toList.mpr hlabel))

/-- The keys after a pipeline. -/
def lastKeys : List String → List Builder → List String
  | keys, [] => keys
  | _, builder :: rest => lastKeys builder.keys rest

/-- No builder of a pipeline that follows its labels raises or loses anything. -/
theorem chain_of_relabel {builders : List Builder} {keys optional : List String}
    {source : Dict (DictValue α)} {labels last : List (String × String)}
    (hlinked : Linked keys builders) (hoptional : ∀ builder ∈ builders, builder.present = optional)
    (h : Carries source keys labels) (hwithin : Within (keys ++ optional) source)
    (hl : relabel builders labels = some last) :
    ∃ out, Stages.Chain (Extends optional) (builders.map Builder.build) source out ∧
      Carries out (lastKeys keys builders) last ∧
      Within (lastKeys keys builders ++ optional) out := by
  induction builders generalizing keys source labels with
  | nil =>
      rw [← Option.some.inj hl]
      exact ⟨source, .nil source, h, hwithin⟩
  | cons builder rest ih =>
      obtain ⟨hcopied, hrest⟩ := hlinked
      subst hcopied
      have hpresent := hoptional builder List.mem_cons_self
      subst hpresent
      obtain ⟨next, hnext, hl⟩ := Option.bind_eq_some_iff.mp hl
      obtain ⟨built, hbuilt, hcarries, -⟩ := Builder.build_of_relabel h hnext
      obtain ⟨hextends, hbuiltWithin⟩ := Builder.extends_of_build h.has hwithin hbuilt
      obtain ⟨out, hchain, hlast⟩ := ih hrest
        (fun other hother => hoptional other (List.mem_cons_of_mem _ hother)) hcarries hbuiltWithin hl
      exact ⟨out, .cons hbuilt hextends hchain, hlast⟩

end Relabel
