import Mathlib.Data.List.Sort
import CodexOrchestrator.Schemas

/-!
# Documents — JSON values up to the order of object keys

A JSONB column gives a document back with its object keys in an order of its own.  Two documents are
the same when they agree after their keys are sorted, at every level; a reader that asks for a key,
or for a value of one kind, cannot tell such documents apart.
-/

namespace CodexOrchestrator

/-- The order of object keys in JSONB: shorter ones first, then bytewise. -/
def KeyLe (a b : String) : Prop :=
  a.utf8ByteSize < b.utf8ByteSize ∨ a.utf8ByteSize = b.utf8ByteSize ∧ a ≤ b

instance (a b : String) : Decidable (KeyLe a b) := inferInstanceAs (Decidable (_ ∨ _ ∧ _))

/-- Entries in the order of their keys; entries of one key keep their order. -/
def sortFields {α : Type} : List (String × α) → List (String × α) :=
  List.insertionSort fun a b => KeyLe a.1 b.1

mutual

/-- The document with the keys of every object sorted. -/
def Json.canon : Json → Json
  | .null => .null
  | .bool b => .bool b
  | .num q => .num q
  | .str s => .str s
  | .arr items => .arr (canonItems items)
  | .obj fields => .obj (sortFields (canonFields fields))

def canonItems : List Json → List Json
  | [] => []
  | item :: rest => item.canon :: canonItems rest

def canonFields : List (String × Json) → List (String × Json)
  | [] => []
  | (key, value) :: rest => (key, value.canon) :: canonFields rest

end

/-- The same for a `dict[str, Any]`. -/
def canonDict (fields : JsonDict) : JsonDict := sortFields (canonFields fields)

/-- Equal up to the order of object keys. -/
def Json.Same (document document' : Json) : Prop := document.canon = document'.canon

/-! ## Readers -/

namespace Json

/-- `document[key]` of an object. -/
def get? (document : Json) (key : String) : Option Json :=
  match document with
  | .obj fields => fields.lookup key
  | _ => none

def text? : Json → Option String
  | .str s => some s
  | _ => none

/-- A field of type `str | None`. -/
def optionalText? : Json → Option (Option String)
  | .null => some none
  | .str s => some (some s)
  | _ => none

def flag? : Json → Option Bool
  | .bool b => some b
  | _ => none

def items? : Json → Option (List Json)
  | .arr items => some items
  | _ => none

def fields? : Json → Option JsonDict
  | .obj fields => some fields
  | _ => none

/-- A field of type `list[str]`. -/
def texts? (document : Json) : Option (List String) :=
  document.items?.bind fun items => items.mapM text?

/-- `bool(document)`. -/
def truthy : Json → Bool
  | .null => false
  | .bool b => b
  | .num q => q ≠ 0
  | .str s => s ≠ ""
  | .arr items => !items.isEmpty
  | .obj fields => !fields.isEmpty

/-- `document or default`. -/
def orDefault (document default : Json) : Json := if document.truthy then document else default

end Json

/-! ## The readers do not see the order -/

section Sorting

variable {α : Type}

theorem KeyLe.refl (key : String) : KeyLe key key := .inr ⟨rfl, String.le_refl key⟩

theorem KeyLe.total (a b : String) : KeyLe a b ∨ KeyLe b a := by
  rcases Nat.lt_trichotomy a.utf8ByteSize b.utf8ByteSize with h | h | h
  · exact .inl (.inl h)
  · rcases String.le_total a b with hle | hle
    · exact .inl (.inr ⟨h, hle⟩)
    · exact .inr (.inr ⟨h.symm, hle⟩)
  · exact .inr (.inl h)

theorem KeyLe.trans {a b c : String} (h : KeyLe a b) (h' : KeyLe b c) : KeyLe a c := by
  rcases h with h | ⟨h, hle⟩ <;> rcases h' with h' | ⟨h', hle'⟩
  · exact .inl (h.trans h')
  · exact .inl (h' ▸ h)
  · exact .inl (h ▸ h')
  · exact .inr ⟨h.trans h', String.le_trans hle hle'⟩

theorem sortFields_perm (fields : List (String × α)) : (sortFields fields).Perm fields :=
  List.perm_insertionSort _ fields

theorem lookup_orderedInsert (key : String) (entry : String × α) (fields : List (String × α)) :
    (fields.orderedInsert (fun a b => KeyLe a.1 b.1) entry).lookup key =
      (entry :: fields).lookup key := by
  induction fields with
  | nil => rfl
  | cons other rest ih =>
      rw [List.orderedInsert_cons]
      split
      · rfl
      · rename_i hlater
        -- the entry passes only entries of other keys
        have hne : entry.1 ≠ other.1 := fun he => hlater (he ▸ KeyLe.refl _)
        rw [List.lookup_cons, ih, List.lookup_cons, List.lookup_cons, List.lookup_cons]
        by_cases hkey : key = entry.1
        · subst hkey
          rw [beq_self_eq_true, beq_false_of_ne hne]
        · rw [beq_false_of_ne hkey]

theorem lookup_sortFields (key : String) (fields : List (String × α)) :
    (sortFields fields).lookup key = fields.lookup key := by
  induction fields with
  | nil => rfl
  | cons entry rest ih =>
      rw [sortFields, List.insertionSort_cons, lookup_orderedInsert, List.lookup_cons,
        List.lookup_cons]
      split
      · rfl
      · exact ih

theorem sortFields_sortFields (fields : List (String × α)) :
    sortFields (sortFields fields) = sortFields fields := by
  have : Std.Total fun a b : String × α => KeyLe a.1 b.1 := ⟨fun a b => KeyLe.total _ _⟩
  have : IsTrans (String × α) fun a b => KeyLe a.1 b.1 := ⟨fun a b c => KeyLe.trans⟩
  exact (List.pairwise_insertionSort _ fields).insertionSort_eq

end Sorting

theorem lookup_canonFields (key : String) (fields : JsonDict) :
    (canonFields fields).lookup key = (fields.lookup key).map Json.canon := by
  induction fields with
  | nil => rw [canonFields, List.lookup_nil, Option.map_none]
  | cons entry rest ih =>
      obtain ⟨name, value⟩ := entry
      rw [canonFields, List.lookup_cons, List.lookup_cons]
      split
      · rw [Option.map_some]
      · exact ih

theorem canonFields_eq_map (fields : JsonDict) :
    canonFields fields = fields.map fun entry => (entry.1, entry.2.canon) := by
  induction fields with
  | nil => rw [canonFields, List.map_nil]
  | cons entry rest ih => rw [canonFields, List.map_cons, ih]

theorem canonFields_sortFields (fields : JsonDict) :
    canonFields (sortFields fields) = sortFields (canonFields fields) := by
  rw [canonFields_eq_map, canonFields_eq_map]
  exact List.map_insertionSort _ _ _ fields fun _ _ _ _ => Iff.rfl

theorem canonItems_eq_map (items : List Json) : canonItems items = items.map Json.canon := by
  induction items with
  | nil => rw [canonItems, List.map_nil]
  | cons item rest ih => rw [canonItems, List.map_cons, ih]

namespace Json

theorem get?_canon (document : Json) (key : String) :
    document.canon.get? key = (document.get? key).map canon := by
  cases document with
  | obj fields =>
      rw [canon, get?, lookup_sortFields, lookup_canonFields]
      rfl
  | _ => simp only [canon, get?, Option.map_none]

theorem text?_canon (document : Json) : document.canon.text? = document.text? := by
  cases document <;> simp only [canon, text?]

theorem optionalText?_canon (document : Json) :
    document.canon.optionalText? = document.optionalText? := by
  cases document <;> simp only [canon, optionalText?]

theorem flag?_canon (document : Json) : document.canon.flag? = document.flag? := by
  cases document <;> simp only [canon, flag?]

theorem items?_canon (document : Json) : document.canon.items? = document.items?.map canonItems := by
  cases document <;> simp only [canon, items?, Option.map_none, Option.map_some]

theorem fields?_canon (document : Json) : document.canon.fields? = document.fields?.map canonDict := by
  cases document <;> simp only [canon, fields?, Option.map_none, Option.map_some, canonDict]

theorem texts?_canon (document : Json) : document.canon.texts? = document.texts? := by
  have htexts : ∀ items : List Json, (canonItems items).mapM text? = items.mapM text? := by
    intro items
    rw [canonItems_eq_map]
    induction items with
    | nil => rfl
    | cons item rest ih => rw [List.map_cons, List.mapM_cons, List.mapM_cons, text?_canon, ih]
  rw [texts?, texts?, items?_canon, Option.bind_map]
  exact Option.bind_congr fun items _ => htexts items

theorem truthy_canon (document : Json) : document.canon.truthy = document.truthy := by
  cases document with
  | arr items =>
      rw [canon, truthy, truthy, canonItems_eq_map, List.isEmpty_map]
  | obj fields =>
      have hperm := (sortFields_perm (canonFields fields)).isEmpty_eq
      rw [canon, truthy, truthy, hperm]
      cases fields with
      | nil => rfl
      | cons entry rest => rfl
  | _ => simp only [canon, truthy]

theorem Same.of_reader {β : Type} {read : Json → β} (hread : ∀ document, read document.canon =
    read document) {document document' : Json} (h : document.Same document') :
    read document = read document' := by
  rw [← hread document, h, hread]

end Json

/-! ## Sorting again -/

mutual

theorem Json.canon_canon : ∀ document : Json, document.canon.canon = document.canon
  | .null => rfl
  | .bool _ => rfl
  | .num _ => rfl
  | .str _ => rfl
  | .arr items => by rw [Json.canon, Json.canon, canonItems_canonItems items]
  | .obj fields => by
      rw [Json.canon, Json.canon, canonFields_sortFields, canonFields_canonFields fields,
        sortFields_sortFields]

theorem canonItems_canonItems : ∀ items : List Json, canonItems (canonItems items) = canonItems items
  | [] => rfl
  | item :: rest => by
      rw [canonItems, canonItems, Json.canon_canon item, canonItems_canonItems rest]

theorem canonFields_canonFields : ∀ fields : List (String × Json),
    canonFields (canonFields fields) = canonFields fields
  | [] => rfl
  | (key, value) :: rest => by
      rw [canonFields, canonFields, Json.canon_canon value, canonFields_canonFields rest]

end

/-- A document with its keys sorted is the document. -/
theorem Json.canon_same (document : Json) : document.canon.Same document := document.canon_canon

end CodexOrchestrator
