import CodexOrchestrator.FieldLabels

/-!
# IntakeForms — requests in the form that the intake asks for

A form has a line `Label: value` for each field that it fills, a list on one line or as bullets below
its label, and other lines, in any order.  The brief that the intake builds of its text has the values
of the form, and asks for the fields that it left out.
-/

open PyText Regex

namespace CodexOrchestrator

/-! ## Forms -/

/-- What the request is not rewritten in: no line break, and no escape of one. -/
def PlainChars (l : List Char) : Prop := ∀ c ∈ l, ¬ isLineBreak c = true ∧ c ≠ '`'

instance (l : List Char) : Decidable (PlainChars l) :=
  decidable_of_iff (l.all fun c => !isLineBreak c && c != '`') <| by
    rw [List.all_eq_true, PlainChars]
    simp

theorem plainChars_append {l l' : List Char} :
    PlainChars (l ++ l') ↔ PlainChars l ∧ PlainChars l' :=
  List.forall_mem_append

theorem plainChars_cons {c : Char} {l : List Char} :
    PlainChars (c :: l) ↔ (¬ isLineBreak c = true ∧ c ≠ '`') ∧ PlainChars l :=
  List.forall_mem_cons

/-- A text on one line, without the escapes of a line break that the intake rewrites. -/
structure IsLine (text : String) : Prop extends Trimmed text.toList where
  single : PlainChars text.toList

/-- A character that a list on one line is split at. -/
def isSeparator (c : Char) : Bool := c ∈ [',', ';']

inductive Entry where
  | value (field : Field) (text : String)
  | inline (field : Field) (items : List String)
  | bullets (field : Field) (items : List String)
  /-- A line for no field. -/
  | prose (line : String)

namespace Entry

def field? : Entry → Option Field
  | value field _ => some field
  | inline field _ => some field
  | bullets field _ => some field
  | prose _ => none

/-- The lines that the entry is written on. -/
def lines : Entry → List (List Char)
  | value field text => [field.label ++ ':' :: ' ' :: text.toList]
  | inline field items => [field.label ++ ':' :: ' ' :: (join ", " items).toList]
  | bullets field items =>
      (field.label ++ ':' :: []) :: items.map fun item => '-' :: ' ' :: item.toList
  | prose line => [line.toList]

/-- The texts of the entry are lines, in which no label can be read, and which can be told from what
    stands around them. -/
def Valid : Entry → Prop
  | value field text =>
      field.isList = false ∧ IsLine text ∧ ∀ other : Field, NoLabel other.header text.toList
  | inline field items =>
      field.isList = true ∧ items ≠ [] ∧ items.Nodup ∧
      (∀ item ∈ items, IsLine item ∧ ∀ c ∈ item.toList, isSeparator c = false) ∧
      ∀ other : Field, NoLabel other.header (join ", " items).toList
  | bullets field items =>
      field.isList = true ∧ items ≠ [] ∧ items.Nodup ∧
      ∀ item ∈ items, IsLine item ∧
        ∀ other : Field, Silent other.header ('-' :: ' ' :: item.toList)
  | prose line =>
      IsLine line ∧ ¬ IsBullet line.toList ∧ ∀ other : Field, Silent other.header line.toList

variable {entry : Entry} {field : Field}

/-- Items on one line make a line. -/
theorem isLine_join {items : List String} (hne : items ≠ []) (h : ∀ item ∈ items, IsLine item) :
    IsLine (join ", " items) := by
  induction items with
  | nil => exact absurd rfl hne
  | cons item more ih =>
      rw [List.forall_mem_cons] at h
      cases more with
      | nil => exact h.1
      | cons next more =>
          have hmore := ih (List.cons_ne_nil _ _) h.2
          have hjoin : (join ", " (item :: next :: more)).toList =
              item.toList ++ ([',', ' '] ++ (join ", " (next :: more)).toList) := by
            rw [join, String.toList_append, String.toList_append, List.append_assoc]
            · rfl
            · exact List.cons_ne_nil _ _
          refine ⟨hjoin ▸ h.1.append hmore.toTrimmed [',', ' '], ?_⟩
          rw [hjoin]
          refine plainChars_append.mpr ⟨h.1.single, plainChars_append.mpr ⟨?_, hmore.single⟩⟩
          decide

theorem Valid.line (h : entry.Valid) :
    ∀ line ∈ entry.lines, Trimmed line ∧ PlainChars line := by
  have hlabel : ∀ field : Field, PlainChars field.label := by
    intro field
    cases field <;> decide
  have hown : ∀ (field : Field) {text : String}, IsLine text →
      Trimmed (field.label ++ ':' :: ' ' :: text.toList) ∧
        PlainChars (field.label ++ ':' :: ' ' :: text.toList) := fun field text htext =>
    ⟨field.trimmed_label.append htext.toTrimmed [':', ' '], plainChars_append.mpr ⟨hlabel field,
      plainChars_cons.mpr ⟨by decide, plainChars_cons.mpr ⟨by decide, htext.single⟩⟩⟩⟩
  intro line hmem
  cases entry with
  | value field text =>
      rw [List.mem_singleton.mp hmem]
      exact hown field h.2.1
  | inline field items =>
      rw [List.mem_singleton.mp hmem]
      exact hown field (isLine_join h.2.1 fun item hitem => (h.2.2.2.1 item hitem).1)
  | prose text =>
      rw [List.mem_singleton.mp hmem]
      exact ⟨h.1.toTrimmed, h.1.single⟩
  | bullets field items =>
      have hcolon : Trimmed [':'] := by decide
      rcases List.mem_cons.mp hmem with rfl | hmem
      · exact ⟨field.trimmed_label.append hcolon [], plainChars_append.mpr ⟨hlabel field,
          plainChars_cons.mpr ⟨by decide, fun _ hc => absurd hc List.not_mem_nil⟩⟩⟩
      · obtain ⟨item, hitem, rfl⟩ := List.mem_map.mp hmem
        have hline := (h.2.2.2 item hitem).1
        have hdash : Trimmed ['-'] := by decide
        exact ⟨hdash.append hline.toTrimmed [' '], plainChars_cons.mpr ⟨by decide,
          plainChars_cons.mpr ⟨by decide, hline.single⟩⟩⟩

end Entry

/-- Entries with at most one for each field. -/
structure Form where
  entries : List Entry
  ne : entries ≠ []
  valid : ∀ entry ∈ entries, entry.Valid
  distinct : (entries.filterMap Entry.field?).Nodup

namespace Form

variable (form : Form)

def lines : List (List Char) := form.entries.flatMap Entry.lines

def render : String := String.ofList (joinLines form.lines)

variable {form} {field : Field} {entry : Entry}

/-- The field's entry, with the lines above it and below it. -/
structure Place (form : Form) (field : Field) (entry : Entry) (above below : List (List Char)) :
    Prop where
  lines : form.lines = above ++ (entry.lines ++ below)
  silentAbove : ∀ line ∈ above, Silent field.header line
  silentBelow : ∀ line ∈ below, Silent field.header line
  ends : ∀ line ∈ below.head?, ¬ IsBullet line

section Searches

variable {above below more : List (List Char)} {rest : List Char} {goes : List Char → Prop}

end Searches

end Form

/-! ## The brief of a form -/

namespace Entry

/-- The value that the entry gives the field. -/
def value? (field : Field) : Entry → Option String
  | value other text => if other = field then some text else none
  | inline _ _ | bullets _ _ | prose _ => none

/-- The items that the entry gives the field. -/
def items? (field : Field) : Entry → Option (List String)
  | inline other items | bullets other items => if other = field then some items else none
  | value _ _ | prose _ => none

variable {entry : Entry} {field : Field}

/-- The entry of a field gives it its value or its items. -/
theorem Valid.isSome (h : entry.Valid) (hfield : entry.field? = some field) :
    (field.isList = false ∧ (entry.value? field).isSome) ∨
      field.isList = true ∧ (entry.items? field).isSome := by
  cases entry with
  | prose line => cases hfield
  | value other text =>
      cases hfield
      exact .inl ⟨h.1, by rw [value?, if_pos rfl]; rfl⟩
  | inline other items =>
      cases hfield
      exact .inr ⟨h.1, by rw [items?, if_pos rfl]; rfl⟩
  | bullets other items =>
      cases hfield
      exact .inr ⟨h.1, by rw [items?, if_pos rfl]; rfl⟩

end Entry

namespace Form

variable (form : Form) (field : Field)

/-- The fields that the form fills. -/
def fields : List Field := form.entries.filterMap Entry.field?

/-- The value of the form for a field. -/
def value? : Option String := form.entries.findSome? (Entry.value? field)

/-- The items of the form for a field. -/
def items : List String := (form.entries.findSome? (Entry.items? field)).getD []

/-- The brief that the form stands for. -/
def brief : ProjectBrief where
  title := form.value? .title
  objective := form.render
  scope := form.value? .scope
  constraints := form.items .constraints
  successCriteria := form.items .successCriteria
  deadline := form.value? .deadline
  stakeholders := form.items .stakeholders
  assumptions := ["Unspecified fields remain unset until user clarification.",
    "This brief is a draft and not final project approval."]
  rawRequest := form.render

variable {form} {field}

/-- A form with every kind of entry. -/
def sample : Form where
  entries := [.prose "Build an intake.", .bullets .constraints ["no cloud", "2 weeks, at most"],
    .value .scope "docs", .inline .stakeholders ["ops", "legal"]]
  ne := by decide
  valid := by
    have hline : ∀ text ∈ ["Build an intake.", "no cloud", "2 weeks, at most", "docs", "ops", "legal"],
        IsLine text := fun text htext => ⟨by revert text; decide, by revert text; decide⟩
    have hplain : ∀ item : String, item.toList.any isSeparator = false →
        ∀ c ∈ item.toList, isSeparator c = false := fun item h c hc =>
      Bool.eq_false_iff.mpr (List.any_eq_false.mp h c hc)
    have hprose : ¬ IsBullet "Build an intake.".toList := fun ⟨w, hw, rest, hsplit⟩ =>
      (ends_bullet hw rest).1 (by rw [← hsplit]; rfl)
    simp only [List.forall_mem_cons, List.not_mem_nil, false_implies, implies_true, and_true,
      Entry.Valid]
    refine ⟨⟨hline _ (by decide), hprose, fun other => silent_of_not_mem (by decide)⟩,
      ⟨rfl, by decide, by decide, ⟨hline _ (by decide), fun other => silent_of_not_mem (by decide)⟩,
        hline _ (by decide), fun other => silent_of_not_mem (by decide)⟩,
      ⟨rfl, hline _ (by decide), fun other => noLabel_of_not_mem (by decide)⟩,
      rfl, by decide, by decide, ⟨⟨hline _ (by decide), hplain _ (by decide)⟩,
        hline _ (by decide), hplain _ (by decide)⟩, fun other => noLabel_of_not_mem (by decide)⟩
  distinct := by decide

example : sample.render = "Build an intake.\nConstraints:\n- no cloud\n- 2 weeks, at most\n" ++
    "Scope: docs\nStakeholders: ops, legal" := by decide

end Form

end CodexOrchestrator
