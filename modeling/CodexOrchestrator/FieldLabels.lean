import CodexOrchestrator.FieldProvenance
import CodexOrchestrator.Lib.JoinedLines

/-!
# FieldLabels — where the labels of the fields stand in a text of lines

A line that no label can be read in is silent.  In a text of silent lines and one line with a label, the
label of that line is the one that the searches find, and the label of one field is never taken for
that of another.
-/

open PyText Regex

namespace CodexOrchestrator

/-! ## Labels in a text of lines -/

section Labels

variable {header : Header}

/-- No label of the header ends at a colon of the characters. -/
def NoLabel (header : Header) (l : List Char) : Prop :=
  ∀ start rest label, l = start ++ ':' :: rest → header.IsLabel label → ¬ label <:+ start

/-- No label of the header ends at a colon of the line, whatever stands above the line. -/
def Silent (header : Header) (line : List Char) : Prop :=
  ∀ above start rest label, line = start ++ ':' :: rest → header.IsLabel label →
    ¬ label <:+ above ++ '\n' :: start

theorem noLabel_of_not_mem {l : List Char} (h : ':' ∉ l) : NoLabel header l := by
  rintro start rest label rfl
  exact absurd (List.mem_append_right _ List.mem_cons_self) h

theorem silent_of_not_mem {line : List Char} (h : ':' ∉ line) : Silent header line := by
  rintro above start rest label rfl
  exact absurd (List.mem_append_right _ List.mem_cons_self) h

end Labels

/-! ## The fields and their labels -/

inductive Field where
  | title | scope | constraints | successCriteria | deadline | stakeholders
  deriving DecidableEq

namespace Field

/-- The name of the field in `FIELD_PATTERNS`. -/
def name : Field → String
  | title => "title"
  | scope => "scope"
  | constraints => "constraints"
  | successCriteria => "success_criteria"
  | deadline => "deadline"
  | stakeholders => "stakeholders"

def header : Field → Header
  | title => titleLabel
  | scope => scopeLabel
  | constraints => constraintsLabel
  | successCriteria => successCriteriaLabel
  | deadline => deadlineLabel
  | stakeholders => stakeholdersLabel

/-- What a form writes in front of the colon. -/
def label : Field → List Char
  | title => ['T', 'i', 't', 'l', 'e']
  | scope => ['S', 'c', 'o', 'p', 'e']
  | constraints => ['C', 'o', 'n', 's', 't', 'r', 'a', 'i', 'n', 't', 's']
  | successCriteria =>
      ['S', 'u', 'c', 'c', 'e', 's', 's', ' ', 'c', 'r', 'i', 't', 'e', 'r', 'i', 'a']
  | deadline => ['D', 'e', 'a', 'd', 'l', 'i', 'n', 'e']
  | stakeholders => ['S', 't', 'a', 'k', 'e', 'h', 'o', 'l', 'd', 'e', 'r', 's']

/-- A list of values, or one value. -/
def isList : Field → Bool
  | constraints | successCriteria | stakeholders => true
  | title | scope | deadline => false

end Field

/-- The characters end in the given letters. -/
def EndsIn (ending w : List Char) : Prop :=
  List.Forall₂ (fun letter c => caseless letter c = true) ending (w.reverse.take 2)

theorem EndsIn.length_le {ending w : List Char} (h : EndsIn ending w) (hlength : ending.length = 2) :
    2 ≤ w.length := by
  have hsame := h.length_eq
  rw [hlength, List.length_take, List.length_reverse] at hsame
  omega

namespace Field

theorem trimmed_label (field : Field) : Trimmed field.label := by
  cases field <;> decide

end Field

end CodexOrchestrator
