import CodexOrchestrator.Lib.Lines
import CodexOrchestrator.Lib.Regex

/-!
# JoinedLines — a text as the lines that it is joined from

`"\n".join(lines)` on characters, where a place in the text is a line and a place in it, and what the
operations on strings make of such a text.
-/

namespace PyText

/-! ## Joining -/

/-- Lines behind others: each has a line break in front of it. -/
def linesBelow (lines : List (List Char)) : List Char := lines.flatMap fun line => '\n' :: line

/-- `"\n".join(lines)`. -/
def joinLines : List (List Char) → List Char
  | [] => []
  | line :: below => line ++ linesBelow below

/-- A line with something on it, and no white space at its ends. -/
structure Trimmed (line : List Char) : Prop where
  ne : line ≠ []
  head : ∀ c ∈ line.head?, ¬ isSpace c = true
  last : ∀ c ∈ line.getLast?, ¬ isSpace c = true

instance (line : List Char) : Decidable (Trimmed line) :=
  have hends : ∀ c? : Option Char, c?.all (fun c => !isSpace c) = true ↔
      ∀ c ∈ c?, ¬ isSpace c = true := fun c? => by cases c? <;> simp
  decidable_of_iff (line ≠ [] ∧ line.head?.all (fun c => !isSpace c) = true ∧
      line.getLast?.all (fun c => !isSpace c) = true) <| by
    rw [hends, hends]
    exact ⟨fun ⟨hne, hhead, hlast⟩ => ⟨hne, hhead, hlast⟩, fun h => ⟨h.ne, h.head, h.last⟩⟩

theorem Trimmed.stripChars {line : List Char} (h : Trimmed line) : stripChars line = line :=
  stripChars_eq_self h.head h.last

/-- What begins with one trimmed line and ends with another is trimmed. -/
theorem Trimmed.append {front back : List Char} (hfront : Trimmed front) (hback : Trimmed back)
    (middle : List Char) : Trimmed (front ++ (middle ++ back)) := by
  refine ⟨List.append_ne_nil_of_left_ne_nil hfront.ne _, fun c hc => ?_, fun c hc => ?_⟩
  · rw [List.head?_append_of_ne_nil _ hfront.ne] at hc
    exact hfront.head c hc
  · rw [← List.append_assoc, List.getLast?_append_of_ne_nil _ hback.ne] at hc
    exact hback.last c hc

/-- A text without the first character of `old` has no occurrence of it. -/
theorem replaceChars_of_not_mem {c : Char} {l : List Char} (h : c ∉ l) (more new : List Char) :
    Regex.replaceChars (c :: more) new 0 l = l := by
  induction l with
  | nil => rfl
  | cons d rest ih =>
      rw [List.mem_cons, not_or] at h
      have hprefix : ¬ (c :: more).isPrefixOf (d :: rest) = true := by
        simp [List.isPrefixOf, h.1]
      rw [Regex.replaceChars, if_neg hprefix, ih h.2]

end PyText
