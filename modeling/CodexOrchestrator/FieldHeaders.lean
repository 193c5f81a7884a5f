import CodexOrchestrator.LabelSites

/-!
# FieldHeaders — the headers of the fields of a brief

Five headers are words of letters.  The header of the success criteria has two words with a gap
between them, which may hold line breaks.
-/

open PyText Regex

namespace CodexOrchestrator

/-! ## Words -/

/-- `[\s_-]`: what may stand between two words of a header. -/
def isGap (c : Char) : Bool := isSpace c || c == '_' || c == '-'

/-- A lower-case ASCII letter. -/
def isLetter (c : Char) : Bool := 97 ≤ c.toNat && c.toNat ≤ 122

theorem caseless_range {letter c : Char} (hletter : isLetter letter = true)
    (h : caseless letter c = true) :
    (65 ≤ c.toNat ∧ c.toNat ≤ 90) ∨ (97 ≤ c.toNat ∧ c.toNat ≤ 122) ∨ c.toNat = 0x130 ∨
      c.toNat = 0x131 ∨ c.toNat = 0x17F ∨ c.toNat = 0x212A := by
  simp only [isLetter, Bool.and_eq_true, decide_eq_true_eq] at hletter
  simp only [caseless, Bool.or_eq_true, Bool.and_eq_true, beq_iff_eq] at h
  rcases h with ((hlower | ⟨-, h⟩) | ⟨-, h⟩) | ⟨-, h⟩
  · have hnat := congrArg Char.toNat hlower
    rw [toNat_toLower] at hnat
    split at hnat <;> omega
  · omega
  · omega
  · omega

/-- A character of a header's word. -/
def Solid (c : Char) : Prop := ¬ isGap c = true ∧ c ≠ ':'

theorem Solid.not_isSpace {c : Char} (h : Solid c) : ¬ isSpace c = true := fun hspace =>
  h.1 (by rw [isGap, hspace]; rfl)

theorem solid_of_caseless {letter c : Char} (hletter : isLetter letter = true)
    (h : caseless letter c = true) : Solid c := by
  have hrange := caseless_range hletter h
  refine ⟨fun hgap => ?_, ?_⟩
  · simp only [isGap, Bool.or_eq_true, beq_iff_eq] at hgap
    rcases hgap with (hspace | rfl) | rfl
    · rw [isSpace_iff] at hspace
      omega
    · revert hrange
      decide
    · revert hrange
      decide
  · rintro rfl
    revert hrange
    decide

theorem plain_sequence {patterns : List Pattern} (h : ∀ pattern ∈ patterns, pattern.Plain) :
    (Pattern.sequence patterns).Plain := by
  induction patterns with
  | nil => trivial
  | cons first rest ih =>
      have hfirst := h first List.mem_cons_self
      cases rest with
      | nil => exact hfirst
      | cons second rest => exact ⟨hfirst, ih fun p hp => h p (List.mem_cons_of_mem _ hp)⟩

theorem plain_word (letters : String) : (word letters).Plain := by
  refine plain_sequence fun pattern hpattern => ?_
  obtain ⟨letter, -, rfl⟩ := List.mem_map.mp hpattern
  trivial

/-- The characters spell the word. -/
theorem mem_language_word {letters : String} {w : List Char} : w ∈ (word letters).language ↔
    List.Forall₂ (fun letter c => caseless letter c = true) letters.toList w := by
  rw [word]
  induction letters.toList generalizing w with
  | nil =>
      rw [List.forall₂_nil_left_iff]
      show w ∈ (Pattern.star (.char fun _ => false)).language ↔ _
      rw [mem_language_star_char, List.eq_nil_iff_forall_not_mem]
      simp
  | cons letter rest ih =>
      cases rest with
      | nil =>
          show w ∈ (Pattern.char (caseless letter)).language ↔ _
          rw [mem_language_char, List.forall₂_cons_left_iff]
          simp [List.forall₂_nil_left_iff]
      | cons second rest =>
          rw [List.forall₂_cons_left_iff]
          show w ∈ (Pattern.seq (.char (caseless letter)) _).language ↔ _
          simp only [mem_language_seq, mem_language_char]
          constructor
          · rintro ⟨_, ⟨c, hc, rfl⟩, more, hmore, rfl⟩
            exact ⟨c, more, hc, ih.mp hmore, rfl⟩
          · rintro ⟨c, more, hc, hmore, rfl⟩
            exact ⟨[c], ⟨c, hc, rfl⟩, more, ih.mpr hmore, rfl⟩

/-- A word is as long as its letters, and all of it is solid. -/
theorem length_of_mem_word {letters : String} {w : List Char} (h : w ∈ (word letters).language) :
    w.length = letters.length := by
  rw [← String.length_toList]
  exact (mem_language_word.mp h).length_eq.symm

theorem solid_of_mem_word {letters : String} (hletters : letters.toList.all isLetter = true)
    {w : List Char} (h : w ∈ (word letters).language) : ∀ c ∈ w, Solid c := by
  rw [List.all_eq_true] at hletters
  rw [mem_language_word] at h
  generalize letters.toList = spelled at hletters h
  induction h with
  | nil => exact fun c hc => absurd hc List.not_mem_nil
  | cons hfirst hmore ih =>
      rw [List.forall_mem_cons] at hletters ⊢
      exact ⟨solid_of_caseless hletters.1 hfirst, ih hletters.2⟩

/-! ## Headers of letters -/

/-- A header whose words have no gaps. -/
def solidHeader (pattern : Pattern) (plain : pattern.Plain)
    (solid : ∀ w ∈ pattern.language, w ≠ [] ∧ ∀ c ∈ w, Solid c) : Header where
  pattern := pattern
  plain := plain
  noColon w hw hcolon := ((solid w hw).2 ':' hcolon).2 rfl
  trimmed w hw := by
    obtain ⟨hne, hsolid⟩ := solid w hw
    refine ⟨hne, stripChars_eq_self (fun c hc => ?_) fun c hc => ?_⟩
    · exact (hsolid c (List.mem_of_mem_head? hc)).not_isSpace
    · exact (hsolid c (List.mem_of_mem_getLast? hc)).not_isSpace
  unbroken w hw u v hbreak := by
    have hmem : '\n' ∈ w := by
      rw [hbreak]
      exact List.mem_append_right _ List.mem_cons_self
    exact absurd (by decide) ((solid w hw).2 _ hmem).not_isSpace

theorem ne_nil_of_mem_word {letters : String} (hne : 0 < letters.length) {w : List Char}
    (h : w ∈ (word letters).language) : w ≠ [] := by
  rw [← length_of_mem_word h] at hne
  exact List.ne_nil_of_length_pos hne

/-- `title`, `scope` and `deadline`. -/
def wordHeader (letters : String) (hletters : letters.toList.all isLetter = true)
    (hne : 0 < letters.length) : Header :=
  solidHeader (word letters) (plain_word letters) fun _ hw =>
    ⟨ne_nil_of_mem_word hne hw, solid_of_mem_word hletters hw⟩

/-- `constraints?` and `stakeholders?`. -/
def pluralHeader (letters : String) (hletters : letters.toList.all isLetter = true)
    (hne : 0 < letters.length) : Header :=
  solidHeader (.seq (word letters) (.optional (word "s"))) ⟨plain_word letters, plain_word "s"⟩ <| by
    intro w hw
    obtain ⟨stem, hstem, ending, hending, rfl⟩ := mem_language_seq.mp hw
    refine ⟨List.append_ne_nil_of_left_ne_nil (ne_nil_of_mem_word hne hstem) _, ?_⟩
    rw [List.forall_mem_append]
    refine ⟨solid_of_mem_word hletters hstem, ?_⟩
    rcases (Language.mem_add ..).mp hending with hs | hnil
    · exact solid_of_mem_word (by decide) hs
    · rw [Language.mem_one] at hnil
      exact fun c hc => absurd (hnil ▸ hc) List.not_mem_nil

def titleLabel : Header := wordHeader "title" (by decide) (by decide)

def scopeLabel : Header := wordHeader "scope" (by decide) (by decide)

def deadlineLabel : Header := wordHeader "deadline" (by decide) (by decide)

def constraintsLabel : Header := pluralHeader "constraint" (by decide) (by decide)

def stakeholdersLabel : Header := pluralHeader "stakeholder" (by decide) (by decide)

/-! ## The header with a gap -/

theorem mem_language_successCriteria {w : List Char} (h : w ∈ successCriteriaHeader.language) :
    ∃ first ∈ (word "success").language, ∃ gap, (∀ c ∈ gap, isGap c = true) ∧
      ∃ second ∈ (word "criteria").language, w = first ++ (gap ++ second) := by
  obtain ⟨first, hfirst, _, ⟨gap, hgap, second, hsecond, rfl⟩, rfl⟩ := mem_language_seq.mp h
  exact ⟨first, hfirst, gap, mem_language_star_char.mp hgap, second, hsecond, rfl⟩

/-- The letters of the header are counted: a part of it that begins after its first letter has too
    few of them to be the header again. -/
theorem countP_successCriteria {w : List Char} (h : w ∈ successCriteriaHeader.language) :
    w.countP (fun c => !isGap c) = 15 := by
  obtain ⟨first, hfirst, gap, hgap, second, hsecond, rfl⟩ := mem_language_successCriteria h
  have hword : ∀ {letters : String} {l : List Char}, letters.toList.all isLetter = true →
      l ∈ (word letters).language → l.countP (fun c => !isGap c) = letters.length := by
    intro letters l hletters hl
    rw [← length_of_mem_word hl, List.countP_eq_length]
    intro c hc
    simpa using (solid_of_mem_word hletters hl c hc).1
  have hgaps : gap.countP (fun c => !isGap c) = 0 := by
    rw [List.countP_eq_zero]
    intro c hc
    simp [hgap c hc]
  rw [List.countP_append, List.countP_append, hgaps, hword (by decide) hfirst,
    hword (by decide) hsecond]
  rfl

/-- The header begins and ends with a letter. -/
theorem ends_successCriteria {w : List Char} (h : w ∈ successCriteriaHeader.language) :
    w ≠ [] ∧ (∀ c ∈ w.head?, Solid c) ∧ ∀ c ∈ w.getLast?, Solid c := by
  obtain ⟨first, hfirst, gap, -, second, hsecond, rfl⟩ := mem_language_successCriteria h
  have hsolid := solid_of_mem_word (by decide) hfirst
  have hsolid' := solid_of_mem_word (by decide) hsecond
  have hne := ne_nil_of_mem_word (by decide) hfirst
  have hne' := ne_nil_of_mem_word (by decide) hsecond
  refine ⟨List.append_ne_nil_of_left_ne_nil hne _, fun c hc => ?_, fun c hc => ?_⟩
  · rw [List.head?_append_of_ne_nil _ hne] at hc
    exact hsolid c (List.mem_of_mem_head? hc)
  · rw [← List.append_assoc, List.getLast?_append_of_ne_nil _ hne'] at hc
    exact hsolid' c (List.mem_of_mem_getLast? hc)

def successCriteriaLabel : Header where
  pattern := successCriteriaHeader
  plain := ⟨plain_word "success", trivial, plain_word "criteria"⟩
  noColon w hw hcolon := by
    obtain ⟨first, hfirst, gap, hgap, second, hsecond, rfl⟩ := mem_language_successCriteria hw
    rcases List.mem_append.mp hcolon with hmem | hmem
    · exact (solid_of_mem_word (by decide) hfirst _ hmem).2 rfl
    · rcases List.mem_append.mp hmem with hmem | hmem
      · exact absurd (hgap _ hmem) (by decide)
      · exact (solid_of_mem_word (by decide) hsecond _ hmem).2 rfl
  trimmed w hw := by
    obtain ⟨hne, hhead, hlast⟩ := ends_successCriteria hw
    exact ⟨hne, stripChars_eq_self (fun c hc => (hhead c hc).not_isSpace) fun c hc =>
      (hlast c hc).not_isSpace⟩
  unbroken w hw u v hbreak hv := by
    have hall := countP_successCriteria hw
    have hrest := countP_successCriteria hv
    rw [countP_stripChars fun c hc => by simp [isGap, hc]] at hrest
    rw [hbreak, List.countP_append, List.countP_cons, hrest] at hall
    -- there would be no letter in front of the line break, but the header begins with one
    have hfirst := (ends_successCriteria hw).2.1
    cases u with
    | nil => exact (hfirst '\n' (by rw [hbreak]; rfl)).not_isSpace (by decide)
    | cons c u =>
        have hc : Solid c := hfirst c (by rw [hbreak]; rfl)
        rw [List.countP_cons_of_pos (by simpa using hc.1)] at hall
        omega

end CodexOrchestrator
