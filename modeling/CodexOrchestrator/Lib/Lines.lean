import CodexOrchestrator.Lib.Split
import Mathlib.Data.List.Basic

/-!
# Lines — a text as lines between line breaks, and what trimming leaves of them

A line of a text is given by what stands above it and below it.  The characters that only trimming
takes away are blanks.
-/

namespace PyText

/-- What stands before the first occurrence of a character, and what after it. -/
theorem append_cons_inj {c : Char} {x x' y y' : List Char} (hx : c ∉ x) (hx' : c ∉ x')
    (h : x ++ c :: y = x' ++ c :: y') : x = x' ∧ y = y' := by
  induction x generalizing x' with
  | nil =>
      cases x' with
      | nil => exact ⟨rfl, (List.cons.inj h).2⟩
      | cons d x' => exact absurd ((List.cons.inj h).1 ▸ List.mem_cons_self) hx'
  | cons d x ih =>
      cases x' with
      | nil => exact absurd ((List.cons.inj h).1 ▸ List.mem_cons_self) hx
      | cons e x' =>
          obtain ⟨rfl, hrest⟩ := List.cons.inj h
          obtain ⟨rfl, hy⟩ := ih (fun hc => hx (List.mem_cons_of_mem _ hc))
            (fun hc => hx' (List.mem_cons_of_mem _ hc)) hrest
          exact ⟨rfl, hy⟩

/-! ## Blanks -/

/-- Nothing but white space. -/
def Blank (l : List Char) : Prop := ∀ c ∈ l, isSpace c = true

theorem blank_nil : Blank [] := fun _ hc => absurd hc List.not_mem_nil

theorem blank_append {l l' : List Char} : Blank (l ++ l') ↔ Blank l ∧ Blank l' := by
  simp only [Blank, List.mem_append, or_imp, forall_and]

theorem blank_cons {c : Char} {l : List Char} : Blank (c :: l) ↔ isSpace c = true ∧ Blank l := by
  simp only [Blank, List.mem_cons, forall_eq_or_imp]

theorem blank_singleton {c : Char} (h : isSpace c = true) : Blank [c] :=
  blank_cons.mpr ⟨h, blank_nil⟩

theorem blank_takeWhile (l : List Char) : Blank (l.takeWhile isSpace) :=
  fun _ hc => List.mem_takeWhile_imp hc

theorem not_mem_of_blank {l : List Char} (h : Blank l) {c : Char} (hc : ¬ isSpace c = true) :
    c ∉ l :=
  fun hmem => hc (h c hmem)

theorem dropWhile_append_of_blank {l : List Char} (h : Blank l) (l' : List Char) :
    (l ++ l').dropWhile isSpace = l'.dropWhile isSpace :=
  List.dropWhile_append_of_pos h

theorem dropWhile_eq_nil_iff_blank {l : List Char} : l.dropWhile isSpace = [] ↔ Blank l :=
  List.dropWhile_eq_nil_iff

theorem rdropWhile_append_of_blank (l : List Char) {l' : List Char} (h : Blank l') :
    (l ++ l').rdropWhile isSpace = l.rdropWhile isSpace := by
  unfold List.rdropWhile
  rw [List.reverse_append, List.dropWhile_append_of_pos]
  exact fun c hc => h c (List.mem_reverse.mp hc)

/-- What stands in front of something else than white space is not cut off at the end. -/
theorem rdropWhile_append_cons {c : Char} (hc : ¬ isSpace c = true) (l rest : List Char) :
    (l ++ c :: rest).rdropWhile isSpace = l ++ c :: rest.rdropWhile isSpace := by
  induction rest using List.reverseRecOn with
  | nil => exact List.rdropWhile_concat_neg isSpace l c hc
  | append_singleton rest d ih =>
      rw [← List.cons_append, ← List.append_assoc]
      by_cases hd : isSpace d = true
      · rw [List.rdropWhile_concat_pos _ _ _ hd, List.rdropWhile_concat_pos _ _ _ hd, ih]
      · rw [List.rdropWhile_concat_neg _ _ _ hd, List.rdropWhile_concat_neg _ _ _ hd]
        simp

theorem stripChars_blank_append {l : List Char} (h : Blank l) (l' : List Char) :
    stripChars (l ++ l') = stripChars l' := by
  rw [stripChars, dropWhile_append_of_blank h, stripChars]

theorem stripChars_append_blank (l : List Char) {l' : List Char} (h : Blank l') :
    stripChars (l ++ l') = stripChars l := by
  rw [stripChars, ← dropWhile_rdropWhile_comm, rdropWhile_append_of_blank l h,
    dropWhile_rdropWhile_comm, stripChars]

theorem stripChars_of_blank {l : List Char} (h : Blank l) : stripChars l = [] := by
  rw [stripChars, dropWhile_eq_nil_iff_blank.mpr h]
  rfl

theorem stripChars_eq_nil_iff {l : List Char} : stripChars l = [] ↔ Blank l := by
  constructor
  · intro h
    rw [stripChars, List.rdropWhile_eq_nil_iff] at h
    rw [← List.takeWhile_append_dropWhile (p := isSpace) (l := l), blank_append]
    exact ⟨blank_takeWhile l, h⟩
  · exact stripChars_of_blank

/-- What is left after the blanks in front is the trimmed text and the blanks at its end. -/
theorem exists_dropWhile_eq (l : List Char) :
    ∃ blanks, Blank blanks ∧ l.dropWhile isSpace = stripChars l ++ blanks :=
  ⟨(l.dropWhile isSpace).rtakeWhile isSpace, fun _ hc => List.mem_rtakeWhile_imp hc,
    List.rdropWhile_append_rtakeWhile.symm⟩

/-- Characters other than white space are counted the same in the trimmed text. -/
theorem countP_stripChars {p : Char → Bool} (hp : ∀ c, isSpace c = true → ¬ p c = true)
    (l : List Char) : (stripChars l).countP p = l.countP p := by
  obtain ⟨blanks, hblanks, hdrop⟩ := exists_dropWhile_eq l
  have hfront : l = l.takeWhile isSpace ++ (stripChars l ++ blanks) := by
    rw [← hdrop, List.takeWhile_append_dropWhile]
  conv_rhs => rw [hfront]
  rw [List.countP_append, List.countP_append,
    List.countP_eq_zero.mpr fun c hc => hp c (blank_takeWhile l c hc),
    List.countP_eq_zero.mpr fun c hc => hp c (hblanks c hc), Nat.zero_add, Nat.add_zero]

theorem count_stripChars {c : Char} (hc : ¬ isSpace c = true) (l : List Char) :
    (stripChars l).count c = l.count c :=
  countP_stripChars (fun d hd => by rw [beq_iff_eq]; rintro rfl; exact hc hd) l

/-- There is nothing to trim when the first and the last character are no white space. -/
theorem stripChars_eq_self {l : List Char} (hfirst : ∀ c ∈ l.head?, ¬ isSpace c = true)
    (hlast : ∀ c ∈ l.getLast?, ¬ isSpace c = true) : stripChars l = l := by
  cases l with
  | nil => rfl
  | cons c rest =>
      rw [stripChars, List.dropWhile_cons_of_neg (hfirst c rfl), List.rdropWhile_eq_self_iff]
      exact fun hne => hlast _ (List.getLast?_eq_some_getLast hne)

/-- A text with nothing to trim ends in something else than white space, and so do its ends. -/
theorem dropWhile_ne_nil_of_suffix {text after : List Char} (htext : stripChars text = text)
    (h : after <:+ text) (hne : after ≠ []) : after.dropWhile isSpace ≠ [] := by
  obtain ⟨before, rfl⟩ := h
  intro hnil
  have hblank := dropWhile_eq_nil_iff_blank.mp hnil
  rw [stripChars_append_blank before hblank] at htext
  have hlength := congrArg List.length htext
  have hshort : (stripChars before).length ≤ before.length :=
    ((List.rdropWhile_prefix _ _).length_le).trans (List.dropWhile_suffix isSpace).length_le
  have hpos := List.length_pos_of_ne_nil hne
  rw [List.length_append] at hlength
  omega

/-! ## Lines -/

/-- A line begins after the characters. -/
def LineStart (above : List Char) : Prop := ∀ c ∈ above.getLast?, c = '\n'

/-- A line ends before the characters. -/
def LineEnd (below : List Char) : Prop := ∀ c ∈ below.head?, c = '\n'

structure WholeLine (text above line below : List Char) : Prop where
  split : text = above ++ (line ++ below)
  start : LineStart above
  single : '\n' ∉ line
  stop : LineEnd below

/-- The rest of the line that the characters begin in. -/
def firstLine (l : List Char) : List Char := l.takeWhile fun c => c ≠ '\n'

def belowFirst (l : List Char) : List Char := l.dropWhile fun c => c ≠ '\n'

theorem firstLine_append_belowFirst (l : List Char) : firstLine l ++ belowFirst l = l :=
  List.takeWhile_append_dropWhile

theorem not_mem_firstLine (l : List Char) : '\n' ∉ firstLine l := by
  intro h
  have hne := List.mem_takeWhile_imp h
  exact of_decide_eq_true hne rfl

theorem lineEnd_belowFirst (l : List Char) : LineEnd (belowFirst l) := by
  induction l with
  | nil =>
      intro c hc
      cases hc
  | cons d rest ih =>
      by_cases hd : d = '\n'
      · intro c hc
        rw [belowFirst, List.dropWhile_cons_of_neg (by simpa using hd)] at hc
        exact (Option.some.inj hc).symm.trans hd
      · rw [belowFirst, List.dropWhile_cons_of_pos (by simpa using hd)]
        exact ih

theorem firstLine_append {l : List Char} (h : '\n' ∉ l) (l' : List Char) :
    firstLine (l ++ l') = l ++ firstLine l' :=
  List.takeWhile_append_of_pos fun c hc => decide_eq_true fun he : c = '\n' => h (he ▸ hc)

theorem belowFirst_append {l : List Char} (h : '\n' ∉ l) (l' : List Char) :
    belowFirst (l ++ l') = belowFirst l' :=
  List.dropWhile_append_of_pos fun c hc => decide_eq_true fun he : c = '\n' => h (he ▸ hc)

theorem lineStart_nil : LineStart [] := fun _ hc => by cases hc

theorem lineStart_concat (l : List Char) : LineStart (l ++ ['\n']) := by
  intro c hc
  rw [List.getLast?_concat] at hc
  exact (Option.some.inj hc).symm

/-- What stands above a line is nothing, or ends with a line break. -/
theorem LineStart.eq_nil_or {above : List Char} (h : LineStart above) :
    above = [] ∨ ∃ l, above = l ++ ['\n'] := by
  rcases List.eq_nil_or_concat' above with rfl | ⟨l, c, rfl⟩
  · exact .inl rfl
  · exact .inr ⟨l, by rw [h c List.getLast?_concat]⟩

theorem LineStart.append_newline {l' : List Char} (h : LineStart l') (l : List Char) :
    LineStart (l ++ '\n' :: l') := by
  rcases h.eq_nil_or with rfl | ⟨above, rfl⟩
  · exact lineStart_concat l
  · rw [← List.cons_append, ← List.append_assoc]
    exact lineStart_concat _

/-- The line that the characters end in. -/
theorem exists_lastLine (l : List Char) :
    ∃ above line, l = above ++ line ∧ LineStart above ∧ '\n' ∉ line := by
  induction l using List.reverseRecOn with
  | nil => exact ⟨[], [], rfl, lineStart_nil, List.not_mem_nil⟩
  | append_singleton l c ih =>
      obtain ⟨above, line, rfl, hstart, hsingle⟩ := ih
      by_cases hc : c = '\n'
      · exact ⟨above ++ line ++ [c], [], (List.append_nil _).symm, hc ▸ lineStart_concat _,
          List.not_mem_nil⟩
      · refine ⟨above, line ++ [c], List.append_assoc .., hstart, ?_⟩
        rw [List.mem_append, List.mem_singleton, not_or]
        exact ⟨hsingle, Ne.symm hc⟩

theorem LineStart.of_append {above more : List Char} (h : LineStart (above ++ more)) :
    LineStart more := by
  intro c hc
  refine h c ?_
  rw [List.getLast?_append, Option.mem_def.mp hc]
  rfl

theorem LineStart.mem_of_append {above more : List Char} (h : LineStart (above ++ more))
    (hne : more ≠ []) : '\n' ∈ more := by
  rcases h.of_append.eq_nil_or with rfl | ⟨l, rfl⟩
  · exact absurd rfl hne
  · exact List.mem_append_right _ (List.mem_singleton_self _)

/-- Two ways to give the last line are one. -/
theorem lastLine_unique {above line above' line' : List Char}
    (h : above ++ line = above' ++ line') (hstart : LineStart above) (hsingle : '\n' ∉ line)
    (hstart' : LineStart above') (hsingle' : '\n' ∉ line') : above = above' ∧ line = line' := by
  rcases List.append_eq_append_iff.mp h with ⟨more, rfl, rfl⟩ | ⟨more, rfl, rfl⟩
  · rcases eq_or_ne more [] with rfl | hne
    · exact ⟨(List.append_nil _).symm, rfl⟩
    · exact absurd (List.mem_append_left _ (hstart'.mem_of_append hne)) hsingle
  · rcases eq_or_ne more [] with rfl | hne
    · exact ⟨List.append_nil _, rfl⟩
    · exact absurd (List.mem_append_left _ (hstart.mem_of_append hne)) hsingle'

end PyText
