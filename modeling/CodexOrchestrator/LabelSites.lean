import CodexOrchestrator.Intake
import CodexOrchestrator.Lib.Lines
import CodexOrchestrator.Lib.RegexLanguage

/-!
# LabelSites — where a labelled field is read from

The patterns of the intake search a header, white space and a colon anywhere in the text.  The first
such place after which the pattern goes on is its site.  A site is anchored when the header begins
its line and the colon is on the same line.
-/

open PyText Regex

namespace CodexOrchestrator

/-! ## Headers -/

/-- A header pattern, with what the search relies on: its words have no colon, are trimmed, and no
    word is left after a line break inside one. -/
structure Header where
  pattern : Pattern
  plain : pattern.Plain
  noColon : ∀ w ∈ pattern.language, ':' ∉ w
  trimmed : ∀ w ∈ pattern.language, w ≠ [] ∧ stripChars w = w
  unbroken : ∀ w ∈ pattern.language, ∀ u v, w = u ++ '\n' :: v → stripChars v ∉ pattern.language

/-- The header and the blanks after it. -/
def Header.IsLabel (header : Header) (label : List Char) : Prop :=
  ∃ w ∈ header.pattern.language, ∃ blanks, Blank blanks ∧ label = w ++ blanks

theorem Header.IsLabel.not_mem {header : Header} {label : List Char} (h : header.IsLabel label) :
    ':' ∉ label := by
  obtain ⟨w, hw, blanks, hblanks, rfl⟩ := h
  rw [List.mem_append, not_or]
  exact ⟨header.noColon w hw, not_mem_of_blank hblanks (by decide)⟩

/-- A label is trimmed to its header. -/
theorem Header.IsLabel.stripChars {header : Header} {label : List Char} (h : header.IsLabel label) :
    stripChars label ∈ header.pattern.language := by
  obtain ⟨w, hw, blanks, hblanks, rfl⟩ := h
  rw [stripChars_append_blank w hblanks, (header.trimmed w hw).2]
  exact hw

/-- What stands before a colon is a label from its first character on that is not white space, if it
    is trimmed to a header. -/
theorem Header.isLabel_dropWhile {header : Header} {l : List Char}
    (h : PyText.stripChars l ∈ header.pattern.language) : header.IsLabel (l.dropWhile isSpace) := by
  obtain ⟨blanks, hblanks, hdrop⟩ := exists_dropWhile_eq l
  exact ⟨_, h, blanks, hblanks, hdrop⟩

/-- After a line break inside a label there is no header. -/
theorem Header.IsLabel.not_broken {header : Header} {label above line : List Char}
    (h : header.IsLabel label) (hbreak : label = above ++ '\n' :: line) :
    PyText.stripChars line ∉ header.pattern.language := by
  intro hline
  -- a blank line is no header
  have hnotblank : ¬ Blank line := fun hblank => (header.trimmed _ hline).1 (stripChars_of_blank hblank)
  obtain ⟨w, hw, blanks, hblanks, rfl⟩ := h
  rcases List.append_eq_append_iff.mp hbreak with ⟨more, -, hmore⟩ | ⟨more, hmore, hrest⟩
  · rw [hmore, blank_append, blank_cons] at hblanks
    exact hnotblank hblanks.2.2
  · cases more with
    | nil =>
        rw [List.nil_append] at hrest
        rw [← hrest, blank_cons] at hblanks
        exact hnotblank hblanks.2
    | cons c more =>
        rw [List.cons_append, List.cons.injEq] at hrest
        obtain ⟨rfl, rfl⟩ := hrest
        rw [stripChars_append_blank more hblanks] at hline
        exact header.unbroken w hw above more hmore hline

/-! ## The search for a site -/

/-- The header, white space, a colon, and what the pattern goes on with. -/
def labelThen (header tail : Pattern) : Pattern :=
  .seq header (.seq (.star space) (.seq (oneOf [':']) tail))

/-- The pattern up to the colon. -/
def upToColon (header : Pattern) : Pattern := .seq header (.seq (.star space) (oneOf [':']))

theorem first_labelThen (header tail : Pattern) (start : Position) :
    (labelThen header tail).first start = (Pattern.seq (upToColon header) tail).first start := by
  have hinner : ∀ mid, (Pattern.seq (.star space) (.seq (oneOf [':']) tail)).ends mid =
      (Pattern.seq (.seq (.star space) (oneOf [':'])) tail).ends mid := ends_seq_assoc
  rw [Pattern.first, Pattern.first, upToColon, ← ends_seq_assoc, labelThen, Pattern.ends]
  rw [funext hinner]
  rfl

theorem mem_ends_upToColon (header : Header) {start stop : Position} :
    stop ∈ (upToColon header.pattern).ends start ↔ stop.groups = start.groups ∧
      ∃ label, header.IsLabel label ∧ start.rest = label ++ ':' :: stop.rest := by
  have hplain : (upToColon header.pattern).Plain := ⟨header.plain, trivial, trivial⟩
  rw [mem_ends_iff hplain, After]
  refine and_congr_right fun _ => ?_
  simp only [upToColon, mem_language_seq, space, oneOf, mem_language_star_char, mem_language_char]
  constructor
  · rintro ⟨_, ⟨w, hw, _, ⟨blanks, hblanks, _, ⟨c, hc, rfl⟩, rfl⟩, rfl⟩, hrest⟩
    rw [decide_eq_true_eq, List.mem_singleton] at hc
    refine ⟨w ++ blanks, ⟨w, hw, blanks, hblanks, rfl⟩, ?_⟩
    rw [hrest, hc]
    simp
  · rintro ⟨_, ⟨w, hw, blanks, hblanks, rfl⟩, hrest⟩
    exact ⟨w ++ (blanks ++ [':']), ⟨w, hw, _, ⟨blanks, hblanks, _, ⟨':', by decide, rfl⟩, rfl⟩, rfl⟩,
      by rw [hrest]; simp⟩

/-- At a label the pattern goes on after the colon. -/
theorem matchAt_label (header : Header) (tail : Pattern) {label : List Char}
    (h : header.IsLabel label) (after : List Char) :
    matchAt (labelThen header.pattern tail) (label ++ ':' :: after) = tail.first ⟨after, []⟩ := by
  show (labelThen header.pattern tail).first ⟨label ++ ':' :: after, []⟩ = _
  rw [first_labelThen]
  have hmem : (⟨after, []⟩ : Position) ∈
      (upToColon header.pattern).ends ⟨label ++ ':' :: after, []⟩ :=
    (mem_ends_upToColon header).mpr ⟨rfl, label, h, rfl⟩
  refine first_seq_of_unique (List.ne_nil_of_mem hmem) fun stop hstop => ?_
  obtain ⟨hgroups, label', hlabel', hrest⟩ := (mem_ends_upToColon header).mp hstop
  obtain ⟨-, hsame⟩ := append_cons_inj h.not_mem hlabel'.not_mem hrest
  cases stop
  cases hgroups
  cases hsame
  rfl

/-- Where no label begins, nothing matches. -/
theorem exists_label_of_matchAt {header : Header} {tail : Pattern} {l : List Char}
    (h : (matchAt (labelThen header.pattern tail) l).isSome) :
    ∃ label after, header.IsLabel label ∧ l = label ++ ':' :: after := by
  by_contra hnone
  have hends : (upToColon header.pattern).ends ⟨l, []⟩ = [] := by
    rw [List.eq_nil_iff_forall_not_mem]
    intro stop hstop
    obtain ⟨-, label, hlabel, hrest⟩ := (mem_ends_upToColon header).mp hstop
    exact hnone ⟨label, stop.rest, hlabel, hrest⟩
  have hmatch : matchAt (labelThen header.pattern tail) l = none :=
    (first_labelThen _ _ _).trans (first_seq_of_nil hends)
  rw [hmatch] at h
  cases h

/-- The first label in the text that is followed by a colon and something to go on with. -/
structure FirstSite (header : Header) (goes : List Char → Prop) (text before label after : List Char) :
    Prop where
  split : text = before ++ (label ++ ':' :: after)
  isLabel : header.IsLabel label
  follows : goes after
  first : ∀ before' label' after', text = before' ++ (label' ++ ':' :: after') →
    header.IsLabel label' → goes after' → before.length ≤ before'.length

theorem searchFrom_labelThen {header : Header} {tail : Pattern} {text : List Char}
    {found : Position} : searchFrom (labelThen header.pattern tail) text = some found ↔
      ∃ before label after, tail.first ⟨after, []⟩ = some found ∧
        FirstSite header (fun after => (tail.first ⟨after, []⟩).isSome) text before label after := by
  rw [searchFrom_eq_some_iff]
  constructor
  · rintro ⟨before, l, hsplit, hfound, hfirst⟩
    obtain ⟨label, after, hlabel, rfl⟩ := exists_label_of_matchAt (by rw [hfound]; rfl)
    rw [matchAt_label header tail hlabel] at hfound
    refine ⟨before, label, after, hfound, hsplit, hlabel, by rw [hfound]; rfl, ?_⟩
    intro before' label' after' hsplit' hlabel' hgoes
    exact hfirst before' _ hsplit' (by rwa [matchAt_label header tail hlabel'])
  · rintro ⟨before, label, after, hfound, hsite⟩
    refine ⟨before, label ++ ':' :: after, hsite.split, ?_, fun before' l' hsplit' hmatch => ?_⟩
    · rwa [matchAt_label header tail hsite.isLabel]
    · obtain ⟨label', after', hlabel', rfl⟩ := exists_label_of_matchAt hmatch
      rw [matchAt_label header tail hlabel'] at hmatch
      exact hsite.first before' label' after' hsplit' hlabel' hmatch

/-- Two ways to say when a pattern goes on, that agree on what ends the text. -/
theorem FirstSite.congr {header : Header} {goes goes' : List Char → Prop} {text : List Char}
    (h : ∀ after, after <:+ text → (goes after ↔ goes' after)) {before label after : List Char} :
    FirstSite header goes text before label after ↔
      FirstSite header goes' text before label after := by
  have hsuffix : ∀ {before label after : List Char}, text = before ++ (label ++ ':' :: after) →
      after <:+ text := by
    rintro before label after rfl
    exact ⟨before ++ (label ++ [':']), by simp⟩
  constructor
  · rintro ⟨hsplit, hlabel, hgoes, hfirst⟩
    refine ⟨hsplit, hlabel, (h after (hsuffix hsplit)).mp hgoes, ?_⟩
    intro before' label' after' hsplit' hlabel' hgoes'
    exact hfirst before' label' after' hsplit' hlabel' ((h after' (hsuffix hsplit')).mpr hgoes')
  · rintro ⟨hsplit, hlabel, hgoes, hfirst⟩
    refine ⟨hsplit, hlabel, (h after (hsuffix hsplit)).mpr hgoes, ?_⟩
    intro before' label' after' hsplit' hlabel' hgoes'
    exact hfirst before' label' after' hsplit' hlabel' ((h after' (hsuffix hsplit')).mp hgoes')

/-! ## Anchored sites -/

/-- Only white space stands before the label on its line, and the colon is on the same line. -/
def Anchored (before label : List Char) : Prop :=
  ∃ above indent, before = above ++ indent ∧ LineStart above ∧ Blank indent ∧ '\n' ∉ indent ∧
    '\n' ∉ label

/-- The line is labelled with the header: what stands before its first colon is trimmed to it. -/
structure OwnLabel (header : Header) (line rest : List Char) : Prop where
  split : ∃ label, line = label ++ ':' :: rest ∧ ':' ∉ label ∧
    stripChars label ∈ header.pattern.language

section Anchoring

variable {header : Header} {goes : List Char → Prop} {text before label after : List Char}

/-- The label of an anchored site is that of its line. -/
theorem FirstSite.ownLabel (hsite : FirstSite header goes text before label after)
    (h : Anchored before label) {rest below : List Char} (hafter : after = rest ++ below)
    (hrest : '\n' ∉ rest) (hbelow : LineEnd below) :
    ∃ above line, WholeLine text above line below ∧ OwnLabel header line rest := by
  obtain ⟨above, indent, rfl, hstart, hindent, hnewline, hlabel⟩ := h
  refine ⟨above, indent ++ label ++ ':' :: rest, ⟨?_, hstart, ?_, hbelow⟩, ⟨_, rfl, ?_, ?_⟩⟩
  · rw [hsite.split, hafter]
    simp
  · simp only [List.mem_append, List.mem_cons, not_or]
    exact ⟨⟨hnewline, hlabel⟩, by decide, hrest⟩
  · rw [List.mem_append, not_or]
    exact ⟨not_mem_of_blank hindent (by decide), hsite.isLabel.not_mem⟩
  · rw [stripChars_blank_append hindent]
    exact hsite.isLabel.stripChars

/-- A line with the header for its label is no further up than the first site, when something to go
    on with follows its colon. -/
theorem FirstSite.length_le (hsite : FirstSite header goes text before label after)
    {above own rest : List Char} (hsplit : text = above ++ (own ++ ':' :: rest))
    (hown : stripChars own ∈ header.pattern.language) (hgoes : goes rest) :
    before.length ≤ above.length + (own.takeWhile isSpace).length := by
  have hlabel := Header.isLabel_dropWhile hown
  have hfirst := hsite.first (above ++ own.takeWhile isSpace) (own.dropWhile isSpace) rest ?_ hlabel
    hgoes
  · rwa [List.length_append] at hfirst
  · rw [List.append_assoc, ← List.append_assoc (own.takeWhile isSpace),
      List.takeWhile_append_dropWhile, hsplit]

/-- A site whose colon is the first one of a line with the header for its label is anchored. -/
theorem FirstSite.anchored (hsite : FirstSite header goes text before label after)
    {above own : List Char} (hsame : before ++ label = above ++ own) (hstart : LineStart above)
    (hsingle : '\n' ∉ own) (hown : stripChars own ∈ header.pattern.language) :
    Anchored before label := by
  have hlength : before.length ≤ above.length + (own.takeWhile isSpace).length := by
    refine hsite.length_le ?_ hown hsite.follows
    rw [hsite.split, ← List.append_assoc, hsame, List.append_assoc]
  rcases List.append_eq_append_iff.mp hsame with ⟨more, rfl, hlabel⟩ | ⟨indent, rfl, rfl⟩
  · -- the label begins above the line
    rcases eq_or_ne more [] with rfl | hne
    · refine ⟨before, [], (List.append_nil _).symm, ?_, blank_nil, List.not_mem_nil, ?_⟩
      · rwa [List.append_nil] at hstart
      · rwa [hlabel]
    · obtain ⟨l, rfl⟩ : ∃ l, more = l ++ ['\n'] := by
        rcases List.eq_nil_or_concat' more with rfl | ⟨l, c, rfl⟩
        · exact absurd rfl hne
        · rw [← List.append_assoc] at hstart
          exact ⟨l, by rw [hstart c List.getLast?_concat]⟩
      rw [List.append_assoc, List.singleton_append] at hlabel
      exact absurd hown (hsite.isLabel.not_broken hlabel)
  · rw [List.mem_append, not_or] at hsingle
    refine ⟨above, indent, rfl, hstart, ?_, hsingle.1, hsingle.2⟩
    -- the indent is no longer than the white space that the line begins with
    have hshort : indent.length ≤ ((indent ++ label).takeWhile isSpace).length := by
      rw [List.length_append] at hlength
      omega
    have hleading : indent <+: (indent ++ label).takeWhile isSpace :=
      List.prefix_of_prefix_length_le (List.prefix_append _ _) (List.takeWhile_prefix _) hshort
    exact fun c hc => List.mem_takeWhile_imp (hleading.subset hc)

end Anchoring

end CodexOrchestrator
