import CodexOrchestrator.LabelSites

/-!
# LabelledLines — values that stand on the line of their label

A value is read from the line of its label exactly when the first site is anchored and something
stands after its colon on the same line; the values of a list that stands on one line, exactly when
the first site is anchored.
-/

open PyText Regex

namespace CodexOrchestrator

variable {header : Header} {goes : List Char → Prop} {text before label after : List Char}

/-- When the line that the site's colon stands on ends where a line with the header for its label
    does, the site's label is that line's. -/
theorem FirstSite.anchored_of_line (hsite : FirstSite header goes text before label after)
    {above own rest line below : List Char}
    (hwhole : WholeLine text above (own ++ ':' :: rest) below) (hafter : after = line ++ below)
    (hline : '\n' ∉ line) (hcolon : ':' ∉ own) (hown : stripChars own ∈ header.pattern.language)
    (hgoes : goes (rest ++ below)) : Anchored before label := by
  have hsingle := hwhole.single
  rw [List.mem_append, not_or] at hsingle
  have hsplit : text = above ++ (own ++ ':' :: (rest ++ below)) := by
    rw [hwhole.split]
    simp
  have hlength := hsite.length_le hsplit hown hgoes
  have hlead := (List.takeWhile_prefix isSpace (l := own)).length_le
  have hends : before ++ (label ++ ':' :: line) = above ++ (own ++ ':' :: rest) := by
    refine (List.append_left_inj below).mp ?_
    calc before ++ (label ++ ':' :: line) ++ below
        = before ++ (label ++ ':' :: (line ++ below)) := by simp
      _ = text := by rw [← hafter, ← hsite.split]
      _ = above ++ (own ++ ':' :: rest) ++ below := by rw [hsplit]; simp
  refine hsite.anchored ?_ hwhole.start hsingle.1 hown
  rcases List.append_eq_append_iff.mp hends with ⟨more, rfl, hmore⟩ | ⟨more, rfl, hmore⟩
  · by_cases hin : ':' ∈ more
    · -- the colon of the site would stand above the line
      obtain ⟨front, back, rfl, hfront⟩ := List.eq_append_cons_of_mem hin
      rw [List.append_assoc, List.cons_append] at hmore
      obtain ⟨-, hback⟩ := append_cons_inj hsite.isLabel.not_mem hfront hmore
      have hstart := hwhole.start
      rw [← List.append_assoc] at hstart
      have hmem : '\n' ∈ back :=
        (List.mem_cons.mp (hstart.mem_of_append (List.cons_ne_nil _ _))).resolve_left (by decide)
      exact absurd (hback ▸ List.mem_append_left _ hmem) hline
    · rw [← List.append_assoc] at hmore
      obtain ⟨hlabel, -⟩ := append_cons_inj hsite.isLabel.not_mem
        (by rw [List.mem_append, not_or]; exact ⟨hin, hcolon⟩) hmore
      rw [hlabel, List.append_assoc]
  · have hleading : more <+: own := by
      have hboth : more <+: own ++ ':' :: rest := hmore ▸ List.prefix_append _ _
      refine List.prefix_of_prefix_length_le hboth (List.prefix_append _ _) ?_
      rw [List.length_append] at hlength
      omega
    obtain ⟨own', rfl⟩ := hleading
    rw [List.append_assoc, List.append_cancel_left_eq] at hmore
    rw [List.mem_append, not_or] at hcolon
    obtain ⟨hlabel, -⟩ := append_cons_inj hcolon.2 hsite.isLabel.not_mem hmore
    rw [hlabel, List.append_assoc]

/-- The text that a group of characters up to the end of the line has captured. -/
theorem between_belowFirst (l : List Char) (groups : List (String × String)) :
    between ⟨l, groups⟩ ⟨belowFirst l, groups⟩ = String.ofList (firstLine l) := by
  have hlength := congrArg List.length (firstLine_append_belowFirst l)
  rw [List.length_append] at hlength
  rw [between]
  congr 1
  conv_lhs => rw [← firstLine_append_belowFirst l]
  rw [List.take_append_of_le_length]
  · rw [List.take_of_length_le]
    simp only [firstLine_append_belowFirst]
    omega
  · simp only [firstLine_append_belowFirst]
    omega

/-- `([^\n]+)` -/
def restOfLine : Pattern := .group "1" (.plus notNewline)

theorem first_restOfLine (l : List Char) : restOfLine.first ⟨l, []⟩ =
    if firstLine l = [] then none
    else some ⟨belowFirst l, [("1", String.ofList (firstLine l))]⟩ := by
  rw [restOfLine, first_group, notNewline, first_plus_run]
  by_cases hl : firstLine l = []
  · rw [if_pos hl]
    exact congrArg (Option.map _) (if_pos hl)
  · rw [if_neg hl]
    refine (congrArg (Option.map _) (if_neg hl)).trans ?_
    exact congrArg (fun value => some (⟨belowFirst l, [("1", value)]⟩ : Position))
      (between_belowFirst l [])

/-! ## Values -/

/-- `\s*([^\n]+)`. -/
def valueTail : Pattern := .seq (.star space) restOfLine

/-- Something else than white space stands on the line where the white space ends. -/
theorem not_blank_firstLine_dropWhile {l : List Char} (h : l.dropWhile isSpace ≠ []) :
    ¬ Blank (firstLine (l.dropWhile isSpace)) := by
  cases hv : l.dropWhile isSpace with
  | nil => exact absurd hv h
  | cons c v =>
      have hc : ¬ isSpace c = true := by
        have hhead := List.head_dropWhile_not isSpace h
        simp only [hv, List.head_cons] at hhead
        simp [hhead]
      have hnewline : c ≠ '\n' := fun he => hc (he ▸ rfl)
      rw [firstLine, List.takeWhile_cons_of_pos (by simpa using hnewline), blank_cons]
      exact fun hblank => hc hblank.1

/-- The value is the line that the first character other than white space stands on, from there. -/
theorem first_valueTail {after : List Char} (h : after.dropWhile isSpace ≠ []) :
    valueTail.first ⟨after, []⟩ = some ⟨belowFirst (after.dropWhile isSpace),
      [("1", String.ofList (firstLine (after.dropWhile isSpace)))]⟩ := by
  refine first_star_char after [] ?_
  rw [first_restOfLine, if_neg]
  intro hnil
  exact not_blank_firstLine_dropWhile h (hnil ▸ blank_nil)

theorem isSome_valueTail_iff {text after : List Char} (htext : stripChars text = text)
    (h : after <:+ text) : (valueTail.first ⟨after, []⟩).isSome ↔ after ≠ [] := by
  constructor
  · rintro hsome rfl
    rw [valueTail, space, first_star_char_nil] at hsome
    cases hsome
  · intro hne
    rw [first_valueTail (dropWhile_ne_nil_of_suffix htext h hne)]
    rfl

/-- What the search finds for a value is the trimmed rest of a line with the field's label. -/
def ValueFromOwnLine (header : Header) (text : List Char) : Prop :=
  ∀ found, searchFrom (labelled header.pattern) text = some found →
    ∀ raw, found.group? "1" = some raw →
      ∃ above line rest, WholeLine text above line found.rest ∧ OwnLabel header line rest ∧
        strip raw = strip (String.ofList rest)

/-- The first label that something follows is anchored, with a value on its line. -/
def ValueSiteAnchored (header : Header) (text : List Char) : Prop :=
  ∀ before label after, FirstSite header (fun after => after ≠ []) text before label after →
    Anchored before label ∧ ¬ Blank (firstLine after)

theorem searchFrom_labelled {text : List Char} (htext : stripChars text = text)
    {found : Position} : searchFrom (labelled header.pattern) text = some found ↔
      ∃ before label after, valueTail.first ⟨after, []⟩ = some found ∧
        FirstSite header (fun after => after ≠ []) text before label after := by
  have hsame : labelled header.pattern = labelThen header.pattern valueTail := rfl
  simp only [hsame, searchFrom_labelThen,
    FirstSite.congr fun after hafter => isSome_valueTail_iff htext hafter]

/-- A line with something on it keeps it when the white space in front is dropped. -/
theorem dropWhile_of_not_blank {l : List Char} (h : ¬ Blank (firstLine l)) :
    l.dropWhile isSpace = (firstLine l).dropWhile isSpace ++ belowFirst l := by
  conv_lhs => rw [← firstLine_append_belowFirst l]
  rw [List.dropWhile_append, if_neg]
  rw [List.isEmpty_iff, dropWhile_eq_nil_iff_blank]
  exact h

theorem firstLine_append_lineEnd {l below : List Char} (h : '\n' ∉ l) (hbelow : LineEnd below) :
    firstLine (l ++ below) = l ∧ belowFirst (l ++ below) = below := by
  rw [firstLine_append h, belowFirst_append h]
  cases below with
  | nil => simp [firstLine, belowFirst]
  | cons c below =>
      rw [hbelow c rfl]
      simp [firstLine, belowFirst]

theorem strip_ofList_dropWhile (l : List Char) :
    strip (String.ofList (l.dropWhile isSpace)) = strip (String.ofList l) := by
  rw [strip, strip, String.toList_ofList, String.toList_ofList, List.dropWhile_idempotent]

theorem valueFromOwnLine_of_anchored {text : List Char} (htext : stripChars text = text)
    (h : ValueSiteAnchored header text) : ValueFromOwnLine header text := by
  intro found hfound raw hraw
  obtain ⟨before, label, after, hfirst, hsite⟩ := (searchFrom_labelled htext).mp hfound
  obtain ⟨hanchored, hline⟩ := h before label after hsite
  obtain ⟨above, line, hwhole, hown⟩ := hsite.ownLabel hanchored
    (firstLine_append_belowFirst after).symm (not_mem_firstLine after) (lineEnd_belowFirst after)
  have hdrop := dropWhile_of_not_blank hline
  have hnewline : '\n' ∉ (firstLine after).dropWhile isSpace := fun hmem =>
    not_mem_firstLine after ((List.dropWhile_suffix isSpace).subset hmem)
  obtain ⟨hvalue, hbelow⟩ := firstLine_append_lineEnd hnewline (lineEnd_belowFirst after)
  have hne : after.dropWhile isSpace ≠ [] := by
    rw [hdrop]
    exact List.append_ne_nil_of_left_ne_nil (fun hnil => hline (dropWhile_eq_nil_iff_blank.mp hnil)) _
  rw [first_valueTail hne, hdrop, hvalue, hbelow] at hfirst
  cases hfirst
  cases hraw
  exact ⟨above, line, firstLine after, hwhole, hown, strip_ofList_dropWhile _⟩

theorem stripChars_eq_of_strip {l l' : List Char}
    (h : strip (String.ofList l) = strip (String.ofList l')) : stripChars l = stripChars l' := by
  have hlist := congrArg String.toList h
  rwa [toList_strip, toList_strip, String.toList_ofList, String.toList_ofList] at hlist

/-- A value below a line break would be all of its line, with the label and the colon. -/
theorem not_mem_blanks_of_line {front blanks value above own rest : List Char}
    (hsame : front ++ (blanks ++ value) = above ++ (own ++ ':' :: rest)) (hblanks : Blank blanks)
    (hvalue : '\n' ∉ value) (hstart : LineStart above) (hsingle : '\n' ∉ own ++ ':' :: rest)
    (hstrip : stripChars value = stripChars rest) : '\n' ∉ blanks := by
  obtain ⟨lines, indent, rfl, hlines, hindent⟩ := exists_lastLine blanks
  rw [blank_append] at hblanks
  rcases hlines.eq_nil_or with rfl | ⟨l, rfl⟩
  · exact hindent
  · obtain ⟨-, hline⟩ : front ++ l ++ ['\n'] = above ∧ indent ++ value = own ++ ':' :: rest := by
      refine lastLine_unique ?_ (lineStart_concat _) ?_ hstart hsingle
      · rw [← hsame]
        simp
      · rw [List.mem_append, not_or]
        exact ⟨hindent, hvalue⟩
    have hcount := congrArg (List.count ':') (congrArg stripChars hline)
    rw [stripChars_blank_append hblanks.2, hstrip, count_stripChars (by decide),
      count_stripChars (by decide), List.count_append, List.count_cons_self] at hcount
    omega

theorem anchored_of_valueFromOwnLine {text : List Char} (htext : stripChars text = text)
    (h : ValueFromOwnLine header text) : ValueSiteAnchored header text := by
  intro before label after hsite
  have hsuffix : after <:+ text :=
    ⟨before ++ (label ++ [':']), by rw [hsite.split]; simp⟩
  have hne := dropWhile_ne_nil_of_suffix htext hsuffix hsite.follows
  obtain ⟨above, line, rest, hwhole, hown, hstrip⟩ :=
    h _ ((searchFrom_labelled htext).mpr ⟨before, label, after, first_valueTail hne, hsite⟩) _ rfl
  obtain ⟨own, rfl, hcolon, hlabel⟩ := hown.split
  replace hstrip := stripChars_eq_of_strip hstrip
  have hsplit := firstLine_append_belowFirst (after.dropWhile isSpace)
  have hafter := List.takeWhile_append_dropWhile (p := isSpace) (l := after)
  have hblanks := blank_takeWhile after
  have hvalue := not_blank_firstLine_dropWhile hne
  generalize after.dropWhile isSpace = v at *
  generalize after.takeWhile isSpace = blanks at *
  -- the site and the line end in the same place
  have hsame : before ++ (label ++ [':']) ++ (blanks ++ firstLine v) =
      above ++ (own ++ ':' :: rest) := by
    refine (List.append_left_inj (belowFirst v)).mp ?_
    calc before ++ (label ++ [':']) ++ (blanks ++ firstLine v) ++ belowFirst v
        = before ++ (label ++ ':' :: (blanks ++ (firstLine v ++ belowFirst v))) := by simp
      _ = text := by rw [hsplit, hafter, ← hsite.split]
      _ = above ++ (own ++ ':' :: rest) ++ belowFirst v := by rw [hwhole.split]; simp
  have hgap := not_mem_blanks_of_line hsame hblanks (not_mem_firstLine v) hwhole.start
    hwhole.single hstrip
  have hnewline : '\n' ∉ blanks ++ firstLine v := by
    rw [List.mem_append, not_or]
    exact ⟨hgap, not_mem_firstLine v⟩
  have hgoes : rest ++ belowFirst v ≠ [] := by
    refine List.append_ne_nil_of_left_ne_nil (fun hnil => ?_) _
    rw [hnil] at hstrip
    exact hvalue (stripChars_eq_nil_iff.mp (hstrip.trans rfl))
  refine ⟨hsite.anchored_of_line hwhole ?_ hnewline hcolon hlabel hgoes, ?_⟩
  · rw [List.append_assoc, hsplit, hafter]
  · rw [← hafter, firstLine_append hgap, blank_append, not_and]
    exact fun _ => hvalue

theorem valueFromOwnLine_iff {text : List Char} (htext : stripChars text = text) :
    ValueFromOwnLine header text ↔ ValueSiteAnchored header text :=
  ⟨anchored_of_valueFromOwnLine htext, valueFromOwnLine_of_anchored htext⟩

/-! ## Lists on one line -/

/-- `[ \t]*([^\n]+)`. -/
def inlineTail : Pattern := .seq (.star (oneOf [' ', '\t'])) restOfLine

theorem strip_ofList_cons {c : Char} (hc : isSpace c = true) (l : List Char) :
    strip (String.ofList (c :: l)) = strip (String.ofList l) := by
  rw [strip, strip, String.toList_ofList, String.toList_ofList, List.dropWhile_cons_of_pos hc]

/-- The rest of the line is captured, with or without blanks in front of it. -/
theorem first_inlineTail (after : List Char) :
    firstLine after = [] ∧ inlineTail.first ⟨after, []⟩ = none ∨
      firstLine after ≠ [] ∧ ∃ value, inlineTail.first ⟨after, []⟩ =
          some ⟨belowFirst after, [("1", value)]⟩ ∧
        strip value = strip (String.ofList (firstLine after)) := by
  have hrest : ∀ l, firstLine l ≠ [] → restOfLine.first ⟨l, []⟩ =
      some ⟨belowFirst l, [("1", String.ofList (firstLine l))]⟩ := fun l hl => by
    rw [first_restOfLine, if_neg hl]
  induction after with
  | nil => exact .inl ⟨rfl, by rw [inlineTail, oneOf, first_star_char_nil]; rfl⟩
  | cons c rest ih =>
      rw [inlineTail, oneOf, first_star_char_cons]
      split
      · rename_i hc
        have hblank : isSpace c = true ∧ c ≠ '\n' := by
          have hmem : c = ' ' ∨ c = '\t' := by simpa using hc
          rcases hmem with rfl | rfl <;> decide
        have hline : firstLine (c :: rest) = c :: firstLine rest :=
          List.takeWhile_cons_of_pos (by simpa using hblank.2)
        have hbelow : belowFirst (c :: rest) = belowFirst rest :=
          List.dropWhile_cons_of_pos (by simpa using hblank.2)
        have hne : firstLine (c :: rest) ≠ [] := by rw [hline]; exact List.cons_ne_nil _ _
        refine .inr ⟨hne, ?_⟩
        rcases ih with ⟨-, hnone⟩ | ⟨-, value, hsome, hvalue⟩
        · -- the last blank is given back
          rw [inlineTail, oneOf] at hnone
          exact ⟨_, by rw [hnone, hrest _ hne]; rfl, rfl⟩
        · rw [inlineTail, oneOf] at hsome
          refine ⟨value, by rw [hsome, hbelow]; rfl, ?_⟩
          rw [hvalue, hline, strip_ofList_cons hblank.1]
      · by_cases hne : firstLine (c :: rest) = []
        · exact .inl ⟨hne, by rw [first_restOfLine, if_pos hne]⟩
        · exact .inr ⟨hne, _, hrest _ hne, rfl⟩

theorem isSome_inlineTail_iff (after : List Char) :
    (inlineTail.first ⟨after, []⟩).isSome ↔ firstLine after ≠ [] := by
  rcases first_inlineTail after with ⟨hnil, hnone⟩ | ⟨hne, value, hsome, -⟩
  · simp [hnil, hnone]
  · simp [hne, hsome]

/-- Nothing but white space and separators. -/
def NoItems (l : List Char) : Prop := ∀ c ∈ l, isSpace c = true ∨ c ∈ [',', ';']

theorem noItems_stripChars (l : List Char) : NoItems (stripChars l) ↔ NoItems l := by
  obtain ⟨blanks, hblanks, hdrop⟩ := exists_dropWhile_eq l
  have hsplit : l = l.takeWhile isSpace ++ (stripChars l ++ blanks) := by
    rw [← hdrop, List.takeWhile_append_dropWhile]
  constructor
  · intro h c hc
    rw [hsplit, List.mem_append, List.mem_append] at hc
    rcases hc with hc | hc | hc
    · exact .inl (blank_takeWhile l c hc)
    · exact h c hc
    · exact .inl (hblanks c hc)
  · intro h c hc
    refine h c ?_
    rw [hsplit]
    exact List.mem_append_right _ (List.mem_append_left _ hc)

/-- The pieces are blank when there is nothing but white space between the separators. -/
theorem blank_splitOnP_iff (sep : Char → Bool) (l : List Char) :
    (∀ piece ∈ l.splitOnP sep, Blank piece) ↔ ∀ c ∈ l, isSpace c = true ∨ sep c = true := by
  induction l with
  | nil => simp [Blank]
  | cons c rest ih =>
      rw [List.splitOnP_cons_eq_if_modifyHead, List.forall_mem_cons]
      by_cases hc : sep c = true
      · rw [if_pos hc, List.forall_mem_cons, ih]
        simp [hc, blank_nil]
      · rw [if_neg hc]
        cases hpieces : rest.splitOnP sep with
        | nil => exact absurd hpieces (List.splitOnP_ne_nil sep rest)
        | cons piece pieces =>
            rw [← ih, hpieces, List.modifyHead_cons, List.forall_mem_cons, List.forall_mem_cons,
              blank_cons]
            simp [hc, and_assoc]

/-- A line gives no values when there is nothing between its separators. -/
theorem splitListValues_eq_nil_iff (raw : String) :
    splitListValues (strip raw) = [] ↔ NoItems raw.toList := by
  have hpieces := blank_splitOnP_iff (fun c => decide (c ∈ [',', ';'])) (stripChars raw.toList)
  simp only [decide_eq_true_eq] at hpieces
  rw [splitListValues, distinctTrimmed_eq_nil_iff, ← noItems_stripChars, NoItems, ← hpieces,
    splitAt, toList_strip, List.forall_mem_map]
  refine forall₂_congr fun piece _ => ?_
  rw [← stripChars_eq_nil_iff, strip, String.toList_ofList, String.ofList_eq_empty_iff, stripChars]

/-! ### Where the values come from -/

/-- If the line that the search finds gives values, it is a line with the field's label. -/
def InlineFromOwnLine (header : Header) (text : List Char) : Prop :=
  ∀ found, searchFrom (inlineList header.pattern) text = some found →
    ∀ raw, found.group? "1" = some raw → splitListValues (strip raw) ≠ [] →
      ∃ above line rest, WholeLine text above line found.rest ∧ OwnLabel header line rest ∧
        splitListValues (strip raw) = splitListValues (strip (String.ofList rest))

/-- The first label that something follows on its line is anchored, or gives no values. -/
def InlineSiteAnchored (header : Header) (text : List Char) : Prop :=
  ∀ before label after, FirstSite header (fun after => firstLine after ≠ []) text before label after →
    ¬ NoItems (firstLine after) → Anchored before label

theorem searchFrom_inlineList {text : List Char} {found : Position} :
    searchFrom (inlineList header.pattern) text = some found ↔
      ∃ before label after, inlineTail.first ⟨after, []⟩ = some found ∧
        FirstSite header (fun after => firstLine after ≠ []) text before label after := by
  have hsame : inlineList header.pattern = labelThen header.pattern inlineTail := rfl
  simp only [hsame, searchFrom_labelThen,
    FirstSite.congr fun after _ => isSome_inlineTail_iff after]

/-- What the search finds at a site. -/
theorem FirstSite.exists_inline {text : List Char}
    (hsite : FirstSite header (fun after => firstLine after ≠ []) text before label after) :
    ∃ value, inlineTail.first ⟨after, []⟩ = some ⟨belowFirst after, [("1", value)]⟩ ∧
      strip value = strip (String.ofList (firstLine after)) ∧
      (splitListValues (strip value) = [] ↔ NoItems (firstLine after)) := by
  rcases first_inlineTail after with ⟨hnil, -⟩ | ⟨-, value, hsome, hvalue⟩
  · exact absurd hnil hsite.follows
  · refine ⟨value, hsome, hvalue, ?_⟩
    rw [hvalue, splitListValues_eq_nil_iff, String.toList_ofList]

theorem inlineFromOwnLine_iff (text : List Char) :
    InlineFromOwnLine header text ↔ InlineSiteAnchored header text := by
  constructor
  · intro h before label after hsite hitems
    obtain ⟨value, hfirst, hvalue, hvalues⟩ := hsite.exists_inline
    obtain ⟨above, line, rest, hwhole, hown, hsame⟩ :=
      h _ (searchFrom_inlineList.mpr ⟨before, label, after, hfirst, hsite⟩) value rfl
        (mt hvalues.mp hitems)
    obtain ⟨own, rfl, hcolon, hlabel⟩ := hown.split
    have hsingle := hwhole.single
    rw [List.mem_append, List.mem_cons, not_or, not_or] at hsingle
    -- the rest of the line has an item on it, so something follows the colon
    have hrest : firstLine (rest ++ belowFirst after) ≠ [] := by
      rw [(firstLine_append_lineEnd hsingle.2.2 hwhole.stop).1]
      rintro rfl
      have hnone : splitListValues (strip (String.ofList [])) = [] := by
        rw [splitListValues_eq_nil_iff, String.toList_ofList]
        exact fun c hc => absurd hc List.not_mem_nil
      exact hitems (hvalues.mp (hsame.trans hnone))
    exact hsite.anchored_of_line hwhole (firstLine_append_belowFirst after).symm
      (not_mem_firstLine after) hcolon hlabel hrest
  · intro h found hfound raw hraw hvalues
    obtain ⟨before, label, after, hfirst, hsite⟩ := searchFrom_inlineList.mp hfound
    obtain ⟨value, hfirst', hvalue, hitems⟩ := hsite.exists_inline
    cases hfirst.symm.trans hfirst'
    cases hraw
    obtain ⟨above, line, hwhole, hown⟩ := hsite.ownLabel
      (h before label after hsite (mt hitems.mpr hvalues))
      (firstLine_append_belowFirst after).symm (not_mem_firstLine after) (lineEnd_belowFirst after)
    exact ⟨above, line, firstLine after, hwhole, hown, congrArg splitListValues hvalue⟩

end CodexOrchestrator
