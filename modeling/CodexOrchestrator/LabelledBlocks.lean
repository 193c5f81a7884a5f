import CodexOrchestrator.BulletBlocks

/-!
# LabelledBlocks — lists that stand below their label

A block is read from below the line of its label exactly when the colon of the first site stands on
a line with that label, and no bullet takes a line without one.
-/

open PyText Regex

namespace CodexOrchestrator

/-! ## Lines of bullets -/

/-- Every line is blank or begins with a bullet. -/
def BulletLines (l : List Char) : Prop :=
  ∀ line ∈ l.splitOn '\n', Blank line ∨ IsBullet (line.dropWhile isSpace)

theorem bulletLines_append_newline (l l' : List Char) :
    BulletLines (l ++ '\n' :: l') ↔ BulletLines l ∧ BulletLines l' := by
  rw [BulletLines, List.splitOn_append_cons_self, List.forall_mem_append]
  rfl

theorem bulletLines_of_single {l : List Char} (h : '\n' ∉ l) :
    BulletLines l ↔ Blank l ∨ IsBullet (l.dropWhile isSpace) := by
  rw [BulletLines, List.splitOn_eq_singleton h, List.forall_mem_singleton]

theorem bulletLines_of_blank {l : List Char} (h : Blank l) : BulletLines l := by
  have hpieces : ∀ piece ∈ l.splitOnP fun c => c == '\n', Blank piece :=
    (blank_splitOnP_iff _ l).mpr fun c hc => .inl (h c hc)
  exact fun line hline => .inl (hpieces line hline)

/-- Blank lines above a line do not matter, nor does its indent. -/
theorem bulletLines_blank_append {blanks l : List Char} (hblanks : Blank blanks) (hl : '\n' ∉ l) :
    BulletLines (blanks ++ l) ↔ Blank l ∨ IsBullet (l.dropWhile isSpace) := by
  obtain ⟨above, indent, rfl, hstart, hindent⟩ := exists_lastLine blanks
  rw [blank_append] at hblanks
  have hline : BulletLines (indent ++ l) ↔ Blank l ∨ IsBullet (l.dropWhile isSpace) := by
    rw [bulletLines_of_single, blank_append, dropWhile_append_of_blank hblanks.2,
      and_iff_right hblanks.2]
    rw [List.mem_append, not_or]
    exact ⟨hindent, hl⟩
  rcases hstart.eq_nil_or with rfl | ⟨above, rfl⟩
  · exact hline
  · have habove := bulletLines_of_blank (blank_append.mp hblanks.1).1
    rw [List.append_assoc, List.append_assoc, List.singleton_append, bulletLines_append_newline,
      and_iff_right habove]
    exact hline

theorem isBullet_firstLine (l : List Char) : IsBullet (firstLine l) ↔ IsBullet l := by
  constructor
  · rintro ⟨w, hw, rest, hl⟩
    refine ⟨w, hw, rest ++ belowFirst l, ?_⟩
    rw [← List.append_assoc, ← hl, firstLine_append_belowFirst]
  · rintro ⟨w, hw, rest, rfl⟩
    obtain ⟨-, -, -, -, hnewline⟩ := bullet_cons hw
    exact ⟨w, hw, firstLine rest, firstLine_append hnewline rest⟩

/-! ## Bullets and the lines that they take -/

/-- Something follows the bullet on its line, or the next text begins with a bullet too. -/
def TakesBullet (rest : List Char) : Prop :=
  '\n' ∉ rest.takeWhile isSpace ∨ IsBullet (rest.dropWhile isSpace)

/-- From item to item, no bullet takes a line without one. -/
def KeepsToBullets (l : List Char) : Prop :=
  ∀ mid l' rest, Relation.ReflTransGen (fun l l' => ∃ rest, ItemStep l l' rest) l mid →
    ItemStep mid l' rest → TakesBullet rest

/-- The lines of one item. -/
theorem bulletLines_item {blanks w gap text : List Char} (hblanks : Blank blanks)
    (hw : w ∈ bullet.language) (hgap : Blank gap) (htext : '\n' ∉ text) (hne : ¬ Blank text) :
    BulletLines (blanks ++ (w ++ (gap ++ text))) ↔
      '\n' ∉ gap ∨ IsBullet (text.dropWhile isSpace) := by
  obtain ⟨-, -, -, -, hnewline⟩ := bullet_cons hw
  have hbullet : ∀ rest, IsBullet ((w ++ rest).dropWhile isSpace) := fun rest =>
    ⟨w, hw, rest, dropWhile_of_bullet blank_nil hw⟩
  by_cases hin : '\n' ∈ gap
  · -- the text stands on a line of its own
    obtain ⟨front, back, rfl, hfront⟩ := List.eq_append_cons_of_mem hin
    rw [blank_append, blank_cons] at hgap
    have hsplit : blanks ++ (w ++ (front ++ '\n' :: back ++ text)) =
        blanks ++ (w ++ front) ++ '\n' :: (back ++ text) := by simp
    have hfirst : BulletLines (blanks ++ (w ++ front)) := by
      refine (bulletLines_blank_append hblanks ?_).mpr (.inr (hbullet front))
      rw [List.mem_append, not_or]
      exact ⟨hnewline, hfront⟩
    rw [hsplit, bulletLines_append_newline, and_iff_right hfirst,
      bulletLines_blank_append hgap.2.2 htext]
    simp [hne]
  · rw [bulletLines_blank_append hblanks]
    · simp [hin, hbullet]
    · simp only [List.mem_append, not_or]
      exact ⟨hnewline, hin, htext⟩

/-- An item is its lines, up to the line break. -/
theorem ItemStep.exists_lines {l l' rest : List Char} (h : ItemStep l l' rest) :
    ∃ lines, l = lines ++ belowFirst (rest.dropWhile isSpace) ∧
      (BulletLines lines ↔ TakesBullet rest) := by
  obtain ⟨⟨w, hw, hl⟩, htext, -⟩ := h
  have hne := not_blank_firstLine_dropWhile htext
  have hsame : (firstLine (rest.dropWhile isSpace)).dropWhile isSpace =
      firstLine (rest.dropWhile isSpace) := by
    refine (List.append_left_inj (belowFirst (rest.dropWhile isSpace))).mp ?_
    rw [← dropWhile_of_not_blank hne, List.dropWhile_idempotent, firstLine_append_belowFirst]
  refine ⟨l.takeWhile isSpace ++ (w ++ (rest.takeWhile isSpace ++
    firstLine (rest.dropWhile isSpace))), ?_, ?_⟩
  · conv_lhs => rw [← List.takeWhile_append_dropWhile (p := isSpace) (l := l), hl,
      ← List.takeWhile_append_dropWhile (p := isSpace) (l := rest),
      ← firstLine_append_belowFirst (rest.dropWhile isSpace)]
    simp only [List.append_assoc]
  · rw [bulletLines_item (blank_takeWhile l) hw (blank_takeWhile rest) (not_mem_firstLine _) hne,
      hsame, isBullet_firstLine, TakesBullet]

theorem ItemStep.unique {l l₁ l₂ rest₁ rest₂ : List Char} (h₁ : ItemStep l l₁ rest₁)
    (h₂ : ItemStep l l₂ rest₂) : rest₁ = rest₂ ∧ l₁ = l₂ := by
  obtain ⟨⟨w₁, hw₁, hl₁⟩, -, rfl⟩ := h₁
  obtain ⟨⟨w₂, hw₂, hl₂⟩, -, rfl⟩ := h₂
  have hrest := bullet_unique hw₁ hw₂ (hl₁.symm.trans hl₂)
  exact ⟨hrest, by rw [hrest]⟩

theorem keepsToBullets_of_none {l : List Char} (h : ∀ l' rest, ¬ ItemStep l l' rest) :
    KeepsToBullets l := by
  intro mid l' rest hsteps hstep
  rcases Relation.ReflTransGen.cases_head hsteps with rfl | ⟨next, ⟨rest', hfirst⟩, -⟩
  · exact absurd hstep (h l' rest)
  · exact absurd hfirst (h next rest')

theorem keepsToBullets_step {l l' rest : List Char} (h : ItemStep l l' rest) :
    KeepsToBullets l ↔ TakesBullet rest ∧ KeepsToBullets l' := by
  constructor
  · intro hall
    exact ⟨hall l l' rest .refl h, fun mid next rest' hsteps => hall mid next rest' (.head ⟨rest, h⟩ hsteps)⟩
  · rintro ⟨hrest, hmore⟩ mid next rest' hsteps hstep
    rcases Relation.ReflTransGen.cases_head hsteps with rfl | ⟨first, ⟨rest₁, hfirst⟩, hsteps⟩
    · exact (h.unique hstep).1 ▸ hrest
    · obtain ⟨-, rfl⟩ := h.unique hfirst
      exact hmore mid next rest' hsteps hstep

theorem keepsToBullets_blank_append {blanks l : List Char} (h : Blank blanks) :
    KeepsToBullets (blanks ++ l) ↔ KeepsToBullets l := by
  by_cases hstep : ∃ l' rest, ItemStep l l' rest
  · obtain ⟨l', rest, hstep⟩ := hstep
    rw [keepsToBullets_step hstep, keepsToBullets_step ((itemStep_blank_append h).mpr hstep)]
  · have hnone : ∀ l' rest, ¬ ItemStep l l' rest := fun l' rest hs => hstep ⟨l', rest, hs⟩
    refine iff_of_true (keepsToBullets_of_none fun l' rest hs => ?_) (keepsToBullets_of_none hnone)
    exact hnone l' rest ((itemStep_blank_append h).mp hs)

/-- The lines of a block begin with bullets when no bullet takes another line, and the block ends
    with its last line. -/
theorem ItemRun.bulletLines_iff {l body stop : List Char} (h : ItemRun l stop)
    (hl : l = body ++ stop) :
    (BulletLines body ↔ KeepsToBullets l) ∧ (LineStart body ∨ stop = []) := by
  induction h generalizing body with
  | stop hnone =>
      obtain rfl : body = [] := List.append_left_eq_self.mp hl.symm
      exact ⟨iff_of_true (bulletLines_of_blank blank_nil) (keepsToBullets_of_none hnone),
        .inl lineStart_nil⟩
  | @step l l' rest stop hstep more ih =>
      obtain ⟨lines, hlines, hiff⟩ := hstep.exists_lines
      obtain ⟨body', hbody'⟩ := more.suffix
      obtain ⟨ihlines, ihend⟩ := ih hbody'.symm
      have hnext := hstep.next
      rw [keepsToBullets_step hstep, ← hiff, ← ihlines]
      rcases belowFirst_eq (rest.dropWhile isSpace) with hnil | hcons
      · -- the text ends with the item
        rw [hnil] at hnext hlines
        rw [hnext, List.tail_nil, List.append_eq_nil_iff] at hbody'
        obtain ⟨rfl, rfl⟩ := hbody'
        obtain rfl : body = lines := by simpa using hl.symm.trans hlines
        exact ⟨(and_iff_left (bulletLines_of_blank blank_nil)).symm, .inr rfl⟩
      · have hbody : body = lines ++ '\n' :: body' := by
          refine (List.append_left_inj stop).mp ?_
          rw [← hl, hlines, hcons, ← hnext, ← hbody', List.append_assoc, List.cons_append]
        rw [hbody, bulletLines_append_newline]
        exact ⟨Iff.rfl, ihend.imp_left fun hstart => hstart.append_newline lines⟩

theorem ItemRun.unique {l stop₁ stop₂ : List Char} (h₁ : ItemRun l stop₁) (h₂ : ItemRun l stop₂) :
    stop₁ = stop₂ := by
  induction h₁ with
  | stop hnone =>
      cases h₂ with
      | stop _ => rfl
      | step hstep more => exact absurd hstep (hnone _ _)
  | step hstep more ih =>
      cases h₂ with
      | stop hnone => exact absurd hstep (hnone _ _)
      | step hstep' more' =>
          obtain ⟨-, rfl⟩ := hstep.unique hstep'
          exact ih more'

theorem Block.unique {after body₁ stop₁ body₂ stop₂ : List Char} (h₁ : Block after body₁ stop₁)
    (h₂ : Block after body₂ stop₂) : body₁ = body₂ ∧ stop₁ = stop₂ := by
  have hrun : ∀ {body stop : List Char}, Block after body stop → ∃ blanks,
      after = blanks ++ '\n' :: (body ++ stop) ∧
        after.takeWhile isSpace = blanks ++ ['\n'] ++ (body ++ stop).takeWhile isSpace := by
    rintro body stop ⟨⟨blanks, hblanks, hsplit⟩, -, -⟩
    refine ⟨blanks, hsplit, ?_⟩
    rw [hsplit, takeWhile_append_of_blank hblanks, List.takeWhile_cons_of_pos (by decide),
      List.append_assoc, List.singleton_append]
  obtain ⟨blanks₁, hsplit₁, hrun₁⟩ := hrun h₁
  obtain ⟨blanks₂, hsplit₂, hrun₂⟩ := hrun h₂
  -- the block begins after the last line break of the white space
  obtain ⟨hblanks, -⟩ := lastLine_unique (hrun₁.symm.trans hrun₂) (lineStart_concat _) h₁.indented
    (lineStart_concat _) h₂.indented
  obtain rfl := (List.append_left_inj ['\n']).mp hblanks
  have hbody : body₁ ++ stop₁ = body₂ ++ stop₂ :=
    (List.cons.inj (List.append_cancel_left (hsplit₁.symm.trans hsplit₂))).2
  have hitems := h₁.items
  rw [hbody] at hitems
  obtain rfl := hitems.unique h₂.items
  exact ⟨(List.append_left_inj _).mp hbody, rfl⟩

/-! ## The values of a block -/

/-- `re.sub(r"^\s*(?:[-*]|\d+[.)])\s*", "", line).strip()`. -/
def cleanedLine (line : String) : String :=
  strip (dropAtStart (.sequence [.star space, bullet, .star space]) line)

/-- What the agent makes of the body that it finds. -/
def bulletValues (body : String) : List String :=
  Loops.distinct (((splitlines body).map cleanedLine).filter fun value => value ≠ "")

/-- White space, with a bullet in it or not. -/
def Bare (l : List Char) : Prop :=
  Blank l ∨ ∃ w ∈ bullet.language, ∃ rest, l.dropWhile isSpace = w ++ rest ∧ Blank rest

theorem strip_eq_empty_iff (s : String) : strip s = "" ↔ Blank s.toList := by
  rw [strip, String.ofList_eq_empty_iff]
  exact stripChars_eq_nil_iff

theorem cleanedLine_eq_empty_iff (line : String) : cleanedLine line = "" ↔ Bare line.toList := by
  rw [cleanedLine, dropAtStart]
  by_cases h : IsBullet (line.toList.dropWhile isSpace)
  · obtain ⟨w, hw, rest, hline⟩ := h
    have hmatch : matchAt (.sequence [.star space, bullet, .star space]) line.toList =
        some ⟨rest.dropWhile isSpace, []⟩ := by
      refine first_star_char line.toList [] ?_
      rw [hline]
      exact (first_seq_of_unique (ends_bullet hw rest).1 (ends_bullet hw rest).2).trans
        (first_star_run rest [])
    rw [hmatch]
    show strip (String.ofList (rest.dropWhile isSpace)) = "" ↔ _
    rw [strip_ofList_dropWhile, strip_eq_empty_iff, String.toList_ofList]
    constructor
    · exact fun hblank => .inr ⟨w, hw, rest, hline, hblank⟩
    · rintro (hblank | ⟨w', hw', rest', hline', hblank⟩)
      · obtain ⟨c, l, rfl, -⟩ := bullet_cons hw
        rw [dropWhile_eq_nil_iff_blank.mpr hblank] at hline
        cases hline
      · rwa [bullet_unique hw hw' (hline.symm.trans hline')]
  · have hmatch : matchAt (.sequence [.star space, bullet, .star space]) line.toList = none := by
      refine first_star_char_none line.toList [] fun run more hsplit hrun => ?_
      refine first_seq_of_nil (ends_bullet_of_not fun hbullet => h ?_)
      obtain ⟨w, hw, rest, rfl⟩ := hbullet
      exact ⟨w, hw, rest, hsplit ▸ dropWhile_of_bullet hrun hw⟩
    rw [hmatch]
    show strip line = "" ↔ _
    rw [strip_eq_empty_iff]
    refine ⟨.inl, fun hbare => hbare.resolve_right ?_⟩
    rintro ⟨w, hw, rest, hline, -⟩
    exact h ⟨w, hw, rest, hline⟩

/-- A block gives no values when its lines are bullets without text. -/
theorem bulletValues_eq_nil_iff (body : String) :
    bulletValues body = [] ↔ ∀ line ∈ splitlines body, Bare line.toList := by
  rw [bulletValues, List.eq_nil_iff_forall_not_mem]
  simp only [Loops.mem_distinct, List.mem_filter, List.mem_map, decide_eq_true_eq, not_and, not_not,
    forall_exists_index, and_imp, forall_apply_eq_imp_iff₂, cleanedLine_eq_empty_iff]

/-! ## Where the values come from -/

/-- A block of bullets stands directly below the line, with nothing but blank lines between. -/
structure BlockBelow (text above line body below : List Char) : Prop where
  place : ∃ blanks, Blank blanks ∧ LineStart blanks ∧
    WholeLine text above line ('\n' :: (blanks ++ (body ++ below)))
  lines : BulletLines body
  stop : LineStart body ∨ below = []

/-- If the block that the search finds gives values, it stands below a line with the field's
    label. -/
def BlockFromOwnLine (header : Header) (text : List Char) : Prop :=
  ∀ found, searchFrom (multilineList header.pattern) text = some found →
    ∀ raw, found.group? "body" = some raw → bulletValues raw ≠ [] →
      ∃ above line rest body, BlockBelow text above line body found.rest ∧
        OwnLabel header line rest ∧ raw = String.ofList body

/-- The line on which the colon of the site stands is labelled with the header. -/
def OnOwnLine (header : Header) (before label : List Char) : Prop :=
  ∃ above own rest, before ++ (label ++ [':']) = above ++ (own ++ ':' :: rest) ∧ LineStart above ∧
    '\n' ∉ own ∧ '\n' ∉ rest ∧ ':' ∉ own ∧ stripChars own ∈ header.pattern.language

/-- The colon of the first label that a block follows stands on a line with that label, and no
    bullet of the block takes a line without one; or the block gives no values. -/
def BlockSiteAnchored (header : Header) (text : List Char) : Prop :=
  ∀ before label after, FirstSite header StartsBlock text before label after →
    ∀ body stop, Block after body stop →
      (∃ line ∈ splitlines (String.ofList body), ¬ Bare line.toList) →
        OnOwnLine header before label ∧ KeepsToBullets after

theorem searchFrom_multilineList {header : Header} {text : List Char}
    (htext : stripChars text = text) {found : Position} :
    searchFrom (multilineList header.pattern) text = some found ↔
      ∃ before label after, blockTail.first ⟨after, []⟩ = some found ∧
        FirstSite header StartsBlock text before label after := by
  have hsame : multilineList header.pattern = labelThen header.pattern blockTail := rfl
  have hgoes : ∀ after, after <:+ text →
      ((blockTail.first ⟨after, []⟩).isSome ↔ StartsBlock after) := by
    intro after hafter
    have htrail := (noTrail_of_trimmed htext).of_suffix hafter
    by_cases hstarts : StartsBlock after
    · obtain ⟨body, stop, -, hfirst⟩ := exists_block_of_starts htrail hstarts
      rw [hfirst]
      exact iff_of_true rfl hstarts
    · rw [first_blockTail_of_not htrail hstarts]
      exact iff_of_false (by simp) hstarts
  simp only [hsame, searchFrom_labelThen, FirstSite.congr hgoes]

/-- What the search finds at a site. -/
theorem FirstSite.exists_block {header : Header} {text before label after : List Char}
    (htext : stripChars text = text) (hsite : FirstSite header StartsBlock text before label after) :
    ∃ body stop, Block after body stop ∧
      blockTail.first ⟨after, []⟩ = some ⟨stop, [("body", String.ofList body)]⟩ := by
  have hsuffix : after <:+ text := ⟨before ++ (label ++ [':']), by rw [hsite.split]; simp⟩
  exact exists_block_of_starts ((noTrail_of_trimmed htext).of_suffix hsuffix) hsite.follows

theorem Block.bulletLines_iff {after body stop : List Char} (h : Block after body stop) :
    (BulletLines body ↔ KeepsToBullets after) ∧ (LineStart body ∨ stop = []) := by
  obtain ⟨⟨blanks, hblanks, rfl⟩, -, hitems⟩ := h
  have hsplit : blanks ++ '\n' :: (body ++ stop) = blanks ++ ['\n'] ++ (body ++ stop) := by simp
  have hbreak : Blank ['\n'] := blank_singleton (by decide)
  rw [hsplit, keepsToBullets_blank_append (blank_append.mpr ⟨hblanks, hbreak⟩)]
  exact hitems.bulletLines_iff rfl

theorem bulletValues_ne_nil_iff (body : String) :
    bulletValues body ≠ [] ↔ ∃ line ∈ splitlines body, ¬ Bare line.toList := by
  rw [Ne, bulletValues_eq_nil_iff]
  push Not
  rfl

theorem blockFromOwnLine_of_anchored {header : Header} {text : List Char}
    (htext : stripChars text = text) (h : BlockSiteAnchored header text) :
    BlockFromOwnLine header text := by
  intro found hfound raw hraw hvalues
  obtain ⟨before, label, after, hfirst, hsite⟩ := (searchFrom_multilineList htext).mp hfound
  obtain ⟨body, stop, hblock, hfirst'⟩ := hsite.exists_block htext
  cases hfirst.symm.trans hfirst'
  cases hraw
  obtain ⟨⟨above, own, rest, hsame, hstart, hown, hrest, hcolon, hlabel⟩, hkeeps⟩ :=
    h before label after hsite body stop hblock ((bulletValues_ne_nil_iff _).mp hvalues)
  obtain ⟨hlines, hend⟩ := hblock.bulletLines_iff
  obtain ⟨⟨blanks, hblanks, hafter⟩, -, -⟩ := hblock
  -- the line of the colon ends with the first line break after it
  obtain ⟨front, back, hbreak, hfront⟩ :=
    List.eq_append_cons_of_mem (List.mem_append_right blanks (List.mem_singleton_self '\n'))
  have hblank : Blank (front ++ '\n' :: back) :=
    hbreak ▸ blank_append.mpr ⟨hblanks, blank_singleton (by decide)⟩
  rw [blank_append, blank_cons] at hblank
  have hback : LineStart back := by
    have hall : LineStart (front ++ ['\n'] ++ back) := by
      rw [List.append_assoc, List.singleton_append, ← hbreak]
      exact lineStart_concat blanks
    exact hall.of_append
  refine ⟨above, own ++ ':' :: (rest ++ front), rest ++ front, body,
    ⟨⟨back, hblank.2.2, hback, ?_, hstart, ?_, ?_⟩, hlines.mpr hkeeps, hend⟩,
    ⟨own, rfl, hcolon, hlabel⟩, rfl⟩
  · calc text = before ++ (label ++ [':']) ++ (blanks ++ ['\n'] ++ (body ++ stop)) := by
          rw [hsite.split, hafter]
          simp
      _ = above ++ (own ++ ':' :: (rest ++ front) ++ '\n' :: (back ++ (body ++ stop))) := by
          rw [hsame, hbreak]
          simp
  · simp only [List.mem_append, List.mem_cons, not_or]
    exact ⟨hown, by decide, hrest, hfront⟩
  · intro c hc
    cases hc
    rfl

theorem anchored_of_blockFromOwnLine {header : Header} {text : List Char}
    (htext : stripChars text = text) (h : BlockFromOwnLine header text) :
    BlockSiteAnchored header text := by
  intro before label after hsite body stop hblock hitems
  obtain ⟨body', stop', hblock', hfirst⟩ := hsite.exists_block htext
  obtain ⟨rfl, rfl⟩ := hblock.unique hblock'
  obtain ⟨above, line, rest, body', ⟨⟨back, hback, -, hwhole⟩, hlines, -⟩, hown, hbody⟩ :=
    h _ ((searchFrom_multilineList htext).mpr ⟨before, label, after, hfirst, hsite⟩) _ rfl
      ((bulletValues_ne_nil_iff _).mpr hitems)
  obtain rfl := String.ofList_injective hbody
  refine ⟨?_, hblock.bulletLines_iff.1.mp hlines⟩
  obtain ⟨own, rfl, hcolon, hlabel⟩ := hown.split
  obtain ⟨blanks, hblanks, hafter⟩ := hblock.below
  have hsingle := hwhole.single
  rw [List.mem_append, List.mem_cons, not_or, not_or] at hsingle
  have hbreak : isSpace '\n' = true := by decide
  -- the colon is the last character above the block that is not white space
  have hsame : before ++ (label ++ [':']) ++ (blanks ++ ['\n']) =
      above ++ (own ++ ':' :: rest) ++ '\n' :: back := by
    refine (List.append_left_inj (body ++ stop)).mp ?_
    calc before ++ (label ++ [':']) ++ (blanks ++ ['\n']) ++ (body ++ stop)
        = before ++ (label ++ ':' :: (blanks ++ '\n' :: (body ++ stop))) := by simp
      _ = text := by rw [← hafter, ← hsite.split]
      _ = above ++ (own ++ ':' :: rest) ++ '\n' :: back ++ (body ++ stop) := by
          rw [hwhole.split]
          simp
  have htrim := congrArg (List.rdropWhile isSpace) hsame
  rw [rdropWhile_append_of_blank _ (blank_append.mpr ⟨hblanks, blank_singleton hbreak⟩),
    rdropWhile_append_of_blank _ (blank_cons.mpr ⟨hbreak, hback⟩), ← List.append_assoc,
    rdropWhile_append_cons (by decide), ← List.append_assoc above,
    rdropWhile_append_cons (by decide)] at htrim
  refine ⟨above, own, rest.rdropWhile isSpace, by simpa using htrim, hwhole.start, hsingle.1,
    fun hmem => hsingle.2.2 ((List.rdropWhile_prefix _ _).subset hmem), hcolon, hlabel⟩

theorem blockFromOwnLine_iff {header : Header} {text : List Char} (htext : stripChars text = text) :
    BlockFromOwnLine header text ↔ BlockSiteAnchored header text :=
  ⟨anchored_of_blockFromOwnLine htext, blockFromOwnLine_of_anchored htext⟩

end CodexOrchestrator
