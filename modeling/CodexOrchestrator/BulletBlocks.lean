import CodexOrchestrator.LabelledLines

/-!
# BulletBlocks — lists whose items stand below the label

An item is a bullet and the line of the first text after it.  A bullet with nothing after it on its
line takes the next line that is not blank, whatever it is.
-/

open PyText Regex

namespace CodexOrchestrator

/-! ## Bullets -/

/-- A decimal digit of Unicode. -/
def isDigit (c : Char) : Bool := zeros.any fun first => first ≤ c.toNat && c.toNat < first + 10

/-- The digits are further up than the marks of the bullets, and white space is between them. -/
theorem isDigit_range {c : Char} (h : isDigit c = true) : 48 ≤ c.toNat ∧ isSpace c = false := by
  obtain ⟨first, hfirst, hrange⟩ := List.any_eq_true.mp h
  rw [Bool.and_eq_true, decide_eq_true_eq, decide_eq_true_eq] at hrange
  have htable : ∀ first ∈ zeros, 48 ≤ first ∧
      (first + 10 ≤ 0x85 ∨ 0x85 < first) ∧ (first + 10 ≤ 0xA0 ∨ 0xA0 < first) ∧
      (first + 10 ≤ 0x1680 ∨ 0x1680 < first) ∧ (first + 10 ≤ 0x2000 ∨ 0x205F < first) ∧
      (first + 10 ≤ 0x3000 ∨ 0x3000 < first) := by decide
  obtain ⟨hlow, h85, hA0, h1680, h2000, h3000⟩ := htable first hfirst
  refine ⟨by omega, ?_⟩
  rw [← Bool.not_eq_true, isSpace_iff]
  omega

theorem not_isDigit_of_lt {c : Char} (h : c.toNat < 48) : ¬ isDigit c = true := fun hdigit => by
  have := (isDigit_range hdigit).1
  omega

theorem plain_bullet : bullet.Plain := ⟨trivial, ⟨trivial, trivial⟩, trivial⟩

theorem mem_language_bullet {w : List Char} : w ∈ bullet.language ↔
    (∃ c ∈ ['-', '*'], w = [c]) ∨
      ∃ digits, digits ≠ [] ∧ (∀ c ∈ digits, isDigit c = true) ∧
        ∃ e ∈ ['.', ')'], w = digits ++ [e] := by
  rw [bullet, Pattern.language, Language.mem_add]
  refine or_congr ?_ ?_
  · rw [oneOf, mem_language_char]
    simp only [decide_eq_true_eq]
  · simp only [mem_language_seq, Pattern.plus, digit, oneOf, mem_language_star_char,
      mem_language_char, decide_eq_true_eq]
    constructor
    · rintro ⟨_, ⟨_, ⟨d, hd, rfl⟩, digits, hdigits, rfl⟩, _, ⟨e, he, rfl⟩, rfl⟩
      refine ⟨d :: digits, List.cons_ne_nil _ _, fun c hc => ?_, e, he, rfl⟩
      rcases List.mem_cons.mp hc with rfl | hc
      · exact hd
      · exact hdigits c hc
    · rintro ⟨digits, hne, hdigits, e, he, rfl⟩
      cases digits with
      | nil => exact absurd rfl hne
      | cons d digits =>
          exact ⟨d :: digits, ⟨[d], ⟨d, hdigits d List.mem_cons_self, rfl⟩, digits,
            fun c hc => hdigits c (List.mem_cons_of_mem _ hc), rfl⟩, [e], ⟨e, he, rfl⟩, rfl⟩

/-- A bullet is not empty, does not begin with white space, and stands on one line. -/
theorem bullet_cons {w : List Char} (h : w ∈ bullet.language) :
    ∃ c l, w = c :: l ∧ ¬ isSpace c = true ∧ '\n' ∉ w := by
  rcases mem_language_bullet.mp h with ⟨c, hc, rfl⟩ | ⟨digits, hne, hdigits, e, he, rfl⟩
  · have hmark : c = '-' ∨ c = '*' := by simpa using hc
    rcases hmark with rfl | rfl <;> exact ⟨_, [], rfl, by decide, by decide⟩
  · have hmark : e = '.' ∨ e = ')' := by simpa using he
    have hnewline : '\n' ∉ digits := fun hmem =>
      not_isDigit_of_lt (by decide) (hdigits _ hmem)
    cases digits with
    | nil => exact absurd rfl hne
    | cons d digits =>
        refine ⟨d, digits ++ [e], rfl, ?_, ?_⟩
        · simp [(isDigit_range (hdigits d List.mem_cons_self)).2]
        · rw [List.mem_append, List.mem_singleton, not_or]
          refine ⟨hnewline, ?_⟩
          rcases hmark with rfl | rfl <;> decide

/-- A text begins with one bullet at most. -/
theorem bullet_unique {w w' rest rest' : List Char} (hw : w ∈ bullet.language)
    (hw' : w' ∈ bullet.language) (h : w ++ rest = w' ++ rest') : rest = rest' := by
  -- the digits of a bullet are all the digits that the text begins with
  have hdigits : ∀ {digits : List Char} {e : Char} {l : List Char}, digits ≠ [] →
      (∀ c ∈ digits, isDigit c = true) → e ∈ ['.', ')'] →
      (digits ++ [e] ++ l).dropWhile isDigit = e :: l ∧
        ∀ c ∈ ['-', '*'], ∀ l', digits ++ [e] ++ l ≠ c :: l' := by
    intro digits e l hne hall he
    have hmark : e = '.' ∨ e = ')' := by simpa using he
    have hstop : ¬ isDigit e = true := by
      rcases hmark with rfl | rfl <;> exact not_isDigit_of_lt (by decide)
    refine ⟨?_, fun c hc l' heq => ?_⟩
    · rw [List.append_assoc, List.dropWhile_append_of_pos hall, List.singleton_append,
        List.dropWhile_cons_of_neg hstop]
    · have hfirst : c = '-' ∨ c = '*' := by simpa using hc
      cases digits with
      | nil => exact hne rfl
      | cons d digits =>
          have hd := hall d List.mem_cons_self
          rw [(List.cons.inj heq).1] at hd
          rcases hfirst with rfl | rfl <;> exact not_isDigit_of_lt (by decide) hd
  rcases mem_language_bullet.mp hw with ⟨c, hc, rfl⟩ | ⟨digits, hne, hall, e, he, rfl⟩ <;>
    rcases mem_language_bullet.mp hw' with ⟨c', hc', rfl⟩ | ⟨digits', hne', hall', e', he', rfl⟩
  · exact (List.cons.inj h).2
  · exact absurd h.symm ((hdigits hne' hall' he').2 c hc rest)
  · exact absurd h ((hdigits hne hall he).2 c' hc' rest')
  · have hdrop := congrArg (List.dropWhile isDigit) h
    rw [(hdigits hne hall he).1, (hdigits hne' hall' he').1] at hdrop
    exact (List.cons.inj hdrop).2

/-- A bullet begins the characters. -/
def IsBullet (l : List Char) : Prop := ∃ w ∈ bullet.language, ∃ rest, l = w ++ rest

/-- The matcher goes on after the bullet. -/
theorem ends_bullet {w : List Char} (hw : w ∈ bullet.language) (rest : List Char) :
    bullet.ends ⟨w ++ rest, []⟩ ≠ [] ∧ ∀ stop ∈ bullet.ends ⟨w ++ rest, []⟩, stop = ⟨rest, []⟩ := by
  have hmem : (⟨rest, []⟩ : Position) ∈ bullet.ends ⟨w ++ rest, []⟩ :=
    (mem_ends_iff plain_bullet).mpr ⟨rfl, w, hw, rfl⟩
  refine ⟨List.ne_nil_of_mem hmem, fun stop hstop => ?_⟩
  obtain ⟨hgroups, w', hw', hrest⟩ := (mem_ends_iff plain_bullet).mp hstop
  cases stop
  cases hgroups
  cases bullet_unique hw hw' hrest
  rfl

theorem ends_bullet_of_not {l : List Char} (h : ¬ IsBullet l) : bullet.ends ⟨l, []⟩ = [] := by
  rw [List.eq_nil_iff_forall_not_mem]
  intro stop hstop
  obtain ⟨-, w, hw, hrest⟩ := (mem_ends_iff plain_bullet).mp hstop
  exact h ⟨w, hw, stop.rest, hrest⟩

/-! ## Items -/

/-- `\s*(?:[-*]|\d+[.)])\s*[^\n]+(?:\r?\n|$)`. -/
def item : Pattern :=
  .sequence [.star space, bullet, .star space, .plus notNewline, .either newline .textEnd]

/-- The characters do not end in white space. -/
def NoTrail (l : List Char) : Prop := ∀ l', l' <:+ l → Blank l' → l' = []

theorem NoTrail.of_suffix {l l' : List Char} (h : NoTrail l) (hsuffix : l' <:+ l) : NoTrail l' :=
  fun l'' h'' hblank => h l'' (h''.trans hsuffix) hblank

theorem noTrail_of_trimmed {text : List Char} (htext : stripChars text = text) : NoTrail text := by
  intro l hl hblank
  by_contra hne
  exact dropWhile_ne_nil_of_suffix htext hl hne (dropWhile_eq_nil_iff_blank.mpr hblank)

/-- An item of a list: a bullet, and after it the line that the next text stands on. -/
structure ItemStep (l l' : List Char) (rest : List Char) : Prop where
  bullet : ∃ w ∈ bullet.language, l.dropWhile isSpace = w ++ rest
  text : rest.dropWhile isSpace ≠ []
  next : l' = (belowFirst (rest.dropWhile isSpace)).tail

theorem belowFirst_eq (l : List Char) :
    belowFirst l = [] ∨ belowFirst l = '\n' :: (belowFirst l).tail := by
  have hend := lineEnd_belowFirst l
  cases hl : belowFirst l with
  | nil => exact .inl rfl
  | cons c rest =>
      rw [hl] at hend
      rw [hend c rfl]
      exact .inr rfl

/-- `(?:\r?\n|$)` takes the line break, if there is one. -/
theorem first_lineBreak (l : List Char) : (Pattern.either newline .textEnd).first ⟨belowFirst l, []⟩ =
    some ⟨(belowFirst l).tail, []⟩ := by
  rcases belowFirst_eq l with h | h
  · rw [h]
    rfl
  · rw [h]
    rfl

theorem first_item_of_step {l l' rest : List Char} (h : ItemStep l l' rest) :
    item.first ⟨l, []⟩ = some ⟨l', []⟩ := by
  obtain ⟨⟨w, hw, hl⟩, htext, rfl⟩ := h
  refine first_star_char l [] ?_
  rw [hl]
  refine (first_seq_of_unique (ends_bullet hw rest).1 (ends_bullet hw rest).2).trans ?_
  refine first_star_char rest [] (first_seq_of_first ?_ (first_lineBreak _))
  rw [notNewline, first_plus_run, if_neg]
  · rfl
  · exact fun hnil => not_blank_firstLine_dropWhile htext (by rw [firstLine, hnil]; exact blank_nil)

/-- White space in front of a bullet is not part of it. -/
theorem dropWhile_of_bullet {run w rest : List Char} (hrun : Blank run) (hw : w ∈ bullet.language) :
    (run ++ (w ++ rest)).dropWhile isSpace = w ++ rest := by
  obtain ⟨c, l, rfl, hc, -⟩ := bullet_cons hw
  rw [dropWhile_append_of_blank hrun, List.cons_append, List.dropWhile_cons_of_neg hc]

theorem first_item_of_not {l : List Char} (hl : NoTrail l) (h : ∀ l' rest, ¬ ItemStep l l' rest) :
    item.first ⟨l, []⟩ = none := by
  refine first_star_char_none l [] fun run more hsplit hrun => ?_
  by_cases hbullet : IsBullet more
  · obtain ⟨w, hw, rest, rfl⟩ := hbullet
    have hdrop : l.dropWhile isSpace = w ++ rest := hsplit ▸ dropWhile_of_bullet hrun hw
    have hblank : Blank rest := by
      by_contra hne
      exact h _ rest ⟨⟨w, hw, hdrop⟩, mt dropWhile_eq_nil_iff_blank.mp hne, rfl⟩
    have hrest : rest = [] := hl rest ⟨run ++ w, by rw [hsplit, List.append_assoc]⟩ hblank
    subst hrest
    refine (first_seq_of_unique (ends_bullet hw []).1 (ends_bullet hw []).2).trans ?_
    exact (first_star_char_nil []).trans (first_seq_of_nil rfl)
  · exact first_seq_of_nil (ends_bullet_of_not hbullet)

/-- One round of the list is one item. -/
theorem first_item_iff {l : List Char} (hl : NoTrail l) {stop : Position} :
    item.first ⟨l, []⟩ = some stop ↔ ∃ l' rest, ItemStep l l' rest ∧ stop = ⟨l', []⟩ := by
  constructor
  · intro h
    by_cases hstep : ∃ l' rest, ItemStep l l' rest
    · obtain ⟨l', rest, hstep⟩ := hstep
      rw [first_item_of_step hstep] at h
      exact ⟨l', rest, hstep, (Option.some.inj h).symm⟩
    · rw [first_item_of_not hl fun l' rest hs => hstep ⟨l', rest, hs⟩] at h
      cases h
  · rintro ⟨l', rest, hstep, rfl⟩
    exact first_item_of_step hstep

/-- What is left after an item is the end of the characters before it. -/
theorem ItemStep.suffix {l l' rest : List Char} (h : ItemStep l l' rest) : l' <:+ l := by
  obtain ⟨⟨w, hw, hl⟩, htext, rfl⟩ := h
  calc (belowFirst (rest.dropWhile isSpace)).tail <:+ belowFirst (rest.dropWhile isSpace) :=
        List.tail_suffix _
    _ <:+ rest.dropWhile isSpace := List.dropWhile_suffix _
    _ <:+ rest := List.dropWhile_suffix _
    _ <:+ w ++ rest := List.suffix_append _ _
    _ <:+ l := hl ▸ List.dropWhile_suffix _

/-- Every item takes a bullet at least. -/
theorem item_moves (start : Position) :
    ∀ stop ∈ item.ends start, stop.rest.length < start.rest.length := by
  intro stop hstop
  obtain ⟨mid, hmid, hstop⟩ := List.mem_flatMap.mp hstop
  obtain ⟨after, hafter, hstop⟩ := List.mem_flatMap.mp hstop
  obtain ⟨-, w, hw, hrest⟩ := (mem_ends_iff plain_bullet).mp hafter
  obtain ⟨c, l, rfl, -⟩ := bullet_cons hw
  have hbefore := length_le_of_mem_ends hmid
  have hbehind := length_le_of_mem_ends hstop
  rw [hrest, List.length_append, List.length_cons] at hbefore
  omega

/-- Item after item, as many as there are. -/
inductive ItemRun : List Char → List Char → Prop
  | stop {l : List Char} (h : ∀ l' rest, ¬ ItemStep l l' rest) : ItemRun l l
  | step {l l' rest stop : List Char} (h : ItemStep l l' rest) (more : ItemRun l' stop) :
      ItemRun l stop

theorem ItemRun.suffix {l stop : List Char} (h : ItemRun l stop) : stop <:+ l := by
  induction h with
  | stop h => exact List.suffix_refl _
  | step h more ih => exact ih.trans h.suffix

theorem itemRun_of_rounds {start stop : Position} (hgroups : start.groups = [])
    (hl : NoTrail start.rest) (h : Rounds item start stop) :
    ∃ rest, stop = ⟨rest, []⟩ ∧ ItemRun start.rest rest := by
  obtain ⟨hrounds, hlast⟩ := h
  induction hrounds using Relation.ReflTransGen.head_induction_on with
  | refl =>
      obtain ⟨l, groups⟩ := stop
      cases hgroups
      refine ⟨l, rfl, .stop fun l' rest hstep => ?_⟩
      rw [first_item_of_step hstep] at hlast
      cases hlast
  | head hround hmore ih =>
      rename_i first mid
      obtain ⟨l, groups⟩ := first
      cases hgroups
      obtain ⟨l', rest, hstep, rfl⟩ := (first_item_iff hl).mp hround
      obtain ⟨final, hstop, hrun⟩ := ih rfl (hl.of_suffix hstep.suffix)
      exact ⟨final, hstop, .step hstep hrun⟩

/-! ## The block below the label -/

/-- `(?P<body>(?:…)+)`. -/
def blockBody : Pattern := .group "body" (.plus item)

/-- `\s*(?:\r?\n)(?P<body>…)`. -/
def blockTail : Pattern := .seq (.star space) (.seq newline blockBody)

/-- The body is all the items from the place where the first one begins. -/
theorem first_blockBody {l : List Char} (hl : NoTrail l) :
    (∃ l' rest, ItemStep l l' rest) ∧ (∃ body stop, l = body ++ stop ∧ ItemRun l stop ∧
        blockBody.first ⟨l, []⟩ = some ⟨stop, [("body", String.ofList body)]⟩) ∨
      (∀ l' rest, ¬ ItemStep l l' rest) ∧ blockBody.first ⟨l, []⟩ = none := by
  by_cases hstep : ∃ l' rest, ItemStep l l' rest
  · refine .inl ⟨hstep, ?_⟩
    obtain ⟨l', rest, hstep⟩ := hstep
    obtain ⟨final, hfinal, hrounds⟩ := exists_rounds item_moves ⟨l', []⟩
    obtain ⟨stop, rfl, hrun⟩ := itemRun_of_rounds rfl (hl.of_suffix hstep.suffix) hrounds
    have hrun' : ItemRun l stop := .step hstep hrun
    obtain ⟨body, hbody⟩ := hrun'.suffix
    refine ⟨body, stop, hbody.symm, hrun', ?_⟩
    rw [blockBody, first_group, Pattern.plus, first_seq_of_first (first_item_of_step hstep) hfinal]
    have htext : between ⟨l, []⟩ ⟨stop, []⟩ = String.ofList body := by
      rw [between, ← hbody, List.length_append, Nat.add_sub_cancel, List.take_left']
      rfl
    rw [Option.map_some, htext]
  · have hnone : ∀ l' rest, ¬ ItemStep l l' rest := fun l' rest h => hstep ⟨l', rest, h⟩
    refine .inr ⟨hnone, ?_⟩
    have hends : item.ends ⟨l, []⟩ = [] := List.head?_eq_none_iff.mp (first_item_of_not hl hnone)
    rw [blockBody, first_group, Pattern.plus, first_seq_of_nil hends, Option.map_none]

/-- White space in front of an item is part of it. -/
theorem itemStep_blank_append {blanks l l' rest : List Char} (h : Blank blanks) :
    ItemStep (blanks ++ l) l' rest ↔ ItemStep l l' rest := by
  have hdrop := dropWhile_append_of_blank h l
  constructor
  · rintro ⟨hbullet, htext, hnext⟩
    exact ⟨hdrop ▸ hbullet, htext, hnext⟩
  · rintro ⟨hbullet, htext, hnext⟩
    exact ⟨hdrop.symm ▸ hbullet, htext, hnext⟩

/-- A line break after the colon and white space, and a list below it. -/
def StartsBlock (after : List Char) : Prop :=
  '\n' ∈ after.takeWhile isSpace ∧ ∃ l' rest, ItemStep (after.dropWhile isSpace) l' rest

/-- After a line break the block begins. -/
theorem first_newline (l : List Char) :
    (Pattern.seq newline blockBody).first ⟨'\n' :: l, []⟩ = blockBody.first ⟨l, []⟩ := by
  refine first_seq_of_unique ?_ fun stop (hstop : stop ∈ [(⟨l, []⟩ : Position)]) => ?_
  · exact List.cons_ne_nil _ _
  · exact List.mem_singleton.mp hstop

/-- A line break may have a carriage return in front of it. -/
theorem first_newline_cases (l : List Char) :
    (Pattern.seq newline blockBody).first ⟨l, []⟩ = none ∨ ∃ mark l', Blank mark ∧
      l = mark ++ '\n' :: l' ∧
      (Pattern.seq newline blockBody).first ⟨l, []⟩ = blockBody.first ⟨l', []⟩ := by
  cases l with
  | nil => exact .inl rfl
  | cons c rest =>
      by_cases hc : c = '\n'
      · subst hc
        exact .inr ⟨[], rest, blank_nil, rfl, first_newline rest⟩
      · have hplain : newline.Plain := ⟨trivial, trivial⟩
        have hends : ∀ stop ∈ newline.ends ⟨c :: rest, []⟩, c = '\r' ∧
            rest = '\n' :: stop.rest ∧ stop = ⟨stop.rest, []⟩ := by
          intro stop hstop
          obtain ⟨hgroups, w, hw, hrest⟩ := (mem_ends_iff hplain).mp hstop
          simp only [newline, mem_language_seq, oneOf, mem_language_char, decide_eq_true_eq,
            List.mem_singleton] at hw
          obtain ⟨a, ha, b, ⟨d, rfl, rfl⟩, rfl⟩ := hw
          rcases (Language.mem_add ..).mp ha with ⟨e, he, rfl⟩ | ha
          · have hcr : e = '\r' := by simpa using he
            subst hcr
            cases stop
            cases hgroups
            cases hrest
            exact ⟨rfl, rfl, rfl⟩
          · rw [Language.mem_one] at ha
            subst ha
            cases hrest
            exact absurd rfl hc
        by_cases hnone : newline.ends ⟨c :: rest, []⟩ = []
        · exact .inl (first_seq_of_nil hnone)
        · obtain ⟨stop, hstop⟩ := List.exists_mem_of_ne_nil _ hnone
          obtain ⟨rfl, hrest, hgroups⟩ := hends stop hstop
          refine .inr ⟨['\r'], stop.rest, blank_singleton (by decide), by rw [hrest]; rfl, ?_⟩
          refine first_seq_of_unique hnone fun other hother => ?_
          obtain ⟨-, hrest', hgroups'⟩ := hends other hother
          rw [hrest, List.cons.injEq] at hrest'
          rw [hgroups', hrest'.2]

theorem takeWhile_append_of_blank {l : List Char} (h : Blank l) (l' : List Char) :
    (l ++ l').takeWhile isSpace = l ++ l'.takeWhile isSpace :=
  List.takeWhile_append_of_pos h

theorem takeWhile_dropWhile (l : List Char) : (l.dropWhile isSpace).takeWhile isSpace = [] := by
  induction l with
  | nil => rfl
  | cons c rest ih =>
      by_cases hc : isSpace c = true
      · rw [List.dropWhile_cons_of_pos hc, ih]
      · rw [List.dropWhile_cons_of_neg hc, List.takeWhile_cons_of_neg hc]

/-- The block begins after the last line break of the white space. -/
theorem first_blockTail_of_body {blanks l : List Char} (hblanks : Blank blanks)
    (hl : '\n' ∉ l.takeWhile isSpace) {found : Position}
    (hbody : blockBody.first ⟨l, []⟩ = some found) :
    blockTail.first ⟨blanks ++ '\n' :: l, []⟩ = some found := by
  unfold blockTail space
  induction blanks with
  | nil =>
      rw [List.nil_append, first_star_char_cons, if_pos (by decide), first_star_char_none,
        first_newline, hbody]
      · rfl
      · intro run more hsplit hrun
        rcases first_newline_cases more with hnone | ⟨mark, l', hmark, rfl, -⟩
        · exact hnone
        · refine absurd ?_ hl
          rw [hsplit, takeWhile_append_of_blank hrun, takeWhile_append_of_blank hmark,
            List.takeWhile_cons_of_pos (by decide)]
          simp
  | cons c blanks ih =>
      rw [blank_cons] at hblanks
      rw [List.cons_append, first_star_char_cons, if_pos hblanks.1, ih hblanks.2]
      rfl

/-- A block of items: the text from the last line break before the first one to the end of the
    last one. -/
structure Block (after body stop : List Char) : Prop where
  below : ∃ blanks, Blank blanks ∧ after = blanks ++ '\n' :: (body ++ stop)
  indented : '\n' ∉ (body ++ stop).takeWhile isSpace
  items : ItemRun (body ++ stop) stop

theorem exists_block_of_starts {after : List Char} (hafter : NoTrail after) (h : StartsBlock after) :
    ∃ body stop, Block after body stop ∧
      blockTail.first ⟨after, []⟩ = some ⟨stop, [("body", String.ofList body)]⟩ := by
  obtain ⟨hnewline, l', rest, hstep⟩ := h
  obtain ⟨above, indent, hrun, hstart, hindent⟩ := exists_lastLine (after.takeWhile isSpace)
  have hblank : Blank (above ++ indent) := hrun ▸ blank_takeWhile after
  rw [blank_append] at hblank
  rcases hstart.eq_nil_or with rfl | ⟨blanks, rfl⟩
  · rw [hrun] at hnewline
    exact absurd hnewline hindent
  · have hsplit : after = blanks ++ '\n' :: (indent ++ after.dropWhile isSpace) := by
      conv_lhs => rw [← List.takeWhile_append_dropWhile (p := isSpace) (l := after), hrun]
      simp
    have hl : NoTrail (indent ++ after.dropWhile isSpace) :=
      hafter.of_suffix ⟨blanks ++ ['\n'], by rw [List.append_assoc]; exact hsplit.symm⟩
    have hindented : '\n' ∉ (indent ++ after.dropWhile isSpace).takeWhile isSpace := by
      rw [takeWhile_append_of_blank hblank.2, takeWhile_dropWhile, List.append_nil]
      exact hindent
    rcases first_blockBody hl with ⟨-, body, stop, hbody, hitems, hfirst⟩ | ⟨hnone, -⟩
    · have hblanks := (blank_append.mp hblank.1).1
      refine ⟨body, stop, ⟨⟨blanks, hblanks, hbody ▸ hsplit⟩, hbody ▸ hindented, hbody ▸ hitems⟩, ?_⟩
      rw [hsplit]
      exact first_blockTail_of_body hblanks hindented hfirst
    · exact absurd ((itemStep_blank_append hblank.2).mpr hstep) (hnone l' rest)

theorem first_blockTail_of_not {after : List Char} (hafter : NoTrail after)
    (h : ¬ StartsBlock after) : blockTail.first ⟨after, []⟩ = none := by
  refine first_star_char_none after [] fun run more hsplit hrun => ?_
  rcases first_newline_cases more with hnone | ⟨mark, l, hmark, rfl, hfirst⟩
  · exact hnone
  · -- the line break is there, so there is no item below it
    have hblank : Blank (run ++ mark ++ ['\n']) :=
      blank_append.mpr ⟨blank_append.mpr ⟨hrun, hmark⟩, blank_singleton (by decide)⟩
    have hsplit' : after = run ++ mark ++ ['\n'] ++ l := by
      rw [hsplit]
      simp
    have hl : NoTrail l := hafter.of_suffix ⟨_, hsplit'.symm⟩
    rw [hfirst]
    rcases first_blockBody hl with ⟨⟨l', rest, hstep⟩, -⟩ | ⟨-, hnone⟩
    · refine absurd ⟨?_, l', rest, ?_⟩ h
      · rw [hsplit', takeWhile_append_of_blank hblank]
        simp
      · rw [hsplit', dropWhile_append_of_blank hblank]
        exact (itemStep_blank_append (blank_takeWhile l)).mp
          ((List.takeWhile_append_dropWhile (p := isSpace) (l := l)).symm ▸ hstep)
    · exact hnone

end CodexOrchestrator
