import CodexOrchestrator.Lib.Regex
import Mathlib.Computability.Language

/-!
# RegexLanguage — what a pattern matches, and where its first match ends

A plain pattern, without groups and `$`, has a language, and its ends are what is left of the text
after a word of the language.  Where a backtracking matcher ends first is computed from the front:
through a sequence, through a run of characters and through rounds of a repetition.
-/

namespace Regex

open scoped Computability

/-! ## The language of a plain pattern -/

/-- No group and no `$` in the pattern. -/
def Pattern.Plain : Pattern → Prop
  | .char _ => True
  | .seq first second => first.Plain ∧ second.Plain
  | .either first second => first.Plain ∧ second.Plain
  | .optional body => body.Plain
  | .star body => body.Plain
  | .group _ _ => False
  | .textEnd => False

/-- The words that match. -/
def Pattern.language : Pattern → Language Char
  | .char test => {w | ∃ c, test c = true ∧ w = [c]}
  | .seq first second => first.language * second.language
  | .either first second => first.language + second.language
  | .optional body => body.language + 1
  | .star body => body.language∗
  | .group _ body => body.language
  | .textEnd => 1

/-- The stop is what is left after a word of the language. -/
def After (language : Language Char) (start stop : Position) : Prop :=
  stop.groups = start.groups ∧ ∃ w ∈ language, start.rest = w ++ stop.rest

theorem After.nil {language : Language Char} (h : [] ∈ language) (start : Position) :
    After language start start :=
  ⟨rfl, [], h, rfl⟩

theorem after_one_iff {start stop : Position} : After 1 start stop ↔ stop = start := by
  constructor
  · rintro ⟨hgroups, w, hw, hrest⟩
    rw [Language.mem_one] at hw
    subst hw
    cases start
    cases stop
    simp_all
  · rintro rfl
    exact After.nil Language.nil_mem_one stop

theorem after_mul_iff {l m : Language Char} {start stop : Position} :
    After (l * m) start stop ↔ ∃ mid, After l start mid ∧ After m mid stop := by
  constructor
  · rintro ⟨hgroups, w, hw, hrest⟩
    obtain ⟨a, ha, b, hb, rfl⟩ := Language.mem_mul.mp hw
    exact ⟨⟨b ++ stop.rest, start.groups⟩, ⟨rfl, a, ha, by rw [hrest, List.append_assoc]⟩,
      hgroups, b, hb, rfl⟩
  · rintro ⟨mid, ⟨hmid, a, ha, hrest⟩, hgroups, b, hb, hmidrest⟩
    exact ⟨hgroups.trans hmid, a ++ b, Language.append_mem_mul ha hb,
      by rw [hrest, hmidrest, List.append_assoc]⟩

theorem after_add_iff {l m : Language Char} {start stop : Position} :
    After (l + m) start stop ↔ After l start stop ∨ After m start stop := by
  simp only [After, Language.mem_add]
  constructor
  · rintro ⟨hgroups, w, hw | hw, hrest⟩
    · exact .inl ⟨hgroups, w, hw, hrest⟩
    · exact .inr ⟨hgroups, w, hw, hrest⟩
  · rintro (⟨hgroups, w, hw, hrest⟩ | ⟨hgroups, w, hw, hrest⟩)
    · exact ⟨hgroups, w, .inl hw, hrest⟩
    · exact ⟨hgroups, w, .inr hw, hrest⟩

/-- The rounds of a repetition: words that are not empty, as many as the text is long at most. -/
theorem mem_starEnds_iff {body : Position → List Position} {language : Language Char}
    (hbody : ∀ start stop, stop ∈ body start ↔ After language start stop) {n : Nat}
    {start stop : Position} (hn : start.rest.length ≤ n) :
    stop ∈ starEnds body n start ↔ After language∗ start stop := by
  constructor
  · intro h
    induction n generalizing start with
    | zero =>
        rw [starEnds, List.mem_singleton] at h
        exact h ▸ After.nil (Language.nil_mem_kstar language) start
    | succ n ih =>
        rw [starEnds, List.mem_append, List.mem_flatMap, List.mem_singleton] at h
        rcases h with ⟨mid, hmid, hstop⟩ | rfl
        · obtain ⟨hmem, hshorter⟩ := List.mem_filter.mp hmid
          rw [decide_eq_true_eq] at hshorter
          have hmore : After (language * language∗) start stop :=
            after_mul_iff.mpr ⟨mid, (hbody start mid).mp hmem, ih (by omega) hstop⟩
          rw [← Language.one_add_self_mul_kstar_eq_kstar]
          exact after_add_iff.mpr (.inr hmore)
        · exact After.nil (Language.nil_mem_kstar language) _
  · rintro ⟨hgroups, w, hw, hrest⟩
    rw [Language.kstar_def_nonempty] at hw
    obtain ⟨words, rfl, hwords⟩ := hw
    induction words generalizing n start with
    | nil =>
        have hsame : stop = start := after_one_iff.mp ⟨hgroups, [], Language.nil_mem_one, hrest⟩
        rw [hsame]
        cases n with
        | zero => exact List.mem_singleton_self _
        | succ n => exact List.mem_append_right _ (List.mem_singleton_self _)
    | cons word words ih =>
        obtain ⟨hword, hne⟩ := hwords word List.mem_cons_self
        have hpos := List.length_pos_of_ne_nil hne
        rw [List.flatten_cons, List.append_assoc] at hrest
        have hlength := congrArg List.length hrest
        rw [List.length_append] at hlength
        cases n with
        | zero => omega
        | succ n =>
            -- the first word is a round of its own
            let mid : Position := ⟨words.flatten ++ stop.rest, start.groups⟩
            have hmid : mid ∈ body start := (hbody start mid).mpr ⟨rfl, word, hword, hrest⟩
            have hround : stop ∈ starEnds body n mid := by
              refine ih ?_ hgroups (fun other hother => ?_) rfl
              · show (words.flatten ++ stop.rest).length ≤ n
                omega
              · exact hwords other (List.mem_cons_of_mem _ hother)
            have hshorter : mid.rest.length < start.rest.length := by
              show (words.flatten ++ stop.rest).length < start.rest.length
              omega
            exact List.mem_append_left _ (List.mem_flatMap.mpr
              ⟨mid, List.mem_filter.mpr ⟨hmid, decide_eq_true hshorter⟩, hround⟩)

/-- The ends of a plain pattern. -/
theorem mem_ends_iff {pattern : Pattern} (hplain : pattern.Plain) {start stop : Position} :
    stop ∈ pattern.ends start ↔ After pattern.language start stop := by
  induction pattern generalizing start stop with
  | char test =>
      obtain ⟨rest, groups⟩ := start
      cases rest with
      | nil =>
          simp only [Pattern.ends, List.not_mem_nil, false_iff]
          rintro ⟨-, w, ⟨c, -, rfl⟩, hrest⟩
          cases hrest
      | cons c rest =>
          simp only [Pattern.ends]
          constructor
          · intro h
            split at h
            · rename_i hc
              rw [List.mem_singleton.mp h]
              exact ⟨rfl, [c], ⟨c, hc, rfl⟩, rfl⟩
            · cases h
          · rintro ⟨hgroups, w, ⟨d, hd, rfl⟩, hrest⟩
            cases stop
            cases hgroups
            cases hrest
            rw [if_pos hd]
            exact List.mem_singleton_self _
  | seq first second ihfirst ihsecond =>
      rw [Pattern.ends, List.mem_flatMap, Pattern.language, after_mul_iff]
      simp only [ihfirst hplain.1, ihsecond hplain.2]
  | either first second ihfirst ihsecond =>
      rw [Pattern.ends, List.mem_append, Pattern.language, after_add_iff, ihfirst hplain.1,
        ihsecond hplain.2]
  | optional body ih =>
      rw [Pattern.ends, List.mem_append, Pattern.language, after_add_iff, ih hplain,
        List.mem_singleton, after_one_iff]
  | star body ih =>
      exact mem_starEnds_iff (fun start stop => ih hplain) le_rfl
  | group name body ih => exact hplain.elim
  | textEnd => exact hplain.elim

theorem mem_language_char {test : Char → Bool} {w : List Char} :
    w ∈ (Pattern.char test).language ↔ ∃ c, test c = true ∧ w = [c] :=
  Iff.rfl

theorem mem_language_star_char {test : Char → Bool} {w : List Char} :
    w ∈ (Pattern.star (.char test)).language ↔ ∀ c ∈ w, test c = true := by
  rw [Pattern.language, Language.mem_kstar]
  constructor
  · rintro ⟨words, rfl, hwords⟩ c hc
    obtain ⟨word, hword, hmem⟩ := List.mem_flatten.mp hc
    obtain ⟨d, hd, rfl⟩ := hwords word hword
    exact List.mem_singleton.mp hmem ▸ hd
  · intro h
    refine ⟨w.map fun c => [c], ?_, fun word hword => ?_⟩
    · rw [← List.flatMap_def, List.flatMap_singleton']
    obtain ⟨c, hc, rfl⟩ := List.mem_map.mp hword
    exact ⟨c, h c hc, rfl⟩

theorem mem_language_seq {first second : Pattern} {w : List Char} :
    w ∈ (Pattern.seq first second).language ↔
      ∃ a ∈ first.language, ∃ b ∈ second.language, a ++ b = w :=
  Language.mem_mul

/-- A match leaves no more of the text than there was. -/
theorem length_le_of_mem_ends {pattern : Pattern} {start stop : Position}
    (h : stop ∈ pattern.ends start) : stop.rest.length ≤ start.rest.length := by
  induction pattern generalizing start stop with
  | char test =>
      obtain ⟨rest, groups⟩ := start
      cases rest with
      | nil => cases h
      | cons c rest =>
          simp only [Pattern.ends] at h
          split at h
          · rw [List.mem_singleton.mp h]
            exact Nat.le_succ _
          · cases h
  | seq first second ihfirst ihsecond =>
      obtain ⟨mid, hmid, hstop⟩ := List.mem_flatMap.mp h
      exact (ihsecond hstop).trans (ihfirst hmid)
  | either first second ihfirst ihsecond =>
      rcases List.mem_append.mp h with h | h
      · exact ihfirst h
      · exact ihsecond h
  | optional body ih =>
      rcases List.mem_append.mp h with h | h
      · exact ih h
      · rw [List.mem_singleton.mp h]
  | star body ih =>
      have hrounds : ∀ n start, stop ∈ starEnds body.ends n start →
          stop.rest.length ≤ start.rest.length := by
        intro n
        induction n with
        | zero =>
            intro start hstop
            rw [List.mem_singleton.mp hstop]
        | succ n ihn =>
            intro start hstop
            rcases List.mem_append.mp hstop with hstop | hstop
            · obtain ⟨mid, hmid, hstop⟩ := List.mem_flatMap.mp hstop
              exact (ihn mid hstop).trans (ih (List.mem_filter.mp hmid).1)
            · rw [List.mem_singleton.mp hstop]
      exact hrounds _ start h
  | group name body ih =>
      obtain ⟨mid, hmid, rfl⟩ := List.mem_map.mp h
      exact (ih hmid :)
  | textEnd =>
      simp only [Pattern.ends] at h
      split at h
      · rw [List.mem_singleton.mp h]
      · cases h

/-! ## Where the first match ends -/

/-- The end of the match that is tried first. -/
def Pattern.first (pattern : Pattern) (start : Position) : Option Position :=
  (pattern.ends start).head?

section First

variable {a b c : Pattern} {test : Char → Bool} {start mid : Position}

theorem ends_seq_assoc (start : Position) :
    (Pattern.seq a (.seq b c)).ends start = (Pattern.seq (.seq a b) c).ends start := by
  simp only [Pattern.ends, List.flatMap_assoc]

/-- When the first part can end in one place only, the second part goes on from there. -/
theorem first_seq_of_unique (hne : a.ends start ≠ []) (h : ∀ stop ∈ a.ends start, stop = mid) :
    (Pattern.seq a b).first start = b.first mid := by
  have hsame := List.eq_replicate_of_mem h
  have hlength := List.length_pos_of_ne_nil hne
  rw [Pattern.first, Pattern.first, Pattern.ends, hsame]
  cases hn : (a.ends start).length with
  | zero => omega
  | succ n =>
      rw [List.replicate_succ, List.flatMap_cons, List.head?_append]
      cases hb : b.ends mid with
      | nil => simp [List.flatMap_replicate, hb]
      | cons stop more => rfl

theorem first_seq_of_nil (h : a.ends start = []) : (Pattern.seq a b).first start = none := by
  rw [Pattern.first, Pattern.ends, h]
  rfl

theorem first_seq_of_first {stop : Position} (hfirst : a.first start = some mid)
    (hb : b.first mid = some stop) : (Pattern.seq a b).first start = some stop := by
  unfold Pattern.first at hfirst hb ⊢
  rw [Pattern.ends]
  cases hends : a.ends start with
  | nil =>
      rw [hends] at hfirst
      cases hfirst
  | cons other more =>
      rw [hends, List.head?_cons, Option.some_inj] at hfirst
      rw [List.flatMap_cons, List.head?_append, hfirst, hb]
      rfl

theorem first_group (name : String) (start : Position) :
    (Pattern.group name a).first start = (a.first start).map fun stop =>
      { stop with groups := (name, between start stop) :: stop.groups } :=
  List.head?_map

theorem ends_star_char_nil (groups : List (String × String)) :
    (Pattern.star (.char test)).ends ⟨[], groups⟩ = [⟨[], groups⟩] := rfl

theorem ends_star_char_cons (d : Char) (rest : List Char) (groups : List (String × String)) :
    (Pattern.star (.char test)).ends ⟨d :: rest, groups⟩ =
      (if test d then (Pattern.star (.char test)).ends ⟨rest, groups⟩ else []) ++
        [⟨d :: rest, groups⟩] := by
  simp only [Pattern.ends, List.length_cons, starEnds]
  congr 1
  split
  · rw [List.filter_cons_of_pos (by simp), List.filter_nil, List.flatMap_singleton]
  · rfl

/-- A run of characters gives one back after the other. -/
theorem first_star_char_cons (d : Char) (rest : List Char) (groups : List (String × String)) :
    (Pattern.seq (.star (.char test)) b).first ⟨d :: rest, groups⟩ =
      if test d then
        ((Pattern.seq (.star (.char test)) b).first ⟨rest, groups⟩).or (b.first ⟨d :: rest, groups⟩)
      else b.first ⟨d :: rest, groups⟩ := by
  simp only [Pattern.first]
  rw [Pattern.ends, ends_star_char_cons]
  split
  · rw [List.flatMap_append, List.head?_append, List.flatMap_singleton]
    rfl
  · rw [List.nil_append, List.flatMap_singleton]

theorem first_star_char_nil (groups : List (String × String)) :
    (Pattern.seq (.star (.char test)) b).first ⟨[], groups⟩ = b.first ⟨[], groups⟩ := by
  rw [Pattern.first, Pattern.ends, ends_star_char_nil, List.flatMap_singleton]
  rfl

/-- The whole run, when what comes next matches after it. -/
theorem first_star_char (l : List Char) (groups : List (String × String)) {stop : Position}
    (h : b.first ⟨l.dropWhile test, groups⟩ = some stop) :
    (Pattern.seq (.star (.char test)) b).first ⟨l, groups⟩ = some stop := by
  induction l with
  | nil => rwa [first_star_char_nil]
  | cons d rest ih =>
      rw [first_star_char_cons]
      by_cases hd : test d = true
      · rw [List.dropWhile_cons_of_pos hd] at h
        rw [if_pos hd, ih h]
        rfl
      · rw [List.dropWhile_cons_of_neg hd] at h
        rw [if_neg hd, h]

/-- When what comes next can match nowhere in the run, nothing matches. -/
theorem first_star_char_none (l : List Char) (groups : List (String × String))
    (h : ∀ run more, l = run ++ more → (∀ d ∈ run, test d = true) → b.first ⟨more, groups⟩ = none) :
    (Pattern.seq (.star (.char test)) b).first ⟨l, groups⟩ = none := by
  induction l with
  | nil =>
      rw [first_star_char_nil]
      exact h [] [] rfl (fun d hd => absurd hd List.not_mem_nil)
  | cons d rest ih =>
      have hhere := h [] (d :: rest) rfl (fun d hd => absurd hd List.not_mem_nil)
      rw [first_star_char_cons, hhere]
      split
      · rename_i hd
        rw [ih, Option.or_none]
        intro run more hrest hrun
        refine h (d :: run) more (by rw [hrest]; rfl) fun e he => ?_
        rcases List.mem_cons.mp he with rfl | he
        · exact hd
        · exact hrun e he
      · rfl

theorem first_star_run (l : List Char) (groups : List (String × String)) :
    (Pattern.star (.char test)).first ⟨l, groups⟩ = some ⟨l.dropWhile test, groups⟩ := by
  unfold Pattern.first
  induction l with
  | nil => rfl
  | cons d rest ih =>
      rw [ends_star_char_cons, List.head?_append]
      by_cases hd : test d = true
      · rw [if_pos hd, ih, List.dropWhile_cons_of_pos hd]
        rfl
      · rw [if_neg hd, List.dropWhile_cons_of_neg hd]
        rfl

/-- A run that is not empty. -/
theorem first_plus_run (l : List Char) (groups : List (String × String)) :
    (Pattern.plus (.char test)).first ⟨l, groups⟩ =
      if l.takeWhile test = [] then none else some ⟨l.dropWhile test, groups⟩ := by
  cases l with
  | nil => rfl
  | cons d rest =>
      by_cases hd : test d = true
      · have hends : (Pattern.char test).first ⟨d :: rest, groups⟩ = some ⟨rest, groups⟩ := by
          simp [Pattern.first, Pattern.ends, hd]
        rw [Pattern.plus, first_seq_of_first hends (first_star_run rest groups),
          List.takeWhile_cons_of_pos hd, List.dropWhile_cons_of_pos hd, if_neg (List.cons_ne_nil _ _)]
      · have hends : (Pattern.char test).ends ⟨d :: rest, groups⟩ = [] := by
          simp [Pattern.ends, hd]
        rw [Pattern.plus, first_seq_of_nil hends, List.takeWhile_cons_of_neg hd, if_pos rfl]

end First

/-! ## Rounds of a repetition -/

section Rounds

/-- One round, to where the body ends first. -/
def Round (body : Pattern) (start stop : Position) : Prop := body.first start = some stop

/-- As many rounds as there are, each to where the body ends first. -/
structure Rounds (body : Pattern) (start stop : Position) : Prop where
  rounds : Relation.ReflTransGen (Round body) start stop
  last : body.first stop = none

/-- A repetition of a body that always moves on goes round as often as it can. -/
theorem exists_rounds {body : Pattern}
    (hmoves : ∀ start, ∀ stop ∈ body.ends start, stop.rest.length < start.rest.length)
    (start : Position) :
    ∃ stop, (Pattern.star body).first start = some stop ∧ Rounds body start stop := by
  have hfuel : ∀ n start, start.rest.length ≤ n →
      ∃ stop, (starEnds body.ends n start).head? = some stop ∧ Rounds body start stop := by
    intro n
    induction n with
    | zero =>
        intro start hn
        refine ⟨start, rfl, .refl, ?_⟩
        rw [Pattern.first, List.head?_eq_none_iff, List.eq_nil_iff_forall_not_mem]
        intro stop hstop
        have := hmoves start stop hstop
        omega
    | succ n ih =>
        intro start hn
        have hfilter : (body.ends start).filter
            (fun stop => stop.rest.length < start.rest.length) = body.ends start :=
          List.filter_eq_self.mpr fun stop hstop => decide_eq_true (hmoves start stop hstop)
        rw [starEnds, hfilter]
        cases hends : body.ends start with
        | nil => exact ⟨start, rfl, .refl, by rw [Pattern.first, hends]; rfl⟩
        | cons mid more =>
            have hmid := hmoves start mid (hends ▸ List.mem_cons_self)
            obtain ⟨stop, hstop, hrounds⟩ := ih mid (by omega)
            have hround : Round body start mid := by
              rw [Round, Pattern.first, hends, List.head?_cons]
            refine ⟨stop, ?_, .head hround hrounds.rounds, hrounds.last⟩
            rw [List.flatMap_cons, List.append_assoc, List.head?_append, hstop]
            rfl
  exact hfuel _ start le_rfl

end Rounds

/-! ## Search -/

/-- The first place in the text where the pattern matches. -/
structure FirstMatch (pattern : Pattern) (text before after : List Char) (found : Position) :
    Prop where
  split : text = before ++ after
  found : matchAt pattern after = some found
  first : ∀ before' after', text = before' ++ after' → (matchAt pattern after').isSome →
    before.length ≤ before'.length

theorem searchFrom_eq_some_iff {pattern : Pattern} {text : List Char} {found : Position} :
    searchFrom pattern text = some found ↔
      ∃ before after, FirstMatch pattern text before after found := by
  induction text with
  | nil =>
      rw [searchFrom]
      constructor
      · intro h
        exact ⟨[], [], rfl, h, fun before' after' _ _ => Nat.zero_le _⟩
      · rintro ⟨before, after, hsplit, hfound, -⟩
        rw [eq_comm, List.append_eq_nil_iff] at hsplit
        exact hsplit.2 ▸ hfound
  | cons c rest ih =>
      rw [searchFrom]
      cases hhere : matchAt pattern (c :: rest) with
      | some here =>
          constructor
          · intro h
            exact ⟨[], c :: rest, rfl, hhere.trans h, fun before' after' _ _ => Nat.zero_le _⟩
          · rintro ⟨before, after, hsplit, hfound, hfirst⟩
            have hnil := hfirst [] (c :: rest) rfl (by rw [hhere]; rfl)
            have hbefore : before = [] := List.eq_nil_of_length_eq_zero (Nat.le_zero.mp hnil)
            rw [hbefore, List.nil_append] at hsplit
            exact hhere.symm.trans (hsplit ▸ hfound)
      | none =>
          -- every match is one in the rest of the text
          constructor
          · intro h
            obtain ⟨before, after, hsplit, hfound, hfirst⟩ := ih.mp h
            refine ⟨c :: before, after, by rw [hsplit]; rfl, hfound, fun before' after' h' hm => ?_⟩
            cases before' with
            | nil =>
                rw [List.nil_append] at h'
                rw [← h', hhere] at hm
                cases hm
            | cons d before' =>
                rw [List.cons_append, List.cons.injEq] at h'
                exact Nat.succ_le_succ (hfirst before' after' h'.2 hm)
          · rintro ⟨before, after, hsplit, hfound, hfirst⟩
            cases before with
            | nil =>
                rw [List.nil_append] at hsplit
                rw [← hsplit, hhere] at hfound
                cases hfound
            | cons d before =>
                rw [List.cons_append, List.cons.injEq] at hsplit
                refine ih.mpr ⟨before, after, hsplit.2, hfound, fun before' after' h' hm => ?_⟩
                exact Nat.le_of_succ_le_succ (hfirst (c :: before') after' (by rw [h']; rfl) hm)

end Regex
