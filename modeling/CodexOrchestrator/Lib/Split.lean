import CodexOrchestrator.Lib.Text

/-!
# Split — `str.split` at a separator and at white space

`splitOn` cuts a string at every occurrence of a character, `splitOnce` at its first run of white
space.  White space around a string does not change the trimmed pieces.
-/

namespace PyText

/-- `s.split(sep)` for a separator of one character. -/
def splitOn (sep : Char) (s : String) : List String :=
  (s.toList.splitOn sep).map String.ofList

/-- `s.split(None, 1)`: the first word, and what follows the white space after it. -/
def splitOnce (s : String) : List String :=
  let text := s.toList.dropWhile isSpace
  let word := text.takeWhile fun c => !isSpace c
  let rest := (text.dropWhile fun c => !isSpace c).dropWhile isSpace
  if text = [] then []
  else if rest = [] then [String.ofList word]
  else [String.ofList word, String.ofList rest]

theorem toList_join (sep : String) (parts : List String) :
    (join sep parts).toList = sep.toList.intercalate (parts.map String.toList) := by
  induction parts with
  | nil => rfl
  | cons part rest ih =>
      cases rest with
      | nil => simp [join, List.intercalate_singleton]
      | cons next more =>
          rw [List.map_cons] at ih ⊢
          rw [List.map_cons, List.intercalate_cons_cons, ← ih]
          simp [join]

theorem not_mem_of_mem_splitOn {sep : Char} {l piece : List Char} (h : piece ∈ l.splitOn sep) :
    sep ∉ piece := by
  induction l generalizing piece with
  | nil =>
      rw [List.splitOn_nil, List.mem_singleton] at h
      rw [h]
      exact List.not_mem_nil
  | cons x rest ih =>
      rw [List.splitOn_cons_eq_if_modifyHead] at h
      split at h
      · rcases List.mem_cons.mp h with rfl | h
        · exact List.not_mem_nil
        · exact ih h
      · rename_i hx
        cases hrest : rest.splitOn sep with
        | nil => exact absurd hrest (List.splitOn_ne_nil sep rest)
        | cons first more =>
            rw [hrest, List.modifyHead_cons, List.mem_cons] at h
            rw [hrest] at ih
            rcases h with rfl | h
            · rw [List.mem_cons, not_or]
              exact ⟨fun he => hx (beq_iff_eq.mpr he.symm), ih List.mem_cons_self⟩
            · exact ih (List.mem_cons_of_mem _ h)

/-- The pieces are what stands between the separators. -/
theorem splitOn_eq_iff {sep : Char} {s : String} {pieces : List String} (hne : pieces ≠ []) :
    splitOn sep s = pieces ↔
      s = join (String.singleton sep) pieces ∧ ∀ piece ∈ pieces, sep ∉ piece.toList := by
  have hsep : (String.singleton sep).toList = [sep] := String.toList_singleton _
  constructor
  · rintro rfl
    refine ⟨?_, ?_⟩
    · rw [← String.toList_inj, toList_join, hsep, splitOn, List.map_map]
      simp [Function.comp_def, List.intercalate_splitOn]
    · intro piece hpiece
      obtain ⟨chars, hchars, rfl⟩ := List.mem_map.mp hpiece
      rw [String.toList_ofList]
      exact not_mem_of_mem_splitOn hchars
  · rintro ⟨rfl, hpieces⟩
    rw [splitOn, toList_join, hsep, List.splitOn_intercalate]
    · simp [Function.comp_def]
    · simpa using hpieces
    · simpa using hne

/-! ## Trimming -/

section Trimming

variable {α : Type} (p : α → Bool)

theorem rdropWhile_cons (x : α) (l : List α) : (x :: l).rdropWhile p =
    if l.rdropWhile p = [] ∧ p x = true then [] else x :: l.rdropWhile p := by
  simp only [List.rdropWhile, List.reverse_cons, List.dropWhile_append, List.reverse_eq_nil_iff,
    List.isEmpty_iff]
  by_cases hrest : l.reverse.dropWhile p = []
  · by_cases hx : p x = true <;> simp [hrest, hx]
  · simp [hrest]

/-- It does not matter at which end one starts. -/
theorem dropWhile_rdropWhile_comm (l : List α) :
    (l.rdropWhile p).dropWhile p = (l.dropWhile p).rdropWhile p := by
  induction l with
  | nil => rfl
  | cons x rest ih =>
      rw [rdropWhile_cons]
      by_cases hx : p x = true
      · rw [List.dropWhile_cons_of_pos hx]
        split
        · rename_i hnil
          rw [← ih, hnil.1]
        · rw [List.dropWhile_cons_of_pos hx, ih]
      · rw [List.dropWhile_cons_of_neg hx, rdropWhile_cons, if_neg fun h => hx h.2,
          List.dropWhile_cons_of_neg hx]

end Trimming

/-- `strip` on the characters. -/
def stripChars (l : List Char) : List Char := (l.dropWhile isSpace).rdropWhile isSpace

theorem toList_strip (s : String) : (strip s).toList = stripChars s.toList :=
  String.toList_ofList

section Pieces

variable (sep : Char) (hsep : ¬ isSpace sep = true)
include hsep

theorem map_stripChars_splitOn_dropWhile (l : List Char) :
    ((l.dropWhile isSpace).splitOn sep).map stripChars = (l.splitOn sep).map stripChars := by
  induction l with
  | nil => rfl
  | cons x rest ih =>
      by_cases hx : isSpace x = true
      · have hne : ¬ (x == sep) = true := fun he => hsep (by rwa [← beq_iff_eq.mp he])
        rw [List.dropWhile_cons_of_pos hx, ih, List.splitOn_cons_eq_if_modifyHead, if_neg hne]
        cases rest.splitOn sep with
        | nil => rfl
        | cons piece pieces => simp [stripChars, hx]
      · rw [List.dropWhile_cons_of_neg hx]

theorem map_rdropWhile_splitOn_rdropWhile (l : List Char) :
    ((l.rdropWhile isSpace).splitOn sep).map (·.rdropWhile isSpace) =
      (l.splitOn sep).map (·.rdropWhile isSpace) := by
  induction l with
  | nil => rfl
  | cons x rest ih =>
      -- one more character in front of the first piece
      have hhead : ∀ {pieces pieces' : List (List Char)},
          pieces.map (·.rdropWhile isSpace) = pieces'.map (·.rdropWhile isSpace) →
          (pieces.modifyHead (List.cons x)).map (·.rdropWhile isSpace) =
            (pieces'.modifyHead (List.cons x)).map (·.rdropWhile isSpace) := by
        intro pieces pieces' h
        cases pieces with
        | nil =>
            rw [List.map_nil, eq_comm, List.map_eq_nil_iff] at h
            rw [h]
        | cons piece more =>
            cases pieces' with
            | nil => simp at h
            | cons piece' more' =>
                rw [List.map_cons, List.map_cons, List.cons.injEq] at h
                rw [List.modifyHead_cons, List.modifyHead_cons, List.map_cons, List.map_cons,
                  rdropWhile_cons, rdropWhile_cons, h.1, h.2]
      rw [rdropWhile_cons]
      split
      · -- the whole string is white space: one blank piece on either side
        rename_i hblank
        have hne : ¬ (x == sep) = true := fun he => hsep (by rw [← beq_iff_eq.mp he]; exact hblank.2)
        rw [List.splitOn_cons_eq_if_modifyHead, if_neg hne, ← hhead ih, hblank.1]
        simp [rdropWhile_cons, hblank.2]
      · rw [List.splitOn_cons_eq_if_modifyHead, List.splitOn_cons_eq_if_modifyHead]
        split
        · rw [List.map_cons, List.map_cons, ih]
        · exact hhead ih

/-- White space around a string is no part of its trimmed pieces. -/
theorem map_stripChars_splitOn (l : List Char) :
    ((stripChars l).splitOn sep).map stripChars = (l.splitOn sep).map stripChars := by
  have hcomp : ∀ pieces : List (List Char), pieces.map stripChars =
      (pieces.map (·.rdropWhile isSpace)).map (·.dropWhile isSpace) := by
    intro pieces
    rw [List.map_map]
    exact List.map_congr_left fun piece _ => (dropWhile_rdropWhile_comm isSpace piece).symm
  calc ((stripChars l).splitOn sep).map stripChars
      = ((l.dropWhile isSpace).splitOn sep).map stripChars := by
        rw [hcomp, stripChars, map_rdropWhile_splitOn_rdropWhile sep hsep, ← hcomp]
    _ = (l.splitOn sep).map stripChars := map_stripChars_splitOn_dropWhile sep hsep l

end Pieces

theorem map_strip_splitOn (sep : Char) (hsep : ¬ isSpace sep = true) (s : String) :
    (splitOn sep (strip s)).map strip = (splitOn sep s).map strip := by
  have hstrip : strip ∘ String.ofList = String.ofList ∘ stripChars := by
    funext l
    simp [strip, stripChars]
  rw [splitOn, splitOn, List.map_map, List.map_map, hstrip, toList_strip, ← List.map_map,
    map_stripChars_splitOn sep hsep, List.map_map]

/-! ## The first word -/

/-- A word, a gap of white space, and a rest that does not begin with white space. -/
structure FirstWord (s word gap rest : String) : Prop where
  eq_append : s = word ++ gap ++ rest
  word_ne : word ≠ ""
  word_nonspace : ∀ c ∈ word.toList, ¬ isSpace c = true
  gap_ne : gap ≠ ""
  gap_space : ∀ c ∈ gap.toList, isSpace c = true
  rest_ne : rest ≠ ""
  rest_trimmed : rest.toList.dropWhile isSpace = rest.toList

theorem FirstWord.splitOnce {s word gap rest : String} (h : FirstWord s word gap rest) :
    splitOnce s = [word, rest] := by
  have hne : ∀ {t : String}, t ≠ "" → t.toList ≠ [] := fun ht he =>
    ht (String.toList_eq_nil_iff.mp he)
  have hword : ∀ c ∈ word.toList, (!isSpace c) = true := fun c hc => by
    simpa using h.word_nonspace c hc
  have hs : s.toList = word.toList ++ (gap.toList ++ rest.toList) := by
    rw [h.eq_append, String.toList_append, String.toList_append, List.append_assoc]
  have htext : s.toList.dropWhile isSpace = s.toList := by
    cases hw : word.toList with
    | nil => exact absurd hw (hne h.word_ne)
    | cons c w =>
        rw [hs, hw, List.cons_append, List.dropWhile_cons_of_neg]
        exact h.word_nonspace c (hw ▸ List.mem_cons_self)
  -- the gap is where the word ends
  have hgap : (gap.toList ++ rest.toList).takeWhile (fun c => !isSpace c) = [] ∧
      (gap.toList ++ rest.toList).dropWhile (fun c => !isSpace c) =
        gap.toList ++ rest.toList := by
    cases hg : gap.toList with
    | nil => exact absurd hg (hne h.gap_ne)
    | cons c g =>
        have hc := h.gap_space c (hg ▸ List.mem_cons_self)
        simp [hc]
  have hrest : (gap.toList ++ rest.toList).dropWhile isSpace = rest.toList := by
    rw [List.dropWhile_append_of_pos h.gap_space, h.rest_trimmed]
  simp only [PyText.splitOnce, htext]
  rw [hs, List.takeWhile_append_of_pos hword, List.dropWhile_append_of_pos hword, hgap.1, hgap.2,
    hrest, if_neg (by simp [hne h.word_ne]), if_neg (hne h.rest_ne), List.append_nil,
    String.ofList_toList, String.ofList_toList]

theorem exists_firstWord {s word rest : String} (hs : strip s = s)
    (h : splitOnce s = [word, rest]) : ∃ gap, FirstWord s word gap rest ∧ strip rest = rest := by
  have hlist : (s.toList.dropWhile isSpace).rdropWhile isSpace = s.toList := by
    rw [← stripChars, ← toList_strip, hs]
  have htext : s.toList.dropWhile isSpace = s.toList := by
    rw [← hlist, dropWhile_rdropWhile]
  have hback : s.toList.rdropWhile isSpace = s.toList := by rwa [htext] at hlist
  simp only [splitOnce, htext] at h
  split at h
  · cases h
  rename_i hne
  split at h
  · simp at h
  rename_i hrestne
  rw [List.cons.injEq, List.singleton_inj] at h
  obtain ⟨rfl, rfl⟩ := h
  generalize hafter : s.toList.dropWhile (fun c => !isSpace c) = after at *
  have hsplit : s.toList = s.toList.takeWhile (fun c => !isSpace c) ++
      (after.takeWhile isSpace ++ after.dropWhile isSpace) := by
    rw [List.takeWhile_append_dropWhile, ← hafter, List.takeWhile_append_dropWhile]
  have hfront : (after.dropWhile isSpace).dropWhile isSpace = after.dropWhile isSpace :=
    List.dropWhile_idempotent isSpace after
  refine ⟨String.ofList (after.takeWhile isSpace), ⟨?_, ?_, ?_, ?_, ?_, ?_, ?_⟩, ?_⟩
  · rw [← String.toList_inj]
    simpa using hsplit
  · -- the string does not begin with white space
    have hfirst := (List.dropWhile_eq_self_iff.mp htext) (List.length_pos_of_ne_nil hne)
    cases hs : s.toList with
    | nil => exact absurd hs hne
    | cons c t =>
        have hc : ¬ isSpace c = true := by simpa [hs] using hfirst
        simp [hc]
  · intro c hc
    rw [String.toList_ofList] at hc
    simpa using List.mem_takeWhile_imp hc
  · cases hafter' : after with
    | nil => exact absurd (by rw [hafter']; rfl) hrestne
    | cons c t =>
        have hc : (!isSpace c) = false := by
          have hhead := List.head_dropWhile_not (fun c => !isSpace c)
            (hafter.trans hafter' ▸ List.cons_ne_nil c t)
          simpa [hafter, hafter'] using hhead
        simp [show isSpace c = true by simpa using hc]
  · intro c hc
    rw [String.toList_ofList] at hc
    exact List.mem_takeWhile_imp hc
  · intro he
    exact hrestne (String.ofList_eq_empty_iff.mp he)
  · rw [String.toList_ofList, hfront]
  · have hlast := List.rdropWhile_eq_self_iff.mp hback hne
    have hrest : (after.dropWhile isSpace).rdropWhile isSpace = after.dropWhile isSpace := by
      refine List.rdropWhile_eq_self_iff.mpr fun hl => ?_
      have hsame : s.toList.getLast hne = (after.dropWhile isSpace).getLast hl := by
        rw [List.getLast_congr hne (List.append_ne_nil_of_right_ne_nil _ hl)
          (hsplit.trans (List.append_assoc ..).symm), List.getLast_append_of_ne_nil _ hl]
      rwa [← hsame]
    rw [strip, String.toList_ofList, hfront, hrest]

end PyText
