import CodexOrchestrator.FieldHeaders
import CodexOrchestrator.LabelledBlocks

/-!
# FieldProvenance — which lines of a request the fields of the brief are filled from

The searches are not bound to the beginning of a line, the white space after the colon of a value
may run on to the next line, and a bullet without text takes the next line.  The fields come from
lines with their own labels exactly for the requests in which the first sites are anchored.
-/

open PyText Regex

namespace CodexOrchestrator

/-! ## Fields and their lines -/

/-- The value is the trimmed rest of a line with the field's label, where the search for it ends. -/
def SetFromOwnLine (header : Header) (text : String) (value : Option String) : Prop :=
  ∀ v ∈ value, ∃ found above line rest, search (labelled header.pattern) text = some found ∧
    WholeLine text.toList above line found.rest ∧ OwnLabel header line rest ∧
      v = strip (String.ofList rest)

/-- The values are those of the rest of a line with the field's label, or of the block of bullets
    below such a line, where the search that gives them ends. -/
structure ListFromOwnLine (header : Header) (text field : String) (values : List String) : Prop where
  inline : extractInlineListValues text field ≠ [] →
    ∃ found above line rest, search (inlineList header.pattern) text = some found ∧
      WholeLine text.toList above line found.rest ∧ OwnLabel header line rest ∧
        values = splitListValues (strip (String.ofList rest))
  block : extractInlineListValues text field = [] → values ≠ [] →
    ∃ found above line rest body, search (multilineList header.pattern) text = some found ∧
      found.group? "body" = some (String.ofList body) ∧
        BlockBelow text.toList above line body found.rest ∧ OwnLabel header line rest ∧
          values = bulletValues (String.ofList body)

/-- A line with the field's label has a value on it. -/
def GivesValue (header : Header) (text : List Char) : Prop :=
  ∃ above line rest below, WholeLine text above line below ∧ OwnLabel header line rest ∧ ¬ Blank rest

/-- A line with the field's label has values on it, or a block of them below it. -/
def GivesValues (header : Header) (text : List Char) : Prop :=
  (∃ above line rest below, WholeLine text above line below ∧ OwnLabel header line rest ∧
    ¬ NoItems rest) ∨
  ∃ above line rest body below, BlockBelow text above line body below ∧ OwnLabel header line rest ∧
    bulletValues (String.ofList body) ≠ []

/-- The fields are filled from lines with their own labels only, and those that no such line gives
    a value are missing. -/
structure FilledFromOwnLines (text : String) (result : IntakeResult) : Prop where
  title : SetFromOwnLine titleLabel text result.brief.title
  scope : SetFromOwnLine scopeLabel text result.brief.scope
  deadline : SetFromOwnLine deadlineLabel text result.brief.deadline
  constraints : ListFromOwnLine constraintsLabel text "constraints" result.brief.constraints
  successCriteria :
    ListFromOwnLine successCriteriaLabel text "success_criteria" result.brief.successCriteria
  stakeholders : ListFromOwnLine stakeholdersLabel text "stakeholders" result.brief.stakeholders
  missingScope : ¬ GivesValue scopeLabel text.toList → "scope" ∈ result.missingFields
  missingSuccessCriteria :
    ¬ GivesValues successCriteriaLabel text.toList → "success_criteria" ∈ result.missingFields
  missingConstraints :
    ¬ GivesValues constraintsLabel text.toList → "constraints" ∈ result.missingFields
  missingDeadline : ¬ GivesValue deadlineLabel text.toList → "deadline" ∈ result.missingFields

/-! ## Values -/

section Values

variable {header : Header} {text field : String}

theorem extractValue_eq (h : fieldPatterns.get? field = some [labelled header.pattern]) :
    extractValue text field =
      ((search (labelled header.pattern) text).bind fun found => found.group? "1").map strip := by
  rw [extractValue, h, Option.getD_some, List.findSome?_singleton]

theorem setFromOwnLine_iff (h : fieldPatterns.get? field = some [labelled header.pattern]) :
    SetFromOwnLine header text (extractValue text field) ↔ ValueFromOwnLine header text.toList := by
  rw [extractValue_eq h]
  constructor
  · intro hset found hfound raw hraw
    obtain ⟨found', above, line, rest, hfound', hwhole, hown, hvalue⟩ := hset (strip raw) (by
      rw [search, hfound, Option.bind_some, hraw]
      rfl)
    cases hfound.symm.trans hfound'
    exact ⟨above, line, rest, hwhole, hown, hvalue⟩
  · intro hvalue v hv
    obtain ⟨raw, hraw, rfl⟩ := Option.map_eq_some_iff.mp hv
    obtain ⟨found, hfound, hgroup⟩ := Option.bind_eq_some_iff.mp hraw
    obtain ⟨above, line, rest, hwhole, hown, hstrip⟩ := hvalue found hfound raw hgroup
    exact ⟨found, above, line, rest, hfound, hwhole, hown, hstrip⟩

/-- A value that comes from its own line is there only when such a line gives one. -/
theorem SetFromOwnLine.givesValue {value : Option String} (h : SetFromOwnLine header text value)
    (hne : value.getD "" ≠ "") : GivesValue header text.toList := by
  cases value with
  | none => exact absurd rfl hne
  | some v =>
      obtain ⟨found, above, line, rest, -, hwhole, hown, rfl⟩ := h v rfl
      refine ⟨above, line, rest, found.rest, hwhole, hown, fun hblank => hne ?_⟩
      rw [Option.getD_some, strip_eq_empty_iff, String.toList_ofList]
      exact hblank

end Values

/-! ## Lists -/

section Lists

variable {header : Header} {text field : String}

/-- The values that are made of a group of the first match. -/
def groupValues (pattern : Pattern) (group : String) (values : String → List String)
    (text : String) : List String :=
  (((search pattern text).bind fun found => found.group? group).map values).getD []

theorem groupValues_of_found {pattern : Pattern} {group : String} {values : String → List String}
    {found : Position} (hfound : search pattern text = some found) {raw : String}
    (hraw : found.group? group = some raw) :
    groupValues pattern group values text = values raw := by
  rw [groupValues, hfound, Option.bind_some, hraw, Option.map_some, Option.getD_some]

theorem exists_of_groupValues {pattern : Pattern} {group : String} {values : String → List String}
    (hne : groupValues pattern group values text ≠ []) :
    ∃ found raw, search pattern text = some found ∧ found.group? group = some raw ∧
      groupValues pattern group values text = values raw := by
  cases hraw : (search pattern text).bind fun found => found.group? group with
  | none =>
      rw [groupValues, hraw] at hne
      exact absurd rfl hne
  | some raw =>
      obtain ⟨found, hfound, hgroup⟩ := Option.bind_eq_some_iff.mp hraw
      exact ⟨found, raw, hfound, hgroup, groupValues_of_found hfound hgroup⟩

theorem extractInlineListValues_eq (h : listFieldHeaders.get? field = some header.pattern) :
    extractInlineListValues text field =
      groupValues (inlineList header.pattern) "1" (fun raw => splitListValues (strip raw)) text := by
  simp only [extractInlineListValues, h, groupValues]
  cases (search (inlineList header.pattern) text).bind fun found => found.group? "1" with
  | none => rfl
  | some raw => rw [Option.map_some, Option.getD_some]

theorem extractMultilineListValues_eq (h : listFieldHeaders.get? field = some header.pattern) :
    extractMultilineListValues text field =
      groupValues (multilineList header.pattern) "body" bulletValues text := by
  simp only [extractMultilineListValues, h, groupValues]
  cases (search (multilineList header.pattern) text).bind fun found => found.group? "body" <;> rfl

theorem listFromOwnLine_iff (h : listFieldHeaders.get? field = some header.pattern) :
    ListFromOwnLine header text field (extractListField text field) ↔
      InlineFromOwnLine header text.toList ∧
        (extractInlineListValues text field = [] → BlockFromOwnLine header text.toList) := by
  have hinline : extractInlineListValues text field ≠ [] →
      extractListField text field = extractInlineListValues text field := fun hne => by
    rw [extractListField]
    exact if_neg hne
  have hblock : extractInlineListValues text field = [] →
      extractListField text field = extractMultilineListValues text field := fun hnil => by
    rw [extractListField]
    exact if_pos hnil
  constructor
  · rintro ⟨hown, hbelow⟩
    refine ⟨fun found hfound raw hraw hvalues => ?_, fun hnil found hfound raw hraw hvalues => ?_⟩
    · have heq : extractInlineListValues text field = splitListValues (strip raw) :=
        (extractInlineListValues_eq h).trans (groupValues_of_found hfound hraw)
      obtain ⟨found', above, line, rest, hfound', hwhole, hlabel, hrest⟩ := hown (heq ▸ hvalues)
      cases hfound.symm.trans hfound'
      rw [hinline (heq ▸ hvalues), heq] at hrest
      exact ⟨above, line, rest, hwhole, hlabel, hrest⟩
    · have heq : extractMultilineListValues text field = bulletValues raw :=
        (extractMultilineListValues_eq h).trans (groupValues_of_found hfound hraw)
      obtain ⟨found', above, line, rest, body, hfound', hgroup, hbody, hlabel, -⟩ :=
        hbelow hnil (by rw [hblock hnil, heq]; exact hvalues)
      cases hfound.symm.trans hfound'
      exact ⟨above, line, rest, body, hbody, hlabel, Option.some.inj (hraw.symm.trans hgroup)⟩
  · rintro ⟨hown, hbelow⟩
    refine ⟨fun hne => ?_, fun hnil hne => ?_⟩
    · rw [hinline hne]
      rw [extractInlineListValues_eq h] at hne ⊢
      obtain ⟨found, raw, hfound, hraw, heq⟩ := exists_of_groupValues hne
      obtain ⟨above, line, rest, hwhole, hlabel, hvalues⟩ := hown found hfound raw hraw (heq ▸ hne)
      exact ⟨found, above, line, rest, hfound, hwhole, hlabel, heq.trans hvalues⟩
    · rw [hblock hnil, extractMultilineListValues_eq h] at hne ⊢
      obtain ⟨found, raw, hfound, hraw, heq⟩ := exists_of_groupValues hne
      obtain ⟨above, line, rest, body, hbody, hlabel, rfl⟩ :=
        hbelow hnil found hfound raw hraw (heq ▸ hne)
      exact ⟨found, above, line, rest, body, hfound, hraw, hbody, hlabel, heq⟩

/-- A list that comes from its own line is there only when such a line gives values. -/
theorem ListFromOwnLine.givesValues {values : List String}
    (h : ListFromOwnLine header text field values) (hne : values ≠ []) :
    GivesValues header text.toList := by
  by_cases hnil : extractInlineListValues text field = []
  · obtain ⟨found, above, line, rest, body, -, -, hbody, hown, rfl⟩ := h.block hnil hne
    exact .inr ⟨above, line, rest, body, found.rest, hbody, hown, hne⟩
  · obtain ⟨found, above, line, rest, -, hwhole, hown, hvalues⟩ := h.inline hnil
    refine .inl ⟨above, line, rest, found.rest, hwhole, hown, fun hitems => hne ?_⟩
    rwa [hvalues, splitListValues_eq_nil_iff, String.toList_ofList]

/-- The first label that something follows on its line has no values there. -/
def NoInlineItems (header : Header) (text : List Char) : Prop :=
  ∀ before label after, FirstSite header (fun after => firstLine after ≠ []) text before label after →
    NoItems (firstLine after)

theorem extractInlineListValues_eq_nil_iff (h : listFieldHeaders.get? field = some header.pattern) :
    extractInlineListValues text field = [] ↔ NoInlineItems header text.toList := by
  rw [extractInlineListValues_eq h]
  constructor
  · intro hnil before label after hsite
    obtain ⟨value, hfirst, -, hitems⟩ := hsite.exists_inline
    have hfound : search (inlineList header.pattern) text =
        some ⟨belowFirst after, [("1", value)]⟩ :=
      searchFrom_inlineList.mpr ⟨before, label, after, hfirst, hsite⟩
    rw [groupValues_of_found hfound rfl] at hnil
    exact hitems.mp hnil
  · intro hnone
    by_contra hne
    obtain ⟨found, raw, hfound, hraw, heq⟩ := exists_of_groupValues hne
    obtain ⟨before, label, after, hfirst, hsite⟩ := searchFrom_inlineList.mp hfound
    obtain ⟨value, hfirst', -, hitems⟩ := hsite.exists_inline
    cases hfirst.symm.trans hfirst'
    cases hraw
    exact hne (heq.trans (hitems.mpr (hnone before label after hsite)))

end Lists

/-! ## The brief -/

/-- The site that a list is read from is anchored: the one with values on its line, or else the one
    with a block below it. -/
structure ListSitesAnchored (header : Header) (text : List Char) : Prop where
  inline : InlineSiteAnchored header text
  block : NoInlineItems header text → BlockSiteAnchored header text

/-- The site of every field is anchored. -/
structure SitesAnchored (text : List Char) : Prop where
  title : ValueSiteAnchored titleLabel text
  scope : ValueSiteAnchored scopeLabel text
  deadline : ValueSiteAnchored deadlineLabel text
  constraints : ListSitesAnchored constraintsLabel text
  successCriteria : ListSitesAnchored successCriteriaLabel text
  stakeholders : ListSitesAnchored stakeholdersLabel text

theorem stripChars_normalizeUserRequest (userRequest : String) :
    stripChars (normalizeUserRequest userRequest).toList =
      (normalizeUserRequest userRequest).toList := by
  rw [← toList_strip, normalizeUserRequest, strip_strip]

section Brief

variable {header : Header} {text field : String}

theorem setFromOwnLine_iff_anchored (htext : stripChars text.toList = text.toList)
    (h : fieldPatterns.get? field = some [labelled header.pattern]) :
    SetFromOwnLine header text (extractValue text field) ↔ ValueSiteAnchored header text.toList :=
  (setFromOwnLine_iff h).trans (valueFromOwnLine_iff htext)

theorem listFromOwnLine_iff_anchored (htext : stripChars text.toList = text.toList)
    (h : listFieldHeaders.get? field = some header.pattern) :
    ListFromOwnLine header text field (extractListField text field) ↔
      ListSitesAnchored header text.toList := by
  rw [listFromOwnLine_iff h, inlineFromOwnLine_iff, extractInlineListValues_eq_nil_iff h,
    blockFromOwnLine_iff htext]
  exact ⟨fun hboth => ⟨hboth.1, hboth.2⟩, fun hboth => ⟨hboth.inline, hboth.block⟩⟩

end Brief

/-- The fields of a brief come from lines with their own labels exactly when the sites that they are
    read from are anchored. -/
theorem filledFromOwnLines_buildBrief_iff (userRequest : String) :
    FilledFromOwnLines (normalizeUserRequest userRequest) (buildBrief userRequest) ↔
      SitesAnchored (normalizeUserRequest userRequest).toList := by
  have htext := stripChars_normalizeUserRequest userRequest
  have htitle : fieldPatterns.get? "title" = some [labelled titleLabel.pattern] := rfl
  have hscope : fieldPatterns.get? "scope" = some [labelled scopeLabel.pattern] := rfl
  have hdeadline : fieldPatterns.get? "deadline" = some [labelled deadlineLabel.pattern] := rfl
  have hconstraints : listFieldHeaders.get? "constraints" = some constraintsLabel.pattern := rfl
  have hcriteria : listFieldHeaders.get? "success_criteria" = some successCriteriaLabel.pattern := rfl
  have hstakeholders : listFieldHeaders.get? "stakeholders" = some stakeholdersLabel.pattern := rfl
  unfold buildBrief
  dsimp only
  generalize normalizeUserRequest userRequest = text at htext ⊢
  constructor
  · rintro ⟨title, scope, deadline, constraints, successCriteria, stakeholders, -, -, -, -⟩
    exact ⟨(setFromOwnLine_iff_anchored htext htitle).mp title,
      (setFromOwnLine_iff_anchored htext hscope).mp scope,
      (setFromOwnLine_iff_anchored htext hdeadline).mp deadline,
      (listFromOwnLine_iff_anchored htext hconstraints).mp constraints,
      (listFromOwnLine_iff_anchored htext hcriteria).mp successCriteria,
      (listFromOwnLine_iff_anchored htext hstakeholders).mp stakeholders⟩
  · rintro ⟨title, scope, deadline, constraints, successCriteria, stakeholders⟩
    replace scope := (setFromOwnLine_iff_anchored htext hscope).mpr scope
    replace deadline := (setFromOwnLine_iff_anchored htext hdeadline).mpr deadline
    replace constraints := (listFromOwnLine_iff_anchored htext hconstraints).mpr constraints
    replace successCriteria := (listFromOwnLine_iff_anchored htext hcriteria).mpr successCriteria
    refine ⟨(setFromOwnLine_iff_anchored htext htitle).mpr title, scope, deadline, constraints,
      successCriteria, (listFromOwnLine_iff_anchored htext hstakeholders).mpr stakeholders,
      fun hnone => ?_, fun hnone => ?_, fun hnone => ?_, fun hnone => ?_⟩
    · exact mem_missingFields_iff.mpr (.inl ⟨not_ne_iff.mp fun hne => hnone (scope.givesValue hne),
        rfl⟩)
    · exact mem_missingFields_iff.mpr (.inr (.inl
        ⟨not_ne_iff.mp fun hne => hnone (successCriteria.givesValues hne), rfl⟩))
    · exact mem_missingFields_iff.mpr (.inr (.inr (.inl
        ⟨not_ne_iff.mp fun hne => hnone (constraints.givesValues hne), rfl⟩)))
    · exact mem_missingFields_iff.mpr (.inr (.inr (.inr
        ⟨not_ne_iff.mp fun hne => hnone (deadline.givesValue hne), rfl⟩)))

/-- The scope of this request comes from a line with another label. -/
theorem filledFromOwnLines_buildBrief_outOfScope :
    ¬ FilledFromOwnLines (normalizeUserRequest "Out of scope: x") (buildBrief "Out of scope: x") := by
  intro h
  have hscope : (buildBrief "Out of scope: x").brief.scope = some "x" := by decide +kernel
  have htext : (normalizeUserRequest "Out of scope: x").toList =
      "Out of scope".toList ++ ':' :: " x".toList := by decide +kernel
  obtain ⟨found, above, line, rest, -, hwhole, hown, -⟩ := h.scope "x" hscope
  rw [htext] at hwhole
  obtain ⟨own, rfl, hcolon, hlabel⟩ := hown.split
  have hsplit := hwhole.split
  have habove : above = [] := by
    rcases hwhole.start.eq_nil_or with hnil | ⟨l, rfl⟩
    · exact hnil
    · have hmem : '\n' ∈ "Out of scope".toList ++ ':' :: " x".toList := by
        rw [hsplit]
        simp
      exact absurd hmem (by decide)
  rw [habove, List.nil_append, List.append_assoc, List.cons_append] at hsplit
  obtain ⟨rfl, -⟩ := append_cons_inj (by decide) hcolon hsplit
  have hlength := length_of_mem_word hlabel
  revert hlength
  decide

end CodexOrchestrator
