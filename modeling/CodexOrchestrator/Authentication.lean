import CodexOrchestrator.Services.Auth

/-!
# Authentication — the bearer tokens that are accepted are those of the seed

The seed grammar and the header grammar trim in different places.  What they accept is said here
without them: a well-formed item is four fields between colons, and a bearer header is the word
`bearer`, white space and a token.
-/

namespace CodexOrchestrator

open PyText

/-! ## The two grammars -/

/-- The item gives the actor the token. -/
structure WellFormedItem (item token : String) (actor : ActorContext) : Prop where
  fields : ∃ a b c d, item = join ":" [a, b, c, d] ∧ (∀ field ∈ [a, b, c, d], ':' ∉ field.toList) ∧
    strip a = token ∧ strip b = actor.actorId ∧ lower (strip c) = actor.actorRole.value ∧
    lower (strip d) = actor.actorType.value
  token_ne : token ≠ ""
  actorId_ne : actor.actorId ≠ ""

/-- The item is no entry for any actor. -/
def Malformed (item : String) : Prop := ∀ token actor, ¬ WellFormedItem item token actor

/-- The last well-formed item of the seed that has the token is one of the actor. -/
def LastItem (seed token : String) (actor : ActorContext) : Prop :=
  ∃ before item after, splitOn ',' seed = before ++ item :: after ∧
    WellFormedItem item token actor ∧ ∀ later ∈ after, ∀ other, ¬ WellFormedItem later token other

/-- Without white space around it, the header is the word `bearer` in some casing, white space, and
    the token. -/
def BearerHeader (header token : String) : Prop :=
  ∃ word gap, strip header = word ++ gap ++ token ∧ lower word = "bearer" ∧ gap ≠ "" ∧
    ∀ c ∈ gap.toList, isSpace c = true

/-! ## The seed -/

theorem ActorRole.memberOf_eq_some_iff {text : String} {role : ActorRole} :
    memberOf members value text = some role ↔ text = role.value := by
  constructor
  · intro h
    have hvalue := List.find?_some h
    exact (of_decide_eq_true hvalue).symm
  · rintro rfl
    exact ActorRole.memberOf_value role

theorem ActorType.memberOf_eq_some_iff {text : String} {actorType : ActorType} :
    memberOf members value text = some actorType ↔ text = actorType.value := by
  constructor
  · intro h
    have hvalue := List.find?_some h
    exact (of_decide_eq_true hvalue).symm
  · rintro rfl
    exact ActorType.memberOf_value actorType

/-- The trimmed fields do not depend on whether the item was trimmed before. -/
theorem parseSeedItem_eq (item : String) :
    parseSeedItem item = entryOfParts ((splitOn ':' item).map strip) := by
  rw [← map_strip_splitOn ':' (by decide) item]
  unfold parseSeedItem
  by_cases hraw : strip item = ""
  · rw [if_pos hraw, hraw]
    rfl
  · rw [if_neg hraw]

theorem entryOfParts_eq_some_iff {parts : List String} {token : String} {actor : ActorContext} :
    entryOfParts parts = some (token, actor) ↔ token ≠ "" ∧ actor.actorId ≠ "" ∧
      ∃ role type, parts = [token, actor.actorId, role, type] ∧
        lower role = actor.actorRole.value ∧ lower type = actor.actorType.value := by
  constructor
  · intro h
    unfold entryOfParts at h
    split at h
    · rename_i role type
      split at h
      · cases h
      rename_i hne
      rw [not_or] at hne
      simp only [Option.bind_eq_bind, Option.bind_eq_some_iff, Option.some.injEq,
        Prod.mk.injEq] at h
      obtain ⟨parsedRole, hrole, parsedType, htype, rfl, rfl⟩ := h
      exact ⟨hne.1, hne.2, role, type, rfl, ActorRole.memberOf_eq_some_iff.mp hrole,
        ActorType.memberOf_eq_some_iff.mp htype⟩
    · cases h
  · rintro ⟨htoken, hactorId, role, type, rfl, hrole, htype⟩
    rw [entryOfParts, if_neg (not_or.mpr ⟨htoken, hactorId⟩),
      ActorRole.memberOf_eq_some_iff.mpr hrole, ActorType.memberOf_eq_some_iff.mpr htype]
    rfl

theorem parseSeedItem_eq_some_iff {item token : String} {actor : ActorContext} :
    parseSeedItem item = some (token, actor) ↔ WellFormedItem item token actor := by
  rw [parseSeedItem_eq, entryOfParts_eq_some_iff]
  constructor
  · rintro ⟨htoken, hactorId, role, type, hparts, hrole, htype⟩
    obtain ⟨a, pieces, hsplit, ha, hpieces⟩ := List.map_eq_cons_iff.mp hparts
    obtain ⟨b, tail, rfl, hb, htail⟩ := List.map_eq_cons_iff.mp hpieces
    obtain ⟨c, last, rfl, rfl, hlast⟩ := List.map_eq_cons_iff.mp htail
    obtain ⟨d, rfl, rfl⟩ := List.map_eq_singleton_iff.mp hlast
    obtain ⟨hitem, hcolons⟩ := (splitOn_eq_iff (List.cons_ne_nil _ _)).mp hsplit
    exact ⟨⟨a, b, c, d, hitem, hcolons, ha, hb, hrole, htype⟩, htoken, hactorId⟩
  · rintro ⟨⟨a, b, c, d, hitem, hcolons, ha, hb, hrole, htype⟩, htoken, hactorId⟩
    refine ⟨htoken, hactorId, strip c, strip d, ?_, hrole, htype⟩
    rw [(splitOn_eq_iff (List.cons_ne_nil _ _)).mpr ⟨hitem, hcolons⟩, ← ha, ← hb]
    rfl

theorem malformed_iff {item : String} : Malformed item ↔ parseSeedItem item = none := by
  rw [Option.eq_none_iff_forall_ne_some]
  constructor
  · rintro h ⟨token, actor⟩ hsome
    exact h token actor (parseSeedItem_eq_some_iff.mp hsome)
  · intro h token actor hitem
    exact h (token, actor) (parseSeedItem_eq_some_iff.mpr hitem)

instance : DecidablePred Malformed := fun _ => decidable_of_iff _ malformed_iff.symm

/-- The items of the seed that are entries, in their order. -/
def wellFormedItems (seed : String) : List String :=
  (splitOn ',' seed).filter fun item => ¬ Malformed item

theorem lastEntry_iff (seed token : String) (actor : ActorContext) :
    Dict.LastEntry parseSeedItem (splitOn ',' seed) token actor ↔ LastItem seed token actor := by
  simp only [Dict.LastEntry, LastItem, Ne, parseSeedItem_eq_some_iff]

/-- The malformed items are no part of the mapping. -/
theorem setEach_wellFormedItems (seed : String) :
    Dict.setEach parseSeedItem Dict.empty (wellFormedItems seed) =
      Dict.setEach parseSeedItem Dict.empty (splitOn ',' seed) := by
  rw [← Dict.setEach_filter parseSeedItem Dict.empty (splitOn ',' seed), wellFormedItems]
  refine congrArg _ (List.filter_congr fun item _ => ?_)
  rw [Bool.eq_iff_iff, decide_eq_true_eq, malformed_iff, Option.isSome_iff_ne_none]

theorem parseTokenSeed_eq (seed : String) : parseTokenSeed (some seed) =
    if (Dict.setEach parseSeedItem Dict.empty (wellFormedItems seed)).entries = [] then
      defaultTokenMap
    else Dict.setEach parseSeedItem Dict.empty (wellFormedItems seed) := by
  rw [setEach_wellFormedItems]
  simp only [parseTokenSeed]
  by_cases hseed : seed = ""
  · subst hseed
    rfl
  · rw [if_neg hseed]

theorem get?_parseTokenSeed {seed : String} (h : wellFormedItems seed ≠ []) (token : String)
    (actor : ActorContext) :
    (parseTokenSeed (some seed)).get? token = some actor ↔ LastItem seed token actor := by
  have hentries : (Dict.setEach parseSeedItem Dict.empty (wellFormedItems seed)).entries ≠ [] := by
    rw [setEach_wellFormedItems]
    obtain ⟨item, hitem⟩ := List.exists_mem_of_ne_nil _ h
    obtain ⟨hmem, hwell⟩ := List.mem_filter.mp hitem
    rw [decide_eq_true_eq, malformed_iff, ← Ne, Option.ne_none_iff_exists'] at hwell
    obtain ⟨⟨key, value⟩, hentry⟩ := hwell
    obtain ⟨last, hlast⟩ := Dict.exists_lastEntry parseSeedItem hmem hentry
    rw [← Dict.get?_setEach, Dict.get?_eq_some_iff_mem] at hlast
    exact List.ne_nil_of_mem hlast
  rw [parseTokenSeed_eq, if_neg hentries, setEach_wellFormedItems, Dict.get?_setEach,
    lastEntry_iff]

/-! ## The header -/

theorem exists_authenticationError {service : DevTokenAuthService} {header : Option String}
    {e : PyError} (h : service.resolveActor header = .error e) :
    ∃ message, e = authenticationError message := by
  unfold DevTokenAuthService.resolveActor at h
  split at h
  · cases h
  · dsimp only at h
    split at h
    · exact ⟨_, (Except.error.inj h).symm⟩
    · split at h
      · split at h
        · exact ⟨_, (Except.error.inj h).symm⟩
        · split at h
          · cases h
          · exact ⟨_, (Except.error.inj h).symm⟩
      · exact ⟨_, (Except.error.inj h).symm⟩

/-- The word `bearer` has no white space in it, in whatever casing. -/
theorem isSpace_of_lower_eq_bearer {word : String} (h : lower word = "bearer") :
    ∀ c ∈ word.toList, ¬ isSpace c = true := by
  intro c hc hspace
  have hbearer : c ∈ "bearer".toList := by
    rw [← h, lower, String.toList_ofList]
    exact List.mem_flatMap.mpr ⟨c, hc, lowerChar_of_isSpace hspace ▸ List.mem_singleton_self c⟩
  have hnone : "bearer".toList.any isSpace = false := by decide
  exact List.any_eq_false.mp hnone c hbearer hspace

theorem BearerHeader.splitOnce {text token : String} (h : BearerHeader text token)
    (hne : token ≠ "") (htrimmed : strip token = token) :
    ∃ word, PyText.splitOnce (strip text) = [word, token] ∧ lower word = "bearer" := by
  obtain ⟨word, gap, htext, hword, hgap, hspace⟩ := h
  have hfront : token.toList.dropWhile isSpace = token.toList := by
    rw [← htrimmed, toList_strip, stripChars, dropWhile_rdropWhile]
  have hwordne : word ≠ "" := by
    rintro rfl
    exact absurd hword (by decide)
  have hfirst : FirstWord (strip text) word gap token :=
    ⟨htext, hwordne, isSpace_of_lower_eq_bearer hword, hgap, hspace, hne, hfront⟩
  exact ⟨word, hfirst.splitOnce, hword⟩

theorem resolveActor_eq_ok_iff {service : DevTokenAuthService} (henabled : service.enabled = true)
    (header : Option String) (actor : ActorContext) :
    service.resolveActor header = .ok actor ↔ ∃ text token, header = some text ∧
      token ≠ "" ∧ strip token = token ∧ BearerHeader text token ∧
      service.tokenMap.get? token = some actor := by
  constructor
  · intro h
    simp only [DevTokenAuthService.resolveActor, henabled, Bool.not_true, Bool.false_eq_true,
      if_false] at h
    split at h
    · cases h
    rename_i hheader
    split at h
    · rename_i scheme rest hsplit
      split at h
      · cases h
      rename_i hscheme
      rw [not_or, not_not] at hscheme
      split at h
      · rename_i found hfound
        cases h
        -- the rest of a trimmed header is trimmed already
        obtain ⟨gap, hfirst, hrest⟩ := exists_firstWord (strip_strip _) hsplit
        cases header with
        | none => exact absurd rfl hheader
        | some text =>
            rw [hrest] at hfound hscheme
            exact ⟨text, rest, rfl, hscheme.2, hrest,
              ⟨scheme, gap, hfirst.eq_append, hscheme.1, hfirst.gap_ne, hfirst.gap_space⟩, hfound⟩
      · cases h
    · cases h
  · rintro ⟨text, token, rfl, hne, htrimmed, hheader, hfound⟩
    obtain ⟨word, hsplit, hword⟩ := hheader.splitOnce hne htrimmed
    have htext : text ≠ "" := by
      rintro rfl
      cases hsplit
    simp only [DevTokenAuthService.resolveActor, henabled, Bool.not_true, Bool.false_eq_true,
      if_false, Option.getD_some]
    rw [if_neg htext, hsplit]
    simp [hword, htrimmed, hne, hfound]

/-! ## The service of a seed -/

/-- The token of a well-formed item is trimmed. -/
theorem LastItem.token {seed token : String} {actor : ActorContext}
    (h : LastItem seed token actor) : token ≠ "" ∧ strip token = token := by
  obtain ⟨before, item, after, -, hitem, -⟩ := h
  obtain ⟨a, b, c, d, -, -, rfl, -⟩ := hitem.fields
  exact ⟨hitem.token_ne, strip_strip a⟩

/-- With a seed that has a well-formed item, the service answers for a bearer header whose token is
    that of an item, with the actor of the last such item, and for no other header; what the
    malformed items are makes no difference. -/
theorem resolveActor_parseTokenSeed (seed : String)
    (hseed : ∃ item ∈ splitOn ',' seed, ∃ token actor, WellFormedItem item token actor)
    (header : Option String) :
    (∀ actor, DevTokenAuthService.resolveActor { tokenMap := parseTokenSeed (some seed) } header =
        .ok actor ↔
      ∃ text token, header = some text ∧ BearerHeader text token ∧ LastItem seed token actor) ∧
    ((∀ actor, ¬ ∃ text token, header = some text ∧ BearerHeader text token ∧
        LastItem seed token actor) →
      ∃ message, DevTokenAuthService.resolveActor { tokenMap := parseTokenSeed (some seed) } header =
        .error (authenticationError message)) ∧
    ∀ seed', wellFormedItems seed' = wellFormedItems seed →
      DevTokenAuthService.resolveActor { tokenMap := parseTokenSeed (some seed') } header =
        DevTokenAuthService.resolveActor { tokenMap := parseTokenSeed (some seed) } header := by
  have hitems : wellFormedItems seed ≠ [] := by
    obtain ⟨item, hmem, token, actor, hitem⟩ := hseed
    exact List.ne_nil_of_mem
      (List.mem_filter.mpr ⟨hmem, decide_eq_true fun hbad => hbad token actor hitem⟩)
  have hok : ∀ actor, DevTokenAuthService.resolveActor
      { tokenMap := parseTokenSeed (some seed) } header = .ok actor ↔
      ∃ text token, header = some text ∧ BearerHeader text token ∧ LastItem seed token actor := by
    intro actor
    rw [resolveActor_eq_ok_iff rfl]
    simp only [get?_parseTokenSeed hitems]
    constructor
    · rintro ⟨text, token, rfl, -, -, hheader, hlast⟩
      exact ⟨text, token, rfl, hheader, hlast⟩
    · rintro ⟨text, token, rfl, hheader, hlast⟩
      exact ⟨text, token, rfl, hlast.token.1, hlast.token.2, hheader, hlast⟩
  refine ⟨hok, fun hnone => ?_, fun seed' hsame => ?_⟩
  · cases hresult : DevTokenAuthService.resolveActor
        { tokenMap := parseTokenSeed (some seed) } header with
    | ok actor => exact absurd ((hok actor).mp hresult) (hnone actor)
    | error e =>
        obtain ⟨message, rfl⟩ := exists_authenticationError hresult
        exact ⟨message, rfl⟩
  · rw [parseTokenSeed_eq seed', parseTokenSeed_eq seed, hsame]

def sampleSeed : String := "t,t:a:admin:human, t : b : Viewer : SERVICE ,t:c:guest:human"

/-- The first item is no entry, and neither is the last; of the other two the later one counts. -/
theorem resolveActor_parseTokenSeed_override :
    DevTokenAuthService.resolveActor { tokenMap := parseTokenSeed (some sampleSeed) }
      (some " BEARER \t t\n") = .ok ⟨"b", .viewer, .service⟩ := by
  have hitem : WellFormedItem " t : b : Viewer : SERVICE " "t" ⟨"b", .viewer, .service⟩ :=
    parseSeedItem_eq_some_iff.mp (by decide)
  have hmalformed : Malformed "t:c:guest:human" := malformed_iff.mpr (by decide)
  have hsplit : splitOn ',' sampleSeed =
      ["t", "t:a:admin:human"] ++ " t : b : Viewer : SERVICE " :: ["t:c:guest:human"] := by decide
  refine ((resolveActor_parseTokenSeed _ ⟨_, ?_, "t", _, hitem⟩ _).1 _).mpr
    ⟨_, "t", rfl, ⟨"BEARER", " \t ", by decide, by decide, by decide,
      List.all_eq_true.mp (by decide)⟩, _, _, _, hsplit, hitem, ?_⟩
  · rw [hsplit]
    simp
  · intro later hlater other
    exact List.mem_singleton.mp hlater ▸ hmalformed "t" other

end CodexOrchestrator
