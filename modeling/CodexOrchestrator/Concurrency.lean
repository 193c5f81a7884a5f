import CodexOrchestrator.Lib.ReadModifyWrite
import CodexOrchestrator.Orchestrator.Outcomes

/-!
# Concurrency — protected requests that interleave on one project

`app/api/routes.py`: a protected request first records its authentication, then runs its operation;
each of the two gets the record and saves it back.  `save` replaces the stored record whatever it was.
-/

open ReadModifyWrite Runs

namespace CodexOrchestrator

/-! ## What one save keeps -/

/-- The later version has the whole log of the earlier one, and every request that was decided. -/
structure KeepsAudit (earlier later : ProjectRecord) : Prop where
  events : earlier.events <+: later.events
  decided : ∀ (i : Nat) (approval : ApprovalRequest), earlier.approvals[i]? = some approval →
    approval.status ≠ .pending → later.approvals[i]? = some approval

theorem KeepsAudit.refl (r : ProjectRecord) : KeepsAudit r r :=
  ⟨List.prefix_refl _, fun _ _ h _ => h⟩

theorem KeepsAudit.trans {a b c : ProjectRecord} (h : KeepsAudit a b) (h' : KeepsAudit b c) :
    KeepsAudit a c where
  events := h.events.trans h'.events
  decided i approval hi hd := h'.decided i approval (h.decided i approval hi hd) hd

section Edits

variable {may : ActorContext → ApprovalActionType → Prop} {r r' : ProjectRecord}

theorem Edit.keepsAudit (h : Edit may r r') : KeepsAudit r r' := by
  cases h with
  | annotate same =>
      exact ⟨by rw [same.events], fun i approval hi _ => by rw [same.approvals, hi]⟩
  | log event => exact ⟨List.prefix_append _ _, fun _ _ hi _ => hi⟩
  | transition nextStatus event => exact ⟨List.prefix_append _ _, fun _ _ hi _ => hi⟩
  | task nextStatus event => exact ⟨List.prefix_append _ _, fun _ _ hi _ => hi⟩
  | request approval event =>
      refine ⟨List.prefix_append _ _, fun i decided hi _ => ?_⟩
      have hlt := (List.getElem?_eq_some_iff.mp hi).1
      rw [List.getElem?_append_left hlt, hi]
  | @decide j approval status requestedBy decisionNote event found pending =>
      refine ⟨List.prefix_append _ _, fun i decided hi hd => ?_⟩
      have hne : j ≠ i := by
        rintro rfl
        rw [found] at hi
        exact hd (Option.some.inj hi ▸ pending)
      rw [List.getElem?_set_ne hne, hi]

theorem Edits.keepsAudit (h : Edits may r r') : KeepsAudit r r' := by
  induction h with
  | refl => exact .refl r
  | tail _ he ih => exact ih.trans he.keepsAudit

end Edits

/-! ## Requests -/

/-- A protected request, with the runtime of each of its repository steps. -/
inductive ProtectedRequest where
  | authenticated (actor : ActorContext) (authentication : Runtime) (operation : ProjectOperation)
      (execution : Runtime)
  | unauthenticated (reason : String) (authentication : Runtime)

/-- The get-then-save steps of a request: what each saves for the record it got. -/
def ProtectedRequest.saves : ProtectedRequest → List (ProjectRecord → Option ProjectRecord)
  | .authenticated actor authentication operation execution =>
      [fun record => some (recordAuthenticationSuccess authentication actor record),
       fun record => savedBy (operation.body execution record)]
  | .unauthenticated reason authentication =>
      [fun record => some (recordAuthenticationFailure authentication reason record)]

theorem ProtectedRequest.saves_edits {request : ProtectedRequest}
    {save : ProjectRecord → Option ProjectRecord} (hmem : save ∈ request.saves)
    {r r' : ProjectRecord} (h : save r = some r') : Edits anybody r r' := by
  cases request with
  | authenticated actor authentication operation execution =>
      rcases List.mem_cons.mp hmem with rfl | hmem
      · rw [← Option.some.inj h]
        exact (edits_recordAuthenticationSuccess actor).of_nobody
      · rw [List.mem_singleton.mp hmem] at h
        exact ProjectOperation.saved_edits h
  | unauthenticated reason authentication =>
      rw [List.mem_singleton.mp hmem] at h
      rw [← Option.some.inj h]
      exact (edits_recordAuthenticationFailure reason).of_nobody

/-- A version of the record of a project. -/
abbrev Version (projectId : String) := { record : ProjectRecord // record.project.id = projectId }

theorem pmap_eq_some {projectId : String} {record : Option ProjectRecord}
    {hid : ∀ r ∈ record, r.project.id = projectId} {version : Version projectId} :
    record.pmap Subtype.mk hid = some version ↔ record = some version.1 := by
  cases record with
  | none => simp
  | some r =>
      rw [Option.pmap_some, Option.some_inj, Option.some_inj]
      exact ⟨fun h => congrArg Subtype.val h, fun h => Subtype.ext h⟩

/-- The place of a project in the repository. -/
def recordCell (projectId : String) : Cell InMemoryProjectRepository (Version projectId) where
  get repository := (repository.get projectId).pmap Subtype.mk
    fun _ h => InMemoryProjectRepository.id_of_get h
  put repository version := repository.save version.1
  get_put repository version := by
    rw [pmap_eq_some]
    have hsaved := InMemoryProjectRepository.get_save_self repository version.1
    rw [version.2] at hsaved
    exact hsaved

/-- A get-then-save step, as a transaction on the versions of one project. -/
def versionTxn (projectId : String) (save : ProjectRecord → Option ProjectRecord)
    (hid : ∀ r r', save r = some r' → r'.project.id = r.project.id) : Txn (Version projectId) :=
  fun version => (save version.1).pmap Subtype.mk fun r' h => (hid version.1 r' h).trans version.2

def ProtectedRequest.txns (request : ProtectedRequest) (projectId : String) :
    List (Txn (Version projectId)) :=
  request.saves.attach.map fun save =>
    versionTxn projectId save.1 fun _ _ h => (request.saves_edits save.2 h).projectId

/-- Requests on one project, none of which has begun. -/
def requestsOn (projectId : String) (repository : InMemoryProjectRepository)
    (requests : Nat → ProtectedRequest) :
    State InMemoryProjectRepository (Version projectId) Nat where
  store := repository
  clients i := { todo := (requests i).txns projectId }

/-- The stored version after a schedule, which names the request that takes each step. -/
def versionAfter (projectId : String) (repository : InMemoryProjectRepository)
    (requests : Nat → ProtectedRequest) (schedule : List Nat) : Option ProjectRecord :=
  (after (step (recordCell projectId)) (requestsOn projectId repository requests) schedule).store.get
    projectId

/-! ## Interleavings -/

/-- Nothing is lost from one stored version to a later one: no event, and no decision. -/
def NothingLost (earlier later : ProjectRecord) : Prop :=
  (∀ event ∈ earlier.events, event ∈ later.events) ∧
  ∀ approval ∈ earlier.approvals, approval.status ≠ .pending →
    ∀ approval' ∈ later.approvals, approval'.id = approval.id → approval'.status = approval.status

/-- Two requests of the owner: the first approves the external send, the second rejects it. -/
def approveAndReject (i : Nat) : ProtectedRequest :=
  let rt := (sampleCall "2" (.recordAuthenticationFailure "" "")).env.runtime
  let decision : ProjectOperation :=
    if i = 0 then
      .resumeFromApproval { approvedActions := [.action .externalApiSend]
                            actor := .context sampleOwner, trendProviderName := "gemini" }
    else
      .rejectApproval { rejectedActions := [], actor := .context sampleOwner, reason := "Not yet." }
  .authenticated sampleOwner rt decision rt

/-- Saves overwrite each other.  Both requests read the waiting project, the approval is saved, and
    the rejection is saved over it: the events of the approval are gone. -/
theorem saves_overwrite : ¬ ∀ (projectId : String) (repository : InMemoryProjectRepository)
    (requests : Nat → ProtectedRequest) (earlier later : List Nat) (r r' : ProjectRecord),
    versionAfter projectId repository requests earlier = some r →
    versionAfter projectId repository requests (earlier ++ later) = some r' → NothingLost r r' := by
  intro hkept
  let approvals := fun r : ProjectRecord =>
    (r.events.countP fun event => decide (event.eventType = .approvalApproved))
  let repository := afterCalls [sampleRun]
  have hearlier : (versionAfter "p" repository approveAndReject [0, 0, 1, 1, 0, 1, 0]).map
      approvals = some 1 := by decide
  have hlater : (versionAfter "p" repository approveAndReject [0, 0, 1, 1, 0, 1, 0, 1]).map
      approvals = some 0 := by decide
  obtain ⟨r, hr, hone⟩ := Option.map_eq_some_iff.mp hearlier
  obtain ⟨r', hr', hzero⟩ := Option.map_eq_some_iff.mp hlater
  obtain ⟨event, hmem, htype⟩ := List.countP_pos_iff.mp (show 0 < approvals r by rw [hone]; decide)
  have hlost := (hkept "p" repository approveAndReject [0, 0, 1, 1, 0, 1, 0] [1] r r' hr hr').1
  exact List.countP_eq_zero.mp hzero event (hlost event hmem) htype

theorem requestsOn_consistent (projectId : String) (repository : InMemoryProjectRepository)
    (requests : Nat → ProtectedRequest) :
    Consistent (recordCell projectId) (fun a b : Version projectId => KeepsAudit a.1 b.1)
      (requestsOn projectId repository requests) := by
  constructor
  · intro i seen writes h
    cases h
  · intro i txn hmem version version' h
    obtain ⟨save, -, rfl⟩ := List.mem_map.mp hmem
    have hsaved := pmap_eq_some.mp h
    exact ((requests i).saves_edits save.2 hsaved).keepsAudit

/-- As long as no other save of the project falls between the get and the save of a step, every
    stored version extends the log of every earlier one and keeps its decisions. -/
theorem fresh_saves_keepAudit {projectId : String} {repository : InMemoryProjectRepository}
    {requests : Nat → ProtectedRequest} {earlier later : List Nat}
    (hfresh : EachStep (step (recordCell projectId)) (requestsOn projectId repository requests) Fresh
      (earlier ++ later)) {r r' : ProjectRecord}
    (hr : versionAfter projectId repository requests earlier = some r)
    (hr' : versionAfter projectId repository requests (earlier ++ later) = some r') :
    KeepsAudit r r' := by
  let version : Version projectId := ⟨r, InMemoryProjectRepository.id_of_get hr⟩
  obtain ⟨version', hget, hkeeps⟩ := content_moves (fun v => KeepsAudit.refl v.1)
    (fun _ _ _ h h' => h.trans h') (requestsOn_consistent projectId repository requests) earlier later
    hfresh (v := version) (pmap_eq_some.mpr hr)
  have hsame : some r' = some version'.1 := hr'.symm.trans (pmap_eq_some.mp hget)
  rw [Option.some.inj hsame]
  exact hkeeps

/-- Requests that take turns: the first approves while the second is authenticated, then a third one
    is authenticated, and the second finds the project no longer waiting.  The approval is kept. -/
theorem fresh_saves_keepAudit_sample : ∃ r r' : ProjectRecord,
    versionAfter "p" (afterCalls [sampleRun]) approveAndReject [0, 0, 1, 1, 0, 0] = some r ∧
    versionAfter "p" (afterCalls [sampleRun]) approveAndReject
      ([0, 0, 1, 1, 0, 0] ++ [2, 2, 1, 1]) = some r' ∧
    r.approvals.map ApprovalRequest.status = [.approved] ∧
    r'.approvals.map ApprovalRequest.status = [.approved] ∧
    r.events.length < r'.events.length ∧ KeepsAudit r r' := by
  let approvedOf := fun r : ProjectRecord => (r.approvals.map ApprovalRequest.status, r.events.length)
  have hfresh : EachStep (step (recordCell "p"))
      (requestsOn "p" (afterCalls [sampleRun]) approveAndReject) Fresh
      ([0, 0, 1, 1, 0, 0] ++ [2, 2, 1, 1]) := by
    have hsnapshots : EachStep (step (recordCell "p"))
        (requestsOn "p" (afterCalls [sampleRun]) approveAndReject) UpToDate
        ([0, 0, 1, 1, 0, 0] ++ [2, 2, 1, 1]) := by decide
    exact hsnapshots.mono fun _ _ => UpToDate.fresh
  have hbefore : (versionAfter "p" (afterCalls [sampleRun]) approveAndReject
      [0, 0, 1, 1, 0, 0]).map approvedOf = some ([.approved], 27) := by decide
  have hafter : (versionAfter "p" (afterCalls [sampleRun]) approveAndReject
      ([0, 0, 1, 1, 0, 0] ++ [2, 2, 1, 1])).map approvedOf = some ([.approved], 29) := by decide
  obtain ⟨r, hr, hearlier⟩ := Option.map_eq_some_iff.mp hbefore
  obtain ⟨r', hr', hlater⟩ := Option.map_eq_some_iff.mp hafter
  obtain ⟨happroved, hcount⟩ := Prod.mk.inj hearlier
  obtain ⟨happroved', hcount'⟩ := Prod.mk.inj hlater
  refine ⟨r, r', hr, hr', happroved, happroved', ?_, fresh_saves_keepAudit hfresh hr hr'⟩
  rw [hcount, hcount']
  decide

end CodexOrchestrator
