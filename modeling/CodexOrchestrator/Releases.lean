import CodexOrchestrator.Db.Queries

/-!
# Releases — looking releases up by their id and by their identity

An upsert overwrites every column of a release.  Nothing keeps two releases from having one type, name
and time, and the lookup by these raises when they do.
-/

namespace CodexOrchestrator

open ReleaseRepository

variable {τ : Type}

/-- The upserts one after another, on an empty table. -/
def runReleases (calls : List (Release τ)) : ReleaseTable τ :=
  calls.foldl (fun table values => upsertRelease values table) Indexed.empty

/-- What was last upserted under the id. -/
def lastRelease (releaseId : String) (calls : List (Release τ)) : Option (Release τ) :=
  (calls.filter fun values => values.releaseId = releaseId).getLast?

/-- What `find_by_identity` compares. -/
def Release.identity (release : Release τ) : String × String × τ :=
  (release.releaseType, release.releaseName, release.scheduledTimeUtc)

theorem get?_runReleases (calls : List (Release τ)) (releaseId : String) :
    (runReleases calls).get? releaseId = lastRelease releaseId calls := by
  let statement (values : Release τ) : Indexed.Upsert (Release.releaseId (τ := τ)) :=
    ⟨values, releaseAssignment values⟩
  have hrun : runReleases calls = Indexed.upsertAll (calls.map statement) := by
    rw [Indexed.upsertAll, List.foldl_map]
    rfl
  have hoverwrites : ∀ s ∈ calls.map statement, ∀ row : Release τ,
      row.releaseId = s.values.releaseId → s.assignment.set row = s.values := by
    intro s hs row hid
    obtain ⟨values, -, rfl⟩ := List.mem_map.mp hs
    cases row
    cases hid
    rfl
  rw [hrun, Indexed.get?_upsertAll, Indexed.rowAfter_of_overwrites hoverwrites,
    Indexed.statementsOn, List.filter_map, List.getLast?_map, Option.map_map]
  exact Option.map_id'

theorem mem_runReleases {calls : List (Release τ)} {row : Release τ} :
    row ∈ (runReleases calls).rows ↔ lastRelease row.releaseId calls = some row := by
  rw [Indexed.mem_rows_iff, get?_runReleases]

/-- After any upserts, in a session that holds any objects: `get_by_id` finds what was last upserted
    under the id; `find_by_identity` finds the one release whose last upsert has the identity, nothing
    when there is none, and raises when there are two.  Both give out the session's object of the
    release, which is what was last upserted unless it was loaded before. -/
theorem findByIdentity_runReleases [DecidableEq τ] (calls : List (Release τ))
    (releaseType releaseName : String) (scheduledTimeUtc : τ) (session : ReleaseSession τ)
    (htable : session.table = runReleases calls) :
    let answer := findByIdentity releaseType releaseName scheduledTimeUtc session
    let Current (release : Release τ) : Prop := lastRelease release.releaseId calls = some release ∧
      release.identity = (releaseType, releaseName, scheduledTimeUtc)
    (∀ releaseId, getById releaseId session = .ok ((lastRelease releaseId calls).map session.object)) ∧
      (answer = .ok none ↔ ∀ release, ¬ Current release) ∧
      (∀ object, answer = .ok (some object) ↔ ∃ release, session.object release = object ∧
        Current release ∧ ∀ other, Current other → other = release) ∧
      ((∃ e, answer = .error e) ↔ ∃ a b, Current a ∧ Current b ∧ a.releaseId ≠ b.releaseId) ∧
      ∀ release, lastRelease release.releaseId calls = some release →
        (session.slot release.releaseId).UpToDate → session.object release = release := by
  intro answer Current
  let rows := session.table.rows.filter fun row => row.releaseType = releaseType ∧
    row.releaseName = releaseName ∧ row.scheduledTimeUtc = scheduledTimeUtc
  have hmem : ∀ row, row ∈ rows ↔ Current row := fun row => by
    rw [List.mem_filter, htable, mem_runReleases, decide_eq_true_eq]
    simp only [Current, Release.identity, Prod.mk.injEq]
  have hnodup : rows.Nodup := (List.Nodup.of_map _ session.table.unique).filter _
  have hsome : ∀ release, scalarOneOrNone rows = .ok (some release) ↔
      Current release ∧ ∀ other, Current other → other = release := fun release => by
    refine (scalarOneOrNone_eq_some_iff hnodup).trans ?_
    simp only [hmem]
  refine ⟨fun releaseId => ?_, ?_, fun object => ?_, ?_, fun release hlast hcurrent => ?_⟩
  · rw [getById, Session.objects, scalarOneOrNone_map, Indexed.filter_key, scalarOneOrNone_toList,
      htable, get?_runReleases]
    rfl
  · exact scalarOneOrNone_eq_none_iff.trans (List.map_eq_nil_iff.trans
      (List.eq_nil_iff_forall_not_mem.trans (forall_congr' fun row => not_congr (hmem row))))
  · exact scalarOneOrNone_map_eq_some.trans (exists_congr fun release => and_congr_right' (hsome release))
  · refine scalarOneOrNone_map_eq_error.trans ((scalarOneOrNone_eq_error_iff hnodup).trans ?_)
    simp only [hmem]
    constructor
    · rintro ⟨a, ha, b, hb, hne⟩
      refine ⟨a, b, ha, hb, fun hid => hne ?_⟩
      have hlast := ha.1
      rw [hid, hb.1] at hlast
      exact (Option.some.inj hlast).symm
    · rintro ⟨a, b, ha, hb, hid⟩
      exact ⟨a, ha, b, hb, fun hsame => hid (congrArg Release.releaseId hsame)⟩
  · refine (session.object_eq_slot release).trans (hcurrent.object_eq ?_)
    change session.table.get? release.releaseId = some release
    rw [htable, get?_runReleases, hlast]

def sampleRelease : Release Nat := ⟨"r-1", "cpi", "CPI", 1, "https://example.test", "scheduled"⟩

/-- The release is renamed after the session loaded it. -/
def sampleReleaseSession : ReleaseSession Nat :=
  ((Session.start (runReleases [sampleRelease])).get "r-1").2.execute
    (upsertRelease { sampleRelease with releaseName := "CPI July" })

theorem findByIdentity_runReleases_renamed :
    findByIdentity "cpi" "CPI July" 1 sampleReleaseSession = .ok (some sampleRelease) ∧
      findByIdentity "cpi" "CPI" 1 sampleReleaseSession = .ok none := by
  let renamed := { sampleRelease with releaseName := "CPI July" }
  have hlast : ∀ other, lastRelease other.releaseId [sampleRelease, renamed] = some other →
      other = renamed := by
    intro other h
    by_cases hid : other.releaseId = "r-1"
    · rw [hid] at h
      exact (Option.some.inj h).symm
    · have hnone : lastRelease other.releaseId [sampleRelease, renamed] = none := by
        simp [lastRelease, renamed, sampleRelease, Ne.symm hid]
      cases hnone.symm.trans h
  obtain ⟨-, -, hfound, -⟩ := findByIdentity_runReleases [sampleRelease, renamed] "cpi" "CPI July" 1
    sampleReleaseSession rfl
  obtain ⟨-, hnone, -⟩ := findByIdentity_runReleases [sampleRelease, renamed] "cpi" "CPI" 1
    sampleReleaseSession rfl
  refine ⟨(hfound sampleRelease).mpr ⟨renamed, rfl, ⟨rfl, rfl⟩, fun other h => hlast other h.1⟩,
    hnone.mpr fun release h => ?_⟩
  obtain rfl := hlast release h.1
  exact absurd (show "CPI July" = "CPI" from congrArg (fun identity => identity.2.1) h.2) (by decide)

end CodexOrchestrator
