import CodexOrchestrator.Schemas

/-!
# Repository — the in-memory project store

`app/state/repository.py`, `InMemoryProjectRepository`.  `save` and `get` copy the record, so a stored
record is a value; it is stored under its own project id, which the structure carries as a field.
-/

namespace CodexOrchestrator

@[ext] structure InMemoryProjectRepository where
  store : String → Option ProjectRecord
  keyed : ∀ projectId record, store projectId = some record → record.project.id = projectId

namespace InMemoryProjectRepository

/-- `InMemoryProjectRepository()`. -/
def new : InMemoryProjectRepository := ⟨fun _ => none, fun _ _ h => by cases h⟩

def get (repository : InMemoryProjectRepository) (projectId : String) : Option ProjectRecord :=
  repository.store projectId

def save (repository : InMemoryProjectRepository) (record : ProjectRecord) :
    InMemoryProjectRepository where
  store projectId :=
    if projectId = record.project.id then some record else repository.store projectId
  keyed projectId stored h := by
    split at h
    · rename_i he
      rw [he, ← Option.some.inj h]
    · exact repository.keyed projectId stored h

/-- `save` of the record a call hands over, if it hands one over. -/
def saveSome (repository : InMemoryProjectRepository) :
    Option ProjectRecord → InMemoryProjectRepository
  | none => repository
  | some record => repository.save record

theorem get_save (repository : InMemoryProjectRepository) (record : ProjectRecord)
    (projectId : String) :
    (repository.save record).get projectId =
      if projectId = record.project.id then some record else repository.get projectId := rfl

@[simp] theorem get_save_self (repository : InMemoryProjectRepository) (record : ProjectRecord) :
    (repository.save record).get record.project.id = some record := by
  rw [get_save, if_pos rfl]

theorem id_of_get {repository : InMemoryProjectRepository} {projectId : String}
    {record : ProjectRecord} (h : repository.get projectId = some record) :
    record.project.id = projectId :=
  repository.keyed projectId record h

/-- A stored record after `saveSome` is the saved one, or was stored before. -/
theorem get_saveSome {repository : InMemoryProjectRepository} {saved : Option ProjectRecord}
    {projectId : String} {record : ProjectRecord}
    (h : (repository.saveSome saved).get projectId = some record) :
    saved = some record ∨ repository.get projectId = some record := by
  cases saved with
  | none => exact .inr h
  | some r =>
      rw [saveSome, get_save] at h
      split at h
      · exact .inl h
      · exact .inr h

/-- An edit of the stored record, saved back. -/
theorem get_saveSome_map (repository : InMemoryProjectRepository) (projectId : String)
    (edit : ProjectRecord → ProjectRecord) (hid : ∀ r, (edit r).project.id = r.project.id) :
    (repository.saveSome ((repository.get projectId).map edit)).get projectId =
      (repository.get projectId).map edit := by
  cases hget : repository.get projectId with
  | none => exact hget
  | some record =>
      have hedited : projectId = (edit record).project.id := by rw [hid, id_of_get hget]
      rw [Option.map_some, saveSome, get_save, if_pos hedited]

/-- `save` changes the stored record of no other project. -/
theorem get_saveSome_of_ne (repository : InMemoryProjectRepository) {saved : Option ProjectRecord}
    {projectId : String} (h : ∀ record, saved = some record → record.project.id ≠ projectId) :
    (repository.saveSome saved).get projectId = repository.get projectId := by
  cases saved with
  | none => rfl
  | some record => rw [saveSome, get_save, if_neg fun he => h record rfl he.symm]

end InMemoryProjectRepository

end CodexOrchestrator
