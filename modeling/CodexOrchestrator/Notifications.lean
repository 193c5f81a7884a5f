import CodexOrchestrator.Db.Repositories
import Mathlib.Data.List.Induction

/-!
# Notifications — a delivered notification is never overwritten

Every attempt to notify goes through one conditional upsert.  After any history of attempts the row
of a target is the first attempt that did not fail, or the latest one while all have failed.
-/

namespace CodexOrchestrator

variable {τ : Type} (failed : String)

/-- `create_notification` with the columns of the attempt. -/
def Notification.create (attempt : Notification τ) (table : NotificationTable τ) :
    Except PyError (NotificationTable τ) :=
  createNotification failed attempt.notificationId attempt.signalId attempt.channel attempt.sentAtUtc
    attempt.deliveryStatus attempt.payloadJson table

/-- The attempts one after another, on an empty table. -/
def createAll (attempts : List (Notification τ)) : Except PyError (NotificationTable τ) :=
  attempts.foldlM (fun table attempt => attempt.create failed table) NotificationTable.empty

/-- What a target's attempts leave: the first that did not fail, else the last. -/
def settled (attempts : List (Notification τ)) : Option (Notification τ) :=
  (attempts.find? fun attempt => attempt.deliveryStatus ≠ failed).or attempts.getLast?

def attemptsFor (target : String × String) (attempts : List (Notification τ)) :
    List (Notification τ) :=
  attempts.filter fun attempt => attempt.target = target

/-! ## One attempt -/

/-- The index after the statement, before the primary key is checked. -/
def Notification.written (attempt : Notification τ) (table : NotificationTable τ) :
    Indexed (Notification.target (τ := τ)) :=
  table.index.insertOnConflict attempt
    (notificationAssignment attempt.notificationId attempt.sentAtUtc attempt.deliveryStatus
      attempt.payloadJson)
    fun row => row.deliveryStatus = failed

variable {failed}

theorem Notification.create_eq_ok_iff {attempt : Notification τ} {table next : NotificationTable τ} :
    attempt.create failed table = .ok next ↔ attempt.written failed table = next.index := by
  unfold Notification.create createNotification
  dsimp only
  rw [← Notification.written]
  constructor
  · intro h
    split at h
    · exact congrArg NotificationTable.index (Except.ok.inj h)
    · cases h
  · intro h
    have hprimary : ((attempt.written failed table).rows.map Notification.notificationId).Nodup :=
      h ▸ next.primaryKey
    rw [dif_pos hprimary]
    cases next
    cases h
    rfl

/-- The old row stays unless its delivery had failed; the assignment writes the whole attempt. -/
theorem Notification.get?_written (attempt : Notification τ) (table : NotificationTable τ)
    (target : String × String) :
    (attempt.written failed table).get? target =
      if target = attempt.target then
        some ((table.index.get? target).elim attempt fun row =>
          if row.deliveryStatus = failed then attempt else row)
      else table.index.get? target := by
  rw [Notification.written, Indexed.get?_insertOnConflict]
  split
  · rename_i htarget
    cases hrow : table.index.get? target with
    | none => rfl
    | some row =>
        have hkey : row.target = attempt.target := (Indexed.key_of_get? hrow).trans htarget
        have hset : (notificationAssignment attempt.notificationId attempt.sentAtUtc
            attempt.deliveryStatus attempt.payloadJson).set row = attempt := by
          rw [Notification.target, Notification.target, Prod.mk.injEq] at hkey
          simp only [notificationAssignment, hkey.1, hkey.2]
        rw [Option.elim_some, Option.elim_some, hset]
        simp
  · rfl

/-- An attempt is no concern of the other targets. -/
theorem Notification.create_other {attempt : Notification τ} {table next : NotificationTable τ}
    (h : attempt.create failed table = .ok next) {target : String × String}
    (hne : target ≠ attempt.target) : next.index.get? target = table.index.get? target := by
  rw [← create_eq_ok_iff.mp h, Notification.get?_written, if_neg hne]

/-- Every row written is the attempt or was there before. -/
theorem Notification.mem_written {attempt : Notification τ} {table : NotificationTable τ}
    {row : Notification τ} (h : row ∈ (attempt.written failed table).rows) :
    row = attempt ∨ row ∈ table.index.rows := by
  have hget := Indexed.get?_eq_some_iff.mpr ⟨h, rfl⟩
  rw [Notification.get?_written] at hget
  split at hget
  · rw [Option.some_inj] at hget
    cases hold : table.index.get? row.target with
    | none =>
        rw [hold] at hget
        exact .inl hget.symm
    | some old =>
        rw [hold, Option.elim_some] at hget
        split at hget
        · exact .inl hget.symm
        · exact .inr (hget ▸ (Indexed.get?_eq_some_iff.mp hold).1)
  · exact .inr (Indexed.get?_eq_some_iff.mp hget).1

variable (failed) in
/-- With ids of its own, the attempt is written. -/
theorem Notification.exists_create {attempt : Notification τ} {table : NotificationTable τ}
    {attempts : List (Notification τ)} (hrows : ∀ row ∈ table.index.rows, row ∈ attempts)
    (hfresh : ((attempts ++ [attempt]).map Notification.notificationId).Nodup) :
    ∃ next, attempt.create failed table = .ok next ∧
      ∀ row ∈ next.index.rows, row ∈ attempts ++ [attempt] := by
  have hmem : ∀ row ∈ (attempt.written failed table).rows, row ∈ attempts ++ [attempt] := by
    intro row hrow
    rcases mem_written hrow with rfl | hold
    · exact List.mem_append_right _ (List.mem_singleton_self _)
    · exact List.mem_append_left _ (hrows row hold)
  -- the rows are distinct attempts, and no two attempts have one id
  have hprimary : ((attempt.written failed table).rows.map Notification.notificationId).Nodup :=
    (List.Nodup.of_map _ (attempt.written failed table).unique).map_on fun row hrow other hother hid =>
      List.inj_on_of_nodup_map hfresh (hmem row hrow) (hmem other hother) hid
  exact ⟨⟨attempt.written failed table, hprimary⟩, create_eq_ok_iff.mpr rfl, hmem⟩

/-! ## All attempts -/

theorem settled_concat (attempts : List (Notification τ)) (attempt : Notification τ) :
    settled failed (attempts ++ [attempt]) =
      some ((settled failed attempts).elim attempt fun row =>
        if row.deliveryStatus = failed then attempt else row) := by
  unfold settled
  rw [List.find?_append, List.getLast?_concat]
  cases hfirst : attempts.find? fun other => other.deliveryStatus ≠ failed with
  | some row =>
      have hrow : row.deliveryStatus ≠ failed := of_decide_eq_true (List.find?_some hfirst :)
      simp [hrow]
  | none =>
      -- all attempts before this one have failed
      have hall := List.find?_eq_none.mp hfirst
      cases hlast : attempts.getLast? with
      | none => by_cases h : attempt.deliveryStatus = failed <;> simp [h]
      | some row =>
          have hrow : row.deliveryStatus = failed := by
            simpa using hall row (List.mem_of_getLast? hlast)
          by_cases h : attempt.deliveryStatus = failed <;> simp [h, hrow]

variable (failed) in
theorem createAll_spec (attempts : List (Notification τ))
    (hfresh : (attempts.map Notification.notificationId).Nodup) :
    ∃ table, createAll failed attempts = .ok table ∧ (∀ row ∈ table.index.rows, row ∈ attempts) ∧
      ∀ target, table.index.get? target = settled failed (attemptsFor target attempts) := by
  induction attempts using List.reverseRecOn with
  | nil => exact ⟨NotificationTable.empty, rfl, fun row hrow => hrow, fun target => rfl⟩
  | append_singleton attempts attempt ih =>
      have hbefore : (attempts.map Notification.notificationId).Nodup := by
        rw [List.map_append] at hfresh
        exact hfresh.of_append_left
      obtain ⟨table, hrun, hrows, hget⟩ := ih hbefore
      obtain ⟨next, hnext, hmem⟩ := Notification.exists_create failed hrows hfresh
      refine ⟨next, ?_, hmem, fun target => ?_⟩
      · unfold createAll at hrun ⊢
        rw [List.foldlM_append, hrun, Raise.ok_bind, List.foldlM_cons, hnext]
        rfl
      · rw [← Notification.create_eq_ok_iff.mp hnext, Notification.get?_written, hget, attemptsFor,
          attemptsFor, List.filter_append]
        by_cases htarget : target = attempt.target
        · subst htarget
          simp [settled_concat]
        · simp [htarget, Ne.symm htarget]

/-- After any attempts, with ids of their own, there is exactly one row for a target that was
    attempted, the first attempt that did not fail or else the latest, and no other row; an attempt
    leaves the rows of the other targets alone. -/
theorem createAll_settled (failed : String) (attempts : List (Notification τ))
    (hfresh : (attempts.map Notification.notificationId).Nodup) :
    (∃ table, createAll failed attempts = .ok table ∧
      (∀ attempt ∈ attempts, ∃ row, settled failed (attemptsFor attempt.target attempts) = some row ∧
        table.index.rows.filter (fun other => other.target = attempt.target) = [row]) ∧
      ∀ row ∈ table.index.rows, ∃ attempt ∈ attempts, attempt.target = row.target) ∧
    ∀ (attempt : Notification τ) (table next : NotificationTable τ),
      attempt.create failed table = .ok next → ∀ target, target ≠ attempt.target →
        next.index.rows.filter (fun row => row.target = target) =
          table.index.rows.filter fun row => row.target = target := by
  refine ⟨?_, fun attempt table next hcreate target hne => ?_⟩
  · obtain ⟨table, hrun, hrows, hget⟩ := createAll_spec failed attempts hfresh
    refine ⟨table, hrun, fun attempt hattempt => ?_, fun row hrow => ⟨row, hrows row hrow, rfl⟩⟩
    have hne : attemptsFor attempt.target attempts ≠ [] :=
      List.ne_nil_of_mem (List.mem_filter.mpr ⟨hattempt, decide_eq_true rfl⟩)
    obtain ⟨row, hrow⟩ : ∃ row, settled failed (attemptsFor attempt.target attempts) = some row := by
      obtain ⟨before, last, hsplit⟩ := (List.eq_nil_or_concat' _).resolve_left hne
      exact ⟨_, hsplit ▸ settled_concat before last⟩
    refine ⟨row, hrow, ?_⟩
    rw [Indexed.filter_key, hget, hrow, Option.toList_some]
  · rw [Indexed.filter_key, Indexed.filter_key, Notification.create_other hcreate hne]

/-- A failed attempt, its retry, one on another channel, and one after the delivery. -/
def sampleAttempts : List (Notification Nat) :=
  [⟨"n-1", "s", "slack", 1, "failed", []⟩, ⟨"n-2", "s", "slack", 2, "sent", []⟩,
    ⟨"n-3", "s", "email", 3, "failed", []⟩, ⟨"n-4", "s", "slack", 4, "failed", []⟩]

theorem createAll_settled_sample : ∃ table, createAll "failed" sampleAttempts = .ok table ∧
    table.index.rows.filter (fun row => row.target = ("s", "slack")) =
      [⟨"n-2", "s", "slack", 2, "sent", []⟩] := by
  obtain ⟨table, hrun, hrow, -⟩ := (createAll_settled "failed" sampleAttempts (by decide)).1
  obtain ⟨row, hsettled, hfilter⟩ := hrow ⟨"n-1", "s", "slack", 1, "failed", []⟩ List.mem_cons_self
  have hsecond : settled "failed" (attemptsFor ("s", "slack") sampleAttempts) =
      some ⟨"n-2", "s", "slack", 2, "sent", []⟩ := rfl
  have hrow := Option.some.inj (hsettled.symm.trans hsecond)
  exact ⟨table, hrun, hrow ▸ hfilter⟩

end CodexOrchestrator
