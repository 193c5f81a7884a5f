import CodexOrchestrator.Db.Queries

/-!
# Snapshots — what the queries see of the history of a market

A snapshot is added once for a market and a time, or upserted.  The latest snapshot before a time is
decided by the calls on that market up to that time, whatever was written for other markets or for later
times; the queries over a range agree with it and with each other.  The calls write by statements, so a
query gives out an object of the session with the values that it had when it was loaded.
-/

namespace CodexOrchestrator

open SnapshotRepository

variable {τ ν : Type}

/-! ## Calls -/

inductive SnapshotCall (τ ν : Type) where
  | addSnapshot (values : Snapshot τ ν)
  | upsertSnapshot (values : Snapshot τ ν)

namespace SnapshotCall

def values : SnapshotCall τ ν → Snapshot τ ν
  | addSnapshot values => values
  | upsertSnapshot values => values

def overwrites : SnapshotCall τ ν → Bool
  | addSnapshot _ => false
  | upsertSnapshot _ => true

def statement : SnapshotCall τ ν → Indexed.Upsert (Snapshot.slot (τ := τ) (ν := ν))
  | addSnapshot values => ⟨values, .nothing _⟩
  | upsertSnapshot values => ⟨values, snapshotAssignment values⟩

theorem values_statement (call : SnapshotCall τ ν) : call.statement.values = call.values := by
  cases call <;> rfl

/-- A row stays unless the call overwrites it, which leaves nothing of it. -/
theorem effect_statement (call : SnapshotCall τ ν) {row : Option (Snapshot τ ν)}
    (hrow : ∀ old ∈ row, old.slot = call.values.slot) :
    call.statement.effect row =
      some (row.elim call.values fun old => if call.overwrites then call.values else old) := by
  cases row with
  | none => cases call <;> rfl
  | some old =>
      have hslot := hrow old rfl
      rw [Snapshot.slot, Snapshot.slot, Prod.mk.injEq] at hslot
      cases call with
      | addSnapshot values => rfl
      | upsertSnapshot values =>
          obtain ⟨hticker, htime⟩ := hslot
          simp only [Indexed.Upsert.effect, statement, snapshotAssignment, Option.elim_some, hticker,
            htime, CodexOrchestrator.SnapshotCall.values, overwrites, if_true]

variable [DecidableEq τ]

def execute (call : SnapshotCall τ ν) (table : SnapshotTable τ ν) : SnapshotTable τ ν :=
  match call with
  | addSnapshot values => SnapshotRepository.addSnapshot values table
  | upsertSnapshot values => SnapshotRepository.upsertSnapshot values table

theorem execute_eq (call : SnapshotCall τ ν) (table : SnapshotTable τ ν) :
    call.execute table = call.statement.execute table := by
  cases call <;> rfl

end SnapshotCall

/-- What the calls on one slot leave: the last values that were upserted, else the first that were
    added. -/
def lastWritten (calls : List (SnapshotCall τ ν)) : Option (Snapshot τ ν) :=
  ((calls.reverse.find? SnapshotCall.overwrites).or calls.head?).map SnapshotCall.values

theorem lastWritten_concat (calls : List (SnapshotCall τ ν)) (call : SnapshotCall τ ν) :
    lastWritten (calls ++ [call]) =
      some ((lastWritten calls).elim call.values fun old =>
        if call.overwrites then call.values else old) := by
  unfold lastWritten
  rw [List.reverse_concat, List.find?_cons]
  cases hcall : call.overwrites with
  | true => cases ((calls.reverse.find? SnapshotCall.overwrites).or calls.head?) <;> rfl
  | false =>
      cases calls.reverse.find? SnapshotCall.overwrites with
      | some earlier => rfl
      | none => cases calls <;> rfl

section Runs

variable [DecidableEq τ]

/-- The calls one after another, on an empty table. -/
def runSnapshots (calls : List (SnapshotCall τ ν)) : SnapshotTable τ ν :=
  calls.foldl (fun table call => call.execute table) Indexed.empty

def callsOn (slot : String × τ) (calls : List (SnapshotCall τ ν)) : List (SnapshotCall τ ν) :=
  calls.filter fun call => call.values.slot = slot

theorem runSnapshots_eq (calls : List (SnapshotCall τ ν)) :
    runSnapshots calls = Indexed.upsertAll (calls.map SnapshotCall.statement) := by
  rw [Indexed.upsertAll, List.foldl_map, runSnapshots]
  simp only [SnapshotCall.execute_eq]

theorem rowAfter_statements (slot : String × τ) (calls : List (SnapshotCall τ ν)) :
    Indexed.rowAfter slot (calls.map SnapshotCall.statement) = lastWritten (callsOn slot calls) := by
  induction calls using List.reverseRecOn with
  | nil => rfl
  | append_singleton calls call ih =>
      have hcalls : callsOn slot (calls ++ [call]) =
          if call.values.slot = slot then callsOn slot calls ++ [call] else callsOn slot calls :=
        Query.filter_concat (fun call : SnapshotCall τ ν => call.values.slot = slot) calls call
      rw [List.map_append, List.map_singleton, Indexed.rowAfter_concat, hcalls, call.values_statement]
      by_cases hslot : call.values.slot = slot
      · rw [if_pos hslot, if_pos hslot, lastWritten_concat, ← ih, call.effect_statement]
        intro old hold
        exact (Indexed.key_of_rowAfter hold).trans hslot.symm
      · rw [if_neg hslot, if_neg hslot, ih]

theorem mem_runSnapshots {calls : List (SnapshotCall τ ν)} {row : Snapshot τ ν} :
    row ∈ (runSnapshots calls).rows ↔ lastWritten (callsOn row.slot calls) = some row := by
  rw [runSnapshots_eq, Indexed.mem_upsertAll, rowAfter_statements]

/-- A slot has a row when a call was made on it. -/
theorem exists_mem_runSnapshots {calls : List (SnapshotCall τ ν)} {call : SnapshotCall τ ν}
    (h : call ∈ calls) : ∃ row ∈ (runSnapshots calls).rows, row.slot = call.values.slot := by
  rw [runSnapshots_eq]
  cases hrow : Indexed.rowAfter call.values.slot (calls.map SnapshotCall.statement) with
  | none =>
      refine absurd ?_ (Indexed.rowAfter_eq_none_iff.mp hrow _ (List.mem_map_of_mem h))
      rw [call.values_statement]
  | some row =>
      have hslot := Indexed.key_of_rowAfter hrow
      exact ⟨row, Indexed.mem_upsertAll.mpr (hslot ▸ hrow), hslot⟩

theorem exists_call_of_mem {calls : List (SnapshotCall τ ν)} {row : Snapshot τ ν}
    (h : row ∈ (runSnapshots calls).rows) : ∃ call ∈ calls, call.values.slot = row.slot := by
  rw [runSnapshots_eq, Indexed.mem_upsertAll] at h
  by_contra hnone
  have habsent : Indexed.rowAfter row.slot (calls.map SnapshotCall.statement) = none := by
    refine Indexed.rowAfter_eq_none_iff.mpr fun statement hstatement hslot => hnone ?_
    obtain ⟨call, hcall, rfl⟩ := List.mem_map.mp hstatement
    exact ⟨call, hcall, call.values_statement ▸ hslot⟩
  cases h.symm.trans habsent

end Runs

/-! ## The queries on a table -/

section Queries

variable {table : SnapshotTable τ ν}

/-- The times tell the rows of one market apart. -/
theorem distinguishes_market {marketTicker : String} {rows : List (Snapshot τ ν)}
    (hrows : ∀ row ∈ rows, row ∈ table.rows ∧ row.marketTicker = marketTicker) :
    Query.Distinguishes Snapshot.capturedAtUtc rows := by
  intro a ha b hb htime
  obtain ⟨hamem, haticker⟩ := hrows a ha
  obtain ⟨hbmem, hbticker⟩ := hrows b hb
  refine List.inj_on_of_nodup_map table.unique hamem hbmem ?_
  rw [Snapshot.slot, Snapshot.slot, haticker, hbticker, htime]

variable [LinearOrder τ]

theorem distinguishes_before (table : SnapshotTable τ ν) (marketTicker : String) (tsUtc : τ) :
    Query.Distinguishes Snapshot.capturedAtUtc (table.rows.filter fun row =>
      row.marketTicker = marketTicker ∧ row.capturedAtUtc ≤ tsUtc) :=
  distinguishes_market fun _ hrow =>
    ⟨(List.mem_filter.mp hrow).1, (of_decide_eq_true (List.mem_filter.mp hrow).2).1⟩

/-- The row that `latest_snapshot_before` finds. -/
def rowBefore (marketTicker : String) (tsUtc : τ) (table : SnapshotTable τ ν) : Option (Snapshot τ ν) :=
  (Query.orderByDesc Snapshot.capturedAtUtc (table.rows.filter fun row =>
    row.marketTicker = marketTicker ∧ row.capturedAtUtc ≤ tsUtc)).head?

theorem latestSnapshotBefore_eq (marketTicker : String) (tsUtc : τ) (session : SnapshotSession τ ν) :
    latestSnapshotBefore marketTicker tsUtc session =
      .ok ((rowBefore marketTicker tsUtc session.table).map session.object) := by
  rw [latestSnapshotBefore, Session.objects, scalarOneOrNone_map, scalarOneOrNone_take_one]
  rfl

theorem rowBefore_eq_some_iff {marketTicker : String} {tsUtc : τ} {row : Snapshot τ ν} :
    rowBefore marketTicker tsUtc table = some row ↔
      row ∈ table.rows ∧ row.marketTicker = marketTicker ∧ row.capturedAtUtc ≤ tsUtc ∧
        ∀ other ∈ table.rows, other.marketTicker = marketTicker → other.capturedAtUtc ≤ tsUtc →
          other.capturedAtUtc ≤ row.capturedAtUtc := by
  rw [rowBefore, Query.head?_eq_some_iff (distinguishes_before table marketTicker tsUtc)]
  simp only [List.mem_filter, decide_eq_true_eq, and_imp, and_assoc]

theorem rowBefore_eq_none_iff {marketTicker : String} {tsUtc : τ} :
    rowBefore marketTicker tsUtc table = none ↔
      ∀ row ∈ table.rows, row.marketTicker = marketTicker → tsUtc < row.capturedAtUtc := by
  rw [rowBefore, Query.head?_eq_none_iff, List.filter_eq_nil_iff]
  simp only [decide_eq_true_eq, not_and, not_le]

end Queries

/-! ## No look-ahead -/

section History

variable [LinearOrder τ]

/-- The latest snapshot of the market up to the time, by the calls. -/
def IsLatestBefore (marketTicker : String) (tsUtc : τ) (calls : List (SnapshotCall τ ν)) :
    Option (Snapshot τ ν) → Prop
  | none => ∀ call ∈ calls, call.values.marketTicker = marketTicker →
      tsUtc < call.values.capturedAtUtc
  | some row => row.marketTicker = marketTicker ∧ row.capturedAtUtc ≤ tsUtc ∧
      lastWritten (callsOn row.slot calls) = some row ∧
      ∀ call ∈ calls, call.values.marketTicker = marketTicker → call.values.capturedAtUtc ≤ tsUtc →
        call.values.capturedAtUtc ≤ row.capturedAtUtc

def callsUpTo (marketTicker : String) (tsUtc : τ) (calls : List (SnapshotCall τ ν)) :
    List (SnapshotCall τ ν) :=
  calls.filter fun call =>
    call.values.marketTicker = marketTicker ∧ call.values.capturedAtUtc ≤ tsUtc

theorem rowBefore_runSnapshots {marketTicker : String} {tsUtc : τ}
    {calls : List (SnapshotCall τ ν)} {answer : Option (Snapshot τ ν)} :
    rowBefore marketTicker tsUtc (runSnapshots calls) = answer ↔
      IsLatestBefore marketTicker tsUtc calls answer := by
  -- what holds of the slots of all rows holds of the slots of all calls
  have hslots : ∀ P : String × τ → Prop, (∀ row ∈ (runSnapshots calls).rows, P row.slot) ↔
      ∀ call ∈ calls, P call.values.slot := by
    intro P
    constructor
    · intro h call hcall
      obtain ⟨row, hrow, hslot⟩ := exists_mem_runSnapshots hcall
      exact hslot ▸ h row hrow
    · intro h row hrow
      obtain ⟨call, hcall, hslot⟩ := exists_call_of_mem hrow
      exact hslot ▸ h call hcall
  cases answer with
  | none =>
      rw [rowBefore_eq_none_iff]
      exact hslots fun slot => slot.1 = marketTicker → tsUtc < slot.2
  | some row =>
      rw [rowBefore_eq_some_iff, mem_runSnapshots, and_left_comm, IsLatestBefore,
        and_left_comm (a := lastWritten _ = _)]
      have hgreatest := hslots fun slot => slot.1 = marketTicker → slot.2 ≤ tsUtc →
        slot.2 ≤ row.capturedAtUtc
      exact and_congr_right' (and_congr_right' (and_congr_right' hgreatest))

/-- Only the calls on the market up to the time count. -/
theorem isLatestBefore_callsUpTo {marketTicker : String} {tsUtc : τ}
    {calls : List (SnapshotCall τ ν)} {answer : Option (Snapshot τ ν)} :
    IsLatestBefore marketTicker tsUtc (callsUpTo marketTicker tsUtc calls) answer ↔
      IsLatestBefore marketTicker tsUtc calls answer := by
  have hmem : ∀ call, call ∈ callsUpTo marketTicker tsUtc calls ↔ call ∈ calls ∧
      call.values.marketTicker = marketTicker ∧ call.values.capturedAtUtc ≤ tsUtc := fun call => by
    rw [callsUpTo, List.mem_filter, decide_eq_true_eq]
  cases answer with
  | none =>
      constructor
      · intro h call hcall hticker
        by_contra hle
        exact hle (h call ((hmem call).mpr ⟨hcall, hticker, not_lt.mp hle⟩) hticker)
      · exact fun h call hcall => h call ((hmem call).mp hcall).1
  | some row =>
      refine and_congr_right fun hticker => and_congr_right fun htime => and_congr ?_ ?_
      · have hcalls : callsOn row.slot (callsUpTo marketTicker tsUtc calls) = callsOn row.slot calls := by
          rw [callsOn, callsUpTo, List.filter_filter]
          refine List.filter_congr fun call _ => ?_
          rw [Bool.and_eq_left_iff_imp, decide_eq_true_eq, decide_eq_true_eq]
          intro hslot
          rw [Snapshot.slot, Snapshot.slot, Prod.mk.injEq] at hslot
          rw [hslot.1, hslot.2]
          exact ⟨hticker, htime⟩
        rw [hcalls]
      · constructor
        · exact fun h call hcall hsame hle => h call ((hmem call).mpr ⟨hcall, hsame, hle⟩) hsame hle
        · exact fun h call hcall => h call ((hmem call).mp hcall).1

/-- After any calls, `latest_snapshot_before` finds the snapshot with the greatest time up to the given
    one, with the values last upserted for it or else first added, and nothing only when there was no
    call for the market up to the time; it gives out the session's object of it, which has these values
    unless it was loaded before they were written.  It finds the same after any other calls that agree
    on the market up to the time. -/
theorem latestSnapshotBefore_runSnapshots (calls : List (SnapshotCall τ ν)) (marketTicker : String)
    (tsUtc : τ) :
    ∃ found, IsLatestBefore marketTicker tsUtc calls found ∧
      ∀ others : List (SnapshotCall τ ν),
        callsUpTo marketTicker tsUtc others = callsUpTo marketTicker tsUtc calls →
        ∀ session : SnapshotSession τ ν, session.table = runSnapshots others →
          latestSnapshotBefore marketTicker tsUtc session = .ok (found.map session.object) ∧
          ((∀ row ∈ found, (session.slot row.slot).UpToDate) →
            latestSnapshotBefore marketTicker tsUtc session = .ok found) := by
  obtain ⟨found, hfound⟩ : ∃ found, rowBefore marketTicker tsUtc (runSnapshots calls) = found := ⟨_, rfl⟩
  have hlatest := rowBefore_runSnapshots.mp hfound
  refine ⟨found, hlatest, fun others hsame session htable => ?_⟩
  have hrow : rowBefore marketTicker tsUtc session.table = found := by
    rw [htable, rowBefore_runSnapshots, ← isLatestBefore_callsUpTo, hsame, isLatestBefore_callsUpTo]
    exact hlatest
  have hanswer := latestSnapshotBefore_eq marketTicker tsUtc session
  rw [hrow] at hanswer
  refine ⟨hanswer, fun hcurrent => ?_⟩
  rw [hanswer]
  cases found with
  | none => rfl
  | some row =>
      have hstored : (session.slot row.slot).row = some row :=
        Indexed.mem_rows_iff.mp (rowBefore_eq_some_iff.mp hrow).1
      rw [Option.map_some, session.object_eq_slot, (hcurrent row rfl).object_eq hstored]

end History

/-! ## The queries agree -/

section Agreement

theorem nodup_rows (table : SnapshotTable τ ν) : table.rows.Nodup := List.Nodup.of_map _ table.unique

section Objects

variable (session : SnapshotSession τ ν) (row : Snapshot τ ν)

/-- Whatever an object shows, it is the object of its market and time. -/
theorem slot_object : (session.object row).slot = row.slot := session.key_object row

theorem capturedAtUtc_object : (session.object row).capturedAtUtc = row.capturedAtUtc :=
  congrArg Prod.snd (slot_object session row)

end Objects

variable [LinearOrder τ] {session : SnapshotSession τ ν} {marketTicker : String} {startUtc endUtc : τ}

theorem mem_listSnapshots {object : Snapshot τ ν} :
    object ∈ listSnapshots marketTicker startUtc endUtc session ↔
      ∃ row ∈ session.table.rows, row.marketTicker = marketTicker ∧ startUtc ≤ row.capturedAtUtc ∧
        row.capturedAtUtc ≤ endUtc ∧ session.object row = object := by
  simp only [listSnapshots, Session.objects, List.mem_map, (Query.orderBy_perm _ _).mem_iff,
    List.mem_filter, decide_eq_true_eq, and_assoc]

theorem distinguishes_between (table : SnapshotTable τ ν) (marketTicker : String)
    (startUtc endUtc : τ) :
    Query.Distinguishes Snapshot.capturedAtUtc (table.rows.filter fun row =>
      row.marketTicker = marketTicker ∧ startUtc ≤ row.capturedAtUtc ∧ row.capturedAtUtc ≤ endUtc) :=
  distinguishes_market fun _ hrow =>
    ⟨(List.mem_filter.mp hrow).1, (of_decide_eq_true (List.mem_filter.mp hrow).2).1⟩

theorem getByMarketAndTime_eq (marketTicker : String) (capturedAtUtc : τ)
    (session : SnapshotSession τ ν) : getByMarketAndTime marketTicker capturedAtUtc session =
      .ok ((session.table.get? (marketTicker, capturedAtUtc)).map session.object) := by
  have hrows := session.table.filter_key (marketTicker, capturedAtUtc)
  simp only [Snapshot.slot, Prod.mk.injEq] at hrows
  rw [getByMarketAndTime, Session.objects, scalarOneOrNone_map, hrows, scalarOneOrNone_toList]
  rfl

/-- The snapshots of a range come in the order of their times, no two at one time. -/
theorem listSnapshots_pairwise (session : SnapshotSession τ ν) (marketTicker : String)
    (startUtc endUtc : τ) : (listSnapshots marketTicker startUtc endUtc session).Pairwise
      fun a b => a.capturedAtUtc < b.capturedAtUtc := by
  let rows := session.table.rows.filter fun row =>
    row.marketTicker = marketTicker ∧ startUtc ≤ row.capturedAtUtc ∧ row.capturedAtUtc ≤ endUtc
  have hnodup : (Query.orderBy Snapshot.capturedAtUtc rows).Nodup :=
    (Query.orderBy_perm _ _).nodup_iff.mpr ((nodup_rows session.table).filter _)
  have horder := Query.orderBy_pairwise Snapshot.capturedAtUtc rows
  refine List.pairwise_map.mpr ((hnodup.and horder).imp_of_mem fun {a b} ha hb ⟨hne, hle⟩ => ?_)
  rw [capturedAtUtc_object, capturedAtUtc_object]
  refine lt_of_le_of_ne hle fun htime => hne ?_
  exact distinguishes_between session.table marketTicker startUtc endUtc a
    ((Query.orderBy_perm _ _).mem_iff.mp ha) b ((Query.orderBy_perm _ _).mem_iff.mp hb) htime

/-- The last snapshot of a range is the latest one before its end. -/
theorem latestSnapshotBefore_of_listSnapshots {object : Snapshot τ ν}
    (h : (listSnapshots marketTicker startUtc endUtc session).getLast? = some object) :
    latestSnapshotBefore marketTicker endUtc session = .ok (some object) := by
  let rows := session.table.rows.filter fun row =>
    row.marketTicker = marketTicker ∧ startUtc ≤ row.capturedAtUtc ∧ row.capturedAtUtc ≤ endUtc
  rw [listSnapshots, Session.objects, List.getLast?_map] at h
  obtain ⟨row, hlast, rfl⟩ := Option.map_eq_some_iff.mp h
  have hrows : ∀ other, other ∈ Query.orderBy Snapshot.capturedAtUtc rows ↔
      other ∈ session.table.rows ∧ other.marketTicker = marketTicker ∧
        startUtc ≤ other.capturedAtUtc ∧ other.capturedAtUtc ≤ endUtc := fun other => by
    rw [(Query.orderBy_perm _ _).mem_iff, List.mem_filter, decide_eq_true_eq]
  obtain ⟨front, hfront⟩ := List.getLast?_eq_some_iff.mp hlast
  have horder := Query.orderBy_pairwise Snapshot.capturedAtUtc rows
  rw [hfront, List.pairwise_append] at horder
  obtain ⟨hmem, hticker, hstart, hend⟩ := (hrows row).mp (List.mem_of_getLast? hlast)
  rw [latestSnapshotBefore_eq]
  refine congrArg Except.ok (Option.map_eq_some_iff.mpr ⟨row, rowBefore_eq_some_iff.mpr
    ⟨hmem, hticker, hend, fun other hother hsame hle => ?_⟩, rfl⟩)
  rcases le_total startUtc other.capturedAtUtc with hin | hbefore
  · have hlisted := (hrows other).mpr ⟨hother, hsame, hin, hle⟩
    rw [hfront] at hlisted
    rcases List.mem_append.mp hlisted with hearlier | hother'
    · exact horder.2.2 other hearlier row (List.mem_singleton_self row)
    · rw [List.mem_singleton.mp hother']
  · exact hbefore.trans hstart

theorem countForMarketsBetween_eq (session : SnapshotSession τ ν) (marketTickers : List String)
    (startUtc endUtc : τ) : countForMarketsBetween marketTickers startUtc endUtc session =
      (marketTickers.dedup.map fun marketTicker =>
        (listSnapshots marketTicker startUtc endUtc session).length).sum := by
  have hlength : ∀ marketTicker, (listSnapshots marketTicker startUtc endUtc session).length =
      (session.table.rows.filter fun row => row.marketTicker = marketTicker ∧
        startUtc ≤ row.capturedAtUtc ∧ row.capturedAtUtc ≤ endUtc).length := fun marketTicker => by
    rw [listSnapshots, Session.objects, List.length_map, (Query.orderBy_perm _ _).length_eq]
  have hsum : countForMarketsBetween marketTickers startUtc endUtc session =
      (session.table.rows.filter fun row => row.marketTicker ∈ marketTickers.dedup ∧
        startUtc ≤ row.capturedAtUtc ∧ row.capturedAtUtc ≤ endUtc).length := by
    simp only [List.mem_dedup]
    rw [countForMarketsBetween]
    split
    · rename_i hnone
      simp [hnone]
    · rfl
  rw [hsum]
  simp only [hlength]
  exact Query.length_filter_mem Snapshot.marketTicker
    (fun row => startUtc ≤ row.capturedAtUtc ∧ row.capturedAtUtc ≤ endUtc) marketTickers.nodup_dedup _

/-- In any session, whatever objects it holds and whatever the order in which the table stores the rows:
    a range of a market is listed by strictly increasing times; it has exactly the snapshots that are
    given out for a time of the range; its last one is the latest one before its end; the counts are
    those of the lists, one for each market; and the queries without an end are those up to any time
    that no row is later than. -/
theorem snapshot_queries_agree (session : SnapshotSession τ ν) (marketTicker : String)
    (startUtc endUtc : τ) :
    (listSnapshots marketTicker startUtc endUtc session).Pairwise
        (fun a b => a.capturedAtUtc < b.capturedAtUtc) ∧
      (∀ row, row ∈ listSnapshots marketTicker startUtc endUtc session ↔
        getByMarketAndTime marketTicker row.capturedAtUtc session = .ok (some row) ∧
          startUtc ≤ row.capturedAtUtc ∧ row.capturedAtUtc ≤ endUtc) ∧
      (∀ row ∈ (listSnapshots marketTicker startUtc endUtc session).getLast?,
        latestSnapshotBefore marketTicker endUtc session = .ok (some row)) ∧
      (∀ marketTickers, countForMarketsBetween marketTickers startUtc endUtc session =
        (marketTickers.dedup.map fun marketTicker =>
          (listSnapshots marketTicker startUtc endUtc session).length).sum) ∧
      ((∀ row ∈ session.table.rows, row.marketTicker = marketTicker → row.capturedAtUtc ≤ endUtc) →
        latestSnapshotAnytime marketTicker session =
          latestSnapshotBefore marketTicker endUtc session) ∧
      ((∀ row ∈ session.table.rows, row.capturedAtUtc ≤ endUtc) → ∀ marketTickers,
        countForMarketsSince marketTickers startUtc session =
          countForMarketsBetween marketTickers startUtc endUtc session) ∧
      ∀ other : SnapshotSession τ ν, other.table.rows.Perm session.table.rows →
        other.held = session.held →
          listSnapshots marketTicker startUtc endUtc other =
            listSnapshots marketTicker startUtc endUtc session := by
  refine ⟨listSnapshots_pairwise session marketTicker startUtc endUtc, fun object => ?_,
    fun row hlast => latestSnapshotBefore_of_listSnapshots hlast,
    fun marketTickers => countForMarketsBetween_eq session marketTickers startUtc endUtc,
    fun hall => ?_, fun hall marketTickers => ?_, fun other hperm hheld => ?_⟩
  · rw [mem_listSnapshots, getByMarketAndTime_eq, Except.ok.injEq, Option.map_eq_some_iff]
    constructor
    · rintro ⟨row, hrow, hticker, hstart, hend, rfl⟩
      rw [capturedAtUtc_object]
      exact ⟨⟨row, Indexed.get?_eq_some_iff.mpr ⟨hrow, hticker ▸ rfl⟩, rfl⟩, hstart, hend⟩
    · rintro ⟨⟨row, hrow, rfl⟩, hstart, hend⟩
      rw [capturedAtUtc_object] at hrow hstart hend
      obtain ⟨hmem, hslot⟩ := Indexed.get?_eq_some_iff.mp hrow
      exact ⟨row, hmem, congrArg Prod.fst hslot, hstart, hend, rfl⟩
  · have hfilter : session.table.rows.filter (fun row => row.marketTicker = marketTicker) =
        session.table.rows.filter fun row =>
          row.marketTicker = marketTicker ∧ row.capturedAtUtc ≤ endUtc := by
      refine List.filter_congr fun row hrow => ?_
      rw [decide_eq_decide]
      exact (and_iff_left_of_imp (hall row hrow)).symm
    rw [latestSnapshotAnytime, latestSnapshotBefore, hfilter]
  · have hfilter : session.table.rows.filter (fun row =>
        row.marketTicker ∈ marketTickers ∧ startUtc ≤ row.capturedAtUtc) =
          session.table.rows.filter fun row =>
            row.marketTicker ∈ marketTickers ∧ startUtc ≤ row.capturedAtUtc ∧
              row.capturedAtUtc ≤ endUtc := by
      refine List.filter_congr fun row hrow => ?_
      rw [decide_eq_decide, ← and_assoc]
      exact (and_iff_left (hall row hrow)).symm
    rw [countForMarketsSince, countForMarketsBetween, hfilter]
  · have hobject : other.object = session.object := by
      funext row
      rw [Session.object, Session.object, hheld]
    rw [listSnapshots, listSnapshots, Session.objects, Session.objects, hobject]
    exact congrArg _ (Query.orderBy_congr
      (distinguishes_between other.table marketTicker startUtc endUtc) (hperm.filter _))

end Agreement

end CodexOrchestrator
