import Mathlib.Data.Nat.Find
import SqlEngine.Proofs.DeleteEffects

/-!
# The slots that a run leaves

Slots are dropped by removals only, and by a removal only once dead rows outnumber the live ones. In
between a new row gets the next slot and a dead row keeps its own. What slots there are after a run
of calls, and what is in those of dead rows, is therefore told by the run: by the rows that were
live when slots were last dropped, the rows inserted since, and the removals.
-/

namespace SqlEngine

private theorem trace_append_singleton {ι ρ σ : Type} (step : ι → σ → ρ × σ) (inputs : List ι)
    (input : ι) (s : σ) :
    trace step (inputs ++ [input]) s =
      trace step inputs s ++ [step input (inputs.foldl (fun s input => (step input s).2) s)] := by
  induction inputs generalizing s with
  | nil => rfl
  | cons first later ih =>
    rw [List.cons_append, trace, trace, ih, List.cons_append, List.foldl_cons]

private theorem length_trace {ι ρ σ : Type} (step : ι → σ → ρ × σ) (inputs : List ι) (s : σ) :
    (trace step inputs s).length = inputs.length := by
  induction inputs generalizing s with
  | nil => rfl
  | cons first later ih => rw [trace, List.length_cons, List.length_cons, ih]

namespace Table

/-! ### Compactions -/

/-- The table that a run of calls leaves. -/
def afterCalls (calls : List Call) (t : Table) : Table :=
  calls.foldl (fun t call => call.act.after t) t

/-- The call drops slots. -/
def Call.Compacts (call : Call) (t : Table) : Prop := (call.act.after t).slotCount < t.slotCount

instance (call : Call) (t : Table) : Decidable (call.Compacts t) :=
  inferInstanceAs (Decidable (_ < _))

/-- The number of calls up to the last one that drops slots, and 0 if none does. -/
def lastCompaction (calls : List Call) (t : Table) : Nat :=
  Nat.findGreatest
    (fun n =>
      (afterCalls (calls.take n) t).slotCount < (afterCalls (calls.take (n - 1)) t).slotCount)
    calls.length

/-- The table right after the last call that drops slots, or before the run if none does. -/
def lastCompacted (calls : List Call) (t : Table) : Table :=
  afterCalls (calls.take (lastCompaction calls t)) t

/-- The ids of the rows that a run inserts. -/
def idsInserted (calls : List Call) (t : Table) : List RowId :=
  insertedIds calls ((trace (fun call => call.act.outcome) calls t).map (·.1))

/-- The ids of the rows inserted since slots were last dropped. -/
def idsSinceCompaction (calls : List Call) (t : Table) : List RowId :=
  idsInserted (calls.drop (lastCompaction calls t)) (lastCompacted calls t)

variable {calls : List Call} {call : Call} {t t' : Table}

private theorem afterCalls_append_singleton (calls : List Call) (call : Call) (t : Table) :
    afterCalls (calls ++ [call]) t = call.act.after (afterCalls calls t) := by
  rw [afterCalls, List.foldl_append]
  rfl

private theorem lastCompaction_le (calls : List Call) (t : Table) :
    lastCompaction calls t ≤ calls.length := Nat.findGreatest_le _

private theorem lastCompaction_append_singleton (calls : List Call) (call : Call) (t : Table) :
    lastCompaction (calls ++ [call]) t =
      if call.Compacts (afterCalls calls t) then calls.length + 1 else lastCompaction calls t := by
  have htake : ∀ n ≤ calls.length, (calls ++ [call]).take n = calls.take n :=
    fun n hn => List.take_append_of_le_length hn
  have hall : (calls ++ [call]).take (calls.length + 1) = calls ++ [call] :=
    List.take_of_length_le (by simp)
  rw [lastCompaction, List.length_append, List.length_singleton, Nat.findGreatest_succ, hall,
    Nat.add_sub_cancel, htake _ (Nat.le_refl _), List.take_length, afterCalls_append_singleton]
  refine if_congr Iff.rfl rfl ?_
  -- the calls before the last one are the same, so the last compaction among them is
  obtain ⟨hle, hcompacts, hlater⟩ := Nat.findGreatest_eq_iff.mp (rfl : lastCompaction calls t = _)
  refine Nat.findGreatest_eq_iff.mpr ⟨hle, fun hne => ?_, fun n hlt hn => ?_⟩
  · rw [htake _ hle, htake _ (Nat.le_trans (Nat.sub_le ..) hle)]
    exact hcompacts hne
  · rw [htake _ hn, htake _ (Nat.le_trans (Nat.sub_le ..) hn)]
    exact hlater hlt hn

private theorem idsInserted_append_singleton (calls : List Call) (call : Call) (t : Table) :
    idsInserted (calls ++ [call]) t =
      idsInserted calls t ++ insertedIds [call] [call.act.answer (afterCalls calls t)] := by
  have hlength :
      calls.length = ((trace (fun call => call.act.outcome) calls t).map (·.1)).length := by
    rw [List.length_map, length_trace]
  rw [idsInserted, trace_append_singleton, List.map_append, insertedIds, List.zip_append hlength,
    List.filterMap_append]
  rfl

/-- A call that drops no slots comes after the last compaction. -/
private theorem lastCompacted_append_of_not_compacts (h : ¬ call.Compacts (afterCalls calls t)) :
    lastCompacted (calls ++ [call]) t = lastCompacted calls t := by
  rw [lastCompacted, lastCompaction_append_singleton, if_neg h,
    List.take_append_of_le_length (lastCompaction_le calls t), lastCompacted]

private theorem lastCompacted_append_of_compacts (h : call.Compacts (afterCalls calls t)) :
    lastCompacted (calls ++ [call]) t = call.act.after (afterCalls calls t) := by
  rw [lastCompacted, lastCompaction_append_singleton, if_pos h,
    List.take_of_length_le (by simp), afterCalls_append_singleton]

private theorem afterCalls_append (before later : List Call) (t : Table) :
    afterCalls (before ++ later) t = afterCalls later (afterCalls before t) := List.foldl_append

private theorem idsSinceCompaction_append_of_not_compacts
    (h : ¬ call.Compacts (afterCalls calls t)) :
    idsSinceCompaction (calls ++ [call]) t =
      idsSinceCompaction calls t ++ insertedIds [call] [call.act.answer (afterCalls calls t)] := by
  have hrest : afterCalls (calls.drop (lastCompaction calls t)) (lastCompacted calls t) =
      afterCalls calls t := by
    rw [lastCompacted, ← afterCalls_append, List.take_append_drop]
  rw [idsSinceCompaction, lastCompacted_append_of_not_compacts h, lastCompaction_append_singleton,
    if_neg h, List.drop_append_of_le_length (lastCompaction_le calls t),
    idsInserted_append_singleton, hrest, idsSinceCompaction]

private theorem idsSinceCompaction_append_of_compacts (h : call.Compacts (afterCalls calls t)) :
    idsSinceCompaction (calls ++ [call]) t = [] := by
  rw [idsSinceCompaction, lastCompaction_append_singleton, if_pos h,
    List.drop_of_length_le (by simp)]
  rfl

end Table

/-! ### What calls do to records -/

namespace RowStore

variable {s : RowStore} {ids : RowIds}

private theorem length_kill (ids : RowIds) (s : RowStore) :
    (s.kill ids).records.length = s.records.length := List.length_map _

private theorem map_id_kill (ids : RowIds) (s : RowStore) :
    (s.kill ids).records.map (·.slot.id) = s.records.map (·.slot.id) := by
  rw [kill, edit, Record.edit, List.map_map]
  apply List.map_congr_left
  intro r _
  by_cases hamong : Slot.isAmong ids.toList r.slot <;> simp [hamong, Record.kill]

private theorem map_id_compact (s : RowStore) :
    s.compact.records.map (·.slot.id) = s.compact.liveRows.map (·.1) := by
  have hlive : ∀ r ∈ s.compact.records, r.slot.live := fun r hr => (List.mem_filter.mp hr).2
  rw [liveRows, List.map_filterMap, ← List.filterMap_eq_map]
  apply List.filterMap_congr
  intro r hr
  simp [hlive r hr]

private theorem liveCount_reclaim (s : RowStore) : s.reclaim.liveCount = s.liveCount := by
  rw [← length_liveRows, liveRows_reclaim, length_liveRows]

/-- A removal drops slots if dead rows would otherwise outnumber the live ones, and if so it drops
those of all dead rows. -/
private theorem delete_cases (ids : RowIds) (s : RowStore) :
    ((s.delete ids).liveCount < s.records.length - (s.delete ids).liveCount ∧
        s.delete ids = (s.kill ids).compact) ∨
      (¬ (s.delete ids).liveCount < s.records.length - (s.delete ids).liveCount ∧
        s.delete ids = s.kill ids) := by
  rw [delete, liveCount_reclaim, ← length_kill ids s]
  by_cases hdead : (s.kill ids).liveCount < (s.kill ids).records.length - (s.kill ids).liveCount
  · exact .inl ⟨hdead, if_pos hdead⟩
  · exact .inr ⟨hdead, if_neg hdead⟩

end RowStore

/-! ### The ledger of a run -/

namespace Table

variable {calls : List Call} {call : Call} {t t' : Table} {s : RowStore} {id : RowId}
  {row : List Value}

/-- A removal among the calls took the row away, and the row had these values then. -/
def WasRemoved (calls : List Call) (t : Table) (id : RowId) (row : List Value) : Prop :=
  ∃ n ids, calls[n]? = some (.delete ids) ∧ id ∈ ids ∧
    (Table.delete ids).Succeeds (afterCalls (calls.take n) t) ∧
    (afterCalls (calls.take n) t).row? id = some row

private theorem WasRemoved.append (h : WasRemoved calls t id row) (call : Call) :
    WasRemoved (calls ++ [call]) t id row := by
  obtain ⟨n, ids, hcall, hid, hsucceeds, hrow⟩ := h
  have hn : n < calls.length := (List.getElem?_eq_some_iff.mp hcall).1
  refine ⟨n, ids, ?_, hid, ?_⟩
  · rw [List.getElem?_append_left hn, hcall]
  · rw [List.take_append_of_le_length (Nat.le_of_lt hn)]
    exact ⟨hsucceeds, hrow⟩

private theorem wasRemoved_of_last {ids : RowIds} (hid : id ∈ ids)
    (hsucceeds : (Table.delete ids).Succeeds (afterCalls calls t))
    (hrow : (afterCalls calls t).row? id = some row) :
    WasRemoved (calls ++ [.delete ids]) t id row := by
  refine ⟨calls.length, ids, ?_, hid, ?_⟩
  · rw [List.getElem?_append_right (Nat.le_refl _), Nat.sub_self, List.getElem?_cons_zero]
  · rw [List.take_append_of_le_length (Nat.le_refl _), List.take_length]
    exact ⟨hsucceeds, hrow⟩

/-- What the records of a table owe to the calls that led to it. -/
structure Ledger (calls : List Call) (t : Table) (s : RowStore) : Prop where
  length_le : s.records.length ≤ 2 * s.liveCount
  ids_eq : s.records.map (·.slot.id) =
    (lastCompacted calls t).rowIds.toList ++ idsSinceCompaction calls t
  dead : ∀ r ∈ s.records, r.slot.live = false → WasRemoved calls t r.slot.id r.row

private theorem not_compacts_of_holds {answer : Except Error Nat} {s' : RowStore} (hs : t.Holds s)
    (h' : t'.Holds s') (hout : call.act.outcome t = (answer, t'))
    (hle : s.records.length ≤ s'.records.length) : ¬ call.Compacts t := by
  rw [Call.Compacts, Action.after_of_outcome hout, h'.slotCount_eq, hs.slotCount_eq]
  exact Nat.not_lt.mpr hle

namespace Ledger

/-- A call that drops no slots adds the id that it inserts, if any. -/
private theorem ids_eq_of_not_compacts (h : Ledger calls t s)
    (hcompacts : ¬ call.Compacts (afterCalls calls t)) :
    s.records.map (·.slot.id) ++ insertedIds [call] [call.act.answer (afterCalls calls t)] =
      (lastCompacted (calls ++ [call]) t).rowIds.toList ++
        idsSinceCompaction (calls ++ [call]) t := by
  rw [lastCompacted_append_of_not_compacts hcompacts,
    idsSinceCompaction_append_of_not_compacts hcompacts, h.ids_eq, List.append_assoc]

private theorem of_error (h : Ledger calls t s) (hs : (afterCalls calls t).Holds s) {e : Error}
    (hout : call.act.outcome (afterCalls calls t) = (.error e, afterCalls calls t)) :
    Ledger (calls ++ [call]) t s where
  length_le := h.length_le
  ids_eq := by
    have hids := h.ids_eq_of_not_compacts (not_compacts_of_holds hs hs hout (Nat.le_refl _))
    rw [Action.answer, hout] at hids
    cases call <;> simpa [insertedIds] using hids
  dead r hr hdead := (h.dead r hr hdead).append call

private theorem insert (h : Ledger calls t s) (hs : (afterCalls calls t).Holds s)
    (hout : (Call.insert row).act.outcome (afterCalls calls t) = (.ok s.nextId, t'))
    (h' : t'.Holds (s.insert row)) : Ledger (calls ++ [.insert row]) t (s.insert row) where
  length_le := by
    have hlength := h.length_le
    simp only [RowStore.insert, RowStore.liveCount, List.length_append, List.countP_append,
      List.length_singleton, List.countP_singleton, if_true] at hlength ⊢
    omega
  ids_eq := by
    have hle : s.records.length ≤ (s.insert row).records.length := by simp [RowStore.insert]
    have hids := h.ids_eq_of_not_compacts (not_compacts_of_holds hs h' hout hle)
    rw [Action.answer, hout] at hids
    rw [← hids, RowStore.insert, List.map_append]
    rfl
  dead r hr hdead := by
    rcases List.mem_append.mp hr with hr | hr
    · exact (h.dead r hr hdead).append _
    · rw [List.mem_singleton.mp hr] at hdead
      cases hdead

private theorem update (h : Ledger calls t s) (hs : (afterCalls calls t).Holds s) {ids : RowIds}
    {assignments : List (Nat × Value)} {answer : Except Error Nat}
    (hout : (Call.update ids assignments).act.outcome (afterCalls calls t) = (answer, t'))
    (h' : t'.Holds (s.update ids assignments)) :
    Ledger (calls ++ [.update ids assignments]) t (s.update ids assignments) := by
  have hslots : (s.update ids assignments).slots = s.slots := Record.map_slot_edit fun _ => rfl
  have hlength : (s.update ids assignments).records.length = s.records.length := List.length_map _
  have hcompacts := not_compacts_of_holds hs h' hout (Nat.le_of_eq hlength.symm)
  refine ⟨?_, ?_, ?_⟩
  · rw [hlength, RowStore.liveCount_eq, hslots, ← RowStore.liveCount_eq]
    exact h.length_le
  · have hids : (s.update ids assignments).records.map (·.slot.id) =
        s.records.map (·.slot.id) := by
      have hmapped := congrArg (List.map Slot.id) hslots
      rwa [RowStore.slots, RowStore.slots, List.map_map, List.map_map] at hmapped
    rw [hids, ← h.ids_eq_of_not_compacts hcompacts]
    exact (List.append_nil _).symm
  · intro r' hr' hdead
    obtain ⟨r, hr, rfl⟩ := Record.mem_edit.mp hr'
    -- only live rows are assigned to
    by_cases hamong : Slot.isAmong ids.toList r.slot
    · rw [if_pos hamong] at hdead
      have hlive : r.slot.live := by
        simp only [Slot.isAmong, Bool.and_eq_true] at hamong
        exact hamong.1
      exact absurd (hlive.symm.trans hdead) Bool.noConfusion
    · rw [if_neg hamong] at hdead ⊢
      exact (h.dead r hr hdead).append _

private theorem delete (h : Ledger calls t s) (hs : (afterCalls calls t).Holds s) {ids : RowIds}
    {answer : Nat}
    (hout : (Call.delete ids).act.outcome (afterCalls calls t) = (.ok answer, t'))
    (h' : t'.Holds (s.delete ids)) : Ledger (calls ++ [.delete ids]) t (s.delete ids) := by
  rcases s.delete_cases ids with ⟨hdead, heq⟩ | ⟨hfew, heq⟩
  · have hlength : (s.delete ids).records.length = (s.delete ids).liveCount := by
      rw [heq, RowStore.liveCount_compact]
    have hcompacts : (Call.delete ids).Compacts (afterCalls calls t) := by
      rw [Call.Compacts, Action.after_of_outcome hout, h'.slotCount_eq, hs.slotCount_eq]
      omega
    refine ⟨by omega, ?_, ?_⟩
    · rw [lastCompacted_append_of_compacts hcompacts,
        idsSinceCompaction_append_of_compacts hcompacts, List.append_nil,
        Action.after_of_outcome hout, h'.rowIds_eq, heq, RowStore.map_id_compact]
    · intro r hr hgone
      rw [heq] at hr
      rw [(List.mem_filter.mp hr).2] at hgone
      cases hgone
  · have hlength : (s.delete ids).records.length = s.records.length := by
      rw [heq, RowStore.length_kill]
    have hcompacts := not_compacts_of_holds hs h' hout (Nat.le_of_eq hlength.symm)
    refine ⟨by omega, ?_, ?_⟩
    · rw [← h.ids_eq_of_not_compacts hcompacts, heq, RowStore.map_id_kill]
      exact (List.append_nil _).symm
    · intro r' hr' hgone
      rw [heq] at hr'
      obtain ⟨r, hr, rfl⟩ := Record.mem_edit.mp hr'
      by_cases hamong : Slot.isAmong ids.toList r.slot
      · rw [if_pos hamong]
        obtain ⟨hlive, hid⟩ : r.slot.live ∧ r.slot.id ∈ ids := by simpa [Slot.isAmong] using hamong
        have hrow : (afterCalls calls t).row? r.slot.id = some r.row := by
          apply hs.row?_eq_some_iff.mpr
          rw [← hlive]
          exact hr
        exact wasRemoved_of_last hid ⟨answer, t', hout⟩ hrow
      · rw [if_neg hamong] at hgone ⊢
        exact (h.dead r hr hgone).append _

end Ledger

private theorem ledger_create {name : String} {decls : List ColumnDecl}
    (h : create name decls = .ok t) : Ledger [] t ⟨name, decls, [], 0⟩ := by
  have hrowIds : t.rowIds.toList = [] := (holds_create h).rowIds_eq
  refine ⟨Nat.zero_le _, ?_, nofun⟩
  show [] = t.rowIds.toList ++ []
  rw [hrowIds, List.append_nil]

/-- The table that a run leaves holds a row store, and the run accounts for its records. -/
private theorem exists_ledger {name : String} {decls : List ColumnDecl}
    (h : create name decls = .ok t) (calls : List Call) :
    ∃ s : RowStore, (afterCalls calls t).Holds s ∧ Ledger calls t s := by
  induction calls using List.reverseRecOn with
  | nil => exact ⟨_, holds_create h, ledger_create h⟩
  | append_singleton calls call ih =>
    obtain ⟨s, hs, hledger⟩ := ih
    rw [afterCalls_append_singleton]
    cases call with
    | insert row =>
      rcases insert_cases hs row with ⟨e, hout⟩ | ⟨t', hout, h'⟩
      · exact ⟨s, by rwa [Call.act, Action.after_of_outcome hout], hledger.of_error hs hout⟩
      · exact ⟨_, by rwa [Call.act, Action.after_of_outcome hout], hledger.insert hs hout h'⟩
    | update ids assignments =>
      rcases update_cases hs ids assignments with ⟨e, hout⟩ | ⟨t', hout, h'⟩
      · exact ⟨s, by rwa [Call.act, Action.after_of_outcome hout], hledger.of_error hs hout⟩
      · exact ⟨_, by rwa [Call.act, Action.after_of_outcome hout], hledger.update hs hout h'⟩
    | delete ids =>
      rcases delete_cases hs ids with ⟨e, hout⟩ | ⟨t', hout, h'⟩
      · exact ⟨s, by rwa [Call.act, Action.after_of_outcome hout], hledger.of_error hs hout⟩
      · exact ⟨_, by rwa [Call.act, Action.after_of_outcome hout], hledger.delete hs hout h'⟩

/-! ### When slots are dropped -/

private theorem not_compacts_insert (hs : t.Holds s) (row : List Value) :
    ¬ (Call.insert row).Compacts t := by
  rcases insert_cases hs row with ⟨e, hout⟩ | ⟨t', hout, h'⟩
  · exact not_compacts_of_holds hs hs hout (Nat.le_refl _)
  · exact not_compacts_of_holds hs h' hout (by simp [RowStore.insert])

private theorem not_compacts_update (hs : t.Holds s) (ids : RowIds)
    (assignments : List (Nat × Value)) : ¬ (Call.update ids assignments).Compacts t := by
  rcases update_cases hs ids assignments with ⟨e, hout⟩ | ⟨t', hout, h'⟩
  · exact not_compacts_of_holds hs hs hout (Nat.le_refl _)
  · exact not_compacts_of_holds hs h' hout (Nat.le_of_eq (List.length_map _).symm)

private theorem compacts_delete_iff (hs : t.Holds s) (ids : RowIds) :
    (Call.delete ids).Compacts t ↔ (Table.delete ids).Succeeds t ∧
      ((Table.delete ids).after t).rowCount <
        t.slotCount - ((Table.delete ids).after t).rowCount := by
  rcases delete_cases hs ids with ⟨e, hout⟩ | ⟨t', hout, h'⟩
  · refine iff_of_false (not_compacts_of_holds hs hs hout (Nat.le_refl _)) fun hsucceeds => ?_
    obtain ⟨⟨answer, t', hok⟩, -⟩ := hsucceeds
    cases hok.symm.trans hout
  · have hsucceeds : (Table.delete ids).Succeeds t := ⟨_, t', hout⟩
    rw [Call.Compacts, Call.act, Action.after_of_outcome hout, h'.slotCount_eq, hs.slotCount_eq,
      h'.rowCount]
    rcases s.delete_cases ids with ⟨hdead, heq⟩ | ⟨hfew, heq⟩
    · have hlength : (s.delete ids).records.length = (s.delete ids).liveCount := by
        rw [heq, RowStore.liveCount_compact]
      exact iff_of_true (by omega) ⟨hsucceeds, hdead⟩
    · have hlength : (s.delete ids).records.length = s.records.length := by
        rw [heq, RowStore.length_kill]
      exact iff_of_false (by omega) fun hdead => hfew hdead.2

private theorem compacts_iff (hs : t.Holds s) (call : Call) :
    call.Compacts t ↔ ∃ ids, call = .delete ids ∧ call.act.Succeeds t ∧
      (call.act.after t).rowCount < t.slotCount - (call.act.after t).rowCount := by
  cases call with
  | insert row =>
    exact iff_of_false (not_compacts_insert hs row) fun h => nomatch h
  | update ids assignments =>
    exact iff_of_false (not_compacts_update hs ids assignments) fun h => nomatch h
  | delete ids =>
    rw [compacts_delete_iff hs]
    constructor
    · exact fun h => ⟨ids, rfl, h⟩
    · intro h
      obtain ⟨_, _, h⟩ := h
      exact h

/-- A table whose slots have been dropped has one for each live row. -/
private theorem slotCount_of_compacts (hs : t.Holds s) (hcompacts : call.Compacts t) :
    (call.act.after t).slotCount = (call.act.after t).rowCount := by
  obtain ⟨ids, rfl, -, hdead⟩ := (compacts_iff hs call).mp hcompacts
  rcases delete_cases hs ids with ⟨e, hout⟩ | ⟨t', hout, h'⟩
  · exact absurd hcompacts (not_compacts_of_holds hs hs hout (Nat.le_refl _))
  · rw [Call.act, Action.after_of_outcome hout] at hdead ⊢
    rw [h'.rowCount, hs.slotCount_eq] at hdead
    rcases s.delete_cases ids with ⟨-, heq⟩ | ⟨hfew, -⟩
    · rw [h'.slotCount_eq, h'.rowCount, heq, RowStore.liveCount_compact]
    · exact absurd hdead hfew

/-- What the slots of a table are after a run of calls. -/
structure SlotHistory (calls : List Call) (t₀ t : Table) : Prop where
  slotCount_le : t.slotCount ≤ 2 * t.rowCount
  slotCount_of_empty : t.rowCount = 0 → t.slotCount = 0
  ids_eq : t.slotIds.toList =
    (lastCompacted calls t₀).rowIds.toList ++ idsSinceCompaction calls t₀
  ids_ascending : t.slotIds.toList.Pairwise (· < ·)
  compacts_iff : ∀ call : Call, call.Compacts t ↔ ∃ ids, call = .delete ids ∧ call.act.Succeeds t ∧
    (call.act.after t).rowCount < t.slotCount - (call.act.after t).rowCount
  slotCount_of_compacts : ∀ call : Call, call.Compacts t →
    (call.act.after t).slotCount = (call.act.after t).rowCount
  dead : ∀ (slot : Nat) (id : RowId), t.slotIds[slot]? = some id → t.live[slot]? = some false →
    ∃ row, t.rowAt? slot = some row ∧ WasRemoved calls t₀ id row

/-- Whatever the calls on a new table were, dead slots do not outnumber live rows. The slots are
those of the rows that were live after the last call that dropped slots and of the rows inserted
since; a call drops slots exactly if it is a removal after which dead slots would outnumber the live
rows; and a dead slot has the values that its row had when it was removed. -/
theorem slotHistory_of_run {name : String} {decls : List ColumnDecl} (h : create name decls = .ok t)
    (calls : List Call) : SlotHistory calls t (afterCalls calls t) := by
  obtain ⟨s, hs, hledger⟩ := exists_ledger h calls
  have hle : (afterCalls calls t).slotCount ≤ 2 * (afterCalls calls t).rowCount := by
    rw [hs.slotCount_eq, hs.rowCount]
    exact hledger.length_le
  refine ⟨hle, fun hempty => by omega, hs.toList_slotIds.trans hledger.ids_eq,
    hs.slotIds_ascending, compacts_iff hs, fun call => slotCount_of_compacts hs, ?_⟩
  intro slot id hid hdead
  rw [hs.slotIds_eq] at hid
  obtain ⟨r, hr, rfl⟩ := Option.map_eq_some_iff.mp hid
  rw [hs.live_eq, hr, Option.map_some, Option.some.injEq] at hdead
  exact ⟨r.row, hs.rowAt?_eq hr, hledger.dead r (List.mem_of_getElem? hr) hdead⟩

/-- Of four rows the first three are removed, so that their slots are dropped. Of the two inserted
after that one is removed, and its slot is left with the value that it was given last. -/
theorem slotHistory_of_two_removals :
    ∃ t calls, create "t" [⟨"a", .int⟩] = .ok t ∧
      calls = [.insert [.int 4], .insert [.int 5], .insert [.bool true], .insert [.int 6],
        .insert [.int 7], .delete (.ofList [0, 1, 2]), .delete (.ofList [1]), .insert [.int 8],
        .update (.ofList [4]) [(0, .int 9)], .insert [.int 10], .delete (.ofList [4])] ∧
      lastCompaction calls t = 6 ∧
      (afterCalls calls t).slotIds = #[3, 4, 5] ∧
      (afterCalls calls t).live = #[true, false, true] ∧
      (afterCalls calls t).rowAt? 1 = some [.int 9] ∧
      SlotHistory calls t (afterCalls calls t) := by
  have hcreate : create "t" [⟨"a", .int⟩] = .ok (.empty "t" [⟨"a", .int⟩]) := rfl
  exact ⟨_, _, hcreate, rfl, by decide +kernel, by decide +kernel, by decide +kernel,
    by decide +kernel,
    slotHistory_of_run hcreate _⟩

end Table

end SqlEngine
