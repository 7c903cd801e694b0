import Mathlib.Data.List.Perm.Subperm
import SqlEngine.Proofs.GuardedStatements
import SqlEngine.Proofs.StatementFaults

/-!
# Statements stay within bounds

Of a table's invariant, changes need only the sizes to stay within bounds: an id, a flag and in every
column a cell for each slot, and as many live rows as are counted. In every catalog that calls lead
to, a guarded statement therefore goes through and does what the statement does, so none of its
accesses is out of range.
-/

namespace SqlEngine

/-! ### Sizes that changes keep -/

private theorem Column.size_of_set {column column' : Column} {slot : Nat} {v : Value}
    (h : column.set slot v = .ok column') : column'.size = column.size := by
  unfold Column.set at h
  split at h
  · cases h
  · split at h
    · rename_i cells hcells
      cases h
      obtain ⟨_, hlist⟩ := Cells.set?_eq_some hcells
      rw [Column.size, Column.size, ← Cells.length_toList, ← Cells.length_toList, hlist,
        List.length_set]
    · cases h

private theorem Column.exists_get? {column : Column} {slot : Nat} (h : slot < column.size) :
    ∃ v, column.get? slot = some v := by
  rw [Column.size, ← Cells.length_toList] at h
  exact ⟨_, (Cells.get?_eq_getElem? column.cells slot).trans (List.getElem?_eq_getElem h)⟩

private theorem Field.column_of_changeColumn {next : Column → Except Error Column}
    {field field' : Field} {a : Unit}
    (h : (changeColumn next).outcome field = (.ok a, field')) :
    next field.column = .ok field'.column := by
  rw [changeColumn, Action.outcome_within] at h
  dsimp only at h
  rw [Action.outcome_change] at h
  cases hnext : next field.column with
  | error e =>
    rw [hnext] at h
    cases h
  | ok column =>
    rw [hnext] at h
    cases h
    rfl

private theorem Field.column_of_changeIndex {next : ValueIndex → Except Error ValueIndex}
    {field field' : Field} {a : Unit} (h : (changeIndex next).outcome field = (.ok a, field')) :
    field'.column = field.column := by
  rw [changeIndex, Action.outcome_within] at h
  exact congrArg (·.2.column) h.symm

/-- The table has an id, a flag and in every column a cell for so many slots, and so many live
rows. -/
structure Table.Level (slotCount rowCount : Nat) (t : Table) : Prop where
  cells : ∀ column ∈ t.columns, column.size = slotCount
  slotIds : t.slotIds.size = slotCount
  live : t.live.size = slotCount
  rows : t.rowCount = rowCount

private theorem Table.Holds.level {t : Table} {s : RowStore} (h : t.Holds s) :
    t.Level s.records.length s.liveCount where
  cells column hcolumn := by
    obtain ⟨position, hposition⟩ := List.mem_iff_getElem?.mp hcolumn
    obtain ⟨field, hfield, rfl⟩ := h.field_of_column hposition
    exact (h.fields position field hfield).size_eq
  slotIds := h.slotCount_eq
  live := h.size_live
  rows := h.rowCount

namespace Guarded

variable {t : Table} {s : RowStore} {field : Field} {slotCount rowCount slot position : Nat}

/-! ### Changes stay within bounds -/

private theorem follows_assignCell (id : RowId) (v : Value) (hslot : slot < field.column.size) :
    Follows (assignCell id slot v) (Field.assign id slot v) field
      fun _ field' => field'.column.size = field.column.size := by
  obtain ⟨old, hold⟩ := Column.exists_get? hslot
  refine (gives_get field).followed ((gives_reach hold field).followed ?_)
  rw [Follows, Field.assign, Action.outcome_bind_of_ok (Action.outcome_get field), hold]
  by_cases hv : old = v
  · subst hv
    simp only [ne_eq, not_true_eq_false, if_false]
    exact follows_pure rfl
  · simp only [ne_eq, hv, not_false_eq_true, if_true]
    refine Follows.bind (Q := fun _ field' => field'.column.size = field.column.size)
      (follows_act _ fun _ field' hout => ?_) fun _ field₁ h₁ => ?_
    · exact Column.size_of_set (Field.column_of_changeColumn hout)
    · refine Follows.bind (Q := fun _ field' => field'.column = field₁.column)
        (follows_act _ fun _ _ hout => Field.column_of_changeIndex hout) fun _ field₂ h₂ => ?_
      refine follows_act _ fun _ field₃ hout => ?_
      rw [Field.column_of_changeIndex hout, h₂, h₁]

private theorem follows_forgetCell (id : RowId) (hslot : slot < field.column.size) :
    Follows (forgetCell id slot) (Field.forget id slot) field
      fun _ field' => field'.column.size = field.column.size := by
  obtain ⟨v, hv⟩ := Column.exists_get? hslot
  refine (gives_get field).followed ((gives_reach hv field).followed ?_)
  rw [Follows, Field.forget, Action.outcome_bind_of_ok (Action.outcome_get field), hv]
  exact follows_act _ fun _ _ hout => congrArg Column.size (Field.column_of_changeIndex hout)

/-- A change of a field that keeps its number of cells keeps the table level. -/
private theorem follows_atField {g : Guarded Field Unit} {action : Action Field Unit}
    (ht : t.Level slotCount rowCount)
    (h : ∀ field : Field, field.column.size = slotCount →
      Follows g action field fun _ field' => field'.column.size = field.column.size) :
    Follows (atField position g) (Table.atField position action) t
      fun _ t' => t'.Level slotCount rowCount := by
  have hsize : ∀ field, t.fieldAt position = .ok field → field.column.size = slotCount := by
    intro field hfield
    have hcolumn :=
      (Table.getElem?_fields_eq_some_iff.mp (Table.fieldAt_eq_ok_iff.mp hfield)).1
    exact ht.cells field.column (List.mem_of_getElem? hcolumn)
  refine follows_within (P := fun _ field' => field'.column.size = slotCount) ?_ ?_
  · intro field hfield
    have hfield := hsize field hfield
    exact (h field hfield).mono fun _ field' hkept => hkept.trans hfield
  · intro _ _ field' _ hkept
    refine ⟨fun other hother => ?_, ht.slotIds, ht.live, ht.rows⟩
    rcases List.mem_or_eq_of_mem_set hother with hother | rfl
    · exact ht.cells other hother
    · exact hkept

/-- Rows that are looked up are at most as many as are live, and in slots of the table. -/
private theorem slots_of_holds (h : t.Holds s) {ids : RowIds} {rows : List (RowId × Nat)}
    (hrows : t.slotsOf ids = .ok rows) :
    rows.length ≤ s.liveCount ∧ ∀ e ∈ rows, e.2 < s.records.length := by
  obtain ⟨hids, hslots⟩ := Table.slotsOf_ok h hrows
  have hlive : ids.toList ⊆ s.liveRows.map (·.1) := by
    intro id hid
    rw [← hids] at hid
    obtain ⟨e, he, rfl⟩ := List.mem_map.mp hid
    obtain ⟨r, hr, hlive⟩ := hslots e he
    have hrecord : ⟨⟨e.1, true⟩, r.row⟩ ∈ s.records := hlive ▸ List.mem_of_getElem? hr
    exact List.mem_map_of_mem (RowStore.mem_liveRows.mpr hrecord)
  refine ⟨?_, fun e he => ?_⟩
  · have hlength := (List.Nodup.subperm ids.nodup_toList hlive).length_le
    rwa [← hids, List.length_map, List.length_map, s.length_liveRows] at hlength
  · obtain ⟨r, hr, _⟩ := hslots e he
    exact (List.getElem?_eq_some_iff.mp hr).1

private theorem follows_update (h : t.Holds s) (ids : RowIds) (assignments : List (Nat × Value)) :
    Follows (update ids assignments) (Table.update ids assignments) t fun _ _ => True := by
  refine (gives_look (·.slotsOf ids) t).observed fun rows hrows => ?_
  refine (gives_look _ t).observed fun _ _ => ?_
  let I : List (RowId × Nat) → Table → Prop := fun rest t =>
    (∀ e ∈ rest, e.2 < s.records.length) ∧ t.Level s.records.length s.liveCount
  have hround : ∀ e rest t, I (e :: rest) t →
      Follows (assignments.forM fun a => atField a.1 (assignCell e.1 e.2 a.2))
        (assignments.forM fun a => Table.atField a.1 (Field.assign e.1 e.2 a.2)) t
        fun _ => I rest := by
    intro e rest t ht
    obtain ⟨hslots, hlevel⟩ := ht
    obtain ⟨hslot, hslots⟩ := List.forall_mem_cons.mp hslots
    refine Follows.mono (follows_forM (I := fun _ t => t.Level s.records.length s.liveCount) ?_
      hlevel) fun _ t' hlevel' => ⟨hslots, hlevel'⟩
    intro a _ t₁ hlevel₁
    exact follows_atField hlevel₁ fun field hfield => follows_assignCell e.1 a.2 (by rwa [hfield])
  exact (follows_forM hround ⟨(slots_of_holds h hrows).2, h.level⟩).bind
    fun _ _ _ => follows_pure trivial

private theorem follows_assign (h : t.Holds s) (assignments : List (String × Value)) (ids : RowIds)
    (enforceLength : Bool) :
    Follows (assign assignments ids enforceLength) (Table.assign assignments ids enforceLength) t
      fun _ _ => True :=
  (gives_look _ t).observed fun resolved _ => follows_update h ids resolved

private theorem follows_killSlot (ht : t.Level slotCount (rowCount + 1))
    (hslot : slot < slotCount) :
    Follows (killSlot slot) (modify (Table.killSlot slot)) t
      fun _ t' => t'.Level slotCount rowCount := by
  have hlt : slot < t.live.size := by rwa [ht.live]
  have hsub : t.rowCount.psub 1 = some (t.rowCount - 1) :=
    Nat.psub_eq_sub (by rw [ht.rows]; exact Nat.le_add_left 1 rowCount)
  refine (gives_get t).followed ((gives_reach (Array.getElem?_eq_getElem hlt) t).followed
    ((gives_reach hsub t).followed ?_))
  refine ⟨rfl, fun _ t' hout => ?_⟩
  cases hout
  refine ⟨ht.cells, ht.slotIds, Array.size_setIfInBounds.trans ht.live, ?_⟩
  · show t.rowCount - 1 = rowCount
    rw [ht.rows, Nat.add_sub_cancel]

private theorem follows_removeRow (ht : t.Level slotCount (rowCount + 1)) (id : RowId)
    (hslot : slot < slotCount) :
    Follows (removeRow id slot) (Table.removeRow id slot) t
      fun _ t' => t'.Level slotCount rowCount := by
  refine follows_get_bind ?_
  refine Follows.bind (follows_forM (I := fun _ t' => t'.Level slotCount (rowCount + 1)) ?_ ht)
    fun _ t' ht' => follows_killSlot ht' hslot
  intro position _ t₁ ht₁
  exact follows_atField ht₁ fun field hfield => follows_forgetCell id (by rwa [hfield])

private theorem follows_reclaim (ht : t.Level slotCount rowCount) (hle : rowCount ≤ slotCount) :
    Follows reclaim (modify Table.reclaim) t fun _ _ => True := by
  have hsub : t.slotCount.psub t.rowCount = some (t.slotCount - t.rowCount) :=
    Nat.psub_eq_sub (by rwa [Table.slotCount, ht.slotIds, ht.rows])
  refine (gives_get t).followed ((gives_reach hsub t).followed ⟨?_, fun _ _ _ => trivial⟩)
  rw [Action.outcome_modify, Table.reclaim]
  split <;> rfl

/-- As long as there are rows to remove, there are at least as many live ones. -/
private theorem follows_delete (h : t.Holds s) (ids : RowIds) :
    Follows (delete ids) (Table.delete ids) t fun _ _ => True := by
  refine (gives_look (·.slotsOf ids) t).observed fun rows hrows => ?_
  let I : List (RowId × Nat) → Table → Prop := fun rest t =>
    ∃ left, t.Level s.records.length left ∧ rest.length ≤ left ∧ left ≤ s.records.length ∧
      ∀ e ∈ rest, e.2 < s.records.length
  have hround : ∀ e rest t, I (e :: rest) t →
      Follows (removeRow e.1 e.2) (Table.removeRow e.1 e.2) t fun _ => I rest := by
    intro e rest t ht
    obtain ⟨left, hlevel, hcount, hle, hslots⟩ := ht
    obtain ⟨hslot, hslots⟩ := List.forall_mem_cons.mp hslots
    obtain ⟨left, rfl⟩ := Nat.exists_eq_add_one.mpr (Nat.lt_of_lt_of_le (Nat.succ_pos _) hcount)
    refine (follows_removeRow hlevel e.1 hslot).mono fun _ t' hlevel' => ?_
    exact ⟨left, hlevel', Nat.le_of_succ_le_succ hcount, Nat.le_of_succ_le hle, hslots⟩
  obtain ⟨hcount, hslots⟩ := slots_of_holds h hrows
  refine (follows_forM hround ⟨_, h.level, hcount, List.countP_le_length, hslots⟩).bind
    fun _ t' ht' => ?_
  obtain ⟨left, hlevel, _, hle, _⟩ := ht'
  exact (follows_reclaim hlevel hle).bind fun _ _ _ => follows_pure trivial

/-! ### Statements -/

private theorem follows_insertTuples (columns : Option (List String)) (tuples : List (List Value))
    (enforceLength : Bool) :
    Follows (insertTuples columns tuples enforceLength)
      (Table.insertTuples columns tuples enforceLength) t fun _ _ => True :=
  (gives_bindTuples t columns tuples enforceLength).observed fun _ _ =>
    follows_act _ fun _ _ _ => trivial

private theorem follows_onTable {α : Type} {name : String} {g : Guarded Table α}
    {action : Action Table α} {c : Catalog} (hc : c.Sound)
    (h : ∀ t s, Table.Holds t s → Follows g action t fun _ _ => True) :
    Follows (onTable name g) (Catalog.onTable name action) c fun _ _ => True := by
  refine follows_within (P := fun _ _ => True) ?_ fun _ _ _ _ _ => trivial
  intro t ht
  obtain ⟨s, _, hs⟩ := hc name t (Catalog.table_eq_ok_iff.mp ht)
  exact h t s hs

/-- A query puts its table back as it was. -/
private theorem gives_onTable_query {c : Catalog} (hc : c.Sound) (q : Select)
    (settings : Settings) :
    Gives (onTable q.table (query q settings.useIndexes)) c (c.query settings q) := by
  rw [Gives, onTable, within, Catalog.query]
  cases ht : c.table q.table with
  | error e => rfl
  | ok t =>
    have htable := Catalog.table_eq_ok_iff.mp ht
    obtain ⟨s, _, h⟩ := hc q.table t htable
    dsimp only
    rw [gives_query h q settings.useIndexes, Option.map_some, Catalog.put_self htable]
    rfl

private theorem follows_run {c : Catalog} (hc : c.Sound) (settings : Settings)
    (statement : Statement) :
    Follows (run settings statement) (statement.run settings) c fun _ _ => True := by
  cases statement with
  | createTable s => exact follows_act _ fun _ _ _ => trivial
  | insert s =>
    refine Follows.bind (follows_onTable hc fun t _ _ => ?_) fun _ _ _ => follows_pure trivial
    exact follows_insertTuples s.columns s.tuples settings.enforceLength
  | select s => exact (gives_onTable_query hc s settings).observed fun _ _ => follows_pure trivial
  | update s =>
    refine follows_onTable hc fun t _ h => ?_
    refine (gives_resolve h s.filter settings.useIndexes).observed fun ids _ => ?_
    exact (follows_assign h s.assignments ids settings.enforceLength).bind fun _ _ _ =>
      follows_pure trivial
  | delete s =>
    refine follows_onTable hc fun t _ h => ?_
    refine (gives_resolve h s.filter settings.useIndexes).observed fun ids _ => ?_
    exact (follows_delete h ids).bind fun _ _ _ => follows_pure trivial

end Guarded

/-! ### Catalogs that calls lead to -/

namespace Catalog

/-- Calls on catalogs, on their tables and on databases, in any order, lead from the empty catalog
to this one. -/
inductive Reachable : Catalog → Prop
  | empty : Reachable .empty
  | call {c : Catalog} (call : Call) (h : Reachable c) : Reachable (call.act.after c)
  | request {c : Catalog} (settings : Settings) (request : Database.Call) (h : Reachable c) :
    Reachable (request.act.after ⟨c, settings⟩).catalog

theorem Reachable.sound {c : Catalog} (h : c.Reachable) : c.Sound := by
  induction h with
  | empty => exact sound_empty
  | call call _ ih => exact (transacts_call ih call).invariant ih
  | request settings request _ ih =>
    exact (@Database.transacts_call ⟨_, settings⟩ ih request).invariant ih

theorem reachable_afterCalls {c : Catalog} (h : c.Reachable) (calls : List Call) :
    (afterCalls calls c).Reachable := by
  induction calls generalizing c with
  | nil => exact h
  | cons call later ih => exact ih (h.call call)

/-- In every catalog that calls lead to, every statement goes through with its accesses guarded, and
so stays within bounds; and it fails only on what it says itself. -/
theorem Reachable.run_in_bounds {c : Catalog} (h : c.Reachable) (settings : Settings)
    (statement : Statement) :
    Guarded.run settings statement c = some ((statement.run settings).outcome c) ∧
      ∀ e, (statement.run settings).answer c = .error e →
        e.BlamesStatement settings.enforceLength :=
  ⟨(Guarded.follows_run h.sound settings statement).1,
    statement.failsOnly_run h.sound settings⟩

/-- With a dead slot between live ones, a removal that leaves no row and an update that assigns
twice and fails on a text that is too long. -/
theorem Reachable.run_in_bounds_past_dead_slot :
    ∃ c : Catalog, c.Reachable ∧
      (c.table? "t").map (fun t => (t.slotIds, t.live)) =
        some (#[0, 1, 2], #[true, false, true]) ∧
      (∃ c', Guarded.run {} (.delete ⟨"t", some ⟨.or, [⟨"a", .ge, .text "1"⟩]⟩⟩) c =
          some (.ok (.affected 2), c') ∧ (c'.table? "t").map (·.slotCount) = some 0) ∧
      ((Statement.update ⟨"t", [("a", .int 1), ("a", .int 2), ("b", .text "long")], none⟩).run
        { enforceLength := true }).answer c = .error (.textTooLong "b" 3 4) ∧
      (Error.textTooLong "b" 3 4).BlamesStatement true := by
  let c : Catalog := afterCalls [
    .createTable "t" [⟨"a", .int⟩, ⟨"b", .varchar 3⟩],
    .insert "t" none [[.int 1, .text "x"], [.int 2, .text "y"], [.int 3, .text "z"]] false,
    .onTable "t" (.delete (.ofList [1]))] .empty
  have hc : c.Reachable := reachable_afterCalls .empty _
  have hfails : ((Statement.update ⟨"t", [("a", .int 1), ("a", .int 2), ("b", .text "long")],
      none⟩).run { enforceLength := true }).answer c = .error (.textTooLong "b" 3 4) := by
    decide +kernel
  have hremoves : ((Statement.delete ⟨"t", some ⟨.or, [⟨"a", .ge, .text "1"⟩]⟩⟩).run {}).answer c =
      .ok (.affected 2) := by decide +kernel
  have hguarded :=
    (hc.run_in_bounds {} _).1.trans (congrArg some (Action.outcome_of_answer hremoves))
  exact ⟨c, hc, by decide +kernel, ⟨_, hguarded, by decide +kernel⟩, hfails,
    (hc.run_in_bounds _ _).2 _ hfails⟩

end Catalog

end SqlEngine
