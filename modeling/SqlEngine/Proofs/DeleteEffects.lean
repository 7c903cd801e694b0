import SqlEngine.Proofs.PredicateResolution
import SqlEngine.Proofs.RowMapRefinement

/-!
# What removals do

A removal takes away the rows that its filter selects and may then drop the dead slots. The rows that
are left keep their ids, their values and their order whatever becomes of the slots. After it no dead
slots are left to drop, so to run it again is to leave every slot where it is.
-/

namespace SqlEngine

/-! ### Removals from row stores -/

namespace RowStore

variable {s : RowStore} {ids : RowIds} {selects : List Value → Bool}

private theorem nextId_delete (ids : RowIds) (s : RowStore) : (s.delete ids).nextId = s.nextId := by
  rw [delete, reclaim]
  split <;> rfl

theorem liveCount_compact (s : RowStore) : s.compact.liveCount = s.compact.records.length := by
  rw [liveCount, List.countP_eq_length]
  intro r hr
  exact (List.mem_filter.mp hr).2

/-- Where dead records have been dropped there are not too many of them. -/
private theorem reclaim_reclaim (s : RowStore) : s.reclaim.reclaim = s.reclaim := by
  by_cases hdead : s.liveCount < s.records.length - s.liveCount
  · have hcompact : s.reclaim = s.compact := if_pos hdead
    rw [hcompact, reclaim, liveCount_compact, Nat.sub_self, if_neg (Nat.not_lt_zero _)]
  · have hkept : s.reclaim = s := if_neg hdead
    rw [hkept, hkept]

private theorem kill_empty (s : RowStore) : s.kill .empty = s := by
  have hrecords : Record.edit (Slot.isAmong RowIds.empty.toList) Record.kill s.records =
      s.records := by
    apply Record.edit_eq_self
    intro r _ hamong
    simp [Slot.isAmong] at hamong
  rw [kill, edit, hrecords]

private theorem delete_delete_empty (ids : RowIds) (s : RowStore) :
    (s.delete ids).delete .empty = s.delete ids := by
  rw [delete, kill_empty, delete, reclaim_reclaim]

/-- What a test has found and is removed it does not find again. -/
private theorem idsWhere_delete (s : RowStore) (selects : List Value → Bool) :
    (s.delete (s.idsWhere selects)).idsWhere selects = .empty := by
  ext id
  have hnone : id ∉ (s.delete (s.idsWhere selects)).idsWhere selects := by
    intro hid
    obtain ⟨row, hrow, hselects⟩ := mem_idsWhere.mp hid
    obtain ⟨hrow, hkept⟩ := live_mem_delete.mp (mem_liveRows.mp hrow)
    exact hkept (mem_idsWhere.mpr ⟨row, mem_liveRows.mpr hrow, hselects⟩)
  exact iff_of_false hnone RowIds.not_mem_empty

end RowStore

namespace Table

/-! ### Rows that are left -/

/-- What a removal makes of a table. The live rows that are not selected are left, in their order, and
the indexes have these rows only. -/
structure DeletedBy (d : Delete) (t t' : Table) : Prop where
  name_eq : t'.name = t.name
  decls_eq : t'.decls = t.decls
  nextId_eq : t'.nextId = t.nextId
  scan_eq : t'.scan = t.scan.filter fun (_, row) => !t.selects d.filter row
  hasRow_iff : ∀ id row, t'.HasRow id row ↔ t.HasRow id row ∧ ¬ t.selects d.filter row
  rowCount_add : t'.rowCount + (t.selected d.filter).length = t.rowCount
  indexed : t'.Indexed

variable {t t' : Table} {s : RowStore} {d : Delete} {settings : Settings} {o : Outcome}
  {selects : List Value → Bool}

namespace Holds

private theorem rowCount_eq_length_scan (h : t.Holds s) : t.rowCount = t.scan.length := by
  rw [h.rowCount, h.scan_eq, RowStore.length_liveRows]

/-- A removal that succeeds has resolved its filter. -/
private theorem delete_inv (h : t.Holds s)
    (hrun : ((Statement.delete d).onTable settings).outcome t = (.ok o, t')) :
    ∃ selects, t.relation.selector d.filter = .ok selects ∧
      o = .affected (s.idsWhere selects).size ∧ t'.Holds (s.delete (s.idsWhere selects)) := by
  obtain ⟨ids, hids, _⟩ := Action.outcome_observe_bind_eq_ok_iff.mp hrun
  rw [h.resolve_relation, map_eq_ok_iff] at hids
  obtain ⟨selects, hselects, rfl⟩ := hids
  obtain ⟨t'', hout, h''⟩ := h.outcome_delete settings.useIndexes hselects
  cases hout.symm.trans hrun
  exact ⟨selects, hselects, rfl, h''⟩

private theorem deletedBy (h : t.Holds s) (h' : t'.Holds (s.delete (s.idsWhere selects)))
    (hfilter : ∀ f ∈ d.filter, f.conditions ≠ [])
    (hselects : t.relation.selector d.filter = .ok selects) : t.DeletedBy d t' := by
  have hscan : t'.scan = t.scan.filter fun (_, row) => !t.selects d.filter row := by
    rw [h'.scan_eq, h.scan_eq, RowStore.liveRows_delete]
    apply List.filter_congr
    intro e he
    have hrow := h.hasRow_iff.mpr (RowStore.mem_liveRows.mp he)
    simp [h.mem_idsWhere_iff_selects hfilter hselects hrow]
  refine ⟨h'.name.trans ((RowStore.name_delete _ s).trans h.name.symm),
    h'.decls.trans ((RowStore.decls_delete _ s).trans h.decls.symm),
    h'.nextId.trans ((RowStore.nextId_delete _ s).trans h.nextId.symm), hscan, ?_, ?_,
    h'.indexed⟩
  · intro id row
    rw [h'.hasRow_iff, RowStore.live_mem_delete, ← h.hasRow_iff]
    exact and_congr_right fun hrow =>
      not_congr (h.mem_idsWhere_iff_selects hfilter hselects hrow)
  · rw [h'.rowCount_eq_length_scan, hscan, h.rowCount_eq_length_scan, selected, Nat.add_comm]
    exact (List.length_eq_length_filter_add _).symm

/-- To run a removal again is to remove nothing, and no slots are dropped. -/
private theorem delete_again (h : t.Holds s) (hselects : t.relation.selector d.filter = .ok selects)
    (h' : t'.Holds (s.delete (s.idsWhere selects))) :
    ((Statement.delete d).onTable settings).outcome t' = (.ok (.affected 0), t') := by
  have hselects' : t'.relation.selector d.filter = .ok selects := by
    rw [h.relation_of_rows h' (RowStore.name_delete _ s) (RowStore.decls_delete _ s)]
    exact hselects
  obtain ⟨t'', hout, h''⟩ := h'.outcome_delete settings.useIndexes hselects'
  rw [RowStore.idsWhere_delete] at h'' hout
  rw [RowStore.delete_delete_empty] at h''
  cases h''.unique h'
  exact hout

/-- A query of whole rows returns as many as pass the test of its filter. -/
private theorem exists_query_all (h : t.Holds s) {filter : Option Filter}
    (hselects : t.relation.selector filter = .ok selects) (table : String) (useIndexes : Bool) :
    ∃ r, t.query ⟨.all, table, filter, none, none⟩ useIndexes = .ok r ∧
      r.count = (s.idsWhere selects).size := by
  let q : Select := ⟨.all, table, filter, none, none⟩
  obtain ⟨positions, hpositions⟩ := exists_mapM_positionOf_iff.mpr (List.Subset.refl t.columnNames)
  have hnames : t.projectedNames q.projection = .ok t.columnNames :=
    projectedNames_eq_ok_iff.mpr ⟨rfl, h.columnNames_nodup⟩
  have hquery : t.query q useIndexes =
      let values := (t.relation.rows.filter selects).map fun row => positions.filterMap (row[·]?)
      .ok ⟨t.columnNames, values, values.length⟩ := by
    rw [h.query_eq]
    refine bind_eq_ok_iff.mpr ⟨_, hnames, bind_eq_ok_iff.mpr ⟨_, hpositions, ?_⟩⟩
    exact bind_eq_ok_iff.mpr ⟨none, rfl, bind_eq_ok_iff.mpr ⟨_, hselects, rfl⟩⟩
  refine ⟨_, hquery, ?_⟩
  dsimp only
  rw [List.length_map, h.count_relation, Relation.count]

end Holds

end Table

/-- A removal that succeeds leaves the rows that did not satisfy its filter, and counts the others, as
many as a query with its filter would have returned. Run again it succeeds, removes nothing and leaves
every slot, dead ones included. -/
theorem Catalog.Reachable.run_delete {c c' : Catalog} (h : c.Reachable) {settings : Settings}
    {d : Delete} {o : Outcome} (hfilter : ∀ f ∈ d.filter, f.conditions ≠ [])
    (hrun : ((Statement.delete d).run settings).outcome c = (.ok o, c')) :
    ∃ t t' r count, c.table? d.table = some t ∧ c' = c.put d.table t' ∧ o = .affected count ∧
      count = (t.selected d.filter).length ∧
      c.query settings ⟨.all, d.table, d.filter, none, none⟩ = .ok r ∧ r.count = count ∧
      t.DeletedBy d t' ∧
      ((Statement.delete d).run settings).outcome c' = (.ok (.affected 0), c') := by
  obtain ⟨t, t', ht, hdelete, rfl⟩ := Catalog.outcome_onTable_eq_ok_iff.mp hrun
  obtain ⟨s, _, hs⟩ := h.sound d.table t ht
  obtain ⟨selects, hselects, rfl, hs'⟩ := hs.delete_inv hdelete
  obtain ⟨r, hr, hcount⟩ := hs.exists_query_all hselects d.table settings.useIndexes
  have hquery : c.query settings ⟨.all, d.table, d.filter, none, none⟩ = .ok r :=
    bind_eq_ok_iff.mpr ⟨t, Catalog.table_eq_ok_iff.mpr ht, hr⟩
  exact ⟨t, t', r, _, ht, rfl, rfl, hs.count_idsWhere hfilter hselects, hquery, hcount,
    hs.deletedBy hs' hfilter hselects,
    Catalog.outcome_onTable_put c d.table (hs.delete_again hselects hs')⟩

/-- One of six slots was dead before. With the three that the removal leaves dead there are more dead
slots than live ones, so only the live ones are kept. -/
theorem Catalog.Reachable.run_delete_of_dropped_slots :
    ∃ (c c' : Catalog) (t t' : Table) (d : Delete), c.Reachable ∧
      d = ⟨"t", some ⟨.or, [⟨"a", .lt, .text "3"⟩, ⟨"b", .eq, .text "z"⟩]⟩⟩ ∧
      ((Statement.delete d).run {}).outcome c = (.ok (.affected 3), c') ∧
      c.table? "t" = some t ∧ c'.table? "t" = some t' ∧
      t.slotIds = #[0, 1, 2, 3, 4, 5] ∧ t.live = #[true, false, true, true, true, true] ∧
      t'.slotIds = #[2, 4] ∧ t'.live = #[true, true] ∧
      t'.scan = [(2, [.int 7, .text "x"]), (4, [.int 3, .text "y"])] ∧ t.DeletedBy d t' ∧
      ((Statement.delete d).run {}).outcome c' = (.ok (.affected 0), c') := by
  let c : Catalog := afterCalls [
    .createTable "t" [⟨"a", .int⟩, ⟨"b", .varchar 3⟩],
    .insert "t" none [[.int 1, .text "x"], [.int 7, .text "x"], [.int 7, .text "x"],
      [.int 9, .text "z"], [.int 3, .text "y"], [.int 2, .text "z"]] true,
    .onTable "t" (.delete (.ofList [1]))] .empty
  let d : Delete := ⟨"t", some ⟨.or, [⟨"a", .lt, .text "3"⟩, ⟨"b", .eq, .text "z"⟩]⟩⟩
  let c' : Catalog := ((Statement.delete d).run {}).after c
  let t : Table := (c.table? "t").get (by decide +kernel)
  let t' : Table := (c'.table? "t").get (by decide +kernel)
  have hc : c.Reachable := reachable_afterCalls .empty _
  have hrun : ((Statement.delete d).run {}).outcome c = (.ok (.affected 3), c') := by
    decide +kernel
  have ht : c.table? "t" = some t := (Option.some_get _).symm
  have ht' : c'.table? "t" = some t' := (Option.some_get _).symm
  obtain ⟨t₀, t₀', _, _, ht₀, hc', _, _, _, _, hdeleted, hagain⟩ :=
    hc.run_delete (by decide) hrun
  have hbefore : t₀ = t := Option.some.inj (ht₀.symm.trans ht)
  have hafter : t₀' = t' := Catalog.eq_of_put hc' ht'
  rw [hbefore, hafter] at hdeleted
  exact ⟨c, c', t, t', d, hc, rfl, hrun, ht, ht', by decide +kernel, by decide +kernel,
    by decide +kernel, by decide +kernel, by decide +kernel, hdeleted, hagain⟩

end SqlEngine
