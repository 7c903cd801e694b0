import SqlEngine.Proofs.QueryPipeline
import SqlEngine.Proofs.TableIdentity

/-!
# Which rows a filter selects

A filter is resolved to a set of ids before anything is done with the rows. The set has exactly the
ids of the live rows that the filter's conditions select, through the indexes as well as by comparing
row by row; and there is such a set unless a condition is faulty.
-/

namespace SqlEngine

namespace Table

/-- The ids are those of the live rows that a filter selects. -/
def Selection (t : Table) (filter : Option Filter) (ids : RowIds) : Prop :=
  ∀ id, id ∈ ids ↔ ∃ row, t.HasRow id row ∧ t.selects filter row

/-- The live rows that a filter selects, in the order of their ids. -/
def selected (t : Table) (filter : Option Filter) : List (RowId × List Value) :=
  t.scan.filter fun (_, row) => t.selects filter row

variable {t : Table} {s : RowStore} {id : RowId} {ids ids' : RowIds} {row : List Value}
  {filter : Option Filter} {e : Error}

private theorem Selection.unique (h : t.Selection filter ids) (h' : t.Selection filter ids') :
    ids = ids' := by
  ext id
  rw [h, h']

/-- A filter is faulty where one of its conditions is. -/
private theorem exists_filterFault_iff (hnames : t.columnNames.Nodup) :
    (∃ e, t.FilterFault filter e) ↔
      ∃ f ∈ filter, ∃ condition ∈ f.conditions, ∃ e, t.ConditionFault condition e := by
  constructor
  · intro hfault
    obtain ⟨e, hfault⟩ := hfault
    cases hfault with
    | condition hconditions _ hfault =>
      refine ⟨_, rfl, _, ?_, e, hfault⟩
      rw [hconditions]
      exact List.mem_append_right _ List.mem_cons_self
  · rintro ⟨f, rfl, condition, hcondition, e, hfault⟩
    simp only [← selector_eq_error_iff hnames]
    cases hselects : t.relation.selector (some f) with
    | error e => exact ⟨e, rfl⟩
    | ok selects =>
      -- Where a filter has a test, so has each of its conditions.
      obtain ⟨tests, htests, _⟩ := bind_eq_ok_iff.mp hselects
      obtain ⟨test, htest⟩ := exists_mapM_eq_ok_iff.mp ⟨tests, htests⟩ condition hcondition
      rw [(test_eq_error_iff hnames).mpr hfault] at htest
      cases htest

namespace Holds

private theorem mem_idsWhere_iff (h : t.Holds s) {selects : List Value → Bool} :
    id ∈ s.idsWhere selects ↔ ∃ row, t.HasRow id row ∧ selects row := by
  simp only [RowStore.mem_idsWhere, RowStore.mem_liveRows, h.hasRow_iff]

theorem length_of_hasRow (h : t.Holds s) (hrow : t.HasRow id row) :
    row.length = t.decls.length :=
  h.length_of_row? (h.row?_eq_some_iff_hasRow.mpr hrow)

/-- A live row is among those found if the filter selects it. -/
theorem mem_idsWhere_iff_selects (h : t.Holds s) {selects : List Value → Bool}
    (hfilter : ∀ f ∈ filter, f.conditions ≠ []) (hselects : t.relation.selector filter = .ok selects)
    (hrow : t.HasRow id row) : id ∈ s.idsWhere selects ↔ t.selects filter row := by
  rw [h.valid.mem_idsWhere_iff (RowStore.mem_liveRows.mpr (h.hasRow_iff.mp hrow)),
    selector_eq_ok hselects hfilter (h.length_of_hasRow hrow)]

theorem count_idsWhere (h : t.Holds s) {selects : List Value → Bool}
    (hfilter : ∀ f ∈ filter, f.conditions ≠ []) (hselects : t.relation.selector filter = .ok selects) :
    (s.idsWhere selects).size = (t.selected filter).length := by
  rw [RowIds.size, h.valid.toList_idsWhere, List.length_map, selected, h.scan_eq]
  congr 1
  apply List.filter_congr
  intro e he
  have hrow := h.hasRow_iff.mpr (RowStore.mem_liveRows.mp he)
  exact selector_eq_ok hselects hfilter (h.length_of_hasRow hrow)

/-- What passes a filter's test are the rows that its conditions select. -/
private theorem selection_idsWhere (h : t.Holds s) {selects : List Value → Bool}
    (hfilter : ∀ f ∈ filter, f.conditions ≠ []) (hselects : t.relation.selector filter = .ok selects) :
    t.Selection filter (s.idsWhere selects) := by
  intro id
  rw [h.mem_idsWhere_iff]
  refine exists_congr fun row => and_congr_right fun hrow => ?_
  rw [selector_eq_ok hselects hfilter (h.length_of_hasRow hrow)]

private theorem resolve_eq_error_iff (h : t.Holds s) (filter : Option Filter) (useIndexes : Bool) :
    t.resolve filter useIndexes = .error e ↔ t.FilterFault filter e := by
  rw [h.resolve_relation, map_eq_error_iff, selector_eq_error_iff h.columnNames_nodup]

private theorem resolve_eq_ok_iff (h : t.Holds s) (useIndexes : Bool)
    (hfilter : ∀ f ∈ filter, f.conditions ≠ []) :
    t.resolve filter useIndexes = .ok ids ↔
      (∀ e, ¬ t.FilterFault filter e) ∧ t.Selection filter ids := by
  rw [h.resolve_relation, map_eq_ok_iff]
  simp only [← selector_eq_error_iff h.columnNames_nodup]
  constructor
  · rintro ⟨selects, hselects, rfl⟩
    refine ⟨fun e hfails => ?_, h.selection_idsWhere hfilter hselects⟩
    rw [hselects] at hfails
    cases hfails
  · rintro ⟨hfaultless, hselection⟩
    cases hselects : t.relation.selector filter with
    | error e => exact absurd hselects (hfaultless e)
    | ok selects =>
      exact ⟨selects, rfl, (h.selection_idsWhere hfilter hselects).unique hselection⟩

end Holds

end Table

/-- On every table that calls lead to, through the indexes or without them, a filter fails exactly
where a condition is faulty, with what is wrong with the first such condition, and else selects
exactly the live rows of which all or any of its conditions are true. Without a filter every live row
is selected. -/
theorem Catalog.Reachable.resolve_exact {c : Catalog} (h : c.Reachable) {name : String} {t : Table}
    (ht : c.table? name = some t) (useIndexes : Bool) :
    (∀ filter : Filter, filter.conditions ≠ [] →
      ((∃ e, t.resolve (some filter) useIndexes = .error e) ↔
        ∃ condition ∈ filter.conditions, ∃ e, t.ConditionFault condition e) ∧
      (∀ e, t.resolve (some filter) useIndexes = .error e ↔ t.FilterFault (some filter) e) ∧
      ∀ ids, t.resolve (some filter) useIndexes = .ok ids ↔
        (∀ e, ¬ t.FilterFault (some filter) e) ∧ t.Selection (some filter) ids) ∧
    ∃ ids, t.resolve none useIndexes = .ok ids ∧ ∀ id, id ∈ ids ↔ ∃ row, t.HasRow id row := by
  obtain ⟨s, _, hs⟩ := h.sound name t ht
  have herror := fun filter e => hs.resolve_eq_error_iff (e := e) filter useIndexes
  refine ⟨?_, ?_⟩
  · intro filter hconditions
    refine ⟨?_, herror (some filter), ?_⟩
    · simp only [herror, Table.exists_filterFault_iff hs.columnNames_nodup, Option.mem_some_iff,
        exists_eq_left']
    · intro ids
      apply hs.resolve_eq_ok_iff useIndexes
      simpa using hconditions
  · have hall : t.Selection none (s.idsWhere fun _ => true) :=
      hs.selection_idsWhere (by simp) rfl
    refine ⟨_, hs.resolve_relation none useIndexes, fun id => ?_⟩
    simpa [Table.selects] using hall id

/-- The row that is below the first literal is dead; and of two faulty conditions after one that no row
satisfies the first is reported. -/
theorem Catalog.Reachable.resolve_exact_past_dead_row :
    ∃ (c : Catalog) (t : Table) (filter faulty : Filter), c.Reachable ∧ c.table? "t" = some t ∧
      t.slotIds = #[0, 1, 2, 3] ∧ t.live = #[false, true, true, true] ∧
      t.rowAt? 0 = some [.int 1, .text "x"] ∧
      filter = ⟨.or, [⟨"a", .lt, .text "3"⟩, ⟨"b", .ge, .text "z"⟩, ⟨"a", .gt, .int 4⟩]⟩ ∧
      t.resolve (some filter) true = .ok (.ofList [2, 3]) ∧
      t.Selection (some filter) (.ofList [2, 3]) ∧
      faulty = ⟨.and, [⟨"a", .gt, .int 9⟩, ⟨"d", .eq, .int 1⟩, ⟨"b", .eq, .bool true⟩]⟩ ∧
      t.resolve (some faulty) false = .error (.unknownColumn "t" "d") ∧
      t.FilterFault (some faulty) (.unknownColumn "t" "d") := by
  let c : Catalog := afterCalls [
    .createTable "t" [⟨"a", .int⟩, ⟨"b", .varchar 3⟩],
    .insert "t" none [[.int 1, .text "x"], [.int 3, .text "y"], [.int 4, .text "z"],
      [.int 5, .text "w"]] false,
    .onTable "t" (.delete (.ofList [0]))] .empty
  let t : Table := (c.table? "t").get (by decide +kernel)
  let filter : Filter :=
    ⟨.or, [⟨"a", .lt, .text "3"⟩, ⟨"b", .ge, .text "z"⟩, ⟨"a", .gt, .int 4⟩]⟩
  let faulty : Filter :=
    ⟨.and, [⟨"a", .gt, .int 9⟩, ⟨"d", .eq, .int 1⟩, ⟨"b", .eq, .bool true⟩]⟩
  have hc : c.Reachable := reachable_afterCalls .empty _
  have ht : c.table? "t" = some t := (Option.some_get _).symm
  have hids : t.resolve (some filter) true = .ok (.ofList [2, 3]) := by decide +kernel
  have hfails : t.resolve (some faulty) false = .error (.unknownColumn "t" "d") := by
    decide +kernel
  obtain ⟨_, _, hok⟩ := (hc.resolve_exact ht true).1 filter (by decide)
  obtain ⟨_, herror, _⟩ := (hc.resolve_exact ht false).1 faulty (by decide)
  exact ⟨c, t, filter, faulty, hc, ht, by decide +kernel, by decide +kernel, by decide +kernel, rfl,
    hids,
    ((hok _).mp hids).2, rfl, hfails, (herror _).mp hfails⟩

end SqlEngine
