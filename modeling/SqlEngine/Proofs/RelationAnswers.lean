import SqlEngine.Proofs.Relation

/-!
# Tables answer as their relations

A filter selects the ids of exactly those live rows that its relation's test passes, and a query
returns what the relation's query returns, whether indexes are used or not.
-/

namespace SqlEngine

namespace RowStore

variable {s : RowStore} {id : RowId} {row row' : List Value} {selects : List Value → Bool}

/-- The ids of the live rows that pass a test. -/
def idsWhere (s : RowStore) (selects : List Value → Bool) : RowIds :=
  .ofList ((s.liveRows.filter (selects ·.2)).map (·.1))

theorem mem_idsWhere :
    id ∈ s.idsWhere selects ↔ ∃ row, (id, row) ∈ s.liveRows ∧ selects row := by
  simp [idsWhere]

/-- An id is one row's. -/
private theorem Valid.liveRow_eq (h : s.Valid) (hrow : (id, row) ∈ s.liveRows)
    (hrow' : (id, row') ∈ s.liveRows) : row = row' := by
  have hrecord :=
    Record.eq_of_slot_eq h.ascending (mem_liveRows.mp hrow) (mem_liveRows.mp hrow') rfl
  exact congrArg Record.row hrecord

theorem Valid.mem_idsWhere_iff (h : s.Valid) (hrow : (id, row) ∈ s.liveRows) :
    id ∈ s.idsWhere selects ↔ selects row := by
  rw [mem_idsWhere]
  constructor
  · intro hid
    obtain ⟨row', hrow', hselects⟩ := hid
    rwa [h.liveRow_eq hrow hrow']
  · intro hselects
    exact ⟨row, hrow, hselects⟩

theorem Valid.toList_idsWhere (h : s.Valid) (selects : List Value → Bool) :
    (s.idsWhere selects).toList = (s.liveRows.filter (selects ·.2)).map (·.1) :=
  RowIds.toList_ofList (List.pairwise_map.mpr (h.liveRows_ascending.filter _))

private theorem filter_liveRows (s : RowStore) (selects : List Value → Bool) :
    (s.liveRows.filter (selects ·.2)).map (·.2) = (s.liveRows.map (·.2)).filter selects :=
  List.filter_map.symm

theorem Valid.size_idsWhere (h : s.Valid) (selects : List Value → Bool) :
    (s.idsWhere selects).size = ((s.liveRows.map (·.2)).filter selects).length := by
  rw [RowIds.size, h.toList_idsWhere, List.length_map, ← filter_liveRows, List.length_map]

end RowStore

namespace Table

variable {t : Table} {s : RowStore}

private theorem mem_foldl_inter {first : RowIds} {rest : List RowIds} {id : RowId} :
    id ∈ rest.foldl .inter first ↔ ∀ set ∈ first :: rest, id ∈ set := by
  induction rest generalizing first with
  | nil => simp
  | cons set rest ih => simp [ih, and_assoc]

private theorem mem_foldl_union {first : RowIds} {rest : List RowIds} {id : RowId} :
    id ∈ rest.foldl .union first ↔ ∃ set ∈ first :: rest, id ∈ set := by
  induction rest generalizing first with
  | nil => simp
  | cons set rest ih => simp [ih, or_assoc]

private theorem mem_combine_and {sets : List RowIds} {id : RowId} :
    id ∈ combine .and sets ↔ sets ≠ [] ∧ ∀ set ∈ sets, id ∈ set := by
  cases sets with
  | nil => simp [combine]
  | cons first rest => simpa [combine] using mem_foldl_inter

private theorem mem_combine_or {sets : List RowIds} {id : RowId} :
    id ∈ combine .or sets ↔ ∃ set ∈ sets, id ∈ set := by
  cases sets with
  | nil => simp [combine]
  | cons first rest => simpa [combine] using mem_foldl_union

/-- Sets of rows combine as the tests do that select them. -/
private theorem combine_idsWhere (h : s.Valid) (connective : Connective)
    (tests : List (List Value → Bool)) :
    combine connective (tests.map s.idsWhere) = s.idsWhere (Relation.passes connective tests) := by
  ext id
  cases connective with
  | and =>
    rw [mem_combine_and, List.forall_mem_map]
    constructor
    · intro hid
      obtain ⟨hne, hall⟩ := hid
      obtain ⟨first, rest, rfl⟩ := List.exists_cons_of_ne_nil (mt List.map_eq_nil_iff.mpr hne)
      obtain ⟨row, hrow, -⟩ := RowStore.mem_idsWhere.mp (hall first List.mem_cons_self)
      have hpasses : ∀ test ∈ first :: rest, test row :=
        fun test htest => (h.mem_idsWhere_iff hrow).mp (hall test htest)
      refine (h.mem_idsWhere_iff hrow).mpr ?_
      simpa [Relation.passes] using hpasses
    · intro hid
      obtain ⟨row, hrow, hpasses⟩ := RowStore.mem_idsWhere.mp hid
      obtain ⟨hne, hall⟩ : tests ≠ [] ∧ ∀ test ∈ tests, test row := by
        simpa [Relation.passes] using hpasses
      refine ⟨mt List.map_eq_nil_iff.mp hne, fun test htest => ?_⟩
      exact (h.mem_idsWhere_iff hrow).mpr (hall test htest)
  | or =>
    rw [mem_combine_or]
    constructor
    · intro hid
      obtain ⟨set, hset, hmem⟩ := hid
      obtain ⟨test, htest, rfl⟩ := List.mem_map.mp hset
      obtain ⟨row, hrow, hpasses⟩ := RowStore.mem_idsWhere.mp hmem
      exact RowStore.mem_idsWhere.mpr ⟨row, hrow, List.any_eq_true.mpr ⟨test, htest, hpasses⟩⟩
    · intro hid
      obtain ⟨row, hrow, hpasses⟩ := RowStore.mem_idsWhere.mp hid
      obtain ⟨test, htest, hpasses⟩ := List.any_eq_true.mp hpasses
      exact ⟨_, List.mem_map_of_mem htest, RowStore.mem_idsWhere.mpr ⟨row, hrow, hpasses⟩⟩

namespace Holds

theorem relation_eq (h : t.Holds s) : t.relation = ⟨t.name, t.decls, s.liveRows.map (·.2)⟩ := by
  rw [relation, h.scan_eq]

/-- Comparing a column's values is testing rows at its position. -/
private theorem compareRows_eq (h : t.Holds s) {position : Nat} {field : Field}
    (hf : t.fields[position]? = some field) (c : Comparison) (v : Value) :
    t.compareRows field.column c v = s.idsWhere fun row => row[position]?.any (c.holds · v) := by
  ext id
  rw [h.mem_compareRows, RowStore.mem_idsWhere]
  constructor
  · intro hid
    obtain ⟨w, hholds, slot, hat, hw⟩ := hid
    obtain ⟨r, hr, hlive⟩ := h.liveAt_iff.mp hat
    have hrecord : (⟨⟨id, true⟩, r.row⟩ : Record) ∈ s.records := hlive ▸ List.mem_of_getElem? hr
    refine ⟨r.row, RowStore.mem_liveRows.mpr hrecord, ?_⟩
    rw [← (h.fields position field hf).get?_eq hr, hw]
    exact hholds
  · intro hid
    obtain ⟨row, hrow, htest⟩ := hid
    obtain ⟨slot, hr⟩ := List.mem_iff_getElem?.mp (RowStore.mem_liveRows.mp hrow)
    obtain ⟨w, hw, hholds⟩ : ∃ w, row[position]? = some w ∧ c.holds w v := by
      simpa [Option.any_eq_true] using htest
    exact ⟨w, hholds, slot, h.liveAt_iff.mpr ⟨_, hr, rfl⟩,
      ((h.fields position field hf).get?_eq hr).trans hw⟩

/-- A condition selects the rows that pass its test. -/
private theorem satisfying_relation (h : t.Holds s) (condition : Condition) (useIndex : Bool) :
    t.satisfying condition useIndex = s.idsWhere <$> t.relation.test condition := by
  rw [h.satisfying_eq, satisfying, test_relation, map_bind]
  refine bind_congr_ok fun position _ => ?_
  rw [map_bind]
  refine bind_congr_ok fun decl hdecl => ?_
  rw [map_bind]
  refine bind_congr_ok fun v _ => ?_
  obtain ⟨field, hf, rfl, hcolumn, _⟩ := h.field_of_declAt hdecl
  rw [if_neg Bool.false_ne_true, hcolumn]
  exact congrArg Except.ok (h.compareRows_eq hf condition.comparison v)

/-- A filter selects the rows that pass its test. -/
theorem resolve_relation (h : t.Holds s) (filter : Option Filter) (useIndexes : Bool) :
    t.resolve filter useIndexes = s.idsWhere <$> t.relation.selector filter := by
  cases filter with
  | none =>
    have hall : t.rowIds = s.idsWhere fun _ => true := by
      ext id
      rw [← RowIds.mem_toList, h.rowIds_eq, ← RowIds.mem_toList, h.valid.toList_idsWhere]
      simp
    exact congrArg Except.ok hall
  | some filter =>
    have hsets : filter.conditions.mapM (t.satisfying · useIndexes) =
        List.map s.idsWhere <$> filter.conditions.mapM t.relation.test :=
      mapM_map fun condition => h.satisfying_relation condition useIndexes
    rw [resolve, hsets, Relation.selector]
    cases filter.conditions.mapM t.relation.test with
    | error e => rfl
    | ok tests => exact congrArg Except.ok (combine_idsWhere h.valid filter.connective tests)

/-- The rows of a selection are found, in their order. -/
private theorem mapM_idsWhere (h : t.Holds s) (selects : List Value → Bool)
    {find : RowId → Except Error (List Value)}
    (hfind : ∀ id row, t.row? id = some row → find id = .ok row) :
    (s.idsWhere selects).toList.mapM find = .ok (t.relation.rows.filter selects) := by
  have hrows : t.relation.rows.filter selects = (s.liveRows.filter (selects ·.2)).map (·.2) := by
    rw [h.relation_eq, s.filter_liveRows]
  rw [hrows, h.valid.toList_idsWhere, mapM_eq_ok_iff, List.forall₂_map_left_iff,
    List.forall₂_map_right_iff, List.forall₂_same]
  intro e he
  have hlive := RowStore.mem_liveRows.mp (List.mem_of_mem_filter he)
  exact hfind e.1 e.2 (h.row?_eq_some_iff.mpr hlive)

/-! ### Queries -/

theorem length_of_row? (h : t.Holds s) {id : RowId} {row : List Value}
    (hrow : t.row? id = some row) : row.length = t.decls.length := by
  rw [h.decls]
  exact (h.valid.fits _ (h.row?_eq_some_iff.mp hrow)).length_eq

theorem length_of_mem_relation (h : t.Holds s) {row : List Value} (hrow : row ∈ t.relation.rows) :
    row.length = t.decls.length := by
  rw [h.relation_eq] at hrow
  obtain ⟨e, he, rfl⟩ := List.mem_map.mp hrow
  exact h.length_of_row? (h.row?_eq_some_iff.mpr (RowStore.mem_liveRows.mp he))

end Holds

theorem positionOf_lt {column : String} {position : Nat} (h : t.positionOf column = .ok position) :
    position < t.decls.length := by
  unfold positionOf at h
  split at h
  · rename_i hposition
    cases h
    obtain ⟨hlt, -⟩ := List.idxOf?_eq_some_iff.mp hposition
    rwa [columnNames, List.length_map] at hlt
  · cases h

private theorem project_of_lt {positions : List Nat} {row : List Value}
    (h : ∀ position ∈ positions, position < row.length) :
    t.project positions row = .ok (positions.filterMap (row[·]?)) := by
  rw [project]
  induction positions with
  | nil => rfl
  | cons position rest ih =>
    obtain ⟨hlt, hrest⟩ := List.forall_mem_cons.mp h
    rw [List.mapM_cons, ih hrest, List.getElem?_eq_getElem hlt, List.filterMap_cons,
      List.getElem?_eq_getElem hlt]
    rfl

private theorem mapM_project {positions : List Nat} {rows : List (List Value)}
    (h : ∀ row ∈ rows, ∀ position ∈ positions, position < row.length) :
    rows.mapM (t.project positions) = .ok (rows.map fun row => positions.filterMap (row[·]?)) := by
  rw [mapM_eq_ok_iff, List.forall₂_map_right_iff, List.forall₂_same]
  exact fun row hrow => project_of_lt (h row hrow)

/-- A query returns what the relation's does. -/
theorem Holds.query_relation (h : t.Holds s) (q : Select) (useIndexes : Bool) :
    t.query q useIndexes = t.relation.query q := by
  rw [query, Relation.query, projectedNames_heading, positionOf_heading]
  refine bind_congr_ok fun columns _ => bind_congr_ok fun positions hpositions => ?_
  refine bind_congr_ok fun key _ => ?_
  rw [h.resolve_relation, bind_map_left]
  refine bind_congr_ok fun selects _ => ?_
  rw [h.mapM_idsWhere selects fun id row hrow => by rw [hrow]]
  have hbounds : ∀ row ∈ Relation.arrange key q.limit (t.relation.rows.filter selects),
      ∀ position ∈ positions, position < row.length := by
    intro row hrow position hposition
    have hmem := List.mem_of_mem_filter (Relation.mem_of_mem_arrange hrow)
    obtain ⟨column, _, hcolumn⟩ := exists_of_mem_mapM hpositions hposition
    rw [h.length_of_mem_relation hmem]
    exact positionOf_lt hcolumn
  exact congrArg (· >>= fun values => Except.ok (ResultSet.mk columns values values.length))
    (mapM_project hbounds)

end Table

end SqlEngine
