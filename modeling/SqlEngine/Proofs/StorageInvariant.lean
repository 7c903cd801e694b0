import SqlEngine.Proofs.CatalogCalls

/-!
# The storage invariant

The parts of a table are stored side by side: the schema, a column and an index for each declared
column, the ids and the flags of the slots, and two counters. They have the same lengths and say the
same about the rows. No call breaks this, whether it answers or fails, and neither does the
renumbering of slots when dead ones are dropped.
-/

namespace SqlEngine

namespace Table

/-- What holds the parts of a table together. -/
structure StorageInvariant (t : Table) : Prop where
  columnNames_nodup : t.columnNames.Nodup
  columns_declared : t.columns.map (·.decl) = t.decls
  columns_kind : t.columns.map (·.cells.kind) = t.decls.map (·.type.kind)
  indexes_kind : t.indexes.map (·.kind) = t.decls.map (·.type.kind)
  slotIds_ascending : t.slotIds.toList.Pairwise (· < ·)
  id_lt_nextId : ∀ id ∈ t.slotIds, id < t.nextId
  live_size : t.live.size = t.slotIds.size
  column_size : ∀ column ∈ t.columns, column.size = t.slotIds.size
  rowCount_eq : t.rowCount = t.live.toList.count true
  mem_rowsOf_iff : ∀ (position : Nat) column index,
    t.columns[position]? = some column → t.indexes[position]? = some index → ∀ v id,
      id ∈ index.rowsOf v ↔ ∃ slot, t.LiveAt slot id ∧ column.get? slot = some v
  rows_ne_empty : ∀ index ∈ t.indexes, ∀ entry ∈ index.entries.entries, entry.2 ≠ .empty
  keyCount_eq : ∀ (position : Nat) column index,
    t.columns[position]? = some column → t.indexes[position]? = some index →
      index.keyCount = (t.liveSlots.filterMap column.get?).dedup.length

namespace Holds

variable {t : Table} {s : RowStore} {position : Nat} {column : Column} {index : ValueIndex}

private theorem columns_kind (h : t.Holds s) :
    t.columns.map (·.cells.kind) = t.decls.map (·.type.kind) := by
  rw [← h.columns_decls, List.map_map]
  apply List.map_congr_left
  intro column hcolumn
  obtain ⟨position, hc⟩ := List.mem_iff_getElem?.mp hcolumn
  obtain ⟨field, hf, rfl⟩ := h.field_of_column hc
  exact (h.fields position field hf).cells_kind

private theorem indexes_kind (h : t.Holds s) :
    t.indexes.map (·.kind) = t.decls.map (·.type.kind) := by
  rw [← h.columns_decls, ← h.map_column_fields, ← h.map_index_fields]
  simp only [List.map_map]
  apply List.map_congr_left
  intro field hfield
  obtain ⟨position, hf⟩ := h.exists_position hfield
  exact hf.index_kind

private theorem column_size (h : t.Holds s) (hcolumn : column ∈ t.columns) :
    column.size = t.slotIds.size := by
  obtain ⟨position, hc⟩ := List.mem_iff_getElem?.mp hcolumn
  obtain ⟨field, hf, rfl⟩ := h.field_of_column hc
  rw [(h.fields position field hf).size_eq, ← h.slotCount_eq, slotCount]

/-- The index of a column records what the column has in the slots of live rows. -/
private theorem records_at (h : t.Holds s) (hc : t.columns[position]? = some column)
    (hi : t.indexes[position]? = some index) :
    index.Records fun v id => ∃ slot, t.LiveAt slot id ∧ column.get? slot = some v := by
  have hf : t.fields[position]? = some ⟨column, index⟩ := getElem?_fields_eq_some_iff.mpr ⟨hc, hi⟩
  exact h.index_records (List.mem_of_getElem? hf)

/-- The values of a column in the slots of live rows. -/
private theorem mem_liveValues (h : t.Holds s) {v : Value} :
    v ∈ t.liveSlots.filterMap column.get? ↔
      ∃ id slot, t.LiveAt slot id ∧ column.get? slot = some v := by
  rw [List.mem_filterMap]
  simp only [← h.exists_liveSlot_iff]
  constructor
  · intro hfound
    obtain ⟨slot, hslot, hv⟩ := hfound
    exact ⟨_, slot, hslot, hv, rfl⟩
  · intro hheld
    obtain ⟨_, slot, hslot, hv, _⟩ := hheld
    exact ⟨slot, hslot, hv⟩

private theorem storageInvariant (h : t.Holds s) : t.StorageInvariant where
  columnNames_nodup := by
    rw [columnNames, h.decls]
    exact h.valid.names_nodup
  columns_declared := h.columns_decls
  columns_kind := h.columns_kind
  indexes_kind := h.indexes_kind
  slotIds_ascending := h.slotIds_ascending
  id_lt_nextId id hid := by
    rw [← Array.mem_toList_iff, h.toList_slotIds] at hid
    obtain ⟨r, hr, rfl⟩ := List.mem_map.mp hid
    rw [h.nextId]
    exact h.valid.id_lt r hr
  live_size := by rw [h.size_live, ← h.slotCount_eq, slotCount]
  column_size _ hcolumn := h.column_size hcolumn
  rowCount_eq := by
    rw [h.rowCount, h.toList_live, List.count_eq_countP, List.countP_map, RowStore.liveCount]
    congr 1
    funext r
    exact (beq_true r.slot.live).symm
  mem_rowsOf_iff _ _ _ hc hi := (h.records_at hc hi).mem_rowsOf
  rows_ne_empty index hindex entry hentry := by
    obtain ⟨position, hi⟩ := List.mem_iff_getElem?.mp hindex
    obtain ⟨field, hf, rfl⟩ := h.field_of_index hi
    intro hempty
    apply (h.fields position field hf).index.pruned entry.1
    rw [SortedMap.get?_eq_some_iff_mem, ← hempty]
    exact hentry
  keyCount_eq _ _ _ hc hi := ValueIndex.keyCount_eq (h.records_at hc hi) fun _ => h.mem_liveValues

end Holds

end Table

namespace Catalog

/-- After any run of calls every table is stored under its own name and keeps the storage
invariant. -/
theorem storageInvariant_of_run (calls : List Call) {name : String} {t : Table}
    (h : (afterCalls calls empty).table? name = some t) : t.name = name ∧ t.StorageInvariant := by
  obtain ⟨s, rfl, hs⟩ := sound_afterCalls calls name t h
  exact ⟨hs.name, hs.storageInvariant⟩

/-- The second row of three is left after the others are removed and their slots dropped. On the way
a row is refused and a column is assigned twice. -/
theorem storageInvariant_after_reclaim :
    ∃ t,
      (afterCalls [
        .createTable "t" [⟨"a", .int⟩, ⟨"b", .varchar 3⟩],
        .insert "t" (some ["b", "a"]) [[.text "x", .text "7"], [.text "y", .int 8]] true,
        .onTable "t" (.insert [.bool true]),
        .onTable "t" (.update (.ofList [1, 0]) [(0, .int 9), (0, .int 5)]),
        .run {} (.insert ⟨"t", none, [[.int 5, .text "x"]]⟩),
        .delete "t" (.ofList [0, 2])] empty).table? "t" = some t ∧
      t.slotIds = #[1] ∧ t.live = #[true] ∧ t.nextId = 3 ∧ t.name = "t" ∧ t.StorageInvariant := by
  let t : Table := {
    name := "t"
    decls := [⟨"a", .int⟩, ⟨"b", .varchar 3⟩]
    columns := [⟨⟨"a", .int⟩, .int #[5]⟩, ⟨⟨"b", .varchar 3⟩, .text #["y"]⟩]
    indexes := [⟨.int, ⟨[(.int 5, ⟨[1], by decide⟩)], by decide⟩⟩,
      ⟨.text, ⟨[(.text "y", ⟨[1], by decide⟩)], by decide⟩⟩]
    slotIds := #[1]
    live := #[true]
    rowCount := 1
    nextId := 3 }
  refine ⟨t, ?run, rfl, rfl, rfl, storageInvariant_of_run _ ?run⟩
  decide +kernel

end Catalog

end SqlEngine
