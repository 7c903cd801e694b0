import SqlEngine.Proofs.FieldRecords

/-!
# The rows that a table holds

`Table.Holds` ties a table to a row store: the schema, the columns, the indexes, the two arrays of
slots and the counters all say the same. Nothing in the type of tables makes them; that every change
keeps them in step is proved in `SqlEngine.Proofs.TableChanges`.
-/

namespace SqlEngine

private theorem mapM_eq_some_iff {α β : Type} {l : List α} {f : α → Option β} {bs : List β} :
    l.mapM f = some bs ↔ l.map f = bs.map some := by
  induction l generalizing bs with
  | nil => cases bs <;> simp
  | cons a l ih =>
    rw [List.mapM_cons, List.map_cons]
    cases ha : f a with
    | none => cases bs <;> simp
    | some b =>
      cases bs with
      | nil => simp [Option.bind_eq_some_iff]
      | cons c bs => simp [Option.bind_eq_some_iff, ih, and_comm]

namespace Table

structure Holds (t : Table) (s : RowStore) : Prop where
  valid : s.Valid
  name : t.name = s.name
  decls : t.decls = s.decls
  columns : t.columns.map (·.decl) = s.decls
  indexes : t.indexes.length = s.decls.length
  fields : ∀ (position : Nat) (field : Field),
    t.fields[position]? = some field → field.Holds position s.records
  slotIds : t.slotIds.toList = s.slots.map (·.id)
  live : t.live.toList = s.slots.map (·.live)
  rowCount : t.rowCount = s.liveCount
  nextId : t.nextId = s.nextId

/-- A live row with the id is in the slot. -/
def LiveAt (t : Table) (slot : Nat) (id : RowId) : Prop :=
  t.slotIds[slot]? = some id ∧ t.live[slot]? = some true

variable {t : Table} {s : RowStore} {r : Record} {row : List Value} {v : Value} {decl : ColumnDecl}
  {column : Column} {field : Field} {position slot : Nat} {id : RowId} {ids : RowIds}
  {assignments : List (Nat × Value)}

namespace Holds

/-! ### Columns and indexes -/

theorem columns_decls (h : t.Holds s) : t.columns.map (·.decl) = t.decls :=
  h.columns.trans h.decls.symm

private theorem length_columns (h : t.Holds s) : t.columns.length = s.decls.length := by
  rw [← h.columns, List.length_map]

theorem length_fields (h : t.Holds s) : t.fields.length = s.decls.length := by
  rw [Table.fields, List.length_zipWith, h.length_columns, h.indexes, Nat.min_self]

theorem decl_of_field (h : t.Holds s) (hf : t.fields[position]? = some field) :
    s.decls[position]? = some field.column.decl := by
  rw [← h.columns, List.getElem?_map, (getElem?_fields_eq_some_iff.mp hf).1, Option.map_some]

/-- No column is without an index. -/
theorem map_column_fields (h : t.Holds s) : t.fields.map (·.column) = t.columns := by
  have hlength := Nat.le_of_eq (h.length_columns.trans h.indexes.symm)
  rw [Table.fields, List.map_zipWith]
  exact List.map_zip_eq_zipWith.symm.trans (List.map_fst_zip hlength)

/-- No index is without a column. -/
theorem map_index_fields (h : t.Holds s) : t.fields.map (·.index) = t.indexes := by
  have hlength := Nat.le_of_eq (h.indexes.trans h.length_columns.symm)
  rw [Table.fields, List.map_zipWith]
  exact List.map_zip_eq_zipWith.symm.trans (List.map_snd_zip hlength)

theorem field_of_decl (h : t.Holds s) (hd : s.decls[position]? = some decl) :
    ∃ field, t.fields[position]? = some field ∧ field.column.decl = decl := by
  rw [← h.columns, ← h.map_column_fields, List.map_map, List.getElem?_map] at hd
  exact Option.map_eq_some_iff.mp hd

theorem field_of_column (h : t.Holds s) (hc : t.columns[position]? = some column) :
    ∃ field, t.fields[position]? = some field ∧ field.column = column := by
  rw [← h.map_column_fields, List.getElem?_map] at hc
  exact Option.map_eq_some_iff.mp hc

theorem field_of_index (h : t.Holds s) {index : ValueIndex}
    (hi : t.indexes[position]? = some index) :
    ∃ field, t.fields[position]? = some field ∧ field.index = index := by
  rw [← h.map_index_fields, List.getElem?_map] at hi
  exact Option.map_eq_some_iff.mp hi

/-- What is declared at a position is there as a column with its index. -/
theorem field_of_declAt (h : t.Holds s) (hd : t.declAt position = .ok decl) :
    ∃ field, t.fields[position]? = some field ∧ field.column.decl = decl ∧
      t.columnAt position = .ok field.column ∧ t.indexAt position = .ok field.index := by
  have hd := itemAt_eq_ok_iff.mp hd
  rw [h.decls] at hd
  obtain ⟨field, hf, hdecl⟩ := h.field_of_decl hd
  obtain ⟨hc, hi⟩ := getElem?_fields_eq_some_iff.mp hf
  exact ⟨field, hf, hdecl, itemAt_eq_ok_iff.mpr hc, itemAt_eq_ok_iff.mpr hi⟩

/-! ### Slots -/

theorem toList_slotIds (h : t.Holds s) : t.slotIds.toList = s.records.map (·.slot.id) := by
  rw [h.slotIds, RowStore.slots, List.map_map]
  rfl

theorem toList_live (h : t.Holds s) : t.live.toList = s.records.map (·.slot.live) := by
  rw [h.live, RowStore.slots, List.map_map]
  rfl

theorem slotIds_eq (h : t.Holds s) (slot : Nat) :
    t.slotIds[slot]? = s.records[slot]?.map (·.slot.id) := by
  rw [← Array.getElem?_toList, h.toList_slotIds, List.getElem?_map]

theorem live_eq (h : t.Holds s) (slot : Nat) :
    t.live[slot]? = s.records[slot]?.map (·.slot.live) := by
  rw [← Array.getElem?_toList, h.toList_live, List.getElem?_map]

theorem slotCount_eq (h : t.Holds s) : t.slotCount = s.records.length := by
  rw [slotCount, ← Array.length_toList, h.toList_slotIds, List.length_map]

theorem size_live (h : t.Holds s) : t.live.size = s.records.length := by
  rw [← Array.length_toList, h.toList_live, List.length_map]

theorem slotIds_ascending (h : t.Holds s) : t.slotIds.toList.Pairwise (· < ·) := by
  rw [h.toList_slotIds]
  exact List.pairwise_map.mpr h.valid.ascending

/-- A slot of a live row has that row's record. -/
theorem liveAt_iff (h : t.Holds s) :
    t.LiveAt slot id ↔ ∃ r, s.records[slot]? = some r ∧ r.slot = ⟨id, true⟩ := by
  rw [LiveAt, h.slotIds_eq, h.live_eq]
  cases s.records[slot]? with
  | none => simp
  | some r =>
    obtain ⟨⟨id', live⟩, row⟩ := r
    simp

private theorem slotOf?_eq_some_iff_liveAt (h : t.Holds s) :
    t.slotOf? id = some slot ↔ t.LiveAt slot id := by
  rw [slotOf?, LiveAt, ← Slot.find?_eq_some_iff h.slotIds_ascending]
  constructor
  · intro hslot
    obtain ⟨found, hfound, hlive⟩ := Option.bind_eq_some_iff.mp hslot
    split at hlive
    · rename_i hl
      cases hlive
      exact ⟨hfound, hl⟩
    · cases hlive
  · intro hat
    obtain ⟨hfound, hlive⟩ := hat
    simp [hfound, hlive]

theorem slotOf?_eq_some_iff (h : t.Holds s) :
    t.slotOf? id = some slot ↔ ∃ r, s.records[slot]? = some r ∧ r.slot = ⟨id, true⟩ :=
  h.slotOf?_eq_some_iff_liveAt.trans h.liveAt_iff

private theorem row_length (h : t.Holds s) (hr : s.records[slot]? = some r) :
    r.row.length = s.decls.length :=
  (h.valid.fits r (List.mem_of_getElem? hr)).length_eq

theorem rowAt?_eq (h : t.Holds s) (hr : s.records[slot]? = some r) :
    t.rowAt? slot = some r.row := by
  rw [rowAt?, mapM_eq_some_iff]
  apply List.ext_getElem?
  intro position
  rw [List.getElem?_map, List.getElem?_map]
  cases hc : t.columns[position]? with
  | none =>
    have hlength : r.row.length ≤ position := by
      rw [h.row_length hr, ← h.length_columns]
      exact List.getElem?_eq_none_iff.mp hc
    rw [List.getElem?_eq_none hlength]
    rfl
  | some column =>
    obtain ⟨field, hf, rfl⟩ := h.field_of_column hc
    obtain ⟨v, hv, hget⟩ := (h.fields position field hf).exists_value hr
    rw [hv, Option.map_some, Option.map_some, hget]

theorem row?_eq_some_iff (h : t.Holds s) :
    t.row? id = some row ↔ ⟨⟨id, true⟩, row⟩ ∈ s.records := by
  constructor
  · intro hrow
    obtain ⟨slot, hslot, hrowAt⟩ := Option.bind_eq_some_iff.mp hrow
    obtain ⟨r, hr, hlive⟩ := h.slotOf?_eq_some_iff.mp hslot
    rw [h.rowAt?_eq hr, Option.some.injEq] at hrowAt
    rw [← hlive, ← hrowAt]
    exact List.mem_of_getElem? hr
  · intro hmem
    obtain ⟨slot, hr⟩ := List.mem_iff_getElem?.mp hmem
    have hslot : t.slotOf? id = some slot := h.slotOf?_eq_some_iff.mpr ⟨_, hr, rfl⟩
    rw [row?, hslot]
    exact h.rowAt?_eq hr

theorem contains_iff (h : t.Holds s) : t.contains id ↔ ∃ row, ⟨⟨id, true⟩, row⟩ ∈ s.records := by
  rw [contains, Option.isSome_iff_exists]
  constructor
  · intro hfound
    obtain ⟨slot, hslot⟩ := hfound
    obtain ⟨r, hr, hlive⟩ := h.slotOf?_eq_some_iff.mp hslot
    exact ⟨r.row, hlive ▸ List.mem_of_getElem? hr⟩
  · intro hrecord
    obtain ⟨row, hmem⟩ := hrecord
    obtain ⟨slot, hr⟩ := List.mem_iff_getElem?.mp hmem
    exact ⟨slot, h.slotOf?_eq_some_iff.mpr ⟨_, hr, rfl⟩⟩

private theorem liveSlots_eq (h : t.Holds s) :
    t.liveSlots = s.records.zipIdx.filterMap fun e => if e.1.slot.live then some e.2 else none := by
  rw [liveSlots, h.toList_live, List.zipIdx_map, List.filterMap_map]
  rfl

theorem mem_liveSlots (h : t.Holds s) :
    slot ∈ t.liveSlots ↔ ∃ r, s.records[slot]? = some r ∧ r.slot.live := by
  rw [h.liveSlots_eq, List.mem_filterMap]
  constructor
  · intro hmem
    obtain ⟨⟨r, slot'⟩, hr, heq⟩ := hmem
    dsimp only at heq
    split at heq
    · rename_i hlive
      cases heq
      exact ⟨r, List.mk_mem_zipIdx_iff_getElem?.mp hr, hlive⟩
    · cases heq
  · intro hmem
    obtain ⟨r, hr, hlive⟩ := hmem
    exact ⟨(r, slot), List.mk_mem_zipIdx_iff_getElem?.mpr hr, by simp [hlive]⟩

/-- The id in a slot of the table. -/
theorem slotIds_getElem! (h : t.Holds s) (hr : s.records[slot]? = some r) :
    t.slotIds[slot]! = r.slot.id := by
  rw [getElem!_def, h.slotIds_eq, hr]
  rfl

/-- The ids found through the flags are those of the live slots. -/
theorem exists_liveSlot_iff (h : t.Holds s) {P : Nat → Prop} :
    (∃ slot ∈ t.liveSlots, P slot ∧ t.slotIds[slot]! = id) ↔ ∃ slot, t.LiveAt slot id ∧ P slot := by
  constructor
  · intro hfound
    obtain ⟨slot, hslot, hP, rfl⟩ := hfound
    obtain ⟨r, hr, hlive⟩ := h.mem_liveSlots.mp hslot
    refine ⟨slot, h.liveAt_iff.mpr ⟨r, hr, ?_⟩, hP⟩
    rw [h.slotIds_getElem! hr, ← hlive]
  · intro hfound
    obtain ⟨slot, hat, hP⟩ := hfound
    obtain ⟨r, hr, hlive⟩ := h.liveAt_iff.mp hat
    refine ⟨slot, h.mem_liveSlots.mpr ⟨r, hr, by rw [hlive]⟩, hP, ?_⟩
    rw [h.slotIds_getElem! hr, hlive]

theorem scan_eq (h : t.Holds s) : t.scan = s.liveRows := by
  have hrows : ∀ e ∈ s.records.zipIdx,
      ((if e.1.slot.live then some e.2 else none).bind
        fun slot => (t.rowAt? slot).map (t.slotIds[slot]!, ·)) =
      if e.1.slot.live then some (e.1.slot.id, e.1.row) else none := by
    intro e he
    have hr := List.mk_mem_zipIdx_iff_getElem?.mp he
    cases e.1.slot.live <;> simp [h.rowAt?_eq hr, h.slotIds_getElem! hr]
  rw [scan, h.liveSlots_eq, List.filterMap_filterMap, List.filterMap_congr hrows, RowStore.liveRows]
  conv_rhs => rw [← List.zipIdx_map_fst 0 s.records, List.filterMap_map]
  rfl

theorem rowIds_eq (h : t.Holds s) : t.rowIds.toList = s.liveRows.map (·.1) := by
  have hids : t.liveSlots.map (t.slotIds[·]!) = s.liveRows.map (·.1) := by
    rw [h.liveSlots_eq, RowStore.liveRows]
    conv_rhs => rw [← List.zipIdx_map_fst 0 s.records, List.filterMap_map]
    rw [List.map_filterMap, List.map_filterMap]
    apply List.filterMap_congr
    intro e he
    have hid := h.slotIds_getElem! (List.mk_mem_zipIdx_iff_getElem?.mp he)
    cases hlive : e.1.slot.live <;> simp [hlive, hid]
  rw [rowIds, hids]
  exact RowIds.toList_ofList (List.pairwise_map.mpr h.valid.liveRows_ascending)

/-! ### What indexes record -/

theorem exists_position (h : t.Holds s) (hfield : field ∈ t.fields) :
    ∃ position, field.Holds position s.records := by
  obtain ⟨position, hposition⟩ := List.mem_iff_getElem?.mp hfield
  exact ⟨position, h.fields position field hposition⟩

/-- What the index of a field records, read off the slots. -/
theorem index_records (h : t.Holds s) (hfield : field ∈ t.fields) :
    field.index.Records fun v id =>
      ∃ slot, t.LiveAt slot id ∧ field.column.get? slot = some v := by
  obtain ⟨position, hf⟩ := h.exists_position hfield
  apply hf.index.congr
  intro v id
  constructor
  · intro hheld
    obtain ⟨r, hr, hlive, hv⟩ := hheld
    obtain ⟨slot, hslot⟩ := List.mem_iff_getElem?.mp hr
    exact ⟨slot, h.liveAt_iff.mpr ⟨r, hslot, hlive⟩, (hf.get?_eq hslot).trans hv⟩
  · intro hfound
    obtain ⟨slot, hat, hv⟩ := hfound
    obtain ⟨r, hr, hlive⟩ := h.liveAt_iff.mp hat
    exact ⟨r, List.mem_of_getElem? hr, hlive, (hf.get?_eq hr).symm.trans hv⟩

end Holds

end Table

end SqlEngine
