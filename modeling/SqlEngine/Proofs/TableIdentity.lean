import SqlEngine.Proofs.TableRecords

/-!
# Tables and the rows in their slots

Cells, sets of ids and index entries have one representation only, so a table is determined by the
records that it holds: two tables that hold the same row store are equal, down to their indexes. The
records can be read off the table again, slot by slot.
-/

namespace SqlEngine

private theorem Cells.ext_toList {cells cells' : Cells} (hkind : cells.kind = cells'.kind)
    (hlist : cells.toList = cells'.toList) : cells = cells' := by
  cases cells <;> cases cells' <;> simp only [kind, reduceCtorEq] at hkind
  case int.int =>
    have hvalues := List.map_injective_iff.mpr (fun _ _ => Value.int.inj) hlist
    exact congrArg Cells.int (Array.toList_inj.mp hvalues)
  case text.text =>
    have hvalues := List.map_injective_iff.mpr (fun _ _ => Value.text.inj) hlist
    exact congrArg Cells.text (Array.toList_inj.mp hvalues)
  case bool.bool =>
    have hvalues := List.map_injective_iff.mpr (fun _ _ => Value.bool.inj) hlist
    exact congrArg Cells.bool (Array.toList_inj.mp hvalues)

namespace ValueIndex

variable {index index' : ValueIndex} {holds : Value → RowId → Prop} {v : Value} {rows : RowIds}

/-- Since no entry is without rows, the entry of a value is told by its rows. -/
private theorem Records.get?_eq_some_iff (h : index.Records holds) :
    index.entries.get? v = some rows ↔ rows ≠ .empty ∧ ∀ id, id ∈ rows ↔ holds v id := by
  have hrowsOf := h.mem_rowsOf v
  rw [rowsOf] at hrowsOf
  cases hentry : index.entries.get? v with
  | none =>
    rw [hentry] at hrowsOf
    simp only [reduceCtorEq, false_iff, not_and]
    intro hne hrows
    obtain ⟨id, hid⟩ := RowIds.exists_mem_of_ne_empty hne
    exact RowIds.not_mem_empty ((hrowsOf id).mpr ((hrows id).mp hid))
  | some found =>
    rw [hentry] at hrowsOf
    rw [Option.some.injEq]
    constructor
    · rintro rfl
      refine ⟨fun hempty => h.pruned v ?_, hrowsOf⟩
      rw [hentry, hempty]
    · intro hrows
      ext id
      exact (hrowsOf id).trans (hrows.2 id).symm

/-- An index is determined by its kind and by what it records. -/
private theorem Records.unique (h : index.Records holds) (h' : index'.Records holds)
    (hkind : index.kind = index'.kind) : index = index' := by
  have hentries : index.entries = index'.entries := by
    apply SortedMap.ext_get?
    intro v
    apply Option.ext
    intro rows
    rw [h.get?_eq_some_iff, h'.get?_eq_some_iff]
  cases index
  cases index'
  exact congrArg₂ ValueIndex.mk hkind hentries

end ValueIndex

namespace Field

variable {field field' : Field} {position : Nat} {records : List Record}

private theorem Holds.unique (h : field.Holds position records) (h' : field'.Holds position records)
    (hdecl : field.column.decl = field'.column.decl) : field = field' := by
  have hcells : field.column.cells = field'.column.cells := by
    apply Cells.ext_toList
    · rw [h.cells_kind, h'.cells_kind, hdecl]
    · exact List.map_injective_iff.mpr (fun _ _ => Option.some.inj) (h.values.trans h'.values.symm)
  have hindex : field.index = field'.index := by
    apply h.index.unique h'.index
    rw [h.index_kind, h'.index_kind, hdecl]
  obtain ⟨⟨decl, cells⟩, index⟩ := field
  obtain ⟨⟨decl', cells'⟩, index'⟩ := field'
  cases hdecl
  cases hcells
  cases hindex
  rfl

end Field

namespace Table

variable {t t' : Table} {s : RowStore} {id : RowId} {row : List Value} {slot position : Nat}
  {v : Value}

/-- A table is determined by the row store that it holds. -/
theorem Holds.unique (h : t.Holds s) (h' : t'.Holds s) : t = t' := by
  have hfields : t.fields = t'.fields := by
    apply List.ext_getElem?
    intro position
    cases hdecl : s.decls[position]? with
    | none =>
      have hnone : ∀ {t : Table}, t.Holds s → t.fields[position]? = none := by
        intro t ht
        rw [List.getElem?_eq_none_iff] at hdecl ⊢
        rwa [← ht.length_fields] at hdecl
      rw [hnone h, hnone h']
    | some decl =>
      obtain ⟨field, hf, hd⟩ := h.field_of_decl hdecl
      obtain ⟨field', hf', hd'⟩ := h'.field_of_decl hdecl
      rw [hf, hf',
        (h.fields position field hf).unique (h'.fields position field' hf') (hd.trans hd'.symm)]
  have hcolumns : t.columns = t'.columns := by
    rw [← h.map_column_fields, hfields, h'.map_column_fields]
  have hindexes : t.indexes = t'.indexes := by
    rw [← h.map_index_fields, hfields, h'.map_index_fields]
  have hslotIds : t.slotIds = t'.slotIds := Array.toList_inj.mp (h.slotIds.trans h'.slotIds.symm)
  have hlive : t.live = t'.live := Array.toList_inj.mp (h.live.trans h'.live.symm)
  have hname := h.name.trans h'.name.symm
  have hdecls := h.decls.trans h'.decls.symm
  have hrowCount := h.rowCount.trans h'.rowCount.symm
  have hnextId := h.nextId.trans h'.nextId.symm
  cases t
  cases t'
  cases hname
  cases hdecls
  cases hcolumns
  cases hindexes
  cases hslotIds
  cases hlive
  cases hrowCount
  cases hnextId
  rfl

/-- A live row of the table: a slot that is not dead has its id, and its values. -/
def HasRow (t : Table) (id : RowId) (row : List Value) : Prop :=
  ∃ slot, t.LiveAt slot id ∧ t.rowAt? slot = some row

/-- Every index has the live rows under the values that they have at the index's position, and has
nothing else. -/
def Indexed (t : Table) : Prop :=
  ∀ (position : Nat) index, t.indexes[position]? = some index → ∀ v id,
    id ∈ index.rowsOf v ↔ ∃ row, t.HasRow id row ∧ row[position]? = some v

namespace Holds

/-- What the arrays have in a slot and the values in it are a record. -/
private theorem getElem?_records (h : t.Holds s) {r : Record} :
    s.records[slot]? = some r ↔ t.slotIds[slot]? = some r.slot.id ∧
      t.live[slot]? = some r.slot.live ∧ t.rowAt? slot = some r.row := by
  constructor
  · intro hr
    refine ⟨?_, ?_, h.rowAt?_eq hr⟩
    · rw [h.slotIds_eq, hr, Option.map_some]
    · rw [h.live_eq, hr, Option.map_some]
  · intro hread
    obtain ⟨hid, hlive, hrow⟩ := hread
    rw [h.slotIds_eq] at hid
    obtain ⟨⟨⟨id, live⟩, row⟩, hr, rfl⟩ := Option.map_eq_some_iff.mp hid
    rw [h.live_eq, hr] at hlive
    rw [h.rowAt?_eq hr] at hrow
    rw [hr]
    obtain ⟨⟨id', live'⟩, row'⟩ := r
    cases hlive
    cases hrow
    rfl

theorem hasRow_iff (h : t.Holds s) : t.HasRow id row ↔ ⟨⟨id, true⟩, row⟩ ∈ s.records := by
  rw [List.mem_iff_getElem?]
  refine exists_congr fun slot => ?_
  rw [h.getElem?_records, LiveAt, and_assoc]

theorem row?_eq_some_iff_hasRow (h : t.Holds s) : t.row? id = some row ↔ t.HasRow id row :=
  h.row?_eq_some_iff.trans h.hasRow_iff.symm

theorem indexed (h : t.Holds s) : t.Indexed := by
  intro position index hi v id
  obtain ⟨field, hf, rfl⟩ := h.field_of_index hi
  rw [(h.fields position field hf).index.mem_rowsOf]
  constructor
  · intro hheld
    obtain ⟨⟨slot, row⟩, hr, rfl, hv⟩ := hheld
    exact ⟨row, h.hasRow_iff.mpr hr, hv⟩
  · intro hrow
    obtain ⟨row, hrow, hv⟩ := hrow
    exact ⟨_, h.hasRow_iff.mp hrow, rfl, hv⟩

end Holds

end Table

end SqlEngine
