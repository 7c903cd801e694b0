import SqlEngine.Proofs.ActionRuns
import SqlEngine.Proofs.IndexContents
import SqlEngine.Proofs.RowStore

/-!
# One field of a table

A field holds what the records have at its position: its column has their values in order, and its
index has the live ones of them. Every change of a field that a table makes after its checks
succeeds, and the field then holds what the changed records have.
-/

namespace SqlEngine

namespace Column

variable {column : Column} {slot : Nat} {v : Value}

theorem push_ok (hkind : v.kind = column.cells.kind) :
    ∃ column', column.push v = .ok column' ∧ column'.decl = column.decl ∧
      column'.cells.kind = column.cells.kind ∧ column'.toList = column.toList ++ [v] := by
  obtain ⟨cells, hcells⟩ := Option.isSome_iff_exists.mp (Cells.isSome_push?_iff.mpr hkind)
  obtain ⟨hk, hlist⟩ := Cells.push?_eq_some hcells
  exact ⟨{ column with cells }, by rw [Column.push, hcells], rfl, hk, hlist⟩

theorem set_ok (hslot : slot < column.size) (hkind : v.kind = column.cells.kind) :
    ∃ column', column.set slot v = .ok column' ∧ column'.decl = column.decl ∧
      column'.cells.kind = column.cells.kind ∧ column'.toList = column.toList.set slot v := by
  have hsome : (column.cells.set? slot v).isSome := Cells.isSome_set?_iff.mpr hkind
  obtain ⟨cells, hcells⟩ := Option.isSome_iff_exists.mp hsome
  obtain ⟨hk, hlist⟩ := Cells.set?_eq_some hcells
  refine ⟨{ column with cells }, ?_, rfl, hk, hlist⟩
  rw [Column.set, if_neg (Nat.not_le.mpr hslot), hcells]

end Column

namespace Field

structure Holds (field : Field) (position : Nat) (records : List Record) : Prop where
  cells_kind : field.column.cells.kind = field.column.decl.type.kind
  index_kind : field.index.kind = field.column.decl.type.kind
  values : field.column.toList.map some = records.map (·.row[position]?)
  index : field.index.Records (Record.Held records position)

variable {field : Field} {position slot : Nat} {records : List Record} {r : Record}
  {row : List Value} {v : Value} {id : RowId}

theorem holds_ofDecl (decl : ColumnDecl) (position : Nat) :
    Holds ⟨.ofDecl decl, .ofKind decl.type.kind⟩ position [] where
  cells_kind := Cells.kind_ofKind _
  index_kind := rfl
  values := congrArg (List.map some) (Cells.toList_ofKind decl.type.kind)
  index := (ValueIndex.records_ofKind _).congr fun v id => by simp [Record.Held]

namespace Holds

theorem get?_eq (h : field.Holds position records) (hr : records[slot]? = some r) :
    field.column.get? slot = r.row[position]? := by
  have hvalues := congrArg (·[slot]?) h.values
  simp only [List.getElem?_map, hr, Option.map_some] at hvalues
  rw [Column.get?, Cells.get?_eq_getElem?]
  obtain ⟨w, hw, hwr⟩ := Option.map_eq_some_iff.mp hvalues
  exact hw.trans hwr

theorem exists_value (h : field.Holds position records) (hr : records[slot]? = some r) :
    ∃ v, r.row[position]? = some v ∧ field.column.get? slot = some v := by
  have hvalues := congrArg (·[slot]?) h.values
  simp only [List.getElem?_map, hr, Option.map_some] at hvalues
  obtain ⟨w, _, hwr⟩ := Option.map_eq_some_iff.mp hvalues
  exact ⟨w, hwr.symm, (h.get?_eq hr).trans hwr.symm⟩

private theorem kind_eq (h : field.Holds position records)
    (hget : field.column.get? slot = some v) : v.kind = field.column.decl.type.kind := by
  rw [Column.get?, Cells.get?_eq_getElem?] at hget
  rw [← h.cells_kind]
  exact Cells.kind_eq_of_mem (List.mem_of_getElem? hget)

theorem size_eq (h : field.Holds position records) : field.column.size = records.length := by
  have hlength := congrArg List.length h.values
  rw [List.length_map, List.length_map] at hlength
  rw [← hlength, Column.size, Column.toList, Cells.length_toList]

end Holds

/-! ### Single writes -/

private theorem outcome_changeColumn_of_ok {next : Column → Except Error Column} {column : Column}
    (h : next field.column = .ok column) :
    (changeColumn next).outcome field = (.ok (), { field with column }) := by
  rw [changeColumn, Action.outcome_within]
  dsimp only
  rw [Action.outcome_change, h]

private theorem outcome_changeIndex_of_ok {next : ValueIndex → Except Error ValueIndex}
    {index : ValueIndex} (h : next field.index = .ok index) :
    (changeIndex next).outcome field = (.ok (), { field with index }) := by
  rw [changeIndex, Action.outcome_within]
  dsimp only
  rw [Action.outcome_change, h]

/-! ### Changes of a field -/

theorem append_ok (h : field.Holds position records) (hv : row[position]? = some v)
    (hkind : v.kind = field.column.decl.type.kind) (id : RowId) :
    ∃ field', (append id v).outcome field = (.ok (), field') ∧
      field'.column.decl = field.column.decl ∧
      field'.Holds position (records ++ [⟨⟨id, true⟩, row⟩]) := by
  obtain ⟨index', hinsert, hik, hrecords⟩ :=
    ValueIndex.insert_ok (hkind.trans h.index_kind.symm) h.index id
  obtain ⟨column', hpush, hdecl, hck, hlist⟩ := Column.push_ok (hkind.trans h.cells_kind.symm)
  refine ⟨⟨column', index'⟩, ?_, hdecl, ?_⟩
  · rw [append, Action.outcome_bind_of_ok (outcome_changeIndex_of_ok hinsert),
      outcome_changeColumn_of_ok hpush]
  · refine ⟨?_, ?_, ?_, hrecords.congr fun w a => ?_⟩
    · rw [hck, h.cells_kind, hdecl]
    · rw [hik, h.index_kind, hdecl]
    · rw [hlist, List.map_append, List.map_append, h.values, List.map_singleton,
        List.map_singleton, hv]
    · rw [Record.held_append, hv, Option.some.injEq, eq_comm]

/-- What a field holds does not depend on the other positions of the rows. -/
theorem Holds.edit {which : Slot → Bool} {change : Record → Record}
    (h : field.Holds position records) (hslot : ∀ r, (change r).slot = r.slot)
    (hrow : ∀ r, (change r).row[position]? = r.row[position]?) :
    field.Holds position (Record.edit which change records) := by
  refine ⟨h.cells_kind, h.index_kind, ?_, h.index.congr fun w a => ?_⟩
  · rw [h.values, Record.edit, List.map_map]
    apply List.map_congr_left
    intro r _
    by_cases hr : which r.slot <;> simp [hr, hrow]
  · exact (Record.held_edit hslot hrow).symm

theorem assign_ok (h : field.Holds position records)
    (hasc : records.Pairwise fun a b => a.slot.id < b.slot.id) (hr : records[slot]? = some r)
    (hlive : r.slot = ⟨id, true⟩) (hkind : v.kind = field.column.decl.type.kind) :
    ∃ field', (assign id slot v).outcome field = (.ok (), field') ∧
      field'.column.decl = field.column.decl ∧
      field'.Holds position (Record.edit (Slot.isRow id) (Record.put position v) records) := by
  have hmem : r ∈ records := List.mem_of_getElem? hr
  obtain ⟨old, hold, hget⟩ := h.exists_value hr
  obtain ⟨hposition, hvalue⟩ := List.getElem?_eq_some_iff.mp hold
  rw [assign, Action.outcome_bind_of_ok (Action.outcome_get field), hget]
  by_cases heq : old = v
  · subst heq
    have hself : Record.edit (Slot.isRow id) (Record.put position old) records = records := by
      apply Record.edit_eq_self
      intro r' hr' hid
      obtain rfl := Record.eq_of_slot_eq hasc hr' hmem ((of_decide_eq_true hid).trans hlive.symm)
      rw [Record.put, ← hvalue, List.set_getElem_self]
    rw [hself]
    exact ⟨field, by simp [Action.outcome_pure], rfl, h⟩
  · have hold_kind : old.kind = field.index.kind := (h.kind_eq hget).trans h.index_kind.symm
    have hslot : slot < field.column.size := by
      rw [h.size_eq]
      exact (List.getElem?_eq_some_iff.mp hr).1
    obtain ⟨column', hset, hdecl, hck, hlist⟩ := Column.set_ok hslot (hkind.trans h.cells_kind.symm)
    obtain ⟨index₁, hremove, hk₁, hrec₁⟩ := ValueIndex.remove_ok hold_kind h.index id
    obtain ⟨index₂, hinsert, hk₂, hrec₂⟩ :=
      ValueIndex.insert_ok ((hkind.trans h.index_kind.symm).trans hk₁.symm) hrec₁ id
    refine ⟨⟨column', index₂⟩, ?_, hdecl, ?_⟩
    · dsimp only
      rw [if_pos heq, Action.outcome_bind_of_ok (outcome_changeColumn_of_ok hset),
        Action.outcome_bind_of_ok (outcome_changeIndex_of_ok hremove),
        outcome_changeIndex_of_ok hinsert]
    · refine ⟨?_, ?_, ?_, hrec₂.congr fun w a => ?_⟩
      · rw [hck, h.cells_kind, hdecl]
      · rw [hk₂, hk₁, h.index_kind, hdecl]
      · rw [hlist, Record.edit_isRow_eq_set hasc hr hlive, List.map_set, List.map_set, h.values,
          Record.put, List.getElem?_set_self hposition]
      · rw [Record.held_put hasc hmem hlive hposition,
          Record.held_and_not_iff hasc hmem hlive hold]

theorem forget_ok (h : field.Holds position records)
    (hasc : records.Pairwise fun a b => a.slot.id < b.slot.id) (hr : records[slot]? = some r)
    (hlive : r.slot = ⟨id, true⟩) :
    ∃ field', (forget id slot).outcome field = (.ok (), field') ∧
      field'.column.decl = field.column.decl ∧
      field'.Holds position (Record.edit (Slot.isRow id) Record.kill records) := by
  have hmem : r ∈ records := List.mem_of_getElem? hr
  obtain ⟨v, hv, hget⟩ := h.exists_value hr
  obtain ⟨index', hremove, hk, hrec⟩ :=
    ValueIndex.remove_ok ((h.kind_eq hget).trans h.index_kind.symm) h.index id
  refine ⟨{ field with index := index' }, ?_, rfl, ?_⟩
  · rw [forget, Action.outcome_bind_of_ok (Action.outcome_get field), hget]
    exact outcome_changeIndex_of_ok hremove
  · refine ⟨h.cells_kind, hk.trans h.index_kind, ?_, hrec.congr fun w a => ?_⟩
    · rw [h.values, Record.edit, List.map_map]
      apply List.map_congr_left
      intro r' _
      by_cases hid : r'.slot = ⟨id, true⟩ <;> simp [Slot.isRow, hid, Record.kill]
    · rw [Record.held_kill, Record.held_and_not_iff hasc hmem hlive hv]

private theorem map_some_keepFlagged {l : List Value} (f : Record → Option Value)
    (hl : l.map some = records.map f) :
    ((l.zip (records.map (·.slot.live))).filterMap
      fun (v, kept) => if kept then some v else none).map some =
      (records.filter (·.slot.live)).map f := by
  induction records generalizing l with
  | nil => simp
  | cons r records ih =>
    cases l with
    | nil => simp at hl
    | cons v l =>
      rw [List.map_cons, List.map_cons, List.cons.injEq] at hl
      have hrest := ih hl.2
      cases hlive : r.slot.live with
      | false => simpa [hlive] using hrest
      | true => simp [hlive, ← hl.1, ← hrest]

/-- The field without the slots that are not flagged. -/
def keepFlagged (keep : List Bool) (field : Field) : Field :=
  { field with column := field.column.keepFlagged keep }

theorem Holds.compact (h : field.Holds position records) :
    (field.keepFlagged (records.map (·.slot.live))).Holds position
      (records.filter (·.slot.live)) where
  cells_kind := by
    have hkeep : (Cells.keepFlagged (records.map (·.slot.live)) field.column.cells).kind =
        field.column.cells.kind := by
      cases field.column.cells <;> rfl
    exact hkeep.trans h.cells_kind
  index_kind := h.index_kind
  values := by
    rw [keepFlagged, Column.keepFlagged, Column.toList, Cells.toList_keepFlagged]
    exact map_some_keepFlagged _ h.values
  index := h.index.congr fun v id => Record.held_filter_live.symm

end Field

end SqlEngine
