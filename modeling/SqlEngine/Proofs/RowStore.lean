import SqlEngine.Proofs.Checks

/-!
# Tables with their rows in one piece

A table keeps its rows by column and beside each column an index. A row store is what such a table
amounts to: one record for each slot, dead ones included. Its operations say what becomes of the
records, and keep it valid.
-/

namespace SqlEngine

/-- What the two arrays of slots have at the same place: the id of the row that is there, and whether
it is live. -/
structure Slot where
  id : RowId
  live : Bool
  deriving DecidableEq, Repr

/-- A slot and the values that the columns have in it, in declared order. -/
structure Record where
  slot : Slot
  row : List Value
  deriving DecidableEq, Repr

/-- Makes assignments to a row, one after the other. -/
def assignAll (assignments : List (Nat × Value)) (row : List Value) : List Value :=
  assignments.foldl (fun row (position, v) => row.set position v) row

namespace Slot

def isRow (id : RowId) (slot : Slot) : Bool := slot = ⟨id, true⟩

def isAmong (ids : List RowId) (slot : Slot) : Bool := slot.live && slot.id ∈ ids

end Slot

namespace Record

def put (position : Nat) (v : Value) (r : Record) : Record :=
  { r with row := r.row.set position v }

def assign (assignments : List (Nat × Value)) (r : Record) : Record :=
  { r with row := assignAll assignments r.row }

def kill (r : Record) : Record := { r with slot := { r.slot with live := false } }

/-- The row with the id is live and has the value at the position. -/
def Held (records : List Record) (position : Nat) (v : Value) (id : RowId) : Prop :=
  ∃ r ∈ records, r.slot = ⟨id, true⟩ ∧ r.row[position]? = some v

/-- Changes the records of some slots. -/
def edit (which : Slot → Bool) (change : Record → Record) (records : List Record) : List Record :=
  records.map fun r => if which r.slot then change r else r

end Record

structure RowStore where
  name : String
  decls : List ColumnDecl
  records : List Record
  nextId : RowId
  deriving DecidableEq, Repr

namespace RowStore

def slots (s : RowStore) : List Slot := s.records.map (·.slot)

def liveCount (s : RowStore) : Nat := s.records.countP (·.slot.live)

/-- The live rows with their ids, in the order of their ids. -/
def liveRows (s : RowStore) : List (RowId × List Value) :=
  s.records.filterMap fun r => if r.slot.live then some (r.slot.id, r.row) else none

def insert (row : List Value) (s : RowStore) : RowStore :=
  { s with records := s.records ++ [⟨⟨s.nextId, true⟩, row⟩], nextId := s.nextId + 1 }

def edit (which : Slot → Bool) (change : Record → Record) (s : RowStore) : RowStore :=
  { s with records := Record.edit which change s.records }

def update (ids : RowIds) (assignments : List (Nat × Value)) (s : RowStore) : RowStore :=
  s.edit (Slot.isAmong ids.toList) (Record.assign assignments)

def kill (ids : RowIds) (s : RowStore) : RowStore := s.edit (Slot.isAmong ids.toList) Record.kill

/-- Drops the dead records. -/
def compact (s : RowStore) : RowStore := { s with records := s.records.filter (·.slot.live) }

/-- Drops the dead records if there are more of them than live ones. -/
def reclaim (s : RowStore) : RowStore :=
  if s.liveCount < s.records.length - s.liveCount then s.compact else s

def delete (ids : RowIds) (s : RowStore) : RowStore := (s.kill ids).reclaim

theorem name_delete (ids : RowIds) (s : RowStore) : (s.delete ids).name = s.name := by
  rw [delete, reclaim]
  split <;> rfl

theorem decls_delete (ids : RowIds) (s : RowStore) : (s.delete ids).decls = s.decls := by
  rw [delete, reclaim]
  split <;> rfl

theorem name_foldl_insert (rows : List (List Value)) (s : RowStore) :
    (rows.foldl (fun s row => s.insert row) s).name = s.name := by
  induction rows generalizing s with
  | nil => rfl
  | cons row rest ih => exact ih (s.insert row)

theorem decls_foldl_insert (rows : List (List Value)) (s : RowStore) :
    (rows.foldl (fun s row => s.insert row) s).decls = s.decls := by
  induction rows generalizing s with
  | nil => rfl
  | cons row rest ih => exact ih (s.insert row)

/-- Columns have different names, ids ascend and are used up, and every row fits the columns. -/
structure Valid (s : RowStore) : Prop where
  names_nodup : (s.decls.map (·.name)).Nodup
  ascending : s.records.Pairwise fun a b => a.slot.id < b.slot.id
  id_lt : ∀ r ∈ s.records, r.slot.id < s.nextId
  fits : ∀ r ∈ s.records, Fits s.decls r.row

end RowStore

/-! ### Edits of records -/

namespace Record

variable {records : List Record} {r r' : Record} {which : Slot → Bool}
  {change change' : Record → Record} {id : RowId} {i j : Nat}

theorem mem_edit : r' ∈ edit which change records ↔
    ∃ r ∈ records, (if which r.slot then change r else r) = r' :=
  List.mem_map

theorem map_slot_edit (hslot : ∀ r, (change r).slot = r.slot) :
    (edit which change records).map (·.slot) = records.map (·.slot) := by
  rw [edit, List.map_map]
  apply List.map_congr_left
  intro r _
  by_cases h : which r.slot <;> simp [h, hslot]

theorem getElem?_edit :
    (edit which change records)[i]? = records[i]?.map fun r => if which r.slot then change r else r :=
  List.getElem?_map ..

/-- Ids tell records apart. -/
private theorem eq_of_id_eq (hasc : records.Pairwise fun a b => a.slot.id < b.slot.id)
    (hi : records[i]? = some r) (hj : records[j]? = some r') (hid : r.slot.id = r'.slot.id) :
    i = j := by
  obtain ⟨hilt, rfl⟩ := List.getElem?_eq_some_iff.mp hi
  obtain ⟨hjlt, rfl⟩ := List.getElem?_eq_some_iff.mp hj
  rcases Nat.lt_trichotomy i j with h | h | h
  · exact absurd hid (Nat.ne_of_lt (List.pairwise_iff_getElem.mp hasc i j hilt hjlt h))
  · exact h
  · exact absurd hid.symm (Nat.ne_of_lt (List.pairwise_iff_getElem.mp hasc j i hjlt hilt h))

theorem eq_of_slot_eq (hasc : records.Pairwise fun a b => a.slot.id < b.slot.id)
    (hr : r ∈ records) (hr' : r' ∈ records) (hslot : r.slot = r'.slot) : r = r' := by
  obtain ⟨i, hi⟩ := List.mem_iff_getElem?.mp hr
  obtain ⟨j, hj⟩ := List.mem_iff_getElem?.mp hr'
  obtain rfl := eq_of_id_eq hasc hi hj (congrArg Slot.id hslot)
  exact Option.some.inj (hi.symm.trans hj)

theorem edit_edit (hslot : ∀ r, (change r).slot = r.slot) :
    edit which change' (edit which change records) = edit which (change' ∘ change) records := by
  rw [edit, edit, edit, List.map_map]
  apply List.map_congr_left
  intro r _
  by_cases h : which r.slot <;> simp [h, hslot]

theorem edit_eq_self (h : ∀ r ∈ records, which r.slot → change r = r) :
    edit which change records = records := by
  have hself : ∀ r ∈ records, (if which r.slot then change r else r) = r := by
    intro r hr
    split
    · exact h r hr ‹_›
    · rfl
  rw [edit, List.map_congr_left hself, List.map_id']

/-- Rows that are changed one after the other are changed independently. -/
theorem edit_isRow_edit {ids : List RowId} (hid : ∀ r, (change r).slot.id = r.slot.id)
    (hnotin : id ∉ ids) :
    edit (Slot.isAmong ids) change (edit (Slot.isRow id) change records) =
      edit (Slot.isAmong (id :: ids)) change records := by
  rw [edit, edit, edit, List.map_map]
  apply List.map_congr_left
  intro r _
  by_cases hr : r.slot = ⟨id, true⟩
  · simp [Slot.isRow, Slot.isAmong, hr, hid, hnotin]
  · have hother : r.slot.live = true → r.slot.id ≠ id := by
      intro hlive hrid
      exact hr (by rw [← hrid, ← hlive])
    by_cases hlive : r.slot.live
    · simp [Slot.isRow, Slot.isAmong, hr, hlive, hother hlive]
    · simp [Slot.isRow, Slot.isAmong, hr, hlive]

/-- The record of a row is found at its slot. -/
theorem edit_isRow_eq_set (hasc : records.Pairwise fun a b => a.slot.id < b.slot.id)
    (hr : records[i]? = some r) (hlive : r.slot = ⟨id, true⟩) :
    edit (Slot.isRow id) change records = records.set i (change r) := by
  apply List.ext_getElem?
  intro j
  rw [edit, List.getElem?_map, List.getElem?_set]
  by_cases hj : i = j
  · subst hj
    rw [if_pos rfl, if_pos (List.getElem?_eq_some_iff.mp hr).1, hr]
    simp [Slot.isRow, hlive]
  · rw [if_neg hj]
    cases hr' : records[j]? with
    | none => rfl
    | some r' =>
      have hother : r'.slot ≠ ⟨id, true⟩ := by
        intro hslot
        exact hj (eq_of_id_eq hasc hr hr' (by rw [hlive, hslot]))
      simp [Slot.isRow, hother]

/-! ### Values that rows hold -/

section Held

variable {row : List Value} {position : Nat} {v w old : Value} {a : RowId}

theorem held_append :
    Held (records ++ [⟨⟨id, true⟩, row⟩]) position w a ↔
      (row[position]? = some w ∧ a = id) ∨ Held records position w a := by
  constructor
  · intro hheld
    obtain ⟨r, hr, hslot, hw⟩ := hheld
    rcases List.mem_append.mp hr with hr | hr
    · exact .inr ⟨r, hr, hslot, hw⟩
    · rw [List.mem_singleton.mp hr] at hslot hw
      injection hslot with hid
      exact .inl ⟨hw, hid.symm⟩
  · intro hheld
    rcases hheld with ⟨hw, rfl⟩ | ⟨r, hr, hslot, hw⟩
    · exact ⟨_, List.mem_append_right _ (List.mem_singleton.mpr rfl), rfl, hw⟩
    · exact ⟨r, List.mem_append_left _ hr, hslot, hw⟩

/-- An edit that leaves slots and a position alone leaves what is held there. -/
theorem held_edit (hslot : ∀ r, (change r).slot = r.slot)
    (hrow : ∀ r, (change r).row[position]? = r.row[position]?) :
    Held (edit which change records) position w a ↔ Held records position w a := by
  have hedited : ∀ r : Record, (if which r.slot then change r else r).slot = r.slot ∧
      (if which r.slot then change r else r).row[position]? = r.row[position]? := by
    intro r
    split
    · exact ⟨hslot r, hrow r⟩
    · exact ⟨rfl, rfl⟩
  constructor
  · intro hheld
    obtain ⟨r', hr', hlive, hw⟩ := hheld
    obtain ⟨r, hr, rfl⟩ := mem_edit.mp hr'
    exact ⟨r, hr, (hedited r).1.symm.trans hlive, (hedited r).2.symm.trans hw⟩
  · intro hheld
    obtain ⟨r, hr, hlive, hw⟩ := hheld
    exact ⟨_, mem_edit.mpr ⟨r, hr, rfl⟩, (hedited r).1.trans hlive, (hedited r).2.trans hw⟩

/-- A row holds one value at a position. -/
private theorem Held.eq (hheld : Held records position w id)
    (hasc : records.Pairwise fun a b => a.slot.id < b.slot.id) (hr : r ∈ records)
    (hlive : r.slot = ⟨id, true⟩) (hold : r.row[position]? = some old) : w = old := by
  obtain ⟨r', hr', hslot, hw⟩ := hheld
  obtain rfl := eq_of_slot_eq hasc hr' hr (hslot.trans hlive.symm)
  exact Option.some.inj (hw.symm.trans hold)

/-- Without the one value that a row holds, nothing of that row is left. -/
theorem held_and_not_iff (hasc : records.Pairwise fun a b => a.slot.id < b.slot.id)
    (hr : r ∈ records) (hlive : r.slot = ⟨id, true⟩) (hold : r.row[position]? = some old) :
    Held records position w a ∧ ¬ (w = old ∧ a = id) ↔ Held records position w a ∧ a ≠ id := by
  refine and_congr_right fun hheld => not_congr ?_
  constructor
  · exact fun h => h.2
  · intro ha
    subst ha
    exact ⟨hheld.eq hasc hr hlive hold, rfl⟩

theorem held_put (hasc : records.Pairwise fun a b => a.slot.id < b.slot.id) (hr : r ∈ records)
    (hlive : r.slot = ⟨id, true⟩) (hposition : position < r.row.length) :
    Held (edit (Slot.isRow id) (put position v) records) position w a ↔
      (w = v ∧ a = id) ∨ (Held records position w a ∧ a ≠ id) := by
  constructor
  · intro hheld
    obtain ⟨r', hr', hslot, hw⟩ := hheld
    obtain ⟨r₀, hr₀, rfl⟩ := mem_edit.mp hr'
    by_cases hid : r₀.slot = ⟨id, true⟩
    · obtain rfl := eq_of_slot_eq hasc hr₀ hr (hid.trans hlive.symm)
      simp only [Slot.isRow, hid, decide_true, if_true, put] at hslot hw
      injection hslot with hai
      rw [List.getElem?_set_self hposition] at hw
      exact .inl ⟨(Option.some.inj hw).symm, hai.symm⟩
    · simp only [Slot.isRow, hid, decide_false, Bool.false_eq_true, if_false] at hslot hw
      refine .inr ⟨⟨r₀, hr₀, hslot, hw⟩, ?_⟩
      intro ha
      exact hid (ha ▸ hslot)
  · intro hheld
    rcases hheld with ⟨rfl, rfl⟩ | ⟨⟨r', hr', hslot, hw⟩, ha⟩
    · refine ⟨r.put position w, mem_edit.mpr ⟨r, hr, ?_⟩, hlive, ?_⟩
      · simp [Slot.isRow, hlive]
      · simp [put, hposition]
    · exact ⟨r', mem_edit.mpr ⟨r', hr', by simp [Slot.isRow, hslot, ha]⟩, hslot, hw⟩

theorem held_kill :
    Held (edit (Slot.isRow id) kill records) position w a ↔
      Held records position w a ∧ a ≠ id := by
  constructor
  · intro hheld
    obtain ⟨r', hr', hslot, hw⟩ := hheld
    obtain ⟨r, hr, rfl⟩ := mem_edit.mp hr'
    by_cases hid : r.slot = ⟨id, true⟩
    · simp [Slot.isRow, hid, kill] at hslot
    · simp only [Slot.isRow, hid, decide_false, Bool.false_eq_true, if_false] at hslot hw
      refine ⟨⟨r, hr, hslot, hw⟩, ?_⟩
      intro ha
      exact hid (ha ▸ hslot)
  · intro hheld
    obtain ⟨⟨r, hr, hslot, hw⟩, ha⟩ := hheld
    exact ⟨r, mem_edit.mpr ⟨r, hr, by simp [Slot.isRow, hslot, ha]⟩, hslot, hw⟩

theorem held_filter_live :
    Held (records.filter (·.slot.live)) position w a ↔ Held records position w a := by
  constructor
  · intro hheld
    obtain ⟨r, hr, hlive, hw⟩ := hheld
    exact ⟨r, List.mem_of_mem_filter hr, hlive, hw⟩
  · intro hheld
    obtain ⟨r, hr, hlive, hw⟩ := hheld
    exact ⟨r, List.mem_filter.mpr ⟨hr, by rw [hlive]⟩, hlive, hw⟩

end Held

end Record

/-! ### Valid row stores -/

namespace RowStore

variable {s : RowStore} {row : List Value} {which : Slot → Bool} {change : Record → Record}

theorem Valid.insert (h : s.Valid) (hrow : Fits s.decls row) : (s.insert row).Valid where
  names_nodup := h.names_nodup
  ascending := by
    refine List.pairwise_append.mpr ⟨h.ascending, List.pairwise_singleton _ _, ?_⟩
    intro r hr r' hr'
    rw [List.mem_singleton.mp hr']
    exact h.id_lt r hr
  id_lt r hr := by
    rcases List.mem_append.mp hr with hr | hr
    · exact Nat.lt_succ_of_lt (h.id_lt r hr)
    · rw [List.mem_singleton.mp hr]
      exact Nat.lt_succ_self _
  fits r hr := by
    rcases List.mem_append.mp hr with hr | hr
    · exact h.fits r hr
    · rw [List.mem_singleton.mp hr]
      exact hrow

theorem Valid.edit (h : s.Valid) (hid : ∀ r, (change r).slot.id = r.slot.id)
    (hfits : ∀ r ∈ s.records, Fits s.decls (change r).row) : (s.edit which change).Valid := by
  have hedited : ∀ r : Record, (if which r.slot then change r else r).slot.id = r.slot.id := by
    intro r
    split
    · exact hid r
    · rfl
  refine ⟨h.names_nodup, ?_, ?_, ?_⟩
  · apply List.pairwise_map.mpr
    simpa only [hedited] using h.ascending
  · intro r' hr'
    obtain ⟨r, hr, rfl⟩ := Record.mem_edit.mp hr'
    rw [hedited]
    exact h.id_lt r hr
  · intro r' hr'
    obtain ⟨r, hr, rfl⟩ := Record.mem_edit.mp hr'
    split
    · exact hfits r hr
    · exact h.fits r hr

theorem Valid.compact (h : s.Valid) : s.compact.Valid where
  names_nodup := h.names_nodup
  ascending := h.ascending.filter _
  id_lt r hr := h.id_lt r (List.mem_of_mem_filter hr)
  fits r hr := h.fits r (List.mem_of_mem_filter hr)

theorem mem_liveRows {id : RowId} :
    (id, row) ∈ s.liveRows ↔ ⟨⟨id, true⟩, row⟩ ∈ s.records := by
  rw [liveRows, List.mem_filterMap]
  constructor
  · intro hmem
    obtain ⟨r, hr, heq⟩ := hmem
    split at heq
    · rename_i hlive
      cases heq
      rw [← hlive]
      exact hr
    · cases heq
  · intro hr
    exact ⟨_, hr, rfl⟩

theorem liveCount_eq (s : RowStore) : s.liveCount = s.slots.countP (·.live) := by
  rw [liveCount, slots, List.countP_map]
  rfl

theorem length_liveRows (s : RowStore) : s.liveRows.length = s.liveCount := by
  rw [liveRows, liveCount]
  induction s.records with
  | nil => rfl
  | cons r records ih =>
    cases hlive : r.slot.live <;> simp [hlive, ih]

/-- The live rows ascend. -/
theorem Valid.liveRows_ascending (h : s.Valid) :
    s.liveRows.Pairwise fun a b => a.1 < b.1 := by
  apply List.Pairwise.filterMap _ _ h.ascending
  intro r r' hlt a ha b hb
  split at ha
  · split at hb
    · cases ha
      cases hb
      exact hlt
    · cases hb
  · cases ha

end RowStore

end SqlEngine
