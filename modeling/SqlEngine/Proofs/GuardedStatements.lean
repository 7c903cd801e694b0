import Mathlib.Data.Nat.PSub
import SqlEngine.Proofs.Guarded
import SqlEngine.Proofs.RelationAnswers

/-!
# Statements with guarded accesses

Statements read tuples, rows, slots and cells by number, and count live rows down. Here they are
written again with each of these accesses guarded. On a table that holds its rows, the guarded
readings go through and give what the readings do.
-/

namespace SqlEngine

namespace Guarded

variable {σ : Type}

/-! ### The accesses of statements -/

/-- The values of a tuple for the declared columns, each taken from its place. -/
def row (binding : Binding) (enforceLength : Bool) (tuple : List Value) :
    Guarded Table (List Value) :=
  if tuple.length = binding.arity then
    binding.places.zipIdx.mapM fun (place, position) => do
      let literal ← reach tuple[place]?
      look (·.fit position literal enforceLength)
  else
    throw (.columnCountMismatch binding.arity tuple.length)

def bindTuples (columns : Option (List String)) (tuples : List (List Value))
    (enforceLength : Bool) : Guarded Table (List (List Value)) := do
  let binding ← look (·.binding columns)
  tuples.mapM (row binding enforceLength)

def insertTuples (columns : Option (List String)) (tuples : List (List Value))
    (enforceLength : Bool) : Guarded Table (List RowId) := do
  let rows ← bindTuples columns tuples enforceLength
  act (rows.mapM Table.insert)

/-- The ids of the live rows, each taken from its slot. -/
def rowIds : Guarded Table RowIds := do
  let t ← get
  let ids ← t.liveSlots.mapM fun slot => reach t.slotIds[slot]?
  return .ofList ids

/-- The live rows of which the cell in a column compares to a value as asked. -/
def compareRows (column : Column) (c : Comparison) (v : Value) : Guarded Table RowIds := do
  let t ← get
  let cells ← t.liveSlots.mapM fun slot => do
    return (← reach t.slotIds[slot]?, ← reach (column.get? slot))
  return .ofList ((cells.filter fun (_, w) => c.holds w v).map (·.1))

def satisfying (condition : Condition) (useIndex : Bool) : Guarded Table RowIds := do
  let position ← look (·.positionOf condition.column)
  let decl ← look (·.declAt position)
  let v ← look fun _ => decl.convert condition.literal
  if useIndex then
    let index ← look (·.indexAt position)
    look fun _ => index.lookup condition.comparison v
  else
    let column ← look (·.columnAt position)
    compareRows column condition.comparison v

def resolve (filter : Option Filter) (useIndexes : Bool) : Guarded Table RowIds :=
  match filter with
  | none        => rowIds
  | some filter => do
    let sets ← filter.conditions.mapM (satisfying · useIndexes)
    return Table.combine filter.connective sets

/-- The cells of a live row. -/
def cells (id : RowId) : Guarded Table (List Value) := do
  let t ← get
  match t.slotOf? id with
  | some slot => t.columns.mapM fun column => reach (column.get? slot)
  | none      => throw (.unknownRow id)

/-- Rows in the order of their values at a position. -/
def order (key : Option Nat) (rows : List (List Value)) : Guarded σ (List (List Value)) :=
  match key with
  | some position => do
    let keyed ← rows.mapM fun row => do
      return (← reach row[position]?, row)
    return (keyed.mergeSort fun a b => (compare a.1 b.1).isLE).map (·.2)
  | none          => return rows

def project (positions : List Nat) (row : List Value) : Guarded σ (List Value) :=
  positions.mapM fun position => reach row[position]?

def query (q : Select) (useIndexes : Bool) : Guarded Table ResultSet := do
  let columns ← look (·.projectedNames q.projection)
  let positions ← look fun t => columns.mapM t.positionOf
  let key ← look fun t => q.orderBy.mapM t.positionOf
  let ids ← resolve q.filter useIndexes
  let rows ← ids.toList.mapM cells
  let ordered ← order key rows
  let limited := match q.limit with
    | some limit => ordered.take limit
    | none       => ordered
  let values ← limited.mapM (project positions)
  return ⟨columns, values, values.length⟩

def assignCell (id : RowId) (slot : Nat) (v : Value) : Guarded Field Unit := do
  let old ← reach ((← get).column.get? slot)
  if old ≠ v then
    act (Field.changeColumn (·.set slot v))
    act (Field.changeIndex (·.remove old id))
    act (Field.changeIndex (·.insert v id))

def forgetCell (id : RowId) (slot : Nat) : Guarded Field Unit := do
  let v ← reach ((← get).column.get? slot)
  act (Field.changeIndex (·.remove v id))

def atField (position : Nat) (g : Guarded Field Unit) : Guarded Table Unit :=
  within (·.fieldAt position) (·.setField position) g

def update (ids : RowIds) (assignments : List (Nat × Value)) : Guarded Table Nat := do
  let rows ← look (·.slotsOf ids)
  look fun t => assignments.forM fun (position, v) => t.checkAssignment position v
  rows.forM fun (id, slot) =>
    assignments.forM fun (position, v) => atField position (assignCell id slot v)
  return ids.size

def assign (assignments : List (String × Value)) (ids : RowIds) (enforceLength : Bool) :
    Guarded Table Nat := do
  let resolved ← look fun t =>
    assignments.mapM fun (column, literal) => do
      let position ← t.positionOf column
      return (position, ← t.fit position literal enforceLength)
  update ids resolved

/-- Clears a flag, which has to be there, and counts one live row less. -/
def killSlot (slot : Nat) : Guarded Table Unit := do
  let t ← get
  let _ ← reach t.live[slot]?
  let rowCount ← reach (t.rowCount.psub 1)
  set { t with live := t.live.setIfInBounds slot false, rowCount }

def removeRow (id : RowId) (slot : Nat) : Guarded Table Unit := do
  (List.range (← get).fields.length).forM fun position => atField position (forgetCell id slot)
  killSlot slot

/-- Drops the slots of dead rows if, taken from all slots, there are more of them. -/
def reclaim : Guarded Table Unit := do
  let t ← get
  let dead ← reach (t.slotCount.psub t.rowCount)
  if t.rowCount < dead then
    set t.dropDeadSlots

def delete (ids : RowIds) : Guarded Table Nat := do
  let rows ← look (·.slotsOf ids)
  rows.forM fun (id, slot) => removeRow id slot
  reclaim
  return ids.size

def onTable {α : Type} (name : String) (g : Guarded Table α) : Guarded Catalog α :=
  within (·.table name) (fun c t => c.put name t) g

/-- Runs a statement. -/
def run (settings : Settings) : Statement → Guarded Catalog Outcome
  | .createTable s => act ((Statement.createTable s).run settings)
  | .insert s      => do
    let ids ← onTable s.table (insertTuples s.columns s.tuples settings.enforceLength)
    return .affected ids.length
  | .select s      => do
    return .rows (← onTable s.table (query s settings.useIndexes))
  | .update s      => onTable s.table do
    let ids ← resolve s.filter settings.useIndexes
    return .affected (← assign s.assignments ids settings.enforceLength)
  | .delete s      => onTable s.table do
    let ids ← resolve s.filter settings.useIndexes
    return .affected (← delete ids)

/-! ### Readings stay within bounds -/

variable {t : Table} {s : RowStore}

private theorem gives_row {columns : Option (List String)} {binding : Binding}
    (h : t.binding columns = .ok binding) (enforceLength : Bool) (tuple : List Value) :
    Gives (row binding enforceLength tuple) t (binding.row t enforceLength tuple) := by
  rw [row, Binding.row]
  split
  · rename_i harity
    refine gives_mapM fun e he => ?_
    have hplace : e.1 < tuple.length := by
      rw [harity]
      exact Table.place_lt_arity h (List.fst_mem_of_mem_zipIdx he)
    have hreach : tuple[e.1]? = some tuple[e.1]! := by
      rw [getElem!_pos tuple e.1 hplace, List.getElem?_eq_getElem hplace]
    exact (gives_reach hreach t).then (gives_look _ t)
  · exact gives_throw _ t

theorem gives_bindTuples (t : Table) (columns : Option (List String)) (tuples : List (List Value))
    (enforceLength : Bool) :
    Gives (bindTuples columns tuples enforceLength) t
      (t.binding columns >>= fun binding => tuples.mapM (binding.row t enforceLength)) := by
  refine (gives_look (·.binding columns) t).bind fun binding hbinding => ?_
  exact gives_mapM fun tuple _ => gives_row hbinding enforceLength tuple

/-- The flags are as many as the ids and as the cells of each column, so a slot found by its flag is
there. -/
private theorem live_accesses (h : t.Holds s) {slot : Nat} (hslot : slot ∈ t.liveSlots) :
    t.slotIds[slot]? = some t.slotIds[slot]! ∧
      ∀ column ∈ t.columns, ∃ v, column.get? slot = some v := by
  obtain ⟨r, hr, _⟩ := h.mem_liveSlots.mp hslot
  refine ⟨?_, fun column hcolumn => ?_⟩
  · rw [h.slotIds_eq, hr, h.slotIds_getElem! hr, Option.map_some]
  · obtain ⟨position, hposition⟩ := List.mem_iff_getElem?.mp hcolumn
    obtain ⟨field, hfield, rfl⟩ := h.field_of_column hposition
    obtain ⟨v, _, hv⟩ := (h.fields position field hfield).exists_value hr
    exact ⟨v, hv⟩

private theorem gives_rowIds (h : t.Holds s) : Gives rowIds t (.ok t.rowIds) := by
  refine (gives_get t).then ?_
  refine Gives.then (gives_mapM_of_ok (f := (t.slotIds[·]!)) fun slot hslot => ?_) (gives_pure _ t)
  exact gives_reach (live_accesses h hslot).1 t

private theorem gives_compareRows (h : t.Holds s) {column : Column} (hcolumn : column ∈ t.columns)
    (c : Comparison) (v : Value) :
    Gives (compareRows column c v) t (.ok (t.compareRows column c v)) := by
  have hcell : ∀ slot ∈ t.liveSlots, column.get? slot = some ((column.get? slot).getD v) := by
    intro slot hslot
    obtain ⟨w, hw⟩ := (live_accesses h hslot).2 column hcolumn
    rw [hw, Option.getD_some]
  have hsame : ((t.liveSlots.map fun slot => (t.slotIds[slot]!, (column.get? slot).getD v)).filter
        fun (_, w) => c.holds w v).map (·.1) =
      (t.liveSlots.filter fun slot => (column.get? slot).any (c.holds · v)).map
        (t.slotIds[·]!) := by
    rw [List.filter_map, List.map_map]
    refine congrArg (List.map _) (List.filter_congr fun slot hslot => ?_)
    dsimp only [Function.comp_apply]
    rw [hcell slot hslot, Option.any_some, Option.getD_some]
  refine (gives_get t).then (Gives.then (gives_mapM_of_ok
    (f := fun slot => (t.slotIds[slot]!, (column.get? slot).getD v)) fun slot hslot => ?_) ?_)
  · exact (gives_reach (live_accesses h hslot).1 t).then
      ((gives_reach (hcell slot hslot) t).then (gives_pure _ t))
  · rw [hsame]
    exact gives_pure _ t

private theorem gives_satisfying (h : t.Holds s) (condition : Condition) (useIndex : Bool) :
    Gives (satisfying condition useIndex) t (t.satisfying condition useIndex) := by
  refine (gives_look (·.positionOf condition.column) t).bind fun position _ => ?_
  refine (gives_look (·.declAt position) t).bind fun decl _ => ?_
  refine (gives_look _ t).bind fun v _ => ?_
  cases useIndex with
  | true => exact (gives_look (·.indexAt position) t).bind fun index _ => gives_look _ t
  | false =>
    refine (gives_look (·.columnAt position) t).bind fun column hcolumn => ?_
    have hmem := List.mem_of_getElem? (Table.itemAt_eq_ok_iff.mp hcolumn)
    exact gives_compareRows h hmem condition.comparison v

theorem gives_resolve (h : t.Holds s) (filter : Option Filter) (useIndexes : Bool) :
    Gives (resolve filter useIndexes) t (t.resolve filter useIndexes) := by
  cases filter with
  | none => exact gives_rowIds h
  | some filter =>
    refine Gives.bind (gives_mapM fun condition _ => ?_) fun sets _ => gives_pure _ t
    exact gives_satisfying h condition useIndexes

/-- The cells of a row are found where the row is. -/
private theorem gives_cells (h : t.Holds s) (id : RowId) :
    Gives (cells id) t
      (match t.row? id with
        | some row => .ok row
        | none     => .error (.unknownRow id)) := by
  refine (gives_get t).then ?_
  cases hslot : t.slotOf? id with
  | none =>
    rw [Table.row?, hslot]
    exact gives_throw _ t
  | some slot =>
    obtain ⟨r, hr, _⟩ := h.slotOf?_eq_some_iff.mp hslot
    have hrow : t.rowAt? slot = some r.row := h.rowAt?_eq hr
    rw [Table.row?, hslot]
    show Gives _ t (match t.rowAt? slot with | some row => _ | none => _)
    rw [hrow]
    exact gives_mapM_reach hrow t

/-- Rows sort by values taken out of them as they sort by the values in them. -/
private theorem mergeSort_keyed {rows : List (List Value)} {position : Nat}
    {key : List Value → Value} (hkey : ∀ row ∈ rows, row[position]? = some (key row)) :
    ((rows.map fun row => (key row, row)).mergeSort fun a b => (compare a.1 b.1).isLE).map (·.2) =
      rows.mergeSort (Table.precedes position) := by
  have hcompare : ∀ a ∈ rows.map (fun row => (key row, row)),
      ∀ b ∈ rows.map (fun row => (key row, row)),
        (compare a.1 b.1).isLE = Table.precedes position a.2 b.2 := by
    intro a ha b hb
    obtain ⟨row, hrow, rfl⟩ := List.mem_map.mp ha
    obtain ⟨row', hrow', rfl⟩ := List.mem_map.mp hb
    rw [Table.precedes, hkey row hrow, hkey row' hrow']
    rfl
  rw [List.map_mergeSort hcompare, List.map_map]
  exact congrArg (List.mergeSort · _) (List.map_id' rows)

private theorem gives_order {key : Option Nat} {rows : List (List Value)}
    (hkey : ∀ position ∈ key, ∀ row ∈ rows, position < row.length) (s : σ) :
    Gives (order key rows) s (.ok (Relation.arrange key none rows)) := by
  cases key with
  | none => exact gives_pure rows s
  | some position =>
    have hvalue : ∀ row ∈ rows, row[position]? = some (row[position]?.getD (.bool false)) := by
      intro row hrow
      rw [List.getElem?_eq_getElem (hkey position rfl row hrow), Option.getD_some]
    refine Gives.then (gives_mapM_of_ok
      (f := fun row => (row[position]?.getD (.bool false), row)) fun row hrow => ?_) ?_
    · exact (gives_reach (hvalue row hrow) s).then (gives_pure _ s)
    · rw [mergeSort_keyed hvalue]
      exact gives_pure _ s

private theorem gives_project {positions : List Nat} {row : List Value} (t : Table)
    (h : ∀ position ∈ positions, position < row.length) (s : σ) :
    Gives (project positions row) s (t.project positions row) := by
  refine gives_mapM fun position hposition => ?_
  have hv := List.getElem?_eq_getElem (h position hposition)
  rw [hv]
  exact gives_reach rfl s

/-- The positions of named columns are positions of every row. -/
theorem gives_query (h : t.Holds s) (q : Select) (useIndexes : Bool) :
    Gives (query q useIndexes) t (t.query q useIndexes) := by
  refine (gives_look (·.projectedNames q.projection) t).bind fun columns _ => ?_
  refine (gives_look (fun t => columns.mapM t.positionOf) t).bind fun positions hpositions => ?_
  refine (gives_look (fun t => q.orderBy.mapM t.positionOf) t).bind fun key hkey => ?_
  refine (gives_resolve h q.filter useIndexes).bind fun ids _ => ?_
  refine Gives.bind (gives_mapM fun id _ => gives_cells h id) fun rows hrows => ?_
  have hlength : ∀ row ∈ rows, row.length = t.decls.length := by
    intro row hrow
    obtain ⟨id, _, hid⟩ := exists_of_mem_mapM hrows hrow
    cases hfound : t.row? id with
    | none =>
      rw [hfound] at hid
      cases hid
    | some found =>
      rw [hfound] at hid
      cases hid
      exact h.length_of_row? hfound
  have hnamed : ∀ {column position}, t.positionOf column = .ok position →
      ∀ row ∈ rows, position < row.length := by
    intro column position hposition row hrow
    rw [hlength row hrow]
    exact Table.positionOf_lt hposition
  have hordered : ∀ position ∈ key, ∀ row ∈ rows, position < row.length := by
    intro position hposition
    cases horder : q.orderBy with
    | none =>
      rw [horder] at hkey
      cases hkey
      cases hposition
    | some column =>
      rw [horder] at hkey
      obtain ⟨_, hcolumn, hkey⟩ := bind_eq_ok_iff.mp hkey
      cases hkey
      cases hposition
      exact hnamed hcolumn
  have hprojected : ∀ row ∈ Relation.arrange key q.limit rows,
      Gives (project positions row) t (t.project positions row) := by
    intro row hrow
    refine gives_project t (fun position hposition => ?_) t
    obtain ⟨column, _, hcolumn⟩ := exists_of_mem_mapM hpositions hposition
    exact hnamed hcolumn row (Relation.mem_of_mem_arrange hrow)
  refine (gives_order hordered t).then ?_
  exact (gives_mapM hprojected).bind fun _ _ => gives_pure _ t

end Guarded

end SqlEngine
