import SqlEngine.Storage.Table

/-!
# Changes to tables

Each change checks all that can be wrong with it before it writes anything, and then writes one cell
and one index entry after the other. Once dead rows outnumber the live ones, their slots are
dropped.
-/

namespace SqlEngine

namespace Field

def changeColumn (next : Column → Except Error Column) : Action Field Unit :=
  Action.within (fun field => .ok field.column) (fun field column => { field with column })
    (Action.change next)

def changeIndex (next : ValueIndex → Except Error ValueIndex) : Action Field Unit :=
  Action.within (fun field => .ok field.index) (fun field index => { field with index })
    (Action.change next)

/-- Stores the value of a new row. -/
def append (id : RowId) (v : Value) : Action Field Unit := do
  changeIndex (·.insert v id)
  changeColumn (·.push v)

/-- Gives a row another value. A value that stays the same is not written. -/
def assign (id : RowId) (slot : Nat) (v : Value) : Action Field Unit := do
  match (← get).column.get? slot with
  | none     => throw (.unknownRow id)
  | some old =>
    if old ≠ v then
      changeColumn (·.set slot v)
      changeIndex (·.remove old id)
      changeIndex (·.insert v id)

/-- Takes a row out of the index. Its slot keeps the value. -/
def forget (id : RowId) (slot : Nat) : Action Field Unit := do
  match (← get).column.get? slot with
  | none   => return
  | some v => changeIndex (·.remove v id)

end Field

namespace Table

/-- The table with another column and index at a position. -/
def setField (t : Table) (position : Nat) (field : Field) : Table :=
  { t with
    columns := t.columns.set position field.column
    indexes := t.indexes.set position field.index }

/-- Runs an action on the column and the index at a position. -/
def atField {α : Type} (position : Nat) (act : Action Field α) : Action Table α :=
  Action.within (·.fieldAt position) (·.setField position) act

/-! ### New rows -/

/-- Fails on a row that has not one value of the right type for each column. -/
def checkRow (t : Table) (row : List Value) : Except Error Unit := do
  if row.length ≠ t.columns.length then
    throw (.columnCountMismatch t.columns.length row.length)
  (t.columns.zip row).forM fun (column, v) => column.checkType v

/-- The table with a slot for its next row. -/
def addSlot (t : Table) : Table :=
  { t with
    slotIds := t.slotIds.push t.nextId
    live := t.live.push true
    rowCount := t.rowCount + 1
    nextId := t.nextId + 1 }

/-- Adds a row of values in declared order and gives its id. -/
def insert (row : List Value) : Action Table RowId := do
  Action.observe (·.checkRow row)
  let t ← get
  (t.fields.zip row).zipIdx.forM fun ((_, v), position) =>
    atField position (Field.append t.nextId v)
  modify addSlot
  return t.nextId

/-! ### New values -/

/-- Fails on an assignment to no column or of a value that is not of its column's type. -/
def checkAssignment (t : Table) (position : Nat) (v : Value) : Except Error Unit := do
  (← t.declAt position).checkType v

/-- Makes the assignments, in order, to each of the rows, and gives the number of rows. -/
def update (ids : RowIds) (assignments : List (Nat × Value)) : Action Table Nat := do
  let rows ← Action.observe (·.slotsOf ids)
  Action.observe fun t => assignments.forM fun (position, v) => t.checkAssignment position v
  rows.forM fun (id, slot) =>
    assignments.forM fun (position, v) => atField position (Field.assign id slot v)
  return ids.size

/-! ### Rows that go -/

/-- Marks a slot as that of a dead row. -/
def killSlot (slot : Nat) (t : Table) : Table :=
  { t with
    live := t.live.setIfInBounds slot false
    rowCount := t.rowCount - 1 }

/-- Takes a row out of every index and marks its slot. -/
def removeRow (id : RowId) (slot : Nat) : Action Table Unit := do
  (List.range (← get).fields.length).forM fun position => atField position (Field.forget id slot)
  modify (killSlot slot)

/-- The table without the slots of dead rows. The ids of the others stay, and all that are left are
live. -/
def dropDeadSlots (t : Table) : Table :=
  let keep := t.live.toList
  let slotIds := retained keep t.slotIds
  { t with
    columns := t.columns.map (·.keepFlagged keep)
    slotIds
    live := Array.replicate slotIds.size true }

/-- Drops the slots of dead rows if there are more of them than live rows. -/
def reclaim (t : Table) : Table :=
  if t.rowCount < t.slotCount - t.rowCount then t.dropDeadSlots else t

/-- Removes the rows and gives their number. -/
def delete (ids : RowIds) : Action Table Nat := do
  let rows ← Action.observe (·.slotsOf ids)
  rows.forM fun (id, slot) => removeRow id slot
  modify reclaim
  return ids.size

end Table

end SqlEngine
