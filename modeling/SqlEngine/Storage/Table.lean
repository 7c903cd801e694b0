import SqlEngine.Data.Repetition
import SqlEngine.Storage.Column
import SqlEngine.Storage.ValueIndex
import SqlEngine.Storage.Slot

/-!
# Tables

A table stores its rows by column: every declared column has a column with a value for each slot,
and an index over the values of the live rows. Two more arrays say for each slot which row is there
and whether it is live. This module reads tables; `SqlEngine.Storage.Table.Change` changes them.
-/

namespace SqlEngine

/-- The number of live rows is kept beside the slots, and so is the id of the next row, since the
slots of dead rows may be gone. -/
structure Table where
  name : String
  decls : List ColumnDecl
  columns : List Column
  indexes : List ValueIndex
  slotIds : Array RowId
  live : Array Bool
  rowCount : Nat
  nextId : RowId
  deriving DecidableEq, Repr

namespace Table

/-- A table without rows, whatever its columns are called. -/
def empty (name : String) (decls : List ColumnDecl) : Table where
  name
  decls
  columns := decls.map .ofDecl
  indexes := decls.map fun decl => .ofKind decl.type.kind
  slotIds := #[]
  live := #[]
  rowCount := 0
  nextId := 0

/-- A table without rows. -/
def create (name : String) (decls : List ColumnDecl) : Except Error Table :=
  match firstRepeated? (decls.map (·.name)) with
  | some column => .error (.duplicateColumn name column)
  | none        => .ok (empty name decls)

/-! ### Columns -/

def columnNames (t : Table) : List String := t.decls.map (·.name)

/-- The number of declared columns. -/
def width (t : Table) : Nat := t.decls.length

def positionOf (t : Table) (column : String) : Except Error Nat :=
  match t.columnNames.idxOf? column with
  | some position => .ok position
  | none          => .error (.unknownColumn t.name column)

/-- The column that has a name. -/
def column? (t : Table) (name : String) : Option Column := t.columns.find? (·.name = name)

/-- The index of a declared column. -/
def index? (t : Table) (name : String) : Option ValueIndex :=
  match t.positionOf name with
  | .ok position => t.indexes[position]?
  | .error _     => none

/-- What is at a position of a list that has an item for each column. -/
def itemAt {α : Type} (t : Table) (items : List α) (position : Nat) : Except Error α :=
  match items[position]? with
  | some item => .ok item
  | none      => .error (.columnOutOfRange t.name position)

def declAt (t : Table) (position : Nat) : Except Error ColumnDecl := t.itemAt t.decls position

def columnAt (t : Table) (position : Nat) : Except Error Column := t.itemAt t.columns position

def indexAt (t : Table) (position : Nat) : Except Error ValueIndex := t.itemAt t.indexes position

/-- A literal as a value for the column at a position. -/
def fit (t : Table) (position : Nat) (literal : Value) (enforceLength : Bool) :
    Except Error Value := do
  (← t.declAt position).fit literal enforceLength

/-! ### Rows -/

/-- The number of slots, those of dead rows included. -/
def slotCount (t : Table) : Nat := t.slotIds.size

/-- The slots of the live rows, ascending. -/
def liveSlots (t : Table) : List Nat :=
  t.live.toList.zipIdx.filterMap fun (live, slot) => if live then some slot else none

/-- The ids of all live rows. -/
def rowIds (t : Table) : RowIds := .ofList (t.liveSlots.map (t.slotIds[·]!))

/-- The slot of a live row. -/
def slotOf? (t : Table) (id : RowId) : Option Nat := do
  let slot ← Slot.find? t.slotIds id
  if t.live[slot]? = some true then some slot else none

def contains (t : Table) (id : RowId) : Bool := (t.slotOf? id).isSome

/-- The values in a slot, in declared order. -/
def rowAt? (t : Table) (slot : Nat) : Option (List Value) := t.columns.mapM (·.get? slot)

/-- The values of a live row, in declared order. -/
def row? (t : Table) (id : RowId) : Option (List Value) := do
  t.rowAt? (← t.slotOf? id)

/-- The live rows in the order of their ids. -/
def scan (t : Table) : List (RowId × List Value) :=
  t.liveSlots.filterMap fun slot => (t.rowAt? slot).map (t.slotIds[slot]!, ·)

/-- The slots of the rows, all of which must be live. -/
def slotsOf (t : Table) (ids : RowIds) : Except Error (List (RowId × Nat)) :=
  ids.toList.mapM fun id =>
    match t.slotOf? id with
    | some slot => .ok (id, slot)
    | none      => .error (.unknownRow id)

end Table

/-- A column and the index over its values. -/
structure Field where
  column : Column
  index : ValueIndex
  deriving DecidableEq, Repr

namespace Table

/-- The columns with their indexes, as far as there are both. -/
def fields (t : Table) : List Field := List.zipWith Field.mk t.columns t.indexes

def fieldAt (t : Table) (position : Nat) : Except Error Field := do
  return ⟨← t.columnAt position, ← t.indexAt position⟩

def field? (t : Table) (name : String) : Option Field := do
  return ⟨← t.column? name, ← t.index? name⟩

end Table

end SqlEngine
