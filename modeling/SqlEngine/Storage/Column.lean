import SqlEngine.Action

/-!
# Columns

A column stores its values by slot, in an array of their own kind. It knows nothing of rows: the
table that owns it says which slots are in use. Its view is the list of its values (`toList`).
-/

namespace SqlEngine

/-- The values of a column, unwrapped, one for each slot. -/
inductive Cells
  | int (values : Array Int64)
  | text (values : Array String)
  | bool (values : Array Bool)
  deriving DecidableEq, Repr

/-- The items of which the flag at the same place is set. Without a flag an item is dropped. -/
def flagged {α : Type} (keep : List Bool) (items : Array α) : Array α :=
  ((items.toList.zip keep).filterMap fun (item, kept) => if kept then some item else none).toArray

/-- One step of a walk over items: the next of the flags that are left decides on the item. When
they have run out, it is dropped. -/
def retainNext {α : Type} (progress : Array α × List Bool) (item : α) : Array α × List Bool :=
  (if progress.2.head?.getD false then progress.1.push item else progress.1, progress.2.tail)

/-- The items that a walk over them with one flag for each leaves. -/
def retained {α : Type} (keep : List Bool) (items : Array α) : Array α :=
  (items.foldl retainNext (#[], keep)).1

private theorem foldl_retainNext {α : Type} (l : List α) (kept : Array α) (keep : List Bool) :
    (l.foldl retainNext (kept, keep)).1 = kept ++ flagged keep l.toArray := by
  induction l generalizing kept keep with
  | nil => simp [flagged]
  | cons item l ih =>
    rw [List.foldl_cons, retainNext, ih]
    cases keep with
    | nil => simp [flagged]
    | cons flag keep => cases flag <;> simp [flagged]

/-- The walk and the pairing off keep the same items, whichever of the two lists is longer. -/
theorem retained_eq_flagged {α : Type} (keep : List Bool) (items : Array α) :
    retained keep items = flagged keep items := by
  rw [retained, ← Array.foldl_toList, foldl_retainNext, Array.empty_append]

namespace Cells

def ofKind : Kind → Cells
  | .int  => .int #[]
  | .text => .text #[]
  | .bool => .bool #[]

def kind : Cells → Kind
  | .int _  => .int
  | .text _ => .text
  | .bool _ => .bool

def size : Cells → Nat
  | .int values  => values.size
  | .text values => values.size
  | .bool values => values.size

def toList : Cells → List Value
  | .int values  => values.toList.map .int
  | .text values => values.toList.map .text
  | .bool values => values.toList.map .bool

def get? (cells : Cells) (slot : Nat) : Option Value :=
  match cells with
  | .int values  => values[slot]?.map .int
  | .text values => values[slot]?.map .text
  | .bool values => values[slot]?.map .bool

/-- The cells with one more slot, if the value is of their kind. -/
def push? : Cells → Value → Option Cells
  | .int values,  .int n  => some (.int (values.push n))
  | .text values, .text s => some (.text (values.push s))
  | .bool values, .bool b => some (.bool (values.push b))
  | _,            _       => none

/-- The cells with another value in a slot, if the value is of their kind. -/
def set? (cells : Cells) (slot : Nat) (v : Value) : Option Cells :=
  match cells, v with
  | .int values,  .int n  => some (.int (values.setIfInBounds slot n))
  | .text values, .text s => some (.text (values.setIfInBounds slot s))
  | .bool values, .bool b => some (.bool (values.setIfInBounds slot b))
  | _,            _       => none

/-- The cells of the flagged slots. Numbers and texts are dropped where they stand, booleans are
collected anew. -/
def keepFlagged (keep : List Bool) : Cells → Cells
  | .int values  => .int (retained keep values)
  | .text values => .text (retained keep values)
  | .bool values => .bool (flagged keep values)

@[simp] theorem kind_ofKind (k : Kind) : (ofKind k).kind = k := by cases k <;> rfl

@[simp] theorem toList_ofKind (k : Kind) : (ofKind k).toList = [] := by cases k <;> rfl

theorem length_toList (cells : Cells) : cells.toList.length = cells.size := by
  cases cells <;> simp [toList, size]

theorem get?_eq_getElem? (cells : Cells) (slot : Nat) : cells.get? slot = cells.toList[slot]? := by
  cases cells <;> simp [get?, toList]

theorem kind_eq_of_mem {cells : Cells} {v : Value} (h : v ∈ cells.toList) :
    v.kind = cells.kind := by
  cases cells <;>
    (obtain ⟨a, _, rfl⟩ := List.mem_map.mp h; rfl)

theorem toList_keepFlagged (keep : List Bool) (cells : Cells) :
    (cells.keepFlagged keep).toList =
      (cells.toList.zip keep).filterMap fun (v, kept) => if kept then some v else none := by
  cases cells <;>
    simp only [keepFlagged, retained_eq_flagged, toList, flagged, List.zip_map_left, List.filterMap_map,
      List.map_filterMap] <;>
    congr 1 <;> funext e <;> obtain ⟨v, _ | _⟩ := e <;> rfl

theorem isSome_push?_iff {cells : Cells} {v : Value} :
    (cells.push? v).isSome ↔ v.kind = cells.kind := by
  cases cells <;> cases v <;> simp [push?, Value.kind, kind]

theorem push?_eq_some {cells cells' : Cells} {v : Value} (h : cells.push? v = some cells') :
    cells'.kind = cells.kind ∧ cells'.toList = cells.toList ++ [v] := by
  cases cells <;> cases v <;> cases h <;> simp [kind, toList]

theorem isSome_set?_iff {cells : Cells} {slot : Nat} {v : Value} :
    (cells.set? slot v).isSome ↔ v.kind = cells.kind := by
  cases cells <;> cases v <;> simp [set?, Value.kind, kind]

theorem set?_eq_some {cells cells' : Cells} {slot : Nat} {v : Value}
    (h : cells.set? slot v = some cells') :
    cells'.kind = cells.kind ∧ cells'.toList = cells.toList.set slot v := by
  cases cells <;> cases v <;> cases h <;> simp [kind, toList, List.map_set]

end Cells

namespace ColumnDecl

/-- A literal as a value of the declared type. -/
def convert (decl : ColumnDecl) (literal : Value) : Except Error Value :=
  match literal.coerce decl.type with
  | .ok v         => .ok v
  | .error misfit => .error (.typeMismatch decl.name decl.type misfit)

/-- Fails on a text that is longer than the declared type allows. -/
def checkLength (decl : ColumnDecl) (v : Value) : Except Error Unit :=
  match decl.type, v with
  | .varchar limit, .text s =>
    if limit < s.length then .error (.textTooLong decl.name limit s.length) else .ok ()
  | _,              _       => .ok ()

/-- The error of a value that is not of the declared type. -/
def mismatch (decl : ColumnDecl) (v : Value) : Error :=
  .typeMismatch decl.name decl.type (.kind v.kind)

/-- Fails on a value that is not of the declared type. -/
def checkType (decl : ColumnDecl) (v : Value) : Except Error Unit :=
  if v.isOf decl.type then .ok () else .error (decl.mismatch v)

/-- A literal as a value that the column may store, within its length if that is enforced. -/
def fit (decl : ColumnDecl) (literal : Value) (enforceLength : Bool) : Except Error Value := do
  let v ← decl.convert literal
  if enforceLength then
    decl.checkLength v
  return v

end ColumnDecl

/-- A column as declared, and its cells. -/
structure Column where
  decl : ColumnDecl
  cells : Cells
  deriving DecidableEq, Repr

namespace Column

/-- The column without any slots. -/
def ofDecl (decl : ColumnDecl) : Column := ⟨decl, .ofKind decl.type.kind⟩

def name (column : Column) : String := column.decl.name

/-- The number of slots. -/
def size (column : Column) : Nat := column.cells.size

def isEmpty (column : Column) : Bool := column.size = 0

/-- The values of all slots in order. -/
def toList (column : Column) : List Value := column.cells.toList

def get? (column : Column) (slot : Nat) : Option Value := column.cells.get? slot

/-- The error of a value that is not of the column's type. -/
def mismatch (column : Column) (v : Value) : Error := column.decl.mismatch v

/-- Fails on a value that is not of the column's type. -/
def checkType (column : Column) (v : Value) : Except Error Unit := column.decl.checkType v

/-- Adds a slot at the end. -/
def push (column : Column) (v : Value) : Except Error Column :=
  match column.cells.push? v with
  | some cells => .ok { column with cells }
  | none       => .error (column.mismatch v)

/-- Replaces the value of a slot. A slot past the end is reported before a value of another type. -/
def set (column : Column) (slot : Nat) (v : Value) : Except Error Column :=
  if column.size ≤ slot then .error (.unknownRow slot)
  else
    match column.cells.set? slot v with
    | some cells => .ok { column with cells }
    | none       => .error (column.mismatch v)

/-- Keeps the slots that are flagged, in order, and renumbers them. -/
def keepFlagged (column : Column) (keep : List Bool) : Column :=
  { column with cells := column.cells.keepFlagged keep }

end Column

end SqlEngine
