import SqlEngine.Storage.Table

/-!
# The rows that a filter selects

Every condition is answered by a set of rows, through the index of its column or by comparing every
live row, and the sets are then intersected or united. A condition that cannot be answered is an
error even when the others already decide the outcome.
-/

namespace SqlEngine.Table

/-- The live rows of which the value in a column compares to the given one as asked. -/
def compareRows (t : Table) (column : Column) (c : Comparison) (v : Value) : RowIds :=
  .ofList <| (t.liveSlots.filter fun slot => (column.get? slot).any (c.holds · v)).map
    (t.slotIds[·]!)

/-- The live rows that satisfy a condition. -/
def satisfying (t : Table) (condition : Condition) (useIndex : Bool) : Except Error RowIds := do
  let position ← t.positionOf condition.column
  let v ← (← t.declAt position).convert condition.literal
  if useIndex then
    (← t.indexAt position).lookup condition.comparison v
  else
    return t.compareRows (← t.columnAt position) condition.comparison v

/-- The set of the rows in all of the sets or in any of them. Of no sets it is empty either way. -/
def combine (connective : Connective) : List RowIds → RowIds
  | []            => .empty
  | first :: rest =>
    match connective with
    | .and => rest.foldl .inter first
    | .or  => rest.foldl .union first

/-- The live rows that a filter selects; without a filter, all of them. -/
def resolve (t : Table) (filter : Option Filter) (useIndexes : Bool) : Except Error RowIds :=
  match filter with
  | none        => return t.rowIds
  | some filter => do
    let sets ← filter.conditions.mapM (t.satisfying · useIndexes)
    return combine filter.connective sets

end SqlEngine.Table
