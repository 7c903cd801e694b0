import SqlEngine.Query.Predicate
import SqlEngine.Query.ResultSet

/-!
# Queries

A query filters, orders, limits and then projects. It orders whole rows, so it may order by a column
that it does not return; the sort is stable, so rows that tie stay in the order of their ids.
-/

namespace SqlEngine.Table

/-- The names of the columns that a projection returns, which must differ. -/
def projectedNames (t : Table) (projection : Projection) : Except Error (List String) :=
  let names := match projection with
    | .all           => t.columnNames
    | .columns names => names
  match firstRepeated? names with
  | some column => .error (.duplicateColumn t.name column)
  | none        => .ok names

/-- Whether a row may stand before another when rows are ordered by the value at a position. -/
def precedes (position : Nat) (a b : List Value) : Bool := (compare a[position]? b[position]?).isLE

/-- The values of a row at the given positions. -/
def project (t : Table) (positions : List Nat) (row : List Value) : Except Error (List Value) :=
  positions.mapM fun position =>
    match row[position]? with
    | some v => .ok v
    | none   => .error (.columnOutOfRange t.name position)

def query (t : Table) (q : Select) (useIndexes : Bool) : Except Error ResultSet := do
  let columns ← t.projectedNames q.projection
  let positions ← columns.mapM t.positionOf
  let key ← q.orderBy.mapM t.positionOf
  let ids ← t.resolve q.filter useIndexes
  let rows ← ids.toList.mapM fun id =>
    match t.row? id with
    | some row => .ok row
    | none     => .error (.unknownRow id)
  let ordered := match key with
    | some position => rows.mergeSort (precedes position)
    | none          => rows
  let limited := match q.limit with
    | some limit => ordered.take limit
    | none       => ordered
  let values ← limited.mapM (t.project positions)
  return ⟨columns, values, values.length⟩

end SqlEngine.Table
