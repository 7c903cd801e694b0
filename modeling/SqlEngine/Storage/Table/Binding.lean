import SqlEngine.Storage.Table.Change

/-!
# Changes by column name

Statements name columns and hold literals. A binding says where in a tuple the value of each
declared column stands; it is found once for all tuples, and its places are places of every tuple of
its arity.
-/

namespace SqlEngine

/-- For each declared column, in order, its place in a tuple. -/
structure Binding where
  arity : Nat
  places : List Nat

namespace Binding

/-- Tuples in declared order. -/
def positional (width : Nat) : Binding := ⟨width, List.range width⟩

/-- The values of a tuple for the declared columns, in declared order. -/
def row (binding : Binding) (t : Table) (enforceLength : Bool) (tuple : List Value) :
    Except Error (List Value) :=
  if tuple.length = binding.arity then
    binding.places.zipIdx.mapM fun (place, position) => t.fit position tuple[place]! enforceLength
  else
    .error (.columnCountMismatch binding.arity tuple.length)

end Binding

namespace Table

/-- The positions of the named columns, behind those of the names before them. Fails on the first
name that is not a column's or that has the position of an earlier one. -/
def positionsFrom (t : Table) (found : List Nat) : List String → Except Error (List Nat)
  | []           => return found
  | name :: rest => do
    let position ← t.positionOf name
    if position ∈ found then
      throw (.duplicateColumn t.name name)
    t.positionsFrom (found ++ [position]) rest

/-- The binding of a column list, which has to name every column once; without one the tuples are in
declared order. -/
def binding (t : Table) : Option (List String) → Except Error Binding
  | none       => return .positional t.width
  | some names => do
    let positions ← t.positionsFrom [] names
    let places ← (List.range t.width).mapM fun position =>
      match positions.idxOf? position with
      | some place => .ok place
      | none       => .error (.columnCountMismatch t.width names.length)
    return ⟨names.length, places⟩

/-- Inserts the tuples, once all of them are found to fit, and gives the ids of the new rows. -/
def insertTuples (columns : Option (List String)) (tuples : List (List Value))
    (enforceLength : Bool) : Action Table (List RowId) := do
  let rows ← Action.observe fun t => do
    let binding ← t.binding columns
    tuples.mapM (binding.row t enforceLength)
  rows.mapM insert

/-- Makes the assignments to the rows, once all of them are found to fit, and gives the number of
rows. -/
def assign (assignments : List (String × Value)) (ids : RowIds) (enforceLength : Bool) :
    Action Table Nat := do
  let resolved ← Action.observe fun t =>
    assignments.mapM fun (column, literal) => do
      let position ← t.positionOf column
      return (position, ← t.fit position literal enforceLength)
  update ids resolved

end Table

end SqlEngine
