import SqlEngine.Proofs.IndexedAnswers

/-!
# Tables as relations

All that statements can tell of a table is its name, its columns and the values of its live rows in
the order of their ids. A relation is a table reduced to that. Queries and changes are defined on it
by filtering, sorting, mapping and appending rows, without ids, slots or indexes; names and literals
are resolved by its heading, a table of the same columns without rows.
-/

namespace SqlEngine

structure Relation where
  name : String
  decls : List ColumnDecl
  rows : List (List Value)
  deriving DecidableEq, Repr

/-- The table without ids, slots and indexes. -/
def Table.relation (t : Table) : Relation := ⟨t.name, t.decls, t.scan.map (·.2)⟩

namespace Relation

def heading (r : Relation) : Table := .empty r.name r.decls

/-! ### What filters select -/

/-- Whether a row satisfies a condition. -/
def test (r : Relation) (condition : Condition) : Except Error (List Value → Bool) := do
  let position ← r.heading.positionOf condition.column
  let v ← (← r.heading.declAt position).convert condition.literal
  return fun row => row[position]?.any (condition.comparison.holds · v)

/-- Whether a row passes all of the tests or any of them. Of no tests it passes neither. -/
def passes (connective : Connective) (tests : List (List Value → Bool)) (row : List Value) : Bool :=
  match connective with
  | .and => !tests.isEmpty && tests.all (· row)
  | .or  => tests.any (· row)

/-- Whether a filter selects a row; without a filter every row is. -/
def selector (r : Relation) : Option Filter → Except Error (List Value → Bool)
  | none        => return fun _ => true
  | some filter => do return passes filter.connective (← filter.conditions.mapM r.test)

/-! ### Queries -/

/-- Rows in the order of their values at a position, up to a limit. -/
def arrange (key limit : Option Nat) (rows : List (List Value)) : List (List Value) :=
  let ordered := match key with
    | some position => rows.mergeSort (Table.precedes position)
    | none          => rows
  match limit with
  | some limit => ordered.take limit
  | none       => ordered

/-- Filters, orders, limits and then projects. -/
def query (r : Relation) (q : Select) : Except Error ResultSet := do
  let columns ← r.heading.projectedNames q.projection
  let positions ← columns.mapM r.heading.positionOf
  let key ← q.orderBy.mapM r.heading.positionOf
  let selects ← r.selector q.filter
  let rows := arrange key q.limit (r.rows.filter selects)
  let values := rows.map fun row => positions.filterMap (row[·]?)
  return ⟨columns, values, values.length⟩

theorem mem_of_mem_arrange {key limit : Option Nat} {rows : List (List Value)} {row : List Value}
    (h : row ∈ arrange key limit rows) : row ∈ rows := by
  have hordered : ∀ {key : Option Nat}, row ∈ arrange key none rows → row ∈ rows := by
    intro key hrow
    cases key with
    | none => exact hrow
    | some position => exact List.mem_mergeSort.mp hrow
  cases limit with
  | none => exact hordered h
  | some limit => exact hordered (List.mem_of_mem_take h)

/-! ### Changes -/

/-- The rows that tuples stand for. -/
def bind (r : Relation) (columns : Option (List String)) (tuples : List (List Value))
    (enforceLength : Bool) : Except Error (List (List Value)) := do
  let binding ← r.heading.binding columns
  tuples.mapM (binding.row r.heading enforceLength)

/-- Assignments by position, of values that fit. -/
def resolve (r : Relation) (assignments : List (String × Value)) (enforceLength : Bool) :
    Except Error (List (Nat × Value)) :=
  assignments.mapM fun (column, literal) => do
    let position ← r.heading.positionOf column
    return (position, ← r.heading.fit position literal enforceLength)

def append (rows : List (List Value)) (r : Relation) : Relation :=
  { r with rows := r.rows ++ rows }

def assign (selects : List Value → Bool) (assignments : List (Nat × Value)) (r : Relation) :
    Relation :=
  { r with rows := r.rows.map fun row => if selects row then assignAll assignments row else row }

def remove (selects : List Value → Bool) (r : Relation) : Relation :=
  { r with rows := r.rows.filter fun row => !selects row }

def count (selects : List Value → Bool) (r : Relation) : Nat := (r.rows.filter selects).length

end Relation

/-- What a statement on an existing table answers and does to the table's relation. -/
def Statement.onRelation (enforceLength : Bool) : Statement → Action Relation Outcome
  | .createTable s => throw (.duplicateTable s.table)
  | .insert s      => do
    let rows ← Action.observe (·.bind s.columns s.tuples enforceLength)
    modify (·.append rows)
    return .affected rows.length
  | .select s      => do
    return .rows (← Action.observe (·.query s))
  | .update s      => do
    let selects ← Action.observe (·.selector s.filter)
    let assignments ← Action.observe (·.resolve s.assignments enforceLength)
    let count := (← get).count selects
    modify (·.assign selects assignments)
    return .affected count
  | .delete s      => do
    let selects ← Action.observe (·.selector s.filter)
    let count := (← get).count selects
    modify (·.remove selects)
    return .affected count

/-! ### Headings resolve as their tables do -/

namespace Table

theorem positionOf_heading (t : Table) : t.relation.heading.positionOf = t.positionOf := rfl

/-- What is declared at a position, if anything is. -/
theorem declAt_bind {α : Type} (t : Table) (position : Nat) (next : ColumnDecl → Except Error α) :
    t.declAt position >>= next =
      match t.decls[position]? with
      | some decl => next decl
      | none      => .error (.columnOutOfRange t.name position) := by
  rw [declAt, itemAt]
  cases t.decls[position]? <;> rfl

theorem projectedNames_heading (t : Table) (projection : Projection) :
    t.relation.heading.projectedNames projection = t.projectedNames projection := rfl

private theorem positionsFrom_heading (t : Table) (found : List Nat) (names : List String) :
    t.relation.heading.positionsFrom found names = t.positionsFrom found names := by
  induction names generalizing found with
  | nil => rfl
  | cons name rest ih =>
    rw [positionsFrom, positionsFrom, positionOf_heading]
    simp only [ih]
    rfl

private theorem binding_heading (t : Table) (columns : Option (List String)) :
    t.relation.heading.binding columns = t.binding columns := by
  cases columns with
  | none => rfl
  | some names =>
    rw [binding, positionsFrom_heading, binding]
    rfl

theorem test_relation (t : Table) (condition : Condition) :
    t.relation.test condition = do
      let position ← t.positionOf condition.column
      let v ← (← t.declAt position).convert condition.literal
      return fun row => row[position]?.any (condition.comparison.holds · v) := rfl

theorem bind_relation (t : Table) (columns : Option (List String)) (tuples : List (List Value))
    (enforce : Bool) :
    t.relation.bind columns tuples enforce =
      t.binding columns >>= fun binding => tuples.mapM (binding.row t enforce) := by
  rw [Relation.bind, binding_heading]
  rfl

theorem resolve_relation (t : Table) (assignments : List (String × Value)) (enforce : Bool) :
    t.relation.resolve assignments enforce =
      assignments.mapM fun (column, literal) => do
        let position ← t.positionOf column
        return (position, ← t.fit position literal enforce) := rfl

end Table

end SqlEngine
