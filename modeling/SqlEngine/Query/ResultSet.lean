import SqlEngine.Data.Value
import SqlEngine.Json

/-! # Results -/

namespace SqlEngine

def Value.toJson : Value → Json
  | .int n  => .int n.toInt
  | .text s => .string s
  | .bool b => .bool b

/-- The rows that a query returns, each with one value for each of the columns, and their number. -/
structure ResultSet where
  columns : List String
  rows : List (List Value)
  count : Nat
  deriving DecidableEq, Repr

namespace ResultSet

/-- The value of a row under a column name. -/
def get? (r : ResultSet) (row : Nat) (column : String) : Option Value := do
  let position ← r.columns.idxOf? column
  let values ← r.rows[row]?
  values[position]?

/-- Each row as pairs of column name and value. -/
def records (r : ResultSet) : List (List (String × Value)) := r.rows.map r.columns.zip

def toJson (r : ResultSet) : Json :=
  .object [
    ("rows", .array (r.records.map fun record =>
      .object (record.map fun (column, v) => (column, v.toJson)))),
    ("count", .int r.count)]

end ResultSet

/-- What a statement answers: the rows of a query, or the number of rows that were inserted, changed
or removed. -/
inductive Outcome
  | rows (r : ResultSet)
  | affected (count : Nat)
  deriving DecidableEq, Repr

namespace Outcome

def rows? : Outcome → Option ResultSet
  | .rows r     => some r
  | .affected _ => none

def toJson : Outcome → Json
  | .rows r         => r.toJson
  | .affected count => .object [("affected", .int count)]

end Outcome

end SqlEngine
