import SqlEngine.Data.Comparison
import SqlEngine.Data.Value

/-! # Statements -/

namespace SqlEngine

/-- A column as a table declares it. -/
structure ColumnDecl where
  name : String
  type : DataType
  deriving DecidableEq, Repr

/-- A comparison between a column and a literal. -/
structure Condition where
  column : String
  comparison : Comparison
  literal : Value
  deriving DecidableEq, Repr

/-- How the conditions of one clause combine. -/
inductive Connective | and | or
  deriving DecidableEq, Repr

/-- The conditions after `WHERE`, all joined by one connective. -/
structure Filter where
  connective : Connective
  conditions : List Condition
  deriving DecidableEq, Repr

/-- What a query returns of each row: every column as declared, or the named ones as listed. -/
inductive Projection
  | all
  | columns (names : List String)
  deriving DecidableEq, Repr

structure CreateTable where
  table : String
  columns : List ColumnDecl
  deriving DecidableEq, Repr

/-- Without a column list the tuples follow the declared order. -/
structure Insert where
  table : String
  columns : Option (List String)
  tuples : List (List Value)
  deriving DecidableEq, Repr

structure Select where
  projection : Projection
  table : String
  filter : Option Filter
  orderBy : Option String
  limit : Option Nat
  deriving DecidableEq, Repr

/-- Each assignment gives a column and the literal that it takes. -/
structure Update where
  table : String
  assignments : List (String × Value)
  filter : Option Filter
  deriving DecidableEq, Repr

structure Delete where
  table : String
  filter : Option Filter
  deriving DecidableEq, Repr

inductive Statement
  | createTable (s : CreateTable)
  | insert (s : Insert)
  | select (s : Select)
  | update (s : Update)
  | delete (s : Delete)
  deriving DecidableEq, Repr

/-- The five forms of statement. -/
inductive StatementForm | createTable | insert | select | update | delete
  deriving DecidableEq, Repr

/-- The words that open a statement of the form. -/
def StatementForm.name : StatementForm → String
  | .createTable => "CREATE TABLE"
  | .insert      => "INSERT"
  | .select      => "SELECT"
  | .update      => "UPDATE"
  | .delete      => "DELETE"

namespace Statement

/-- The one table that the statement reads or changes. -/
def table : Statement → String
  | .createTable s => s.table
  | .insert s      => s.table
  | .select s      => s.table
  | .update s      => s.table
  | .delete s      => s.table

def form : Statement → StatementForm
  | .createTable _ => .createTable
  | .insert _      => .insert
  | .select _      => .select
  | .update _      => .update
  | .delete _      => .delete

end Statement

end SqlEngine
