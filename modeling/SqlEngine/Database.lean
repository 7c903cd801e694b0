import SqlEngine.Execution
import SqlEngine.Sql.Parser

/-! # Databases -/

namespace SqlEngine

structure Database where
  catalog : Catalog
  settings : Settings
  deriving DecidableEq, Repr

/-- A table's name, its columns and the number of its rows. -/
structure TableSummary where
  name : String
  columns : List ColumnDecl
  rowCount : Nat
  deriving DecidableEq, Repr

namespace Database

/-- A database without tables. -/
def create (settings : Settings) : Database := ⟨.empty, settings⟩

def onCatalog {α : Type} (act : Action Catalog α) : Action Database α :=
  Action.within (fun db => .ok db.catalog) (fun db catalog => { db with catalog }) act

def createTable (name : String) (decls : List ColumnDecl) : Action Database Unit :=
  onCatalog (Catalog.createTable name decls)

def dropTable (name : String) : Action Database Unit := do
  let _ ← onCatalog (Catalog.dropTable name)

def table? (db : Database) (name : String) : Option Table := db.catalog.table? name

def tableNames (db : Database) : List String := db.catalog.tableNames

def describe (db : Database) (name : String) : Except Error TableSummary := do
  let t ← db.catalog.table name
  return ⟨t.name, t.decls, t.rowCount⟩

/-- Runs the statement that a text holds. -/
def execute (sql : String) : Action Database Outcome := do
  let statement ← Action.observe fun _ => Statement.parse sql
  let settings := (← get).settings
  onCatalog (statement.run settings)

/-- Runs texts in order up to the first that fails. Those before it stay applied. -/
def executeAll (sqls : List String) : Action Database (List Outcome) := sqls.mapM execute

/-- Answers a query. Any other statement is refused. -/
def query (db : Database) (sql : String) : Except Error ResultSet := do
  match ← Statement.parse sql with
  | .select q => db.catalog.query db.settings q
  | other     => throw (.notAQuery other.form)

end Database

end SqlEngine
