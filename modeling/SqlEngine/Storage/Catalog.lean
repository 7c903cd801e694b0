import SqlEngine.Storage.Table.Binding

/-! # Catalogs -/

namespace SqlEngine

/-- The tables of a database, by name. -/
structure Catalog where
  tables : SortedMap String Table
  deriving DecidableEq, Repr

namespace Catalog

def empty : Catalog := ⟨.empty⟩

/-- The names of all tables, ascending. -/
def tableNames (c : Catalog) : List String := c.tables.keys

def table? (c : Catalog) (name : String) : Option Table := c.tables.get? name

def table (c : Catalog) (name : String) : Except Error Table :=
  match c.table? name with
  | some t => .ok t
  | none   => .error (.unknownTable name)

def put (c : Catalog) (name : String) (t : Table) : Catalog := ⟨c.tables.insert name t⟩

/-- Runs an action on one table. -/
def onTable {α : Type} (name : String) (act : Action Table α) : Action Catalog α :=
  Action.within (·.table name) (fun c t => c.put name t) act

/-- Adds a table without rows. -/
def createTable (name : String) (decls : List ColumnDecl) : Action Catalog Unit :=
  Action.change fun c => do
    if (c.table? name).isSome then
      throw (.duplicateTable name)
    return c.put name (← Table.create name decls)

/-- Removes a table and gives it. -/
def dropTable (name : String) : Action Catalog Table := do
  let t ← Action.observe (·.table name)
  modify fun c => ⟨c.tables.erase name⟩
  return t

end Catalog

end SqlEngine
