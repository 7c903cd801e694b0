import SqlEngine.Query.Select
import SqlEngine.Settings
import SqlEngine.Storage.Catalog

/-! # Running statements -/

namespace SqlEngine

namespace Catalog

def query (c : Catalog) (settings : Settings) (q : Select) : Except Error ResultSet := do
  (← c.table q.table).query q settings.useIndexes

end Catalog

namespace Statement

/-- Runs a statement. Creating a table affects no rows. -/
def run (settings : Settings) : Statement → Action Catalog Outcome
  | .createTable s => do
    Catalog.createTable s.table s.columns
    return .affected 0
  | .insert s      => do
    let ids ← Catalog.onTable s.table (Table.insertTuples s.columns s.tuples settings.enforceLength)
    return .affected ids.length
  | .select s      => do
    return .rows (← Action.observe (·.query settings s))
  | .update s      => Catalog.onTable s.table do
    let ids ← Action.observe (·.resolve s.filter settings.useIndexes)
    return .affected (← Table.assign s.assignments ids settings.enforceLength)
  | .delete s      => Catalog.onTable s.table do
    let ids ← Action.observe (·.resolve s.filter settings.useIndexes)
    return .affected (← Table.delete ids)

end Statement

end SqlEngine
