import SqlEngine.Database
import SqlEngine.Proofs.CatalogCalls

/-!
# Calls on databases

A call on a database is an action on its catalog; the settings stay what they were. So every call
is a transaction, and what two databases do on the same calls can differ only where the actions on
their catalogs do.
-/

namespace SqlEngine.Database

variable {db : Database} {c : Catalog}

/-- A call on a database. -/
inductive Call
  | execute (sql : String)
  | query (sql : String)
  | createTable (name : String) (decls : List ColumnDecl)
  | dropTable (name : String)
  deriving DecidableEq, Repr

/-- What a call answers with. -/
inductive Answer
  | outcome (o : Outcome)
  | rows (r : ResultSet)
  | done
  deriving DecidableEq, Repr

/-- What a call does. -/
def Call.act : Call → Action Database Answer
  | .execute sql            => do return .outcome (← Database.execute sql)
  | .query sql              => do return .rows (← Action.observe (·.query sql))
  | .createTable name decls => do
    Database.createTable name decls
    return .done
  | .dropTable name         => do
    Database.dropTable name
    return .done

/-- What a call does to the catalog of a database with the given settings. -/
def Call.onCatalog (settings : Settings) : Call → Action Catalog Answer
  | .execute sql            => do
    let statement ← Action.observe fun _ => Statement.parse sql
    return .outcome (← statement.run settings)
  | .query sql              => do
    return .rows (← Action.observe fun c => Database.query ⟨c, settings⟩ sql)
  | .createTable name decls => do
    Catalog.createTable name decls
    return .done
  | .dropTable name         => do
    let _ ← Catalog.dropTable name
    return .done

theorem outcome_onCatalog {α : Type} (act : Action Catalog α) (db : Database) :
    (onCatalog act).outcome db =
      ((act.outcome db.catalog).1, { db with catalog := (act.outcome db.catalog).2 }) := by
  rw [onCatalog, Action.outcome_within]

theorem outcome_execute (sql : String) (db : Database) :
    (execute sql).outcome db =
      match Statement.parse sql with
      | .ok statement => (onCatalog (statement.run db.settings)).outcome db
      | .error e      => (.error e, db) := by
  rw [execute, Action.outcome_bind, Action.outcome_observe]
  cases Statement.parse sql with
  | error e => rfl
  | ok statement => rfl

/-- A call leaves the settings alone and does the rest to the catalog. -/
theorem outcome_act (call : Call) (db : Database) :
    call.act.outcome db = (onCatalog (call.onCatalog db.settings)).outcome db := by
  rw [outcome_onCatalog]
  cases call with
  | execute sql =>
    simp only [Call.act, Call.onCatalog]
    rw [Action.outcome_bind, outcome_execute, Action.outcome_bind, Action.outcome_observe]
    cases Statement.parse sql with
    | error e => rfl
    | ok statement =>
      dsimp only
      rw [outcome_onCatalog, Action.outcome_bind]
      rcases (statement.run db.settings).outcome db.catalog with ⟨_ | _, c⟩ <;> rfl
  | query sql =>
    simp only [Call.act, Call.onCatalog]
    rw [Action.outcome_bind, Action.outcome_observe, Action.outcome_bind, Action.outcome_observe]
    cases db.query sql <;> rfl
  | createTable name decls =>
    simp only [Call.act, Call.onCatalog, createTable]
    rw [Action.outcome_bind, outcome_onCatalog, Action.outcome_bind]
    rcases (Catalog.createTable name decls).outcome db.catalog with ⟨_ | _, c⟩ <;> rfl
  | dropTable name =>
    simp only [Call.act, Call.onCatalog, dropTable]
    rw [Action.outcome_bind, Action.outcome_bind, outcome_onCatalog, Action.outcome_bind]
    rcases (Catalog.dropTable name).outcome db.catalog with ⟨_ | _, c⟩ <;> rfl

/-! ### Every call is a transaction -/

variable {P : String → Table → Prop}

/-- What the changes of single tables keep, every call keeps of all tables. -/
theorem Call.transacts_onCatalog (h : c.Every P) {settings : Settings}
    (hP : Table.KeptByStatements settings.enforceLength P) (call : Call) :
    (call.onCatalog settings).Transacts (Catalog.Every P) c := by
  cases call with
  | execute sql =>
    apply Action.transacts_observe_bind
    intro statement _
    exact Action.transacts_bind_pure _ (h.transacts_run hP statement)
  | query sql => exact Action.transacts_bind_pure _ (Action.transacts_observe _ h)
  | createTable name decls =>
    exact Action.transacts_bind_pure _ (h.transacts_createTable fun t ht => hP.create ht)
  | dropTable name => exact Action.transacts_bind_pure _ (h.transacts_dropTable name)

theorem transacts_onCatalog {α : Type} {act : Action Catalog α}
    (h : act.Transacts (Catalog.Every P) db.catalog) :
    (onCatalog act).Transacts (·.catalog.Every P) db := by
  apply Action.transacts_within
  · intro c hc
    cases hc
    exact h
  · intro c hc
    cases hc
    rfl
  · intro c hc
    exact hc

theorem transacts_call (h : db.catalog.Sound) (call : Call) :
    call.act.Transacts (·.catalog.Sound) db := by
  rw [Action.Transacts, outcome_act]
  exact transacts_onCatalog (call.transacts_onCatalog h (Table.sound_kept _))

theorem transacts_execute (h : db.catalog.Sound) (sql : String) :
    (execute sql).Transacts (·.catalog.Sound) db := by
  rw [Action.Transacts, outcome_execute]
  cases Statement.parse sql with
  | error e => exact .inl ⟨e, rfl⟩
  | ok statement => exact transacts_onCatalog (statement.transacts_run h db.settings)

/-! ### Runs -/

/-- The database that a run of calls leaves. -/
def afterCalls (calls : List Call) (db : Database) : Database :=
  calls.foldl (fun db call => call.act.after db) db

/-- The databases that a run of calls on a new database leaves have sound catalogs. -/
theorem sound_afterCalls (settings : Settings) (calls : List Call) :
    (afterCalls calls (create settings)).catalog.Sound :=
  Action.invariant_foldl_after (I := fun db : Database => db.catalog.Sound)
    (fun call _ h => transacts_call h call) calls Catalog.sound_empty

end SqlEngine.Database
