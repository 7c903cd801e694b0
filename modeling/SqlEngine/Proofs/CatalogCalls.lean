import SqlEngine.Execution
import SqlEngine.Proofs.TableTransactions

/-!
# Calls on catalogs

The calls that can change a catalog: its own, those on one of its tables, and statements. A run of
such calls goes on after a call that fails. Since every call is a transaction on a sound catalog,
every run from the empty catalog leaves a sound one.
-/

namespace SqlEngine

namespace Catalog

/-- Every table has the property, with the name that it is stored under. -/
def Every (P : String → Table → Prop) (c : Catalog) : Prop :=
  ∀ name t, c.table? name = some t → P name t

/-- Every table is sound and stored under its own name. -/
def Sound (c : Catalog) : Prop := ∀ name t, c.table? name = some t → t.Sound name

variable {P : String → Table → Prop} {c : Catalog} {t : Table} {name : String}

theorem every_empty : empty.Every P := by
  intro name t h
  cases h

theorem sound_empty : empty.Sound := every_empty

private theorem Every.put (h : c.Every P) (ht : P name t) : (c.put name t).Every P := by
  intro name' t' ht'
  rw [table?, Catalog.put, SortedMap.get?_insert] at ht'
  split at ht'
  · rename_i hname
    subst hname
    cases ht'
    exact ht
  · exact h name' t' ht'

private theorem Every.erase (h : c.Every P) (name : String) :
    Catalog.Every P ⟨c.tables.erase name⟩ := by
  intro name' t' ht'
  rw [table?, SortedMap.get?_erase] at ht'
  split at ht'
  · cases ht'
  · exact h name' t' ht'

theorem table_eq_ok_iff : c.table name = .ok t ↔ c.table? name = some t := by
  unfold table
  cases c.table? name <;> simp

theorem table?_put (c : Catalog) (name : String) (t : Table) :
    (c.put name t).table? name = some t := by
  rw [table?, put, SortedMap.get?_insert, if_pos rfl]

/-- Putting a table back changes nothing. -/
theorem put_self (h : c.table? name = some t) : c.put name t = c := by
  have htables : c.tables.insert name t = c.tables := by
    apply SortedMap.ext_get?
    intro name'
    rw [SortedMap.get?_insert]
    split
    · rename_i hname
      rw [hname]
      exact h.symm
    · rfl
  rw [put, htables]

theorem eq_of_put {c' : Catalog} {t' : Table} (h : c' = c.put name t)
    (ht' : c'.table? name = some t') : t = t' := by
  rw [h, table?_put] at ht'
  exact Option.some.inj ht'

private theorem put_put (c : Catalog) (name : String) (t t' : Table) :
    (c.put name t).put name t' = c.put name t' := by
  have htables : (c.tables.insert name t).insert name t' = c.tables.insert name t' := by
    apply SortedMap.ext_get?
    intro name'
    simp only [SortedMap.get?_insert]
    split <;> rfl
  rw [put, put, htables, put]

/-- A call on a table succeeds where there is the table and the call succeeds on it. -/
theorem outcome_onTable_eq_ok_iff {α : Type} {act : Action Table α} {a : α} {c' : Catalog} :
    (onTable name act).outcome c = (.ok a, c') ↔
      ∃ t t', c.table? name = some t ∧ act.outcome t = (.ok a, t') ∧ c' = c.put name t' := by
  rw [onTable, Action.outcome_within, table]
  cases c.table? name with
  | none => simp
  | some t =>
    dsimp only
    constructor
    · intro hok
      obtain ⟨hanswer, rfl⟩ := Prod.ext_iff.mp hok
      exact ⟨t, _, rfl, Prod.ext hanswer rfl, rfl⟩
    · rintro ⟨_, t', ⟨⟩, hact, rfl⟩
      rw [hact]

/-- What leaves a table as it was leaves the catalog that has it. -/
theorem outcome_onTable_put {α : Type} {act : Action Table α} {a : α} (c : Catalog) (name : String)
    (hact : act.outcome t = (.ok a, t)) :
    (onTable name act).outcome (c.put name t) = (.ok a, c.put name t) := by
  have ht : (c.put name t).table? name = some t := table?_put c name t
  exact outcome_onTable_eq_ok_iff.mpr ⟨t, t, ht, hact, (put_self ht).symm⟩

theorem succeeds_onTable_iff {α : Type} {act : Action Table α} :
    (onTable name act).Succeeds c ↔ ∃ t, c.table? name = some t ∧ act.Succeeds t := by
  constructor
  · rintro ⟨a, c', hrun⟩
    obtain ⟨t, t', ht, hact, _⟩ := outcome_onTable_eq_ok_iff.mp hrun
    exact ⟨t, ht, a, t', hact⟩
  · rintro ⟨t, ht, a, t', hact⟩
    exact ⟨a, c.put name t', outcome_onTable_eq_ok_iff.mpr ⟨t, t', ht, hact, rfl⟩⟩

/-- Calls on one table, one after the other, do to the table what they do to it alone. -/
theorem outcome_mapM_onTable {α β : Type} {act : α → Action Table β} {l : List α} {bs : List β}
    {t' : Table} (ht : c.table? name = some t) (h : (l.mapM act).outcome t = (.ok bs, t')) :
    (l.mapM fun a => onTable name (act a)).outcome c = (.ok bs, c.put name t') := by
  induction l generalizing c t bs with
  | nil =>
    cases h
    rw [put_self ht]
    rfl
  | cons a l ih =>
    rw [List.mapM_cons] at h ⊢
    obtain ⟨b, t₁, hfirst, h⟩ := Action.outcome_bind_eq_ok_iff.mp h
    obtain ⟨bs, t₂, hlater, h⟩ := Action.outcome_bind_eq_ok_iff.mp h
    cases h
    have hfirst' : (onTable name (act a)).outcome c = (.ok b, c.put name t₁) :=
      outcome_onTable_eq_ok_iff.mpr ⟨t, t₁, ht, hfirst, rfl⟩
    have hlater' := ih (table?_put c name t₁) hlater
    rw [put_put] at hlater'
    rw [Action.outcome_bind_of_ok hfirst', Action.outcome_bind_of_ok hlater']
    rfl

/-! ### Every call is a transaction -/

namespace Every

private theorem transacts_onTable {α : Type} {act : Action Table α} (h : c.Every P)
    (hact : ∀ t, P name t → act.Transacts (P name) t) :
    (onTable name act).Transacts (Every P) c := by
  apply Action.transacts_within
  · intro t ht
    exact hact t (h name t (table_eq_ok_iff.mp ht))
  · intro t ht
    exact put_self (table_eq_ok_iff.mp ht)
  · intro t ht
    exact h.put ht

theorem transacts_createTable {decls : List ColumnDecl} (h : c.Every P)
    (hcreate : ∀ t, Table.create name decls = .ok t → P name t) :
    (createTable name decls).Transacts (Every P) c := by
  apply Action.transacts_change
  intro c' hc'
  by_cases hname : (c.table? name).isSome
  · simp only [hname, if_true] at hc'
    cases hc'
  · simp only [hname] at hc'
    obtain ⟨t, ht, hc'⟩ := bind_eq_ok_iff.mp hc'
    cases hc'
    exact h.put (hcreate t ht)

theorem transacts_dropTable (h : c.Every P) (name : String) :
    (dropTable name).Transacts (Every P) c := by
  apply Action.transacts_observe_bind
  intro t _
  exact .inr ⟨t, _, rfl, h.erase name⟩

/-- What the changes of single tables keep, every statement keeps of all tables. -/
theorem transacts_run (h : c.Every P) {settings : Settings}
    (hP : Table.KeptByStatements settings.enforceLength P) (statement : Statement) :
    (statement.run settings).Transacts (Every P) c := by
  cases statement with
  | createTable s =>
    exact Action.transacts_bind_pure _ (h.transacts_createTable fun t ht => hP.create ht)
  | insert s =>
    apply Action.transacts_bind_pure
    exact h.transacts_onTable fun t ht => hP.insertTuples ht _ _
  | select s => exact Action.transacts_bind_pure _ (Action.transacts_observe _ h)
  | update s =>
    refine h.transacts_onTable fun t ht => Action.transacts_observe_bind fun ids _ => ?_
    exact Action.transacts_bind_pure _ (hP.assign ht _ ids)
  | delete s =>
    refine h.transacts_onTable fun t ht => Action.transacts_observe_bind fun ids _ => ?_
    exact Action.transacts_bind_pure _ (hP.delete ht ids)

end Every

end Catalog

theorem Statement.transacts_run {c : Catalog} (h : c.Sound) (settings : Settings)
    (statement : Statement) : (statement.run settings).Transacts Catalog.Sound c :=
  Catalog.Every.transacts_run h (Table.sound_kept _) statement

/-! ### Runs -/

namespace Catalog

/-- A call that may change a catalog. -/
inductive Call
  | createTable (name : String) (decls : List ColumnDecl)
  | dropTable (name : String)
  | insert (table : String) (columns : Option (List String)) (tuples : List (List Value))
      (enforceLength : Bool)
  | update (table : String) (assignments : List (String × Value)) (ids : RowIds)
      (enforceLength : Bool)
  | delete (table : String) (ids : RowIds)
  | onTable (table : String) (call : Table.Call)
  | run (settings : Settings) (statement : Statement)
  deriving DecidableEq, Repr

/-- What a call answers with. -/
def Call.Answer : Call → Type
  | .createTable .. => Unit
  | .dropTable ..   => Table
  | .insert ..      => List RowId
  | .update ..      => Nat
  | .delete ..      => Nat
  | .onTable ..     => Nat
  | .run ..         => Outcome

/-- What a call does. -/
def Call.act : (call : Call) → Action Catalog call.Answer
  | .createTable name decls               => Catalog.createTable name decls
  | .dropTable name                       => Catalog.dropTable name
  | .insert table columns tuples enforce  =>
    Catalog.onTable table (Table.insertTuples columns tuples enforce)
  | .update table assignments ids enforce =>
    Catalog.onTable table (Table.assign assignments ids enforce)
  | .delete table ids                     => Catalog.onTable table (Table.delete ids)
  | .onTable table call                   => Catalog.onTable table call.act
  | .run settings statement               => statement.run settings

theorem transacts_call {c : Catalog} (h : c.Sound) (call : Call) : call.act.Transacts Sound c := by
  cases call with
  | createTable name decls => exact Every.transacts_createTable h fun t ht => Table.sound_create ht
  | dropTable name => exact Every.transacts_dropTable h name
  | insert table columns tuples enforce =>
    exact Every.transacts_onTable h fun t ht =>
      Table.transacts_insertTuples ht columns tuples enforce
  | update table assignments ids enforce =>
    exact Every.transacts_onTable h fun t ht => Table.transacts_assign ht assignments ids enforce
  | delete table ids => exact Every.transacts_onTable h fun t ht => Table.transacts_delete ht ids
  | onTable table call => exact Every.transacts_onTable h fun t ht => Table.transacts_call ht call
  | run settings statement => exact statement.transacts_run h settings

/-- The catalog that a run of calls leaves. -/
def afterCalls (calls : List Call) (c : Catalog) : Catalog :=
  calls.foldl (fun c call => call.act.after c) c

/-- The catalogs that a run of calls from the empty catalog leaves are sound. -/
theorem sound_afterCalls (calls : List Call) : (afterCalls calls empty).Sound :=
  Action.invariant_foldl_after (fun call _ h => transacts_call h call) calls sound_empty

end Catalog

end SqlEngine
