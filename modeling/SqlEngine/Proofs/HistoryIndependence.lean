import SqlEngine.Proofs.RelationChanges

/-!
# Statements tell rows, not histories

Ids, dead slots, indexes and the order in which rows were reached are a table's history. Two
databases whose tables of one name have the same columns and the same rows cannot be told apart by
statements on that table: both tables are of one relation, every statement answers from the relation
and leaves the same relation in both.
-/

namespace SqlEngine

private theorem Table.Sound.name_eq {t : Table} {name : String} (h : t.Sound name) :
    t.name = name := by
  obtain ⟨s, hname, h⟩ := h
  exact h.name.trans hname

/-- A statement on one table. -/
abbrev Statement.On (table : String) := { statement : Statement // statement.table = table }

namespace Catalog

variable {c c' : Catalog} {name : String}

/-- Both catalogs have a table of the name, with the same columns and the same rows in the order of
their ids. -/
def Alike (name : String) (c c' : Catalog) : Prop :=
  ∃ t t', c.table? name = some t ∧ c'.table? name = some t' ∧ t.decls = t'.decls ∧
    t.scan.map (·.2) = t'.scan.map (·.2)

/-- Tables that read as the same columns and rows are alike. -/
private theorem alike_of_readings (reading : List ColumnDecl × List (List Value))
    (h : (c.table? name).map (fun t => (t.decls, t.scan.map (·.2))) = some reading)
    (h' : (c'.table? name).map (fun t => (t.decls, t.scan.map (·.2))) = some reading) :
    Alike name c c' := by
  obtain ⟨t, ht, hreading⟩ := Option.map_eq_some_iff.mp h
  obtain ⟨t', ht', rfl⟩ := Option.map_eq_some_iff.mp h'
  exact ⟨t, t', ht, ht', congrArg Prod.fst hreading, congrArg Prod.snd hreading⟩

private theorem Alike.relation_eq (h : Alike name c c') (hc : c.Sound) (hc' : c'.Sound) :
    ∃ t t', c.table? name = some t ∧ c'.table? name = some t' ∧ t.relation = t'.relation := by
  obtain ⟨t, t', ht, ht', hdecls, hrows⟩ := h
  refine ⟨t, t', ht, ht', ?_⟩
  rw [Table.relation, Table.relation, (hc name t ht).name_eq, (hc' name t' ht').name_eq, hdecls,
    hrows]

/-- One statement answers alike and leaves the tables alike. -/
private theorem Alike.run (h : Alike name c c') (hc : c.Sound) (hc' : c'.Sound)
    {settings settings' : Settings} (henforce : settings.enforceLength = settings'.enforceLength)
    (statement : Statement.On name) :
    (statement.val.run settings).answer c = (statement.val.run settings').answer c' ∧
      Alike name ((statement.val.run settings).after c)
        ((statement.val.run settings').after c') := by
  obtain ⟨statement, rfl⟩ := statement
  obtain ⟨t, t', ht, ht', hrelation⟩ := h.relation_eq hc hc'
  obtain ⟨hanswer, u, hu, hafter⟩ := statement.run_relation hc ht settings
  obtain ⟨hanswer', u', hu', hafter'⟩ := statement.run_relation hc' ht' settings'
  have hsame : u.relation = u'.relation := by
    rw [hafter, hafter', hrelation, henforce]
  refine ⟨?_, u, u', hu, hu', congrArg Relation.decls hsame, congrArg Relation.rows hsame⟩
  rw [hanswer, hanswer', hrelation, henforce]

end Catalog

namespace Database

/-- The database that some run of calls on a new one leaves. -/
def Reachable (db : Database) : Prop := ∃ settings calls, afterCalls calls (create settings) = db

theorem Reachable.sound {db : Database} (h : db.Reachable) : db.catalog.Sound := by
  obtain ⟨settings, calls, rfl⟩ := h
  exact sound_afterCalls settings calls

/-- Databases that agree on the enforcement of lengths and have tables of one name that are alike
answer any run of statements on that table alike, and after each statement the tables are alike. -/
theorem trace_alike {db db' : Database} {name : String} (h : db.Reachable) (h' : db'.Reachable)
    (henforce : db.settings.enforceLength = db'.settings.enforceLength)
    (halike : Catalog.Alike name db.catalog db'.catalog) (statements : List (Statement.On name)) :
    List.Forall₂ (fun a b => a.1 = b.1 ∧ Catalog.Alike name a.2 b.2)
      (trace (fun statement => (statement.val.run db.settings).outcome) statements db.catalog)
      (trace (fun statement => (statement.val.run db'.settings).outcome) statements db'.catalog) := by
  have hstep : ∀ (statement : Statement.On name) (c c' : Catalog),
      c.Sound ∧ c'.Sound ∧ Catalog.Alike name c c' →
      ((statement.val.run db.settings).outcome c).1 =
          ((statement.val.run db'.settings).outcome c').1 ∧
        ((statement.val.run db.settings).outcome c).2.Sound ∧
        ((statement.val.run db'.settings).outcome c').2.Sound ∧
        Catalog.Alike name ((statement.val.run db.settings).outcome c).2
          ((statement.val.run db'.settings).outcome c').2 := by
    intro statement c c' hboth
    obtain ⟨hc, hc', hsame⟩ := hboth
    obtain ⟨hanswer, hafter⟩ := hsame.run hc hc' henforce statement
    exact ⟨hanswer, (statement.val.transacts_run hc db.settings).invariant hc,
      (statement.val.transacts_run hc' db'.settings).invariant hc', hafter⟩
  have hruns := forall₂_trace (R := fun c c' => Catalog.Sound c ∧ Catalog.Sound c' ∧
    Catalog.Alike name c c') hstep statements ⟨h.sound, h'.sound, halike⟩
  exact hruns.imp fun a b hab => ⟨hab.1, hab.2.2.2⟩

/-- The same two rows, once left over from more and stored again, once stored first and changed,
with other ids: a removal and a query find them alike. -/
theorem trace_alike_of_reinserted :
    ∃ db db' : Database, db.Reachable ∧ db'.Reachable ∧
      (db.table? "t").map (·.rowIds.toList) = some [2, 3] ∧
      (db'.table? "t").map (·.rowIds.toList) = some [0, 1] ∧
      List.Forall₂ (fun a b => a.1 = b.1 ∧ Catalog.Alike "t" a.2 b.2)
        (trace (fun statement : Statement.On "t" => (statement.val.run db.settings).outcome)
          [⟨.delete ⟨"t", some ⟨.or, [⟨"a", .ge, .text "3"⟩]⟩⟩, rfl⟩,
            ⟨.select ⟨.all, "t", none, none, none⟩, rfl⟩] db.catalog)
        (trace (fun statement : Statement.On "t" => (statement.val.run db'.settings).outcome)
          [⟨.delete ⟨"t", some ⟨.or, [⟨"a", .ge, .text "3"⟩]⟩⟩, rfl⟩,
            ⟨.select ⟨.all, "t", none, none, none⟩, rfl⟩] db'.catalog) := by
  refine ⟨afterCalls [
      .createTable "t" [⟨"a", .int⟩, ⟨"b", .varchar 3⟩],
      .execute "INSERT INTO t VALUES (1, 'x'), (2, 'y'), (3, 'z')",
      .execute "DELETE FROM t WHERE a < 3",
      .execute "INSERT INTO t VALUES (1, 'x')"] (create {}),
    afterCalls [
      .createTable "t" [⟨"a", .int⟩, ⟨"b", .varchar 3⟩],
      .execute "INSERT INTO t VALUES (3, 'q'), (1, 'x')",
      .execute "UPDATE t SET b = 'z' WHERE a = 3"] (create .withoutIndexes),
    ⟨_, _, rfl⟩, ⟨_, _, rfl⟩, by decide +kernel, by decide +kernel, ?_⟩
  refine trace_alike ⟨_, _, rfl⟩ ⟨_, _, rfl⟩ (by decide +kernel) ?_ _
  exact Catalog.alike_of_readings
    ([⟨"a", .int⟩, ⟨"b", .varchar 3⟩], [[.int 3, .text "z"], [.int 1, .text "x"]])
    (by decide +kernel) (by decide +kernel)

end Database

end SqlEngine
