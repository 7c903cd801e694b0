import SqlEngine.Proofs.DatabaseCalls

/-!
# Atomicity

A call that fails changes nothing, on any table, catalog or database that a run of calls can lead
to. The loops that write could stop halfway by their types; that they never do is what makes every
call a transaction.
-/

namespace SqlEngine

/-- In every state that calls lead to, a call that fails leaves the state as it was; and where a
list of statements fails, the state is the one after the statements before the failing one. -/
theorem failing_calls_change_nothing (calls : List Catalog.Call) (settings : Settings)
    (requests : List Database.Call) :
    (∀ call : Catalog.Call, call.act.Atomic (Catalog.afterCalls calls .empty)) ∧
      (∀ name t, (Catalog.afterCalls calls .empty).table? name = some t →
        ∀ call : Table.Call, call.act.Atomic t) ∧
      (∀ call : Database.Call,
        call.act.Atomic (Database.afterCalls requests (.create settings))) ∧
      (∀ sql, (Database.execute sql).Atomic (Database.afterCalls requests (.create settings))) ∧
      ∀ sqls e db', (Database.executeAll sqls).outcome
          (Database.afterCalls requests (.create settings)) = (.error e, db') →
        ∃ i sql outcomes, sqls[i]? = some sql ∧
          (Database.executeAll (sqls.take i)).outcome
            (Database.afterCalls requests (.create settings)) = (.ok outcomes, db') ∧
          (Database.execute sql).outcome db' = (.error e, db') := by
  have hcatalog := Catalog.sound_afterCalls calls
  have hdatabase := Database.sound_afterCalls settings requests
  refine ⟨?_, ?_, ?_, ?_, ?_⟩
  · intro call
    exact (Catalog.transacts_call hcatalog call).atomic
  · intro name t ht call
    exact (Table.transacts_call (hcatalog name t ht) call).atomic
  · intro call
    exact (Database.transacts_call hdatabase call).atomic
  · intro sql
    exact (Database.transacts_execute hdatabase sql).atomic
  · intro sqls e db' hfail
    exact Action.outcome_mapM_of_error (fun sql db hdb => Database.transacts_execute hdb sql)
      hdatabase hfail

/-- The second statement fails on its second row, and the first row is not there either. -/
theorem failing_calls_change_nothing_midway :
    ∃ sqls e db, sqls = ["CREATE TABLE t (a INT)", "INSERT INTO t VALUES (1), ('x')"] ∧
      e = .typeMismatch "a" .int .unreadableText ∧
      (Database.executeAll sqls).outcome (.create {}) = (.error e, db) ∧
      ∃ i sql outcomes, sqls[i]? = some sql ∧
        (Database.executeAll (sqls.take i)).outcome (.create {}) = (.ok outcomes, db) ∧
        (Database.execute sql).outcome db = (.error e, db) := by
  have hanswer : (Database.executeAll
      ["CREATE TABLE t (a INT)", "INSERT INTO t VALUES (1), ('x')"]).answer (.create {}) =
        .error (.typeMismatch "a" .int .unreadableText) :=
    fault?_eq_some_iff.mp (by decide +kernel)
  have hfails := Action.outcome_of_answer hanswer
  have hall := (failing_calls_change_nothing [] {} []).2.2.2.2
  exact ⟨_, _, _, rfl, rfl, hfails, hall _ _ _ hfails⟩

end SqlEngine
