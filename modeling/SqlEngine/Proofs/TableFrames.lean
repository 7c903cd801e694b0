import SqlEngine.Proofs.CatalogCalls

/-!
# Statements keep to their tables

An action keeps to a table if that table alone decides what it answers and what becomes of the
table, and if every other table stays as it is. The table may be missing before or after. Two
actions that keep to different tables do the same in either order, and every statement keeps to the
one table that it names.
-/

namespace SqlEngine

namespace Catalog

variable {α β : Type} {c c' : Catalog} {name other : String}

/-- A catalog is no more than its tables. -/
private theorem ext_table? (h : ∀ name, c.table? name = c'.table? name) : c = c' := by
  have htables : c.tables = c'.tables := SortedMap.ext_get? h
  cases c
  cases c'
  exact congrArg Catalog.mk htables

structure KeepsTo (name : String) (act : Action Catalog α) : Prop where
  frame : ∀ c other, other ≠ name → (act.after c).table? other = c.table? other
  answer_eq : ∀ c c', c.table? name = c'.table? name → act.answer c = act.answer c'
  table_eq : ∀ c c', c.table? name = c'.table? name →
    (act.after c).table? name = (act.after c').table? name

namespace KeepsTo

variable {act : Action Catalog α} {act' : Action Catalog β} {name' : String}

/-- An action that keeps to another table leaves the answer as it was. -/
private theorem answer_after (h : KeepsTo name act) (h' : KeepsTo name' act') (hne : name ≠ name')
    (c : Catalog) : act.answer (act'.after c) = act.answer c :=
  h.answer_eq _ _ (h'.frame c name hne)

private theorem after_comm (h : KeepsTo name act) (h' : KeepsTo name' act') (hne : name ≠ name')
    (c : Catalog) : act'.after (act.after c) = act.after (act'.after c) := by
  apply ext_table?
  intro other
  by_cases hname : other = name
  · subst hname
    rw [h'.frame _ _ hne]
    exact h.table_eq _ _ (h'.frame c _ hne).symm
  by_cases hname' : other = name'
  · subst hname'
    rw [h.frame _ _ hname]
    exact h'.table_eq _ _ (h.frame c _ hname)
  · rw [h'.frame _ _ hname', h.frame _ _ hname, h.frame _ _ hname, h'.frame _ _ hname']

end KeepsTo

/-! ### Effects on one entry -/

/-- The catalog with another table, or none, at a name. -/
def withEntry (c : Catalog) (name : String) (entry : Option Table) : Catalog :=
  ⟨c.tables.alter name fun _ => entry⟩

private theorem table?_withEntry (c : Catalog) (name other : String) (entry : Option Table) :
    (c.withEntry name entry).table? other = if other = name then entry else c.table? other :=
  SortedMap.get?_alter ..

private theorem withEntry_self (h : c.table? name = entry) : c.withEntry name entry = c := by
  apply ext_table?
  intro other
  rw [table?_withEntry]
  split
  · rename_i hname
    rw [hname, h]
  · rfl

/-- What an action does to a catalog when it works on one entry: what it answers and what it leaves
there. -/
def onEntry (name : String) (effect : Option Table → Except Error α × Option Table) (c : Catalog) :
    Except Error α × Catalog :=
  ((effect (c.table? name)).1, c.withEntry name (effect (c.table? name)).2)

private theorem keepsTo_of_onEntry {act : Action Catalog α}
    (effect : Option Table → Except Error α × Option Table)
    (h : ∀ c, act.outcome c = onEntry name effect c) : KeepsTo name act := by
  have hafter : ∀ c, act.after c = c.withEntry name (effect (c.table? name)).2 :=
    fun c => Action.after_of_outcome (h c)
  have hanswer : ∀ c, act.answer c = (effect (c.table? name)).1 := fun c => congrArg Prod.fst (h c)
  refine ⟨?_, ?_, ?_⟩
  · intro c other hne
    rw [hafter, table?_withEntry, if_neg hne]
  · intro c c' hc
    rw [hanswer, hanswer, hc]
  · intro c c' hc
    rw [hafter, hafter, table?_withEntry, table?_withEntry, hc]

private theorem outcome_onTable (name : String) (act : Action Table α) (c : Catalog) :
    (onTable name act).outcome c =
      onEntry name (fun
        | none   => (.error (.unknownTable name), none)
        | some t => ((act.outcome t).1, some (act.outcome t).2)) c := by
  rw [onTable, Action.outcome_within, table, onEntry]
  cases h : c.table? name with
  | none => rw [withEntry_self h]
  | some t => rfl

private theorem outcome_createTable (name : String) (decls : List ColumnDecl) (c : Catalog) :
    (createTable name decls).outcome c =
      onEntry name (fun
        | some t => (.error (.duplicateTable name), some t)
        | none   =>
          match Table.create name decls with
          | .ok t    => (.ok (), some t)
          | .error e => (.error e, none)) c := by
  rw [createTable, Action.outcome_change, onEntry]
  cases h : c.table? name with
  | some t =>
    rw [withEntry_self h]
    rfl
  | none =>
    cases hcreate : Table.create name decls with
    | ok t => rfl
    | error e =>
      dsimp only
      rw [withEntry_self h]
      rfl

private theorem outcome_query (settings : Settings) (q : Select) (c : Catalog) :
    (Action.observe (query · settings q)).outcome c =
      onEntry q.table (fun
        | none   => (.error (.unknownTable q.table), none)
        | some t => (t.query q settings.useIndexes, some t)) c := by
  rw [Action.outcome_observe, query, table, onEntry]
  cases h : c.table? q.table <;> exact Prod.ext rfl (withEntry_self h).symm

/-- What is made of the answer does not matter. -/
private theorem KeepsTo.bind_pure {act : Action Catalog α} (f : α → β) (h : KeepsTo name act) :
    KeepsTo name (act >>= fun a => pure (f a)) where
  frame c other hne := by
    rw [Action.after_bind_pure, h.frame c other hne]
  answer_eq c c' hc := by
    rw [Action.answer_bind_pure, Action.answer_bind_pure, h.answer_eq c c' hc]
  table_eq c c' hc := by
    rw [Action.after_bind_pure, Action.after_bind_pure, h.table_eq c c' hc]

end Catalog

/-! ### Statements -/

namespace Statement

open Catalog

private theorem keepsTo_run (settings : Settings) (statement : Statement) :
    KeepsTo statement.table (statement.run settings) := by
  have honTable : ∀ {α : Type} (name : String) (act : Action Table α),
      KeepsTo name (Catalog.onTable name act) :=
    fun name act => keepsTo_of_onEntry _ (outcome_onTable name act)
  cases statement with
  | createTable s =>
    exact (keepsTo_of_onEntry _ (outcome_createTable s.table s.columns)).bind_pure _
  | insert s => exact (honTable s.table _).bind_pure _
  | select s => exact (keepsTo_of_onEntry _ (outcome_query settings s)).bind_pure _
  | update s => exact honTable s.table _
  | delete s => exact honTable s.table _

/-- A statement leaves all other tables alone, and two statements on different tables answer the
same in either order and lead to the same catalog. -/
theorem run_comm (c : Catalog) (settings : Settings) :
    (∀ (statement : Statement) (other : String), other ≠ statement.table →
      ((statement.run settings).after c).table? other = c.table? other) ∧
    ∀ a b : Statement, a.table ≠ b.table →
      (a.run settings).answer ((b.run settings).after c) = (a.run settings).answer c ∧
      (b.run settings).answer ((a.run settings).after c) = (b.run settings).answer c ∧
      (b.run settings).after ((a.run settings).after c) =
        (a.run settings).after ((b.run settings).after c) := by
  refine ⟨?_, ?_⟩
  · intro statement other hne
    exact (statement.keepsTo_run settings).frame c other hne
  · intro a b hne
    have ha := a.keepsTo_run settings
    have hb := b.keepsTo_run settings
    exact ⟨ha.answer_after hb hne c, hb.answer_after ha hne.symm c, ha.after_comm hb hne c⟩

/-- A table is made, and rows of another are removed, so many that dead slots are dropped. -/
theorem run_comm_of_create_and_delete :
    ∃ (c : Catalog) (a b : Statement), a.table = "u" ∧ b.table = "t" ∧
      (a.run {}).answer c = .ok (.affected 0) ∧ (b.run {}).answer c = .ok (.affected 2) ∧
      (a.run {}).answer ((b.run {}).after c) = (a.run {}).answer c ∧
      (b.run {}).answer ((a.run {}).after c) = (b.run {}).answer c ∧
      (b.run {}).after ((a.run {}).after c) = (a.run {}).after ((b.run {}).after c) ∧
      ((b.run {}).after c).table? "u" = c.table? "u" := by
  let c : Catalog := Catalog.afterCalls [
    .createTable "t" [⟨"a", .int⟩],
    .insert "t" none [[.int 1], [.int 2], [.int 3]] false] .empty
  let a : Statement := .createTable ⟨"u", [⟨"x", .bool⟩]⟩
  let b : Statement := .delete ⟨"t", some ⟨.and, [⟨"a", .ge, .int 2⟩]⟩⟩
  have hne : a.table ≠ b.table := by decide
  obtain ⟨hframe, hcomm⟩ := run_comm c {}
  obtain ⟨ha, hb, hafter⟩ := hcomm a b hne
  exact ⟨c, a, b, rfl, rfl, by decide +kernel, by decide +kernel, ha, hb, hafter,
    hframe b "u" (by decide)⟩

end Statement

end SqlEngine
