import SqlEngine.Proofs.RelationChanges

/-!
# What statements can fail with

The storage layer has errors of its own, for positions, rows and keys that are not there. No
statement on a sound catalog comes to them: on its table's relation a statement has only names,
numbers of values and literals to fail on.
-/

namespace SqlEngine

/-- The error blames the statement: for a name, a number of values or a value in it. -/
def Error.BlamesStatement (enforceLength : Bool) : Error → Prop
  | .unknownTable _ | .duplicateTable _            => True
  | .unknownColumn _ _ | .duplicateColumn _ _      => True
  | .columnCountMismatch _ _ | .typeMismatch _ _ _ => True
  | .textTooLong _ _ _                             => enforceLength
  | _                                              => False

/-- Every error that is given has the property. -/
def FailsOnly {α : Type} (P : Error → Prop) (x : Except Error α) : Prop := ∀ e, x = .error e → P e

namespace FailsOnly

variable {α β σ : Type} {P : Error → Prop} {x : Except Error α} {e : Error}

private theorem ok (a : α) : FailsOnly P (.ok a) := by
  intro e h
  cases h

private theorem error (h : P e) : FailsOnly P (.error e : Except Error α) := by
  intro e' h'
  cases h'
  exact h

instance [DecidablePred P] (x : Except Error α) : Decidable (FailsOnly P x) :=
  match x with
  | .ok a    => isTrue (ok a)
  | .error e =>
    if he : P e then isTrue (error he) else isFalse fun h => he (h e rfl)

private theorem of_eq_ok {a : α} (h : x = .ok a) : FailsOnly P x := h ▸ ok a

private theorem bind {f : α → Except Error β} (hx : FailsOnly P x)
    (hf : ∀ a, x = .ok a → FailsOnly P (f a)) : FailsOnly P (x >>= f) := by
  cases x with
  | error e => exact error (hx e rfl)
  | ok a => exact hf a rfl

private theorem mapM {l : List α} {f : α → Except Error β} (hf : ∀ a ∈ l, FailsOnly P (f a)) :
    FailsOnly P (l.mapM f) := by
  induction l with
  | nil => exact ok []
  | cons a l ih =>
    rw [List.mapM_cons]
    refine (hf a List.mem_cons_self).bind fun b _ => ?_
    exact (ih fun a' ha' => hf a' (List.mem_cons_of_mem a ha')).bind fun bs _ => ok (b :: bs)

private theorem answer_bind {act : Action σ α} {next : α → Action σ β} {s : σ}
    (hact : FailsOnly P (act.answer s))
    (hnext : ∀ a s', act.outcome s = (.ok a, s') → FailsOnly P ((next a).answer s')) :
    FailsOnly P ((act >>= next).answer s) := by
  rw [Action.answer, Action.outcome_bind]
  rcases h : act.outcome s with ⟨_ | a, s'⟩
  · exact error (hact _ (congrArg Prod.fst h))
  · exact hnext a s' h

private theorem answer_observe {look : σ → Except Error α} {s : σ} (h : FailsOnly P (look s)) :
    FailsOnly P ((Action.observe look).answer s) := by
  rwa [Action.answer_observe]

private theorem answer_change {next : σ → Except Error σ} {s : σ} (h : FailsOnly P (next s)) :
    FailsOnly P ((Action.change next).answer s) := by
  rw [Action.answer, Action.outcome_change]
  cases hnext : next s with
  | error e => exact error (h e hnext)
  | ok s' => exact ok ()

end FailsOnly

variable {enforce : Bool}

/-! ### Names and literals -/

private theorem ColumnDecl.failsOnly_convert (decl : ColumnDecl) (literal : Value) :
    FailsOnly (Error.BlamesStatement enforce) (decl.convert literal) := by
  rw [convert]
  split
  · exact .ok _
  · exact .error trivial

private theorem ColumnDecl.failsOnly_fit (decl : ColumnDecl) (literal : Value) :
    FailsOnly (Error.BlamesStatement enforce) (decl.fit literal enforce) := by
  refine (decl.failsOnly_convert literal).bind fun v _ => ?_
  cases enforce with
  | false => exact .ok v
  | true =>
    have hlength : FailsOnly (Error.BlamesStatement true) (decl.checkLength v) := by
      unfold checkLength
      split
      · split
        · exact .error rfl
        · exact .ok ()
      · exact .ok ()
    exact hlength.bind fun _ _ => .ok v

namespace Table

variable {t : Table} {position : Nat}

private theorem failsOnly_positionOf (t : Table) (column : String) :
    FailsOnly (Error.BlamesStatement enforce) (t.positionOf column) := by
  rw [positionOf]
  split
  · exact .ok _
  · exact .error trivial

/-- A declared column is found at its position. -/
private theorem failsOnly_declAt (h : position < t.decls.length) :
    FailsOnly (Error.BlamesStatement enforce) (t.declAt position) :=
  .of_eq_ok (itemAt_eq_ok_iff.mpr (List.getElem?_eq_getElem h))

private theorem failsOnly_fit (h : position < t.decls.length) (literal : Value) :
    FailsOnly (Error.BlamesStatement enforce) (t.fit position literal enforce) :=
  (failsOnly_declAt h).bind fun decl _ => decl.failsOnly_fit literal

private theorem failsOnly_projectedNames (t : Table) (projection : Projection) :
    FailsOnly (Error.BlamesStatement enforce) (t.projectedNames projection) := by
  unfold projectedNames
  dsimp only
  split
  · exact .error trivial
  · exact .ok _

private theorem failsOnly_positionsFrom (t : Table) (found : List Nat) (columns : List String) :
    FailsOnly (Error.BlamesStatement enforce) (t.positionsFrom found columns) := by
  induction columns generalizing found with
  | nil => exact .ok found
  | cons column rest ih =>
    refine (t.failsOnly_positionOf column).bind fun position _ => ?_
    by_cases hfound : position ∈ found
    · rw [if_pos hfound]
      exact .error trivial
    · rw [if_neg hfound]
      exact ih (found ++ [position])

private theorem failsOnly_binding (t : Table) (columns : Option (List String)) :
    FailsOnly (Error.BlamesStatement enforce) (t.binding columns) := by
  cases columns with
  | none => exact .ok _
  | some names =>
    refine (t.failsOnly_positionsFrom [] names).bind fun positions _ => ?_
    refine FailsOnly.bind (.mapM fun position _ => ?_) fun places _ => .ok _
    split
    · exact .ok _
    · exact .error trivial

/-- A binding has places for the declared columns alone. -/
private theorem failsOnly_row {columns : Option (List String)} {binding : Binding}
    (h : t.binding columns = .ok binding) (tuple : List Value) :
    FailsOnly (Error.BlamesStatement enforce) (binding.row t enforce tuple) := by
  rw [Binding.row]
  split
  · refine .mapM fun e he => failsOnly_fit ?_ _
    have hlt := (List.mem_zipIdx' he).1
    rwa [length_places h] at hlt
  · exact .error trivial

end Table

/-! ### Statements on relations -/

namespace Relation

variable (r : Relation)

private theorem failsOnly_test (condition : Condition) :
    FailsOnly (Error.BlamesStatement enforce) (r.test condition) := by
  refine (r.heading.failsOnly_positionOf condition.column).bind fun position hposition => ?_
  refine (Table.failsOnly_declAt (Table.positionOf_lt hposition)).bind fun decl _ => ?_
  exact (decl.failsOnly_convert condition.literal).bind fun v _ => .ok _

private theorem failsOnly_selector (filter : Option Filter) :
    FailsOnly (Error.BlamesStatement enforce) (r.selector filter) := by
  cases filter with
  | none => exact .ok _
  | some filter =>
    exact FailsOnly.bind (.mapM fun condition _ => r.failsOnly_test condition) fun tests _ => .ok _

private theorem failsOnly_query (q : Select) :
    FailsOnly (Error.BlamesStatement enforce) (r.query q) := by
  have hkey : FailsOnly (Error.BlamesStatement enforce) (q.orderBy.mapM r.heading.positionOf) := by
    cases q.orderBy with
    | none => exact .ok none
    | some column => exact (r.heading.failsOnly_positionOf column).bind fun position _ => .ok _
  refine (r.heading.failsOnly_projectedNames q.projection).bind fun columns _ => ?_
  refine FailsOnly.bind (.mapM fun column _ => r.heading.failsOnly_positionOf column) fun _ _ => ?_
  exact hkey.bind fun _ _ => (r.failsOnly_selector q.filter).bind fun _ _ => .ok _

private theorem failsOnly_bind (columns : Option (List String)) (tuples : List (List Value)) :
    FailsOnly (Error.BlamesStatement enforce) (r.bind columns tuples enforce) :=
  (r.heading.failsOnly_binding columns).bind fun _ hbinding =>
    .mapM fun tuple _ => Table.failsOnly_row hbinding tuple

private theorem failsOnly_resolve (assignments : List (String × Value)) :
    FailsOnly (Error.BlamesStatement enforce) (r.resolve assignments enforce) := by
  refine .mapM fun assignment _ => ?_
  refine (r.heading.failsOnly_positionOf assignment.1).bind fun position hposition => ?_
  exact (Table.failsOnly_fit (Table.positionOf_lt hposition) assignment.2).bind fun v _ => .ok _

end Relation

namespace Statement

private theorem failsOnly_onRelation (r : Relation) (statement : Statement) :
    FailsOnly (Error.BlamesStatement enforce) ((statement.onRelation enforce).answer r) := by
  cases statement with
  | createTable s => exact .error trivial
  | insert s =>
    refine .answer_bind (.answer_observe (r.failsOnly_bind s.columns s.tuples)) fun _ _ _ => ?_
    exact .ok _
  | select s =>
    exact .answer_bind (.answer_observe (r.failsOnly_query s)) fun _ _ _ => .ok _
  | update s =>
    refine .answer_bind (.answer_observe (r.failsOnly_selector s.filter)) fun _ r' _ => ?_
    refine .answer_bind (.answer_observe (r'.failsOnly_resolve s.assignments)) fun _ _ _ => ?_
    exact .ok _
  | delete s =>
    exact .answer_bind (.answer_observe (r.failsOnly_selector s.filter)) fun _ _ _ => .ok _

/-- Without its table, a statement that needs one is to blame for that. -/
private theorem failsOnly_run_of_missing {c : Catalog} (statement : Statement)
    (htable : c.table? statement.table = none) (settings : Settings) :
    FailsOnly (Error.BlamesStatement settings.enforceLength)
      ((statement.run settings).answer c) := by
  have hmissing : c.table statement.table = .error (.unknownTable statement.table) := by
    rw [Catalog.table, htable]
  have honTable : ∀ {α : Type} (act : Action Table α),
      FailsOnly (Error.BlamesStatement settings.enforceLength)
        ((Catalog.onTable statement.table act).answer c) := by
    intro α act
    rw [Catalog.onTable, Action.answer, Action.outcome_within, hmissing]
    exact .error trivial
  cases statement with
  | createTable s =>
    refine .answer_bind (.answer_change ?_) fun _ _ _ => .ok _
    rw [show c.table? s.table = none from htable]
    refine FailsOnly.bind ?_ fun t _ => .ok _
    unfold Table.create
    split
    · exact .error trivial
    · exact .ok _
  | insert s => exact .answer_bind (honTable _) fun _ _ _ => .ok _
  | select s =>
    refine .answer_bind (.answer_observe ?_) fun _ _ _ => .ok _
    rw [Catalog.query, show c.table s.table = _ from hmissing]
    exact .error trivial
  | update s => exact honTable _
  | delete s => exact honTable _

/-- A statement on a sound catalog fails only on what it says itself. -/
theorem failsOnly_run {c : Catalog} (hc : c.Sound) (settings : Settings) (statement : Statement) :
    FailsOnly (Error.BlamesStatement settings.enforceLength)
      ((statement.run settings).answer c) := by
  cases htable : c.table? statement.table with
  | some t =>
    rw [(statement.run_relation hc htable settings).1]
    exact statement.failsOnly_onRelation t.relation
  | none => exact statement.failsOnly_run_of_missing htable settings

end Statement

end SqlEngine
