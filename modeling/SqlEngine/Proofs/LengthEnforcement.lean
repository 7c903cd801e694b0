import SqlEngine.Proofs.LengthLimits
import SqlEngine.Proofs.StatementFaults

/-!
# What the enforcement of lengths changes

The check of lengths comes after a literal has been converted and adds nothing but its own error. So
a statement that is run with and without it does the same, errors and their order included, unless
the check is what fails, and so do whole runs of statements.
-/

namespace SqlEngine

/-- Whether the error is that of a text that is longer than its column allows. -/
def Error.isTooLong : Error → Bool
  | .textTooLong _ _ _ => true
  | _                  => false

/-- The first computation comes to the same as the second unless it fails with an error of the
kind. -/
def AgreesUnless {α : Type} (P : Error → Prop) (x y : Except Error α) : Prop :=
  x = y ∨ ∃ e, x = .error e ∧ P e

namespace AgreesUnless

variable {α β : Type} {P : Error → Prop} {x y : Except Error α}

private theorem refl (x : Except Error α) : AgreesUnless P x x := .inl rfl

private theorem bind {f g : α → Except Error β} (h : AgreesUnless P x y)
    (hnext : ∀ a, x = .ok a → AgreesUnless P (f a) (g a)) : AgreesUnless P (x >>= f) (y >>= g) := by
  rcases h with rfl | ⟨e, rfl, he⟩
  · cases x with
    | error e => exact refl _
    | ok a => exact hnext a rfl
  · exact .inr ⟨e, rfl, he⟩

private theorem mapM {l : List α} {f g : α → Except Error β}
    (h : ∀ a ∈ l, AgreesUnless P (f a) (g a)) : AgreesUnless P (l.mapM f) (l.mapM g) := by
  induction l with
  | nil => exact refl _
  | cons a l ih =>
    rw [List.mapM_cons, List.mapM_cons]
    have hlater := ih fun a' ha' => h a' (List.mem_cons_of_mem a ha')
    exact (h a List.mem_cons_self).bind fun b _ => hlater.bind fun bs _ => refl _

end AgreesUnless

namespace Action

variable {σ τ α β : Type} {P : Error → Prop} {act act' : Action σ α} {s : σ}

/-- The first action answers and leaves the same as the second unless it fails with an error of the
kind. -/
def AgreesUnless (P : Error → Prop) (act act' : Action σ α) (s : σ) : Prop :=
  act.outcome s = act'.outcome s ∨ ∃ e, act.answer s = .error e ∧ P e

namespace AgreesUnless

private theorem refl (act : Action σ α) (s : σ) : act.AgreesUnless P act s := .inl rfl

private theorem observe_bind {look look' : σ → Except Error α} {next next' : α → Action σ β}
    (h : SqlEngine.AgreesUnless P (look s) (look' s))
    (hnext : ∀ a, look s = .ok a → (next a).AgreesUnless P (next' a) s) :
    (observe look >>= next).AgreesUnless P (observe look' >>= next') s := by
  rcases h with h | ⟨e, h, he⟩
  · cases ha : look s with
    | error e =>
      left
      rw [outcome_observe_bind_of_error look ha, outcome_observe_bind_of_error look' (h ▸ ha)]
    | ok a =>
      have hagree := hnext a ha
      rwa [AgreesUnless, answer, outcome_observe_bind_of_ok look ha,
        outcome_observe_bind_of_ok look' (h ▸ ha)]
  · right
    exact ⟨e, congrArg Prod.fst (outcome_observe_bind_of_error look h), he⟩

private theorem bind_pure (f : α → β) (h : act.AgreesUnless P act' s) :
    (act >>= fun a => pure (f a)).AgreesUnless P (act' >>= fun a => pure (f a)) s := by
  rcases h with h | ⟨e, h, he⟩
  · exact .inl (outcome_bind_congr _ h)
  · right
    refine ⟨e, ?_, he⟩
    rw [answer_bind_pure, h]
    rfl

private theorem within {part : σ → Except Error τ} {put : σ → τ → σ} {act act' : Action τ α}
    (h : ∀ t, part s = .ok t → act.AgreesUnless P act' t) :
    (within part put act).AgreesUnless P (within part put act') s := by
  rw [AgreesUnless, answer, outcome_within, outcome_within]
  cases hpart : part s with
  | error e => exact .inl rfl
  | ok t =>
    refine (h t hpart).imp_left fun hsame => ?_
    dsimp only
    rw [hsame]

end AgreesUnless

end Action

/-! ### Fitted literals -/

private theorem ColumnDecl.agrees_fit (decl : ColumnDecl) (literal : Value) :
    AgreesUnless (·.isTooLong) (decl.fit literal true) (decl.fit literal false) := by
  refine (AgreesUnless.refl (decl.convert literal)).bind fun v _ => ?_
  have hcheck : AgreesUnless (·.isTooLong) (decl.checkLength v) (.ok ()) := by
    unfold checkLength
    split
    · split
      · exact .inr ⟨_, rfl, rfl⟩
      · exact .refl _
    · exact .refl _
  exact hcheck.bind fun _ _ => .refl (.ok v)

private theorem Table.agrees_fit (t : Table) (position : Nat) (literal : Value) :
    AgreesUnless (·.isTooLong) (t.fit position literal true) (t.fit position literal false) :=
  (AgreesUnless.refl (t.declAt position)).bind fun decl _ => decl.agrees_fit literal

private theorem Binding.agrees_row (binding : Binding) (t : Table) (tuple : List Value) :
    AgreesUnless (·.isTooLong) (binding.row t true tuple) (binding.row t false tuple) := by
  rw [row, row]
  split
  · exact .mapM fun e _ => t.agrees_fit e.2 _
  · exact .refl _

/-! ### Statements -/

private theorem Table.agrees_insertTuples (columns : Option (List String))
    (tuples : List (List Value)) (t : Table) :
    (insertTuples columns tuples true).AgreesUnless (·.isTooLong)
      (insertTuples columns tuples false) t := by
  refine .observe_bind ?_ fun rows _ => .refl _ t
  refine (AgreesUnless.refl (t.binding columns)).bind fun binding _ => ?_
  exact .mapM fun tuple _ => binding.agrees_row t tuple

private theorem Table.agrees_assign (assignments : List (String × Value)) (ids : RowIds)
    (t : Table) :
    (assign assignments ids true).AgreesUnless (·.isTooLong) (assign assignments ids false) t := by
  refine .observe_bind ?_ fun resolved _ => .refl _ t
  refine .mapM fun assignment _ => ?_
  refine (AgreesUnless.refl (t.positionOf assignment.1)).bind fun position _ => ?_
  exact (t.agrees_fit position assignment.2).bind fun v _ => .refl _

/-- Only for a text that is too long does a statement do something else. -/
private theorem Statement.agrees_run (useIndexes : Bool) (statement : Statement) (c : Catalog) :
    (statement.run ⟨useIndexes, true⟩).AgreesUnless (·.isTooLong)
      (statement.run ⟨useIndexes, false⟩) c := by
  cases statement with
  | createTable s => exact .refl _ c
  | insert s =>
    refine Action.AgreesUnless.bind_pure _ (Action.AgreesUnless.within fun t _ => ?_)
    exact Table.agrees_insertTuples s.columns s.tuples t
  | select s => exact .refl _ c
  | update s =>
    refine Action.AgreesUnless.within fun t _ => ?_
    refine .observe_bind (.refl _) fun ids _ => ?_
    exact (Table.agrees_assign s.assignments ids t).bind_pure _
  | delete s => exact .refl _ c

/-! ### Runs -/

namespace Database

/-- Two databases with the same catalog, of which one enforces lengths and the other does not. -/
structure StrictAndLenient (useIndexes : Bool) (db db' : Database) : Prop where
  catalog_eq : db.catalog = db'.catalog
  strict : db.settings = ⟨useIndexes, true⟩
  lenient : db'.settings = ⟨useIndexes, false⟩

private theorem StrictAndLenient.execute {useIndexes : Bool} {db db' : Database}
    (h : StrictAndLenient useIndexes db db') (sql : String)
    (hanswer : FailsOnly (¬ ·.isTooLong) ((execute sql).outcome db).1) :
    ((Database.execute sql).outcome db).1 = ((Database.execute sql).outcome db').1 ∧
      StrictAndLenient useIndexes ((Database.execute sql).outcome db).2
        ((Database.execute sql).outcome db').2 := by
  rw [outcome_execute] at hanswer ⊢
  rw [outcome_execute]
  cases hparse : Statement.parse sql with
  | error e => exact ⟨rfl, h⟩
  | ok statement =>
    rw [hparse] at hanswer
    dsimp only at hanswer ⊢
    rw [outcome_onCatalog] at hanswer ⊢
    rw [outcome_onCatalog, h.strict, h.lenient, ← h.catalog_eq]
    rcases statement.agrees_run useIndexes db.catalog with hsame | ⟨e, hfails, he⟩
    · rw [hsame]
      exact ⟨rfl, rfl, rfl, rfl⟩
    · rw [← h.strict] at hfails
      exact absurd he (hanswer e hfails)

/-- Where lengths are enforced, no text is ever stored beyond its limit, be it in the slot of a live
row, in that of a dead one or as the key of an index; and statements of which none is refused for a
text that is too long do what they do where lengths are not enforced. -/
theorem lengths_enforced (useIndexes : Bool) :
    (∀ requests name t,
      (afterRequests requests (create ⟨useIndexes, true⟩)).table? name = some t →
        t.WithinLimits) ∧
    ∀ (c : Catalog) (sqls : List String),
      (∀ reply ∈ trace (fun sql => (execute sql).outcome) sqls ⟨c, ⟨useIndexes, true⟩⟩,
        FailsOnly (¬ ·.isTooLong) reply.1) →
      (trace (fun sql => (execute sql).outcome) sqls ⟨c, ⟨useIndexes, true⟩⟩).map
          (fun (answer, db) => (answer, db.catalog)) =
        (trace (fun sql => (execute sql).outcome) sqls ⟨c, ⟨useIndexes, false⟩⟩).map
          fun (answer, db) => (answer, db.catalog) := by
  refine ⟨?_, ?_⟩
  · intro requests name t ht
    have hlimited := limited_afterRequests requests (limited_create useIndexes)
    exact (hlimited.tables name t ht).withinLimits
  · intro c sqls hreplies
    have hstart : StrictAndLenient useIndexes ⟨c, ⟨useIndexes, true⟩⟩ ⟨c, ⟨useIndexes, false⟩⟩ :=
      ⟨rfl, rfl, rfl⟩
    have hruns := forall₂_trace_of_replies (fun sql _ _ h hanswer => h.execute sql hanswer) sqls
      hstart hreplies
    rw [← List.forall₂_eq_eq_eq, List.forall₂_map_left_iff, List.forall₂_map_right_iff]
    apply hruns.imp
    intro a b hab
    exact Prod.ext hab.1 hab.2.catalog_eq

/-- Texts are refused in either kind of change and by the middle one of several statements. Where one
that is too long follows a value of another type, it is that value that is refused, with lengths
enforced or not. -/
theorem lengths_enforced_after_refusals :
    ∃ (requests : List Request) (t : Table) (c : Catalog) (sqls : List String),
      (afterRequests requests (create ⟨true, true⟩)).table? "t" = some t ∧
      t.relation.rows = [[.int 1, .text "äöü"], [.int 2, .text "y"]] ∧
      t.WithinLimits ∧
      c.table? "t" = some t ∧
      (trace (fun sql => (execute sql).outcome) sqls ⟨c, ⟨true, true⟩⟩).map (fault? ·.1) =
        [some (.typeMismatch "a" .int .unreadableText), none] ∧
      (trace (fun sql => (execute sql).outcome) sqls ⟨c, ⟨true, true⟩⟩).map
          (fun (answer, db) => (answer, db.catalog)) =
        (trace (fun sql => (execute sql).outcome) sqls ⟨c, ⟨true, false⟩⟩).map
          fun (answer, db) => (answer, db.catalog) := by
  let requests : List Request := [
    .call (.createTable "t" [⟨"a", .int⟩, ⟨"b", .varchar 3⟩]),
    .executeAll [
      "INSERT INTO t VALUES (1, 'äöü')",
      "INSERT INTO t VALUES (2, 'x'), (3, 'long')",
      "DELETE FROM t"],
    .call (.execute "UPDATE t SET b = 'long'"),
    .call (.execute "INSERT INTO t VALUES (2, 'y')")]
  let db := afterRequests requests (create ⟨true, true⟩)
  let sqls := ["INSERT INTO t VALUES ('x', 'long')", "DELETE FROM t WHERE b < 'long'"]
  obtain ⟨hlimits, hsame⟩ := lengths_enforced true
  have hdb : db.catalog.table? "t" = some ((db.catalog.table? "t").get (by decide +kernel)) :=
    (Option.some_get _).symm
  refine ⟨requests, _, db.catalog, sqls, hdb, by decide +kernel, hlimits requests "t" _ hdb, hdb,
    by decide +kernel, hsame db.catalog sqls (by decide +kernel)⟩

end Database

end SqlEngine
