import SqlEngine.Proofs.DatabaseCalls

/-!
# Answers with and without indexes

On a sound table a condition selects the same rows through the index as by comparing every live
row, so a filter does, and with it every query and every statement. Databases that differ only in
this setting therefore answer every run of calls alike, and keep the same catalog down to the slots
of dead rows.
-/

namespace SqlEngine

namespace Table

variable {t : Table} {s : RowStore} {name : String}

/-- The live rows that a comparison finds slot by slot. -/
theorem Holds.mem_compareRows (h : t.Holds s) {column : Column} {c : Comparison} {v : Value}
    {id : RowId} :
    id ∈ t.compareRows column c v ↔
      ∃ w, c.holds w v ∧ ∃ slot, t.LiveAt slot id ∧ column.get? slot = some w := by
  rw [compareRows, RowIds.mem_ofList, List.mem_map]
  simp only [List.mem_filter, and_assoc, h.exists_liveSlot_iff]
  constructor
  · intro hid
    obtain ⟨slot, hat, hcompare⟩ := hid
    cases hw : column.get? slot with
    | none => simp [hw] at hcompare
    | some w =>
      have hholds : c.holds w v := by simpa [hw] using hcompare
      exact ⟨w, hholds, slot, hat, hw⟩
  · intro hid
    obtain ⟨w, hholds, slot, hat, hw⟩ := hid
    exact ⟨slot, hat, by simp [hw, hholds]⟩

/-- The index of a field answers as its column does. -/
private theorem Holds.lookup_eq (h : t.Holds s) {field : Field} (hfield : field ∈ t.fields)
    (c : Comparison) {v : Value} (hv : v.kind = field.column.decl.type.kind) :
    field.index.lookup c v = .ok (t.compareRows field.column c v) := by
  obtain ⟨position, hf⟩ := h.exists_position hfield
  obtain ⟨rows, hlookup, hrows⟩ :=
    ValueIndex.lookup_ok (hv.trans hf.index_kind.symm) (h.index_records hfield) c
  have hsame : rows = t.compareRows field.column c v := by
    ext id
    rw [hrows, h.mem_compareRows]
  rw [hlookup, hsame]

/-- A condition selects the same rows either way, and fails alike. -/
theorem Holds.satisfying_eq (h : t.Holds s) (condition : Condition) (useIndex : Bool) :
    t.satisfying condition useIndex = t.satisfying condition false := by
  refine bind_congr_ok fun position _ => bind_congr_ok fun decl hdecl => ?_
  refine bind_congr_ok fun v hv => ?_
  cases useIndex with
  | false => rfl
  | true =>
    obtain ⟨field, hf, rfl, hcolumn, hindex⟩ := h.field_of_declAt hdecl
    rw [if_pos rfl, if_neg Bool.false_ne_true, hcolumn, hindex]
    exact h.lookup_eq (List.mem_of_getElem? hf) condition.comparison (ColumnDecl.kind_of_convert hv)

private theorem Sound.resolve_eq (h : t.Sound name) (filter : Option Filter)
    (useIndexes useIndexes' : Bool) :
    t.resolve filter useIndexes = t.resolve filter useIndexes' := by
  obtain ⟨s, _, hs⟩ := h
  cases filter with
  | none => rfl
  | some filter =>
    have hsets : filter.conditions.mapM (t.satisfying · useIndexes) =
        filter.conditions.mapM (t.satisfying · useIndexes') := by
      apply mapM_congr
      intro condition _
      rw [hs.satisfying_eq condition useIndexes, hs.satisfying_eq condition useIndexes']
    rw [resolve, resolve, hsets]

private theorem Sound.query_eq (h : t.Sound name) (q : Select) (useIndexes useIndexes' : Bool) :
    t.query q useIndexes = t.query q useIndexes' := by
  rw [query, query, h.resolve_eq q.filter useIndexes useIndexes']

end Table

/-! ### Statements and calls -/

variable {c : Catalog} {settings settings' : Settings}

private theorem Catalog.query_eq (h : c.Sound) (settings settings' : Settings) (q : Select) :
    c.query settings q = c.query settings' q := by
  rw [Catalog.query, Catalog.query]
  cases ht : c.table q.table with
  | error e => rfl
  | ok t => exact (h q.table t (Catalog.table_eq_ok_iff.mp ht)).query_eq q _ _

/-- What a statement answers and leaves does not depend on the use of indexes. -/
private theorem Statement.outcome_run_eq (h : c.Sound)
    (henforce : settings.enforceLength = settings'.enforceLength) (statement : Statement) :
    (statement.run settings).outcome c = (statement.run settings').outcome c := by
  cases statement with
  | createTable s => rfl
  | insert s => rw [run, run, henforce]
  | select s =>
    apply Action.outcome_bind_congr
    rw [Action.outcome_observe, Action.outcome_observe, c.query_eq h settings settings']
  | update s =>
    apply Action.outcome_within_congr
    intro t ht
    rw [henforce]
    apply Action.outcome_observe_bind_congr
    exact (h s.table t (Catalog.table_eq_ok_iff.mp ht)).resolve_eq s.filter _ _
  | delete s =>
    apply Action.outcome_within_congr
    intro t ht
    apply Action.outcome_observe_bind_congr
    exact (h s.table t (Catalog.table_eq_ok_iff.mp ht)).resolve_eq s.filter _ _

namespace Database

private theorem Call.outcome_onCatalog_eq (h : c.Sound)
    (henforce : settings.enforceLength = settings'.enforceLength) (call : Call) :
    (call.onCatalog settings).outcome c = (call.onCatalog settings').outcome c := by
  cases call with
  | execute sql =>
    simp only [onCatalog]
    rw [Action.outcome_bind, Action.outcome_bind, Action.outcome_observe]
    cases Statement.parse sql with
    | error e => rfl
    | ok statement =>
      exact Action.outcome_bind_congr _ (statement.outcome_run_eq h henforce)
  | query sql =>
    apply Action.outcome_observe_bind_congr
    rw [Database.query, Database.query]
    cases Statement.parse sql with
    | error e => rfl
    | ok statement =>
      cases statement with
      | select q => exact c.query_eq h settings settings' q
      | createTable s => rfl
      | insert s => rfl
      | update s => rfl
      | delete s => rfl
  | createTable name decls => rfl
  | dropTable name => rfl

/-- Two databases with the same catalog, of which one uses indexes and the other does not. -/
structure Twins (enforce : Bool) (db db' : Database) : Prop where
  catalog_eq : db.catalog = db'.catalog
  sound : db.catalog.Sound
  indexed : db.settings = ⟨true, enforce⟩
  scanning : db'.settings = ⟨false, enforce⟩

private theorem Twins.respond {enforce : Bool} {db db' : Database} (h : Twins enforce db db')
    (call : Call) :
    (call.act.outcome db).1 = (call.act.outcome db').1 ∧
      Twins enforce (call.act.outcome db).2 (call.act.outcome db').2 := by
  have hsound := (transacts_call h.sound call).invariant h.sound
  have hsame : (call.onCatalog db.settings).outcome db.catalog =
      (call.onCatalog db'.settings).outcome db'.catalog := by
    rw [← h.catalog_eq]
    apply call.outcome_onCatalog_eq h.sound
    rw [h.indexed, h.scanning]
  rw [Action.after] at hsound
  rw [outcome_act, outcome_onCatalog] at hsound ⊢
  rw [outcome_act, outcome_onCatalog]
  exact ⟨congrArg (·.1) hsame, congrArg (·.2) hsame, hsound, h.indexed, h.scanning⟩

private theorem twins_create (enforce : Bool) :
    Twins enforce (create ⟨true, enforce⟩) (create ⟨false, enforce⟩) :=
  ⟨rfl, Catalog.sound_empty, rfl, rfl⟩

/-- With and without indexes a run of calls is answered alike, and after every call the catalogs
are the same. -/
theorem trace_useIndexes (enforce : Bool) (calls : List Call) :
    (trace (fun call => call.act.outcome) calls (create ⟨true, enforce⟩)).map
        (fun (answer, db) => (answer, db.catalog)) =
      (trace (fun call => call.act.outcome) calls (create ⟨false, enforce⟩)).map
        fun (answer, db) => (answer, db.catalog) := by
  have hruns := forall₂_trace (R := Twins enforce) (fun call _ _ h => h.respond call) calls
    (twins_create enforce)
  rw [← List.forall₂_eq_eq_eq, List.forall₂_map_left_iff, List.forall₂_map_right_iff]
  apply hruns.imp
  intro a b hab
  exact Prod.ext hab.1 hab.2.catalog_eq

end Database

end SqlEngine
