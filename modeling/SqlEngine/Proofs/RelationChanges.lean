import SqlEngine.Proofs.RelationAnswers

/-!
# Tables change as their relations

What a statement does to the records of a table is read off the table's live rows, where ids and
dead slots are gone. So a statement on a table answers what it answers on the relation, and leaves
the relation that it leaves there.
-/

namespace SqlEngine

/-! ### The live rows after a change -/

namespace RowStore

variable {s : RowStore} {selects : List Value → Bool}

private theorem liveRows_insert (s : RowStore) (row : List Value) :
    (s.insert row).liveRows = s.liveRows ++ [(s.nextId, row)] := by
  simp [liveRows, insert]

private theorem rows_foldl_insert (s : RowStore) (rows : List (List Value)) :
    (rows.foldl (fun s row => s.insert row) s).liveRows.map (·.2) =
      s.liveRows.map (·.2) ++ rows := by
  induction rows generalizing s with
  | nil => simp
  | cons row rest ih => simp [ih, liveRows_insert]

private theorem liveRows_update (s : RowStore) (ids : RowIds) (assignments : List (Nat × Value)) :
    (s.update ids assignments).liveRows =
      s.liveRows.map fun (id, row) =>
        (id, if id ∈ ids then assignAll assignments row else row) := by
  simp only [liveRows, update, edit, Record.edit, List.filterMap_map, List.map_filterMap]
  apply List.filterMap_congr
  intro r _
  cases hlive : r.slot.live with
  | false => simp [Slot.isAmong, hlive]
  | true => by_cases hid : r.slot.id ∈ ids <;> simp [Slot.isAmong, Record.assign, hlive, hid]

private theorem liveRows_kill (s : RowStore) (ids : RowIds) :
    (s.kill ids).liveRows = s.liveRows.filter (·.1 ∉ ids) := by
  simp only [liveRows, kill, edit, Record.edit, List.filterMap_map, List.filter_filterMap]
  apply List.filterMap_congr
  intro r _
  cases hlive : r.slot.live with
  | false => simp [Slot.isAmong, hlive]
  | true =>
    by_cases hid : r.slot.id ∈ ids <;>
      simp [Slot.isAmong, Record.kill, hlive, hid, Option.filter]

/-- Dead records can go unseen. -/
theorem liveRows_reclaim (s : RowStore) : s.reclaim.liveRows = s.liveRows := by
  rw [reclaim]
  split
  · simp only [liveRows, compact, List.filterMap_filter]
    apply List.filterMap_congr
    intro r _
    cases r.slot.live <;> rfl
  · rfl

theorem liveRows_delete (s : RowStore) (ids : RowIds) :
    (s.delete ids).liveRows = s.liveRows.filter (·.1 ∉ ids) := by
  rw [delete, liveRows_reclaim, liveRows_kill]

private theorem Valid.rows_update (h : s.Valid) (selects : List Value → Bool)
    (assignments : List (Nat × Value)) :
    (s.update (s.idsWhere selects) assignments).liveRows.map (·.2) =
      (s.liveRows.map (·.2)).map fun row =>
        if selects row then assignAll assignments row else row := by
  rw [liveRows_update, List.map_map, List.map_map]
  apply List.map_congr_left
  intro e he
  simp only [Function.comp_apply, h.mem_idsWhere_iff he]

private theorem Valid.rows_delete (h : s.Valid) (selects : List Value → Bool) :
    (s.delete (s.idsWhere selects)).liveRows.map (·.2) =
      (s.liveRows.map (·.2)).filter fun row => !selects row := by
  rw [liveRows_delete, List.filter_map]
  congr 1
  apply List.filter_congr
  intro e he
  simp [h.mem_idsWhere_iff he]

end RowStore

/-! ### Changes of a table -/

namespace Table

variable {t t' : Table} {s s' : RowStore} {act : Action Table Outcome}
  {act' : Action Relation Outcome} {answer : Except Error Outcome}

/-- The action answers on the table what the other answers on its relation, and leaves a table of
the relation that the other leaves. -/
def RunsAs (act : Action Table Outcome) (act' : Action Relation Outcome) (t : Table) : Prop :=
  act.answer t = act'.answer t.relation ∧ (act.after t).relation = act'.after t.relation

private theorem runsAs_of_outcome (h : act.outcome t = (answer, t'))
    (h' : act'.outcome t.relation = (answer, t'.relation)) : RunsAs act act' t := by
  refine ⟨?_, ?_⟩
  · rw [Action.answer, Action.answer, h, h']
  · rw [Action.after_of_outcome h, Action.after_of_outcome h']

namespace Holds

theorem relation_of_rows (h : t.Holds s) (h' : t'.Holds s') (hname : s'.name = s.name)
    (hdecls : s'.decls = s.decls) :
    t'.relation = { t.relation with rows := s'.liveRows.map (·.2) } := by
  rw [h'.relation_eq, h.relation_eq, h'.name, h.name, h'.decls, h.decls, hname, hdecls]

private theorem rows_relation (h : t.Holds s) : t.relation.rows = s.liveRows.map (·.2) := by
  rw [h.relation_eq]

theorem count_relation (h : t.Holds s) (selects : List Value → Bool) :
    (s.idsWhere selects).size = t.relation.count selects := by
  rw [h.valid.size_idsWhere, Relation.count, h.rows_relation]

/-- Selected rows are not missing. -/
private theorem missingFault?_idsWhere (h : t.Holds s) (selects : List Value → Bool) :
    missingFault? t.contains (s.idsWhere selects) = none := by
  have hlive : ∀ id ∈ (s.idsWhere selects).toList, t.contains id := by
    intro id hid
    obtain ⟨row, hrow, _⟩ := RowStore.mem_idsWhere.mp hid
    exact h.contains_iff.mpr ⟨row, RowStore.mem_liveRows.mp hrow⟩
  rw [missingFault?, Option.map_eq_none_iff, List.find?_eq_none]
  intro id hid
  simp [hlive id hid]

/-- Resolved assignments to selected rows are in order. -/
private theorem updateFault?_idsWhere (h : t.Holds s) {assignments : List (String × Value)}
    {enforce : Bool} {resolved : List (Nat × Value)}
    (hresolved : t.relation.resolve assignments enforce = .ok resolved)
    (selects : List Value → Bool) :
    updateFault? t.name t.decls t.contains (s.idsWhere selects) resolved = none := by
  rw [updateFault?, h.missingFault?_idsWhere, Option.none_or, List.findSome?_eq_none_iff]
  intro a ha
  rw [Table.resolve_relation] at hresolved
  obtain ⟨⟨column, literal⟩, _, hassign⟩ := exists_of_mem_mapM hresolved ha
  obtain ⟨position, _, hassign⟩ := bind_eq_ok_iff.mp hassign
  obtain ⟨v, hv, hassign⟩ := bind_eq_ok_iff.mp hassign
  cases hassign
  obtain ⟨decl, hdecl, hfit⟩ := fit_eq_ok_iff.mp hv
  exact assignmentFault?_eq_none_iff.mpr ⟨decl, hdecl, ColumnDecl.kind_of_fit hfit⟩

private theorem runsAs_insert (h : t.Holds s) (insertion : Insert) (enforce : Bool) :
    RunsAs (do
        let ids ← insertTuples insertion.columns insertion.tuples enforce
        return .affected ids.length)
      ((Statement.insert insertion).onRelation enforce) t := by
  have hbind := t.bind_relation insertion.columns insertion.tuples enforce
  cases hrows : t.relation.bind insertion.columns insertion.tuples enforce with
  | error e =>
    rw [hrows] at hbind
    have hfail : (insertTuples insertion.columns insertion.tuples enforce).outcome t =
        (.error e, t) := Action.outcome_observe_bind_of_error _ hbind.symm
    refine runsAs_of_outcome ?_ (Action.outcome_observe_bind_of_error _ hrows)
    rw [Action.outcome_bind, hfail]
  | ok rows =>
    rw [hrows] at hbind
    obtain ⟨t', hinsert, h'⟩ := insertTuples_ok h hbind.symm
    have hrelation : t'.relation = t.relation.append rows := by
      rw [h.relation_of_rows h' (RowStore.name_foldl_insert rows s)
        (RowStore.decls_foldl_insert rows s), RowStore.rows_foldl_insert, ← h.rows_relation]
      rfl
    refine runsAs_of_outcome (Action.outcome_bind_of_ok hinsert) ?_
    rw [Statement.onRelation, Action.outcome_observe_bind_of_ok
      (Relation.bind · insertion.columns insertion.tuples enforce) hrows, hrelation,
      List.length_range']
    rfl

private theorem runsAs_select (h : t.Holds s) (q : Select) (useIndexes enforce : Bool) :
    RunsAs (do return .rows (← Action.observe (·.query q useIndexes)))
      ((Statement.select q).onRelation enforce) t := by
  have hquery := h.query_relation q useIndexes
  cases hrows : t.relation.query q with
  | error e =>
    exact runsAs_of_outcome (Action.outcome_observe_bind_of_error _ (hquery.trans hrows))
      (Action.outcome_observe_bind_of_error _ hrows)
  | ok rows =>
    exact runsAs_of_outcome (Action.outcome_observe_bind_of_ok _ (hquery.trans hrows))
      (Action.outcome_observe_bind_of_ok _ hrows)

/-- An update that resolves changes the rows that its filter selects. -/
theorem outcome_update (h : t.Holds s) {u : Update} (useIndexes : Bool) {enforce : Bool}
    {selects : List Value → Bool} {resolved : List (Nat × Value)}
    (hselects : t.relation.selector u.filter = .ok selects)
    (hresolved : t.relation.resolve u.assignments enforce = .ok resolved) :
    ∃ t', (do
        let ids ← Action.observe (·.resolve u.filter useIndexes)
        return .affected (← Table.assign u.assignments ids enforce) :
          Action Table Outcome).outcome t = (.ok (.affected (s.idsWhere selects).size), t') ∧
      t'.Holds (s.update (s.idsWhere selects) resolved) := by
  have hresolve := h.resolve_relation u.filter useIndexes
  rw [hselects] at hresolve
  have hassign := t.resolve_relation u.assignments enforce
  rw [hresolved] at hassign
  obtain ⟨t', hout, h'⟩ := update_ok h (h.updateFault?_idsWhere hresolved selects)
  have hupdate : (assign u.assignments (s.idsWhere selects) enforce).outcome t =
      (.ok (s.idsWhere selects).size, t') :=
    Eq.trans (Action.outcome_observe_bind_of_ok _ hassign.symm) hout
  exact ⟨t', Eq.trans (Action.outcome_observe_bind_of_ok _ hresolve)
    (Action.outcome_bind_of_ok hupdate), h'⟩

private theorem runsAs_update (h : t.Holds s) (u : Update) (useIndexes enforce : Bool) :
    RunsAs (do
        let ids ← Action.observe (·.resolve u.filter useIndexes)
        return .affected (← Table.assign u.assignments ids enforce))
      ((Statement.update u).onRelation enforce) t := by
  have hresolve := h.resolve_relation u.filter useIndexes
  have hassign := t.resolve_relation u.assignments enforce
  cases hselects : t.relation.selector u.filter with
  | error e =>
    rw [hselects] at hresolve
    exact runsAs_of_outcome (Action.outcome_observe_bind_of_error _ hresolve)
      (Action.outcome_observe_bind_of_error _ hselects)
  | ok selects =>
    rw [hselects] at hresolve
    cases hresolved : t.relation.resolve u.assignments enforce with
    | error e =>
      rw [hresolved] at hassign
      have hfail : (assign u.assignments (s.idsWhere selects) enforce).outcome t = (.error e, t) :=
        Action.outcome_observe_bind_of_error _ hassign.symm
      refine runsAs_of_outcome (Eq.trans (Action.outcome_observe_bind_of_ok _ hresolve) ?_)
        (Eq.trans (Action.outcome_observe_bind_of_ok _ hselects)
          (Action.outcome_observe_bind_of_error _ hresolved))
      rw [Action.outcome_bind, hfail]
    | ok resolved =>
      obtain ⟨t', hout, h'⟩ := h.outcome_update useIndexes hselects hresolved
      have hrelation : t'.relation = t.relation.assign selects resolved := by
        rw [h.relation_of_rows h' rfl rfl, h.valid.rows_update, ← h.rows_relation]
        rfl
      refine runsAs_of_outcome hout ?_
      rw [Statement.onRelation,
        Action.outcome_observe_bind_of_ok (Relation.selector · u.filter) hselects,
        Action.outcome_observe_bind_of_ok (Relation.resolve · u.assignments enforce) hresolved,
        hrelation, h.count_relation]
      rfl

/-- A removal that resolves takes away the rows that its filter selects. -/
theorem outcome_delete (h : t.Holds s) {d : Delete} (useIndexes : Bool)
    {selects : List Value → Bool} (hselects : t.relation.selector d.filter = .ok selects) :
    ∃ t', (do
        let ids ← Action.observe (·.resolve d.filter useIndexes)
        return .affected (← Table.delete ids) :
          Action Table Outcome).outcome t = (.ok (.affected (s.idsWhere selects).size), t') ∧
      t'.Holds (s.delete (s.idsWhere selects)) := by
  have hresolve := h.resolve_relation d.filter useIndexes
  rw [hselects] at hresolve
  obtain ⟨t', hout, h'⟩ := delete_ok h (h.missingFault?_idsWhere selects)
  exact ⟨t', Eq.trans (Action.outcome_observe_bind_of_ok _ hresolve)
    (Action.outcome_bind_of_ok hout), h'⟩

private theorem runsAs_delete (h : t.Holds s) (d : Delete) (useIndexes enforce : Bool) :
    RunsAs (do
        let ids ← Action.observe (·.resolve d.filter useIndexes)
        return .affected (← Table.delete ids))
      ((Statement.delete d).onRelation enforce) t := by
  cases hselects : t.relation.selector d.filter with
  | error e =>
    have hresolve := h.resolve_relation d.filter useIndexes
    rw [hselects] at hresolve
    exact runsAs_of_outcome (Action.outcome_observe_bind_of_error _ hresolve)
      (Action.outcome_observe_bind_of_error _ hselects)
  | ok selects =>
    obtain ⟨t', hout, h'⟩ := h.outcome_delete useIndexes hselects
    have hrelation : t'.relation = t.relation.remove selects := by
      rw [h.relation_of_rows h' (RowStore.name_delete _ s) (RowStore.decls_delete _ s),
        h.valid.rows_delete, ← h.rows_relation]
      rfl
    refine runsAs_of_outcome hout ?_
    rw [Statement.onRelation,
      Action.outcome_observe_bind_of_ok (Relation.selector · d.filter) hselects,
      hrelation, h.count_relation]
    rfl

end Holds

end Table

/-! ### Statements -/

namespace Statement

variable {c : Catalog} {t : Table} {s : RowStore} {statement : Statement}

/-- What a statement does to the table that it is on, once there is one. -/
def onTable (settings : Settings) : Statement → Action Table Outcome
  | .createTable s => throw (.duplicateTable s.table)
  | .insert s      => do
    let ids ← Table.insertTuples s.columns s.tuples settings.enforceLength
    return .affected ids.length
  | .select s      => do
    return .rows (← Action.observe (·.query s settings.useIndexes))
  | .update s      => do
    let ids ← Action.observe (·.resolve s.filter settings.useIndexes)
    return .affected (← Table.assign s.assignments ids settings.enforceLength)
  | .delete s      => do
    let ids ← Action.observe (·.resolve s.filter settings.useIndexes)
    return .affected (← Table.delete ids)

theorem outcome_run_of_table (ht : c.table? statement.table = some t) (settings : Settings) :
    (statement.run settings).outcome c =
      (((statement.onTable settings).outcome t).1,
        c.put statement.table ((statement.onTable settings).outcome t).2) := by
  have htable : c.table statement.table = .ok t := Catalog.table_eq_ok_iff.mpr ht
  cases statement with
  | createTable s =>
    have hpresent : (c.table? s.table).isSome := by
      rw [show c.table? s.table = some t from ht]
      rfl
    rw [run, Action.outcome_bind, Catalog.createTable, Action.outcome_change, if_pos hpresent,
      onTable, Action.outcome_throw, Catalog.put_self ht]
    rfl
  | insert s =>
    rw [run, Action.outcome_bind, Catalog.onTable, Action.outcome_within,
      show c.table s.table = .ok t from htable, onTable, Action.outcome_bind]
    dsimp only
    rcases (Table.insertTuples s.columns s.tuples settings.enforceLength).outcome t
      with ⟨_ | _, _⟩ <;> rfl
  | select s =>
    rw [run, Action.outcome_bind, Action.outcome_observe, Catalog.query,
      show c.table s.table = .ok t from htable, onTable, Action.outcome_bind,
      Action.outcome_observe]
    have hquery : (Except.ok t >>= fun t => t.query s settings.useIndexes) =
        t.query s settings.useIndexes := rfl
    rw [hquery]
    cases t.query s settings.useIndexes <;>
      simp only [Action.outcome_pure] <;> rw [Catalog.put_self ht]
  | update s =>
    rw [run, Catalog.onTable, Action.outcome_within, show c.table s.table = .ok t from htable]
    rfl
  | delete s =>
    rw [run, Catalog.onTable, Action.outcome_within, show c.table s.table = .ok t from htable]
    rfl

private theorem runsAs_onRelation (h : t.Holds s) (settings : Settings) (statement : Statement) :
    Table.RunsAs (statement.onTable settings) (statement.onRelation settings.enforceLength) t := by
  cases statement with
  | createTable s => exact ⟨rfl, rfl⟩
  | insert s => exact h.runsAs_insert s _
  | select s => exact h.runsAs_select s _ _
  | update s => exact h.runsAs_update s _ _
  | delete s => exact h.runsAs_delete s _ _

/-- A statement on a table of a sound catalog does to the table's relation what it does to a
relation alone. -/
theorem run_relation (hc : c.Sound) (ht : c.table? statement.table = some t) (settings : Settings) :
    (statement.run settings).answer c =
        (statement.onRelation settings.enforceLength).answer t.relation ∧
      ∃ t', ((statement.run settings).after c).table? statement.table = some t' ∧
        t'.relation = (statement.onRelation settings.enforceLength).after t.relation := by
  obtain ⟨s, _, h⟩ := hc _ t ht
  obtain ⟨hanswer, hafter⟩ := statement.runsAs_onRelation h settings
  have hout := outcome_run_of_table ht settings
  refine ⟨?_, _, ?_, hafter⟩
  · rw [← hanswer, Action.answer, hout, Action.answer]
  · rw [Action.after_of_outcome hout, Catalog.table?_put]
    rfl

end Statement

end SqlEngine
