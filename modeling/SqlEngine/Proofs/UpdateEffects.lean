import SqlEngine.Proofs.LengthLimits
import SqlEngine.Proofs.PredicateResolution
import SqlEngine.Proofs.RowMapRefinement

/-!
# What updates do

An update resolves its filter and its assignments before it writes, so it changes the rows that its
filter selected and no others, also where it assigns columns that the filter asks for. The last of
several assignments to one column is the one that lasts. To run an update again is to give rows the
values that they have: the second run writes nothing.
-/

namespace SqlEngine

/-! ### The last of several assignments -/

section Assignments

variable {κ : Type} [DecidableEq κ] {key : κ} {assignments : List (Nat × Value)} {row : List Value}
  {position : Nat}

/-- The value of the last assignment to a key. -/
def lastAssigned? (assignments : List (κ × Value)) (key : κ) : Option Value :=
  assignments.reverse.lookup key

private theorem lastAssigned?_append_singleton (assignments : List (κ × Value)) (a : κ × Value) :
    lastAssigned? (assignments ++ [a]) key =
      if a.1 = key then some a.2 else lastAssigned? assignments key := by
  rw [lastAssigned?, List.reverse_append, List.reverse_singleton, List.singleton_append,
    List.lookup_cons]
  by_cases h : a.1 = key
  · simp [h]
  · have hother : (key == a.1) = false := beq_eq_false_iff_ne.mpr (Ne.symm h)
    rw [hother, if_neg h, lastAssigned?]

private theorem assignAll_append_singleton (assignments : List (Nat × Value)) (a : Nat × Value)
    (row : List Value) :
    assignAll (assignments ++ [a]) row = (assignAll assignments row).set a.1 a.2 := by
  rw [assignAll, List.foldl_append]
  rfl

private theorem length_assignAll (assignments : List (Nat × Value)) (row : List Value) :
    (assignAll assignments row).length = row.length := by
  induction assignments using List.reverseRecOn with
  | nil => rfl
  | append_singleton assignments a ih =>
    rw [assignAll_append_singleton, List.length_set, ih]

/-- Of the assignments to a position the last is the one that lasts. -/
private theorem getElem?_assignAll (hposition : position < row.length) :
    (assignAll assignments row)[position]? =
      (lastAssigned? assignments position).or row[position]? := by
  induction assignments using List.reverseRecOn with
  | nil => rfl
  | append_singleton assignments a ih =>
    rw [assignAll_append_singleton, lastAssigned?_append_singleton, List.getElem?_set,
      length_assignAll]
    by_cases hassigned : a.1 = position
    · simp [hassigned, hposition]
    · rw [if_neg hassigned, if_neg hassigned, ih]

private theorem assignAll_assignAll (assignments : List (Nat × Value)) (row : List Value) :
    assignAll assignments (assignAll assignments row) = assignAll assignments row := by
  apply List.ext_getElem?
  intro position
  by_cases hposition : position < row.length
  · rw [getElem?_assignAll (by rwa [length_assignAll]), getElem?_assignAll hposition]
    cases lastAssigned? assignments position <;> rfl
  · rw [List.getElem?_eq_none, List.getElem?_eq_none] <;>
      simpa only [length_assignAll] using Nat.le_of_not_lt hposition

end Assignments

/-! ### Updates of row stores -/

namespace RowStore

variable {s : RowStore} {ids ids' : RowIds} {selects : List Value → Bool}
  {assignments : List (Nat × Value)}

/-- Rows that have been assigned to are as they would be if they were again. -/
private theorem update_update (h : ∀ id ∈ ids', id ∈ ids) (assignments : List (Nat × Value)) :
    (s.update ids assignments).update ids' assignments = s.update ids assignments := by
  have hrecords : Record.edit (Slot.isAmong ids'.toList) (Record.assign assignments)
      (s.update ids assignments).records = (s.update ids assignments).records := by
    apply Record.edit_eq_self
    intro r hr hamong
    obtain ⟨r, _, rfl⟩ := Record.mem_edit.mp hr
    have hslot : Slot.isAmong ids.toList r.slot := by
      have hamong : Slot.isAmong ids'.toList r.slot := by
        split at hamong <;> exact hamong
      simp only [Slot.isAmong, Bool.and_eq_true, decide_eq_true_eq] at hamong ⊢
      exact ⟨hamong.1, h _ hamong.2⟩
    rw [if_pos hslot]
    simp only [Record.assign, assignAll_assignAll]
  rw [update, edit, hrecords]

/-- What a test finds after the rows that it found have changed is among them. -/
private theorem mem_idsWhere_of_update {id : RowId}
    (hid : id ∈ (s.update (s.idsWhere selects) assignments).idsWhere selects) :
    id ∈ s.idsWhere selects := by
  obtain ⟨row, hrow, hselects⟩ := mem_idsWhere.mp hid
  obtain ⟨old, hold, hchanged⟩ := live_mem_update.mp (mem_liveRows.mp hrow)
  by_cases hmem : id ∈ s.idsWhere selects
  · exact hmem
  · rw [if_neg hmem] at hchanged
    exact mem_idsWhere.mpr ⟨old, mem_liveRows.mpr hold, hchanged ▸ hselects⟩

end RowStore

private theorem RowIds.size_le_of_subset {ids ids' : RowIds} (h : ∀ id ∈ ids', id ∈ ids) :
    ids'.size ≤ ids.size :=
  (List.subperm_of_subset ids'.nodup_toList h).length_le

namespace Table

/-! ### Rows before and after -/

/-- The row has in each column the value that it had, or the last literal that the column is
assigned, taken as a value of the column's type. -/
structure Assigned (t : Table) (assignments : List (String × Value)) (row row' : List Value) :
    Prop where
  length_eq : row'.length = row.length
  assigned : ∀ (position : Nat) decl literal, t.decls[position]? = some decl →
    lastAssigned? assignments decl.name = some literal →
      ∃ v, literal.coerce decl.type = .ok v ∧ row'[position]? = some v
  kept : ∀ (position : Nat) decl, t.decls[position]? = some decl →
    lastAssigned? assignments decl.name = none → row'[position]? = row[position]?

/-- What an update makes of a table. Slots with their ids and their order stay, and so does every
row that is dead or not selected. The indexes have the new values. -/
structure UpdatedBy (u : Update) (t t' : Table) : Prop where
  name_eq : t'.name = t.name
  decls_eq : t'.decls = t.decls
  slotIds_eq : t'.slotIds = t.slotIds
  live_eq : t'.live = t.live
  rowCount_eq : t'.rowCount = t.rowCount
  nextId_eq : t'.nextId = t.nextId
  selected : ∀ id row, t.HasRow id row → t.selects u.filter row →
    ∃ row', t'.HasRow id row' ∧ t.Assigned u.assignments row row'
  others : ∀ slot < t.slotCount, ∀ row, t.rowAt? slot = some row →
    ¬ (t.live[slot]? = some true ∧ t.selects u.filter row) → t'.rowAt? slot = some row
  indexed : t'.Indexed

variable {t t' : Table} {s : RowStore} {u : Update} {settings : Settings} {o : Outcome}
  {selects : List Value → Bool} {assignments : List (String × Value)}
  {resolved : List (Nat × Value)} {enforce : Bool} {position : Nat} {decl : ColumnDecl}
  {row : List Value}

/-- Positions are assigned what their columns are assigned by name. -/
private theorem lastAssigned?_resolved (hnames : t.columnNames.Nodup)
    (hresolved : t.relation.resolve assignments enforce = .ok resolved)
    (hdecl : t.decls[position]? = some decl) :
    match lastAssigned? assignments decl.name with
    | some literal => ∃ v, literal.coerce decl.type = .ok v ∧
        lastAssigned? resolved position = some v
    | none         => lastAssigned? resolved position = none := by
  rw [resolve_relation] at hresolved
  have hpairs := List.forall₂_reverse_iff.mpr (mapM_eq_ok_iff.mp hresolved)
  rw [lastAssigned?, lastAssigned?]
  generalize assignments.reverse = latest at hpairs ⊢
  generalize resolved.reverse = latest' at hpairs ⊢
  induction hpairs with
  | nil => rfl
  | @cons a _ earlier _ hassign _ ih =>
    obtain ⟨column, literal⟩ := a
    obtain ⟨assigned, hassigned, hassign⟩ := bind_eq_ok_iff.mp hassign
    obtain ⟨v, hv, hassign⟩ := bind_eq_ok_iff.mp hassign
    cases hassign
    rw [List.lookup_cons, List.lookup_cons]
    by_cases hcolumn : decl.name = column
    · subst hcolumn
      cases (positionOf_name hnames hdecl).symm.trans hassigned
      rw [fit_of_decl hdecl] at hv
      simpa using (ColumnDecl.fit_eq_ok_iff.mp hv).1
    · have hother : position ≠ assigned := by
        rintro rfl
        obtain ⟨decl', hdecl', hname⟩ := decl_of_positionOf hassigned
        cases hdecl.symm.trans hdecl'
        exact hcolumn hname
      rw [beq_eq_false_iff_ne.mpr hcolumn, beq_eq_false_iff_ne.mpr hother]
      exact ih

/-- Resolved assignments, made to a row by position, are those of the columns by name. -/
private theorem assigned_assignAll (hnames : t.columnNames.Nodup)
    (hresolved : t.relation.resolve assignments enforce = .ok resolved)
    (hrow : row.length = t.decls.length) : t.Assigned assignments row (assignAll resolved row) := by
  have hposition : ∀ {position : Nat} {decl}, t.decls[position]? = some decl →
      position < row.length := by
    intro position decl hdecl
    rw [hrow]
    exact (List.getElem?_eq_some_iff.mp hdecl).1
  refine ⟨length_assignAll resolved row, ?_, ?_⟩
  · intro position decl literal hdecl hlast
    have hat := lastAssigned?_resolved hnames hresolved hdecl
    rw [hlast] at hat
    obtain ⟨v, hv, hat⟩ := hat
    refine ⟨v, hv, ?_⟩
    rw [getElem?_assignAll (hposition hdecl), hat]
    rfl
  · intro position decl hdecl hlast
    have hat := lastAssigned?_resolved hnames hresolved hdecl
    rw [hlast] at hat
    rw [getElem?_assignAll (hposition hdecl), hat]
    rfl

/-! ### Updates of tables -/

namespace Holds

/-- An update that succeeds has resolved its filter and its assignments. -/
private theorem update_inv (h : t.Holds s)
    (hrun : ((Statement.update u).onTable settings).outcome t = (.ok o, t')) :
    ∃ selects resolved, t.relation.selector u.filter = .ok selects ∧
      t.relation.resolve u.assignments settings.enforceLength = .ok resolved ∧
      o = .affected (s.idsWhere selects).size ∧
      t'.Holds (s.update (s.idsWhere selects) resolved) := by
  obtain ⟨ids, hids, hassign⟩ := Action.outcome_observe_bind_eq_ok_iff.mp hrun
  rw [h.resolve_relation, map_eq_ok_iff] at hids
  obtain ⟨selects, hselects, rfl⟩ := hids
  obtain ⟨_, _, hassign, _⟩ := Action.outcome_bind_eq_ok_iff.mp hassign
  obtain ⟨resolved, hresolved, _⟩ := Action.outcome_observe_bind_eq_ok_iff.mp hassign
  rw [← Table.resolve_relation] at hresolved
  obtain ⟨t'', hout, h''⟩ :=
    h.outcome_update settings.useIndexes hselects hresolved
  cases hout.symm.trans hrun
  exact ⟨selects, resolved, hselects, hresolved, rfl, h''⟩

private theorem updatedBy (h : t.Holds s) (h' : t'.Holds (s.update (s.idsWhere selects) resolved))
    (hfilter : ∀ f ∈ u.filter, f.conditions ≠ [])
    (hselects : t.relation.selector u.filter = .ok selects)
    (hresolved : t.relation.resolve u.assignments enforce = .ok resolved) : t.UpdatedBy u t' := by
  have hslots : (s.update (s.idsWhere selects) resolved).slots = s.slots :=
    Record.map_slot_edit fun _ => rfl
  refine ⟨h'.name.trans h.name.symm, h'.decls.trans h.decls.symm, ?_, ?_, ?_,
    h'.nextId.trans h.nextId.symm, ?_, ?_, h'.indexed⟩
  · rw [← Array.toList_inj, h'.slotIds, h.slotIds, hslots]
  · rw [← Array.toList_inj, h'.live, h.live, hslots]
  · rw [h'.rowCount, h.rowCount, RowStore.liveCount_eq, RowStore.liveCount_eq, hslots]
  · intro id row hrow hselected
    have hid := (h.mem_idsWhere_iff_selects hfilter hselects hrow).mpr hselected
    refine ⟨assignAll resolved row, h'.hasRow_iff.mpr (RowStore.live_mem_update.mpr ?_),
      assigned_assignAll h.columnNames_nodup hresolved (h.length_of_hasRow hrow)⟩
    exact ⟨row, h.hasRow_iff.mp hrow, by rw [if_pos hid]⟩
  · intro slot hslot row hrow hother
    rw [h.slotCount_eq] at hslot
    have hr := List.getElem?_eq_getElem hslot
    generalize s.records[slot] = r at hr
    cases (h.rowAt?_eq hr).symm.trans hrow
    have hr' : (s.update (s.idsWhere selects) resolved).records[slot]? = some r := by
      rw [RowStore.update, RowStore.edit, Record.getElem?_edit, hr, Option.map_some, if_neg]
      intro hamong
      apply hother
      simp only [Slot.isAmong, Bool.and_eq_true, decide_eq_true_eq, RowIds.mem_toList] at hamong
      obtain ⟨hlive, hid⟩ := hamong
      have hat : t.LiveAt slot r.slot.id := by
        rw [LiveAt, h.slotIds_eq, h.live_eq, hr, Option.map_some, Option.map_some, hlive]
        exact ⟨rfl, rfl⟩
      exact ⟨hat.2, (h.mem_idsWhere_iff_selects hfilter hselects ⟨slot, hat, hrow⟩).mp hid⟩
    exact h'.rowAt?_eq hr'

/-- To run an update again is to write the values that are there to some of the rows that have
them. -/
private theorem update_again (h : t.Holds s) (hselects : t.relation.selector u.filter = .ok selects)
    (hresolved : t.relation.resolve u.assignments settings.enforceLength = .ok resolved)
    (h' : t'.Holds (s.update (s.idsWhere selects) resolved)) :
    ∃ again ≤ (s.idsWhere selects).size,
      ((Statement.update u).onTable settings).outcome t' = (.ok (.affected again), t') := by
  have hrelation := h.relation_of_rows h' rfl rfl
  have hselects' : t'.relation.selector u.filter = .ok selects := by
    rw [hrelation]
    exact hselects
  have hresolved' : t'.relation.resolve u.assignments settings.enforceLength = .ok resolved := by
    rw [hrelation]
    exact hresolved
  have hfewer : ∀ id ∈ (s.update (s.idsWhere selects) resolved).idsWhere selects,
      id ∈ s.idsWhere selects := fun _ => RowStore.mem_idsWhere_of_update
  obtain ⟨t'', hout, h''⟩ := h'.outcome_update settings.useIndexes hselects' hresolved'
  rw [RowStore.update_update hfewer] at h''
  cases h''.unique h'
  exact ⟨_, RowIds.size_le_of_subset hfewer, hout⟩

end Holds

end Table

/-- An update that succeeds changes the rows that satisfied its filter before, in the assigned columns
and to the last values assigned, and counts them. Run again it succeeds, changes nothing and counts no
more rows. -/
theorem Catalog.Reachable.run_update {c c' : Catalog} (h : c.Reachable) {settings : Settings}
    {u : Update} {o : Outcome} (hfilter : ∀ f ∈ u.filter, f.conditions ≠ [])
    (hrun : ((Statement.update u).run settings).outcome c = (.ok o, c')) :
    ∃ t t' count, c.table? u.table = some t ∧ c' = c.put u.table t' ∧ o = .affected count ∧
      count = (t.selected u.filter).length ∧ t.UpdatedBy u t' ∧
      ∃ again ≤ count,
        ((Statement.update u).run settings).outcome c' = (.ok (.affected again), c') := by
  obtain ⟨t, t', ht, hupdate, rfl⟩ := Catalog.outcome_onTable_eq_ok_iff.mp hrun
  obtain ⟨s, _, hs⟩ := h.sound u.table t ht
  obtain ⟨selects, resolved, hselects, hresolved, rfl, hs'⟩ := hs.update_inv hupdate
  obtain ⟨again, hle, hagain⟩ := hs.update_again hselects hresolved hs'
  exact ⟨t, t', _, ht, rfl, rfl, hs.count_idsWhere hfilter hselects,
    hs.updatedBy hs' hfilter hselects hresolved, again, hle,
    Catalog.outcome_onTable_put c u.table hagain⟩

/-- The filter asks for the columns that are assigned, of which one is assigned twice. Of two rows with
equal values one is dead and stays as it is. -/
theorem Catalog.Reachable.run_update_of_condition_column :
    ∃ (c c' : Catalog) (t t' : Table) (u : Update), c.Reachable ∧
      u = ⟨"t", [("a", .text "7"), ("b", .text "w"), ("a", .text "1")],
        some ⟨.or, [⟨"a", .gt, .int 3⟩, ⟨"b", .eq, .text "q"⟩]⟩⟩ ∧
      ((Statement.update u).run {}).outcome c = (.ok (.affected 3), c') ∧
      c.table? "t" = some t ∧ c'.table? "t" = some t' ∧
      t.slotIds = #[0, 1, 2, 3, 4] ∧ t.live = #[false, true, true, true, true] ∧
      t.scan = [(1, [.int 3, .text "x"]), (2, [.int 4, .text "x"]), (3, [.int 2, .text "q"]),
        (4, [.int 5, .text "y"])] ∧
      t'.scan = [(1, [.int 3, .text "x"]), (2, [.int 1, .text "w"]), (3, [.int 1, .text "w"]),
        (4, [.int 1, .text "w"])] ∧
      t'.rowAt? 0 = some [.int 4, .text "x"] ∧ t.UpdatedBy u t' ∧
      ∃ again ≤ 3, ((Statement.update u).run {}).outcome c' = (.ok (.affected again), c') := by
  let c : Catalog := afterCalls [
    .createTable "t" [⟨"a", .int⟩, ⟨"b", .varchar 3⟩],
    .insert "t" none [[.int 4, .text "x"], [.int 3, .text "x"], [.int 4, .text "x"],
      [.int 2, .text "q"], [.int 5, .text "y"]] true,
    .onTable "t" (.delete (.ofList [0]))] .empty
  let u : Update := ⟨"t", [("a", .text "7"), ("b", .text "w"), ("a", .text "1")],
    some ⟨.or, [⟨"a", .gt, .int 3⟩, ⟨"b", .eq, .text "q"⟩]⟩⟩
  let c' : Catalog := ((Statement.update u).run {}).after c
  let t : Table := (c.table? "t").get (by decide +kernel)
  let t' : Table := (c'.table? "t").get (by decide +kernel)
  have hc : c.Reachable := reachable_afterCalls .empty _
  have hrun : ((Statement.update u).run {}).outcome c = (.ok (.affected 3), c') := by
    decide +kernel
  have ht : c.table? "t" = some t := (Option.some_get _).symm
  have ht' : c'.table? "t" = some t' := (Option.some_get _).symm
  obtain ⟨t₀, t₀', _, ht₀, hc', hcount, _, hupdated, hagain⟩ := hc.run_update (by decide) hrun
  cases hcount
  have hbefore : t₀ = t := Option.some.inj (ht₀.symm.trans ht)
  have hafter : t₀' = t' := Catalog.eq_of_put hc' ht'
  rw [hbefore, hafter] at hupdated
  exact ⟨c, c', t, t', u, hc, rfl, hrun, ht, ht', by decide +kernel, by decide +kernel,
    by decide +kernel, by decide +kernel, by decide +kernel, hupdated, hagain⟩

end SqlEngine
