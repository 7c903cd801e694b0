import SqlEngine.Proofs.TableRecords

/-!
# Changes to tables and to their rows

Every change, once its checks are passed, runs to its end and does to the table what the row store's
own operation does to the records. A change writes field by field, so between two writes the table
holds nothing; the loop over the fields is therefore taken as one step.
-/

namespace SqlEngine.Table

variable {t : Table} {s : RowStore} {r : Record} {records : List Record} {row : List Value}
  {v : Value} {decl : ColumnDecl} {position slot : Nat} {id : RowId} {ids : RowIds}
  {assignments : List (Nat × Value)}

/-! ### Writes to fields -/

private theorem zipWith_set {α β γ : Type} (f : α → β → γ) (as : List α) (bs : List β) (i : Nat)
    (a : α) (b : β) :
    List.zipWith f (as.set i a) (bs.set i b) = (List.zipWith f as bs).set i (f a b) := by
  induction as generalizing bs i with
  | nil => simp
  | cons a' as ih =>
    cases bs with
    | nil => simp
    | cons b' bs =>
      cases i with
      | zero => rfl
      | succ i => simp [ih]

private theorem fields_setField (t : Table) (position : Nat) (field : Field) :
    (t.setField position field).fields = t.fields.set position field :=
  zipWith_set Field.mk t.columns t.indexes position field.column field.index

private theorem fields_setField_self (hlt : position < t.fields.length) (field : Field) :
    (t.setField position field).fields[position]? = some field := by
  rw [fields_setField, List.getElem?_set_self hlt]

private theorem fields_setField_ne {other : Nat} (hne : other ≠ position) (field : Field) :
    (t.setField position field).fields[other]? = t.fields[other]? := by
  rw [fields_setField, List.getElem?_set_ne hne.symm]

private theorem columns_setField {field field' : Field} (hf : t.fields[position]? = some field)
    (hdecl : field'.column.decl = field.column.decl) :
    (t.setField position field').columns.map (·.decl) = t.columns.map (·.decl) := by
  obtain ⟨hlt, hc⟩ := List.getElem?_eq_some_iff.mp (getElem?_fields_eq_some_iff.mp hf).1
  have hlt' : position < (t.columns.map (·.decl)).length := by rwa [List.length_map]
  have hself := List.set_getElem_self hlt'
  rw [List.getElem_map, hc] at hself
  rw [setField, List.map_set, hdecl, hself]

private theorem outcome_atField {α : Type} {field : Field} (act : Action Field α)
    (hf : t.fields[position]? = some field) :
    (atField position act).outcome t =
      ((act.outcome field).1, t.setField position (act.outcome field).2) := by
  rw [atField, Action.outcome_within, fieldAt_eq_ok_iff.mpr hf]

/-- The fields before the position hold the records. -/
def HoldsBefore (t : Table) (records : List Record) (first : Nat) : Prop :=
  ∀ position < first, ∀ field : Field, t.fields[position]? = some field →
    field.Holds position records

private theorem HoldsBefore.setField {field : Field} (h : t.HoldsBefore records position)
    (hlt : position < t.fields.length) (hfield : field.Holds position records) :
    (t.setField position field).HoldsBefore records (position + 1) := by
  intro other hother field' hf
  by_cases heq : other = position
  · subst heq
    rw [fields_setField_self hlt, Option.some.injEq] at hf
    exact hf ▸ hfield
  · rw [fields_setField_ne heq] at hf
    exact h other (Nat.lt_of_le_of_ne (Nat.le_of_lt_succ hother) heq) field' hf

/-- Columns and indexes that may stand for those of the table: they have its schema, and hold the
records. -/
structure Rewritten (t : Table) (columns' : List Column) (indexes' : List ValueIndex)
    (records : List Record) : Prop where
  columns : columns'.map (·.decl) = t.columns.map (·.decl)
  indexes : indexes'.length = t.indexes.length
  fields : ∀ (position : Nat) (field : Field),
    (List.zipWith Field.mk columns' indexes')[position]? = some field →
      field.Holds position records

/-- Fields that are written from the left on, one after the other. Those on the left are done. -/
private theorem forM_atField_from {α : Type} {place : α → Nat} {act : α → Action Field Unit}
    {items : List α} (first : Nat) (hplaces : items.map place = List.range' first items.length)
    (hwidth : first + items.length = t.fields.length) (hdone : t.HoldsBefore records first)
    (hact : ∀ a ∈ items, ∀ field : Field, t.fields[place a]? = some field →
      ∃ field', (act a).outcome field = (.ok (), field') ∧
        field'.column.decl = field.column.decl ∧ field'.Holds (place a) records) :
    ∃ columns' indexes',
      (items.forM fun a => atField (place a) (act a)).outcome t =
        (.ok (), { t with columns := columns', indexes := indexes' }) ∧
      t.Rewritten columns' indexes' records := by
  induction items generalizing t first with
  | nil =>
    refine ⟨t.columns, t.indexes, Action.outcome_forM_nil _ t, rfl, rfl, fun position field hf => ?_⟩
    refine hdone position ?_ field hf
    rw [List.length_nil, Nat.add_zero] at hwidth
    rw [hwidth]
    exact (List.getElem?_eq_some_iff.mp hf).1
  | cons a rest ih =>
    rw [List.map_cons, List.length_cons, List.range'_succ, List.cons.injEq] at hplaces
    obtain ⟨rfl, hplaces⟩ := hplaces
    rw [List.length_cons] at hwidth
    have hlt : place a < t.fields.length := by omega
    have hfield := List.getElem?_eq_getElem hlt
    obtain ⟨field', hout, hdecl, hholds⟩ := hact a List.mem_cons_self _ hfield
    have hwidth' : place a + 1 + rest.length = (t.setField (place a) field').fields.length := by
      rw [fields_setField, List.length_set]
      omega
    have hact' : ∀ b ∈ rest, ∀ field : Field,
        (t.setField (place a) field').fields[place b]? = some field →
        ∃ field', (act b).outcome field = (.ok (), field') ∧
          field'.column.decl = field.column.decl ∧ field'.Holds (place b) records := by
      intro b hb field hf
      have hrange : place b ∈ List.range' (place a + 1) rest.length :=
        hplaces ▸ List.mem_map_of_mem hb
      have hlater := (List.mem_range'_1.mp hrange).1
      rw [fields_setField_ne (by omega)] at hf
      exact hact b (List.mem_cons_of_mem a hb) field hf
    obtain ⟨columns', indexes', hrun, h'⟩ :=
      ih (place a + 1) hplaces hwidth' (hdone.setField hlt hholds) hact'
    refine ⟨columns', indexes', ?_, ?_, ?_, h'.fields⟩
    · rw [Action.outcome_forM_cons, outcome_atField _ hfield, hout]
      exact hrun
    · exact h'.columns.trans (columns_setField hfield hdecl)
    · exact h'.indexes.trans List.length_set

/-- Every field is written once. -/
private theorem forM_atField_ok {α : Type} (place : α → Nat) (act : α → Action Field Unit)
    (items : List α) (records : List Record)
    (hplaces : items.map place = List.range t.fields.length)
    (hact : ∀ a ∈ items, ∀ field : Field, t.fields[place a]? = some field →
      ∃ field', (act a).outcome field = (.ok (), field') ∧
        field'.column.decl = field.column.decl ∧ field'.Holds (place a) records) :
    ∃ columns' indexes',
      (items.forM fun a => atField (place a) (act a)).outcome t =
        (.ok (), { t with columns := columns', indexes := indexes' }) ∧
      t.Rewritten columns' indexes' records := by
  have hlength : items.length = t.fields.length := by
    have := congrArg List.length hplaces
    rwa [List.length_map, List.length_range] at this
  apply forM_atField_from 0 _ _ _ hact
  · rw [hplaces, hlength, List.range_eq_range']
  · rw [hlength, Nat.zero_add]
  · intro position hposition
    exact absurd hposition (Nat.not_lt_zero position)

/-! ### New rows -/

theorem insert_ok (h : t.Holds s) (hrow : Fits s.decls row) :
    ∃ t', (insert row).outcome t = (.ok s.nextId, t') ∧ t'.Holds (s.insert row) := by
  have hcheck : t.checkRow row = .ok () := by
    rw [eq_ok_iff_fault?, fault?_checkRow h.columns_decls, h.decls, rowFault?_eq_none_iff]
    exact hrow
  have hplaces : (t.fields.zip row).zipIdx.map Prod.snd = List.range t.fields.length := by
    rw [List.zipIdx_map_snd, List.length_zip, h.length_fields, hrow.length_eq, Nat.min_self,
      List.range_eq_range']
  have happend : ∀ e ∈ (t.fields.zip row).zipIdx, ∀ field : Field,
      t.fields[e.2]? = some field →
      ∃ field', (Field.append t.nextId e.1.2).outcome field = (.ok (), field') ∧
        field'.column.decl = field.column.decl ∧
        field'.Holds e.2 (s.insert row).records := by
    intro e he field hf
    have hv := (List.getElem?_zip_eq_some.mp (List.mk_mem_zipIdx_iff_getElem?.mp he)).2
    have hkind := hrow.kind_eq (h.decl_of_field hf) hv
    rw [h.nextId]
    exact Field.append_ok (h.fields e.2 field hf) hv hkind s.nextId
  obtain ⟨columns', indexes', hloop, h'⟩ := forM_atField_ok Prod.snd
    (fun e => Field.append t.nextId e.1.2) (t.fields.zip row).zipIdx (s.insert row).records hplaces
    happend
  refine ⟨addSlot { t with columns := columns', indexes := indexes' }, ?_, ?_⟩
  · rw [insert, Action.outcome_observe_bind_of_ok (checkRow · row) hcheck,
      Action.outcome_bind_of_ok (Action.outcome_get t)]
    refine (Action.outcome_bind_of_ok hloop).trans ?_
    rw [Action.outcome_bind_of_ok (Action.outcome_modify ..), ← h.nextId]
    rfl
  · have hslots : (s.insert row).slots = s.slots ++ [⟨s.nextId, true⟩] := by
      rw [RowStore.slots, RowStore.insert, List.map_append, List.map_singleton, RowStore.slots]
    refine ⟨h.valid.insert hrow, h.name, h.decls, h'.columns.trans h.columns,
      h'.indexes.trans h.indexes, h'.fields, ?_, ?_, ?_, ?_⟩
    · show (t.slotIds.push t.nextId).toList = _
      rw [Array.toList_push, h.slotIds, h.nextId, hslots, List.map_append, List.map_singleton]
    · show (t.live.push true).toList = _
      rw [Array.toList_push, h.live, hslots, List.map_append, List.map_singleton]
    · show t.rowCount + 1 = _
      rw [h.rowCount, RowStore.liveCount, RowStore.liveCount, RowStore.insert, List.countP_append]
      rfl
    · show t.nextId + 1 = _
      rw [h.nextId]
      rfl

theorem mapM_insert_ok {rows : List (List Value)} (h : t.Holds s)
    (hrows : ∀ row ∈ rows, Fits s.decls row) :
    ∃ t', (rows.mapM insert).outcome t = (.ok (List.range' s.nextId rows.length), t') ∧
      t'.Holds (rows.foldl (fun s row => s.insert row) s) := by
  induction rows generalizing t s with
  | nil => exact ⟨t, rfl, h⟩
  | cons row rest ih =>
    obtain ⟨t₁, hout₁, h₁⟩ := insert_ok h (hrows row List.mem_cons_self)
    obtain ⟨t₂, hout₂, h₂⟩ := ih h₁ fun row' hrow' => hrows row' (List.mem_cons_of_mem row hrow')
    refine ⟨t₂, ?_, h₂⟩
    rw [Action.outcome_mapM_cons, hout₁]
    dsimp only
    rw [hout₂]
    rfl

theorem insert_of_fault (h : t.Holds s) {e : Error} (hfault : rowFault? s.decls row = some e) :
    (insert row).outcome t = (.error e, t) := by
  have hcheck : t.checkRow row = .error e := by
    rw [← fault?_eq_some_iff, fault?_checkRow h.columns_decls, h.decls, hfault]
  rw [insert, Action.outcome_observe_bind_of_error (checkRow · row) hcheck]

/-! ### New values -/

/-- One assignment to one row. -/
private theorem put_ok (h : t.Holds s) (hr : s.records[slot]? = some r)
    (hlive : r.slot = ⟨id, true⟩) (hd : s.decls[position]? = some decl)
    (hkind : v.kind = decl.type.kind) :
    ∃ t', (atField position (Field.assign id slot v)).outcome t = (.ok (), t') ∧
      t'.Holds (s.edit (Slot.isRow id) (Record.put position v)) := by
  obtain ⟨field, hf, rfl⟩ := h.field_of_decl hd
  obtain ⟨hlt, hget⟩ := List.getElem?_eq_some_iff.mp hf
  obtain ⟨field', hout, hdecl, hholds⟩ :=
    Field.assign_ok (h.fields position field hf) h.valid.ascending hr hlive hkind
  refine ⟨t.setField position field', ?_, ?_⟩
  · rw [outcome_atField _ hf, hout]
  · have hvalid : (s.edit (Slot.isRow id) (Record.put position v)).Valid :=
      h.valid.edit (fun _ => rfl) fun r hr => (h.valid.fits r hr).set hd hkind
    have hslots : (s.edit (Slot.isRow id) (Record.put position v)).slots = s.slots :=
      Record.map_slot_edit fun _ => rfl
    refine ⟨hvalid, h.name, h.decls, (columns_setField hf hdecl).trans h.columns,
      List.length_set.trans h.indexes, ?_, ?_, ?_, ?_, h.nextId⟩
    · intro other field₁ hf₁
      by_cases heq : other = position
      · subst heq
        rw [fields_setField_self hlt, Option.some.injEq] at hf₁
        exact hf₁ ▸ hholds
      · rw [fields_setField_ne heq] at hf₁
        refine (h.fields other field₁ hf₁).edit (fun _ => rfl) fun r => ?_
        exact List.getElem?_set_ne (Ne.symm heq)
    · rw [hslots]
      exact h.slotIds
    · rw [hslots]
      exact h.live
    · rw [RowStore.liveCount_eq, hslots, ← RowStore.liveCount_eq]
      exact h.rowCount

/-- All assignments to one row. -/
private theorem forM_put_ok (h : t.Holds s) (hr : s.records[slot]? = some r)
    (hlive : r.slot = ⟨id, true⟩)
    (hall : ∀ a ∈ assignments, assignmentFault? s.name s.decls a.1 a.2 = none) :
    ∃ t', (assignments.forM fun (position, v) =>
        atField position (Field.assign id slot v)).outcome t = (.ok (), t') ∧
      t'.Holds (s.edit (Slot.isRow id) (Record.assign assignments)) := by
  induction assignments generalizing t s r with
  | nil =>
    refine ⟨t, rfl, ?_⟩
    have hself : Record.edit (Slot.isRow id) (Record.assign []) s.records = s.records :=
      Record.edit_eq_self fun _ _ _ => rfl
    rw [RowStore.edit, hself]
    exact h
  | cons first rest ih =>
    obtain ⟨position, v⟩ := first
    obtain ⟨decl, hd, hkind⟩ := assignmentFault?_eq_none_iff.mp (hall _ List.mem_cons_self)
    obtain ⟨t₁, hout₁, h₁⟩ := put_ok h hr hlive hd hkind
    have hr₁ : (s.edit (Slot.isRow id) (Record.put position v)).records[slot]? =
        some (r.put position v) := by
      rw [RowStore.edit, Record.getElem?_edit, hr, Option.map_some]
      simp [Slot.isRow, hlive]
    obtain ⟨t₂, hout₂, h₂⟩ :=
      ih h₁ hr₁ hlive fun a ha => hall a (List.mem_cons_of_mem _ ha)
    refine ⟨t₂, ?_, ?_⟩
    · rw [Action.outcome_forM_cons, hout₁]
      exact hout₂
    · have hboth : Record.edit (Slot.isRow id) (Record.assign rest)
            (Record.edit (Slot.isRow id) (Record.put position v) s.records) =
          Record.edit (Slot.isRow id) (Record.assign ((position, v) :: rest)) s.records :=
        Record.edit_edit fun _ => rfl
      rw [RowStore.edit, RowStore.edit, hboth] at h₂
      exact h₂

/-! ### Row by row -/

/-- A loop over live rows changes the record of each. -/
private theorem forM_rows_ok {act : RowId → Nat → Action Table Unit} {rows : List (RowId × Nat)}
    (change : Record → Record) (hid : ∀ r, (change r).slot.id = r.slot.id)
    (hact : ∀ {t' s' r id slot}, t'.Holds s' → s'.name = s.name → s'.decls = s.decls →
      s'.records[slot]? = some r → r.slot = ⟨id, true⟩ →
      ∃ t'', (act id slot).outcome t' = (.ok (), t'') ∧ t''.Holds (s'.edit (Slot.isRow id) change))
    (h : t.Holds s) (hnodup : (rows.map (·.1)).Nodup)
    (hrows : ∀ e ∈ rows, ∃ r, s.records[e.2]? = some r ∧ r.slot = ⟨e.1, true⟩) :
    ∃ t', (rows.forM fun (id, slot) => act id slot).outcome t = (.ok (), t') ∧
      t'.Holds (s.edit (Slot.isAmong (rows.map (·.1))) change) := by
  induction rows generalizing t s with
  | nil =>
    refine ⟨t, rfl, ?_⟩
    rw [RowStore.edit, Record.edit_eq_self]
    · exact h
    · intro r _ hr
      simp [Slot.isAmong] at hr
  | cons first rest ih =>
    obtain ⟨id, slot⟩ := first
    obtain ⟨hnotin, hrest⟩ := List.nodup_cons.mp hnodup
    obtain ⟨r, hr, hlive⟩ := hrows _ List.mem_cons_self
    obtain ⟨t₁, hout₁, h₁⟩ := hact h rfl rfl hr hlive
    -- the other rows are still where they were
    have hothers : ∀ e ∈ rest, ∃ r, (s.edit (Slot.isRow id) change).records[e.2]? = some r ∧
        r.slot = ⟨e.1, true⟩ := by
      intro e he
      obtain ⟨r', hr', hlive'⟩ := hrows _ (List.mem_cons_of_mem _ he)
      have hne : e.1 ≠ id := by
        intro heq
        have hmem : e.1 ∈ rest.map (·.1) := List.mem_map_of_mem he
        rw [heq] at hmem
        exact hnotin hmem
      refine ⟨r', ?_, hlive'⟩
      rw [RowStore.edit, Record.getElem?_edit, hr', Option.map_some]
      simp [Slot.isRow, hlive', hne]
    obtain ⟨t₂, hout₂, h₂⟩ := ih (s := s.edit (Slot.isRow id) change) hact h₁ hrest hothers
    refine ⟨t₂, ?_, ?_⟩
    · rw [Action.outcome_forM_cons]
      dsimp only
      rw [hout₁]
      exact hout₂
    · rw [RowStore.edit, RowStore.edit, Record.edit_isRow_edit hid hnotin] at h₂
      exact h₂

theorem slotsOf_ok {rows : List (RowId × Nat)} (h : t.Holds s) (hrows : t.slotsOf ids = .ok rows) :
    rows.map (·.1) = ids.toList ∧
      ∀ e ∈ rows, ∃ r, s.records[e.2]? = some r ∧ r.slot = ⟨e.1, true⟩ := by
  have hpairs := mapM_eq_ok_iff.mp hrows
  have hslots : List.Forall₂ (fun id e => e.1 = id ∧ t.slotOf? id = some e.2) ids.toList rows := by
    refine hpairs.imp fun id e he => ?_
    cases hslot : t.slotOf? id with
    | none =>
      rw [hslot] at he
      cases he
    | some slot =>
      rw [hslot] at he
      cases he
      exact ⟨rfl, rfl⟩
  clear hpairs hrows
  generalize ids.toList = l at hslots ⊢
  induction hslots with
  | nil => simp
  | cons he _ ih =>
    obtain ⟨rfl, hslot⟩ := he
    refine ⟨by rw [List.map_cons, ih.1], List.forall_mem_cons.mpr ⟨?_, ih.2⟩⟩
    exact h.slotOf?_eq_some_iff.mp hslot

theorem update_ok (h : t.Holds s)
    (hfault : updateFault? t.name t.decls t.contains ids assignments = none) :
    ∃ t', (update ids assignments).outcome t = (.ok ids.size, t') ∧
      t'.Holds (s.update ids assignments) := by
  obtain ⟨hmissing, hall⟩ := Option.or_eq_none_iff.mp hfault
  obtain ⟨rows, hrows⟩ := fault?_eq_none_iff.mp ((fault?_slotsOf t ids).trans hmissing)
  obtain ⟨hids, hslots⟩ := slotsOf_ok h hrows
  have hcheck := eq_ok_iff_fault?.mpr ((fault?_checkAssignments t assignments).trans hall)
  have hgood : ∀ a ∈ assignments, assignmentFault? s.name s.decls a.1 a.2 = none := by
    rw [← h.name, ← h.decls]
    exact List.findSome?_eq_none_iff.mp hall
  have hnodup : (rows.map (·.1)).Nodup := by
    rw [hids]
    exact ids.nodup_toList
  obtain ⟨t', hloop, h'⟩ := forM_rows_ok (Record.assign assignments) (fun _ => rfl)
    (fun h' hname hdecls hr hlive => forM_put_ok h' hr hlive (by rwa [hname, hdecls])) h hnodup hslots
  refine ⟨t', ?_, ?_⟩
  · rw [update, Action.outcome_observe_bind_of_ok (slotsOf · ids) hrows]
    refine Eq.trans (Action.outcome_observe_bind_of_ok _ hcheck) ?_
    rw [Action.outcome_bind_of_ok hloop]
    rfl
  · rwa [hids] at h'

theorem update_of_fault {e : Error}
    (hfault : updateFault? t.name t.decls t.contains ids assignments = some e) :
    (update ids assignments).outcome t = (.error e, t) := by
  rw [updateFault?, ← fault?_slotsOf] at hfault
  rw [update]
  cases hrows : t.slotsOf ids with
  | error e' =>
    rw [hrows] at hfault
    cases hfault
    rw [Action.outcome_observe_bind_of_error (slotsOf · ids) hrows]
  | ok rows =>
    rw [hrows, fault?_ok, Option.none_or, ← fault?_checkAssignments, fault?_eq_some_iff] at hfault
    rw [Action.outcome_observe_bind_of_ok (slotsOf · ids) hrows]
    exact Action.outcome_observe_bind_of_error _ hfault

/-! ### Rows that go -/

private theorem slots_set_kill (hr : records[slot]? = some r) :
    (records.set slot r.kill).map (·.slot.id) = records.map (·.slot.id) ∧
      (records.set slot r.kill).map (·.slot.live) =
        (records.map (·.slot.live)).set slot false := by
  obtain ⟨hlt, rfl⟩ := List.getElem?_eq_some_iff.mp hr
  refine ⟨?_, List.map_set⟩
  have hlt' : slot < (records.map (·.slot.id)).length := by rwa [List.length_map]
  have hself := List.set_getElem_self hlt'
  rw [List.getElem_map] at hself
  rw [List.map_set]
  exact hself

/-- One row fewer is live. -/
private theorem countP_set_kill (hr : records[slot]? = some r) (hlive : r.slot.live) :
    (records.set slot r.kill).countP (·.slot.live) = records.countP (·.slot.live) - 1 := by
  obtain ⟨hlt, hget⟩ := List.getElem?_eq_some_iff.mp hr
  rw [List.countP_set hlt, hget, if_pos hlive]
  rfl

private theorem removeRow_ok (h : t.Holds s) (hr : s.records[slot]? = some r)
    (hlive : r.slot = ⟨id, true⟩) :
    ∃ t', (removeRow id slot).outcome t = (.ok (), t') ∧
      t'.Holds (s.edit (Slot.isRow id) Record.kill) := by
  have hedited : Record.edit (Slot.isRow id) Record.kill s.records = s.records.set slot r.kill :=
    Record.edit_isRow_eq_set h.valid.ascending hr hlive
  obtain ⟨hids, hflags⟩ := slots_set_kill hr
  obtain ⟨columns', indexes', hloop, h'⟩ :=
    forM_atField_ok (t := t) (fun position => position) (fun _ => Field.forget id slot)
      (List.range t.fields.length) (Record.edit (Slot.isRow id) Record.kill s.records)
      (List.map_id' _) (fun position _ field hf =>
        Field.forget_ok (h.fields position field hf) h.valid.ascending hr hlive)
  refine ⟨killSlot slot { t with columns := columns', indexes := indexes' }, ?_, ?_⟩
  · rw [removeRow, Action.outcome_bind_of_ok (Action.outcome_get t),
      Action.outcome_bind_of_ok hloop]
    rfl
  · refine ⟨h.valid.edit (fun _ => rfl) h.valid.fits, h.name, h.decls, h'.columns.trans h.columns,
      h'.indexes.trans h.indexes, h'.fields, ?_, ?_, ?_, h.nextId⟩
    · show t.slotIds.toList = _
      rw [h.toList_slotIds, RowStore.slots, List.map_map, RowStore.edit, hedited]
      exact hids.symm
    · show (t.live.setIfInBounds slot false).toList = _
      rw [Array.toList_setIfInBounds, h.toList_live, RowStore.slots, List.map_map, RowStore.edit,
        hedited]
      exact hflags.symm
    · show t.rowCount - 1 = _
      rw [h.rowCount, RowStore.liveCount, RowStore.liveCount, RowStore.edit, hedited,
        countP_set_kill hr (by rw [hlive])]

/-- What a walk with the records' flags keeps of a list that has an item for each record. -/
private theorem flagged_live {α : Type} (f : Record → α) (records : List Record) :
    (retained (records.map (·.slot.live)) (records.map f).toArray).toList =
      (records.filter (·.slot.live)).map f := by
  rw [retained_eq_flagged, flagged]
  induction records with
  | nil => rfl
  | cons r records ih =>
    simp only [List.map_cons, List.zip_cons_cons, List.filterMap_cons, List.filter_cons]
    cases r.slot.live with
    | true => exact congrArg (f r :: ·) ih
    | false => exact ih

/-- The slots' ids are kept by the flags, and as many flags are set anew. -/
private theorem holds_dropDeadSlots (h : t.Holds s) : t.dropDeadSlots.Holds s.compact := by
  have hids : (retained t.live.toList t.slotIds).toList =
      (s.records.filter (·.slot.live)).map (·.slot.id) := by
    rw [h.toList_live, ← t.slotIds.toArray_toList, h.toList_slotIds, flagged_live]
  refine ⟨h.valid.compact, h.name, h.decls, ?_, h.indexes, ?_, ?_, ?_, ?_, h.nextId⟩
  · show (t.columns.map _).map _ = s.decls
    rw [List.map_map]
    exact h.columns
  · intro position field' hf'
    obtain ⟨hc', hi⟩ := getElem?_fields_eq_some_iff.mp hf'
    rw [dropDeadSlots, h.toList_live, List.getElem?_map] at hc'
    obtain ⟨column, hc, hcolumn⟩ := Option.map_eq_some_iff.mp hc'
    have hf : t.fields[position]? = some ⟨column, field'.index⟩ :=
      getElem?_fields_eq_some_iff.mpr ⟨hc, hi⟩
    have hcompact := (h.fields position _ hf).compact
    obtain ⟨column', index⟩ := field'
    obtain rfl : column.keepFlagged (s.records.map (·.slot.live)) = column' := hcolumn
    exact hcompact
  · show (retained t.live.toList t.slotIds).toList = _
    rw [hids, RowStore.slots, RowStore.compact, List.map_map]
    rfl
  · show (Array.replicate (retained t.live.toList t.slotIds).size true).toList = _
    have hall : ∀ live ∈ (s.records.filter (·.slot.live)).map (·.slot.live), live = true := by
      intro live hlive
      obtain ⟨r, hr, rfl⟩ := List.mem_map.mp hlive
      exact (List.mem_filter.mp hr).2
    rw [Array.toList_replicate, ← Array.length_toList, hids, RowStore.slots, RowStore.compact,
      List.map_map, List.length_map, ← List.length_map (·.slot.live)]
    exact (List.eq_replicate_of_mem hall).symm
  · show t.rowCount = _
    rw [h.rowCount, RowStore.liveCount, RowStore.liveCount, RowStore.compact, List.countP_filter]
    simp

private theorem holds_reclaim (h : t.Holds s) : t.reclaim.Holds s.reclaim := by
  rw [reclaim, RowStore.reclaim, h.slotCount_eq, h.rowCount]
  split
  · exact holds_dropDeadSlots h
  · exact h

theorem delete_ok (h : t.Holds s) (hfault : missingFault? t.contains ids = none) :
    ∃ t', (delete ids).outcome t = (.ok ids.size, t') ∧ t'.Holds (s.delete ids) := by
  obtain ⟨rows, hrows⟩ := fault?_eq_none_iff.mp ((fault?_slotsOf t ids).trans hfault)
  obtain ⟨hids, hslots⟩ := slotsOf_ok h hrows
  have hnodup : (rows.map (·.1)).Nodup := by
    rw [hids]
    exact ids.nodup_toList
  obtain ⟨t', hloop, h'⟩ := forM_rows_ok Record.kill (fun _ => rfl)
    (fun h' _ _ hr hlive => removeRow_ok h' hr hlive) h hnodup hslots
  rw [hids] at h'
  refine ⟨t'.reclaim, ?_, holds_reclaim h'⟩
  rw [delete, Action.outcome_observe_bind_of_ok (slotsOf · ids) hrows, Action.outcome_bind_of_ok hloop]
  rfl

theorem delete_of_fault {e : Error} (hfault : missingFault? t.contains ids = some e) :
    (delete ids).outcome t = (.error e, t) := by
  have hrows : t.slotsOf ids = .error e := by
    rw [← fault?_eq_some_iff, fault?_slotsOf, hfault]
  rw [delete, Action.outcome_observe_bind_of_error (slotsOf · ids) hrows]

end SqlEngine.Table
