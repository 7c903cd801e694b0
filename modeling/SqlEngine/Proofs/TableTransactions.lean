import SqlEngine.Proofs.TableChanges
import SqlEngine.Storage.Table.Binding

/-!
# Calls on tables

Every call on a table that holds a row store either fails and leaves the table as it was, or runs
to its end and leaves a table that holds a row store. Names, literals and filters are resolved
before the first write, so they add only ways to fail early.
-/

namespace SqlEngine

/-! ### What resolved names and literals amount to -/

theorem ColumnDecl.kind_of_convert {decl : ColumnDecl} {literal v : Value}
    (h : decl.convert literal = .ok v) : v.kind = decl.type.kind := by
  rw [convert] at h
  split at h
  · rename_i hcoerce
    cases h
    exact of_decide_eq_true (Value.isOf_of_coerce hcoerce)
  · cases h

theorem ColumnDecl.kind_of_fit {decl : ColumnDecl} {literal v : Value} {enforce : Bool}
    (h : decl.fit literal enforce = .ok v) : v.kind = decl.type.kind := by
  obtain ⟨w, hconvert, h⟩ := bind_eq_ok_iff.mp h
  have hkind := kind_of_convert hconvert
  cases enforce with
  | false =>
    cases h
    exact hkind
  | true =>
    obtain ⟨_, _, h⟩ := bind_eq_ok_iff.mp h
    cases h
    exact hkind

namespace Table

variable {t : Table} {s : RowStore} {name : String} {decls : List ColumnDecl}

/-- A literal fits where it fits the column that is declared there. -/
theorem fit_of_decl {position : Nat} {decl : ColumnDecl} (h : t.decls[position]? = some decl)
    (literal : Value) (enforce : Bool) :
    t.fit position literal enforce = decl.fit literal enforce := by
  rw [fit, declAt, itemAt, h]
  rfl

theorem fit_eq_ok_iff {position : Nat} {literal v : Value} {enforce : Bool} :
    t.fit position literal enforce = .ok v ↔
      ∃ decl, t.decls[position]? = some decl ∧ decl.fit literal enforce = .ok v := by
  rw [fit, bind_eq_ok_iff]
  simp only [declAt, itemAt_eq_ok_iff]

theorem length_places {columns : Option (List String)} {binding : Binding}
    (h : t.binding columns = .ok binding) : binding.places.length = t.decls.length := by
  cases columns with
  | none =>
    cases h
    exact List.length_range
  | some names =>
    obtain ⟨_, _, h⟩ := bind_eq_ok_iff.mp h
    obtain ⟨places, hplaces, h⟩ := bind_eq_ok_iff.mp h
    cases h
    have hlength := (mapM_eq_ok_iff.mp hplaces).length_eq
    rw [List.length_range] at hlength
    exact hlength.symm

private theorem positionsFrom_cons_eq_ok_iff {found positions : List Nat} {column : String}
    {rest : List String} :
    t.positionsFrom found (column :: rest) = .ok positions ↔
      ∃ position, t.positionOf column = .ok position ∧ position ∉ found ∧
        t.positionsFrom (found ++ [position]) rest = .ok positions := by
  rw [positionsFrom, bind_eq_ok_iff]
  refine exists_congr fun position => and_congr_right fun _ => ?_
  by_cases hfound : position ∈ found
  · simp [hfound, bind, Except.bind]
  · simp [hfound]

/-- The positions found are those of the columns, in order, and none is found twice. -/
theorem positionsFrom_eq_ok_iff {found positions : List Nat} {columns : List String} :
    t.positionsFrom found columns = .ok positions ↔
      ∃ new, positions = found ++ new ∧
        List.Forall₂ (fun column position => t.positionOf column = .ok position) columns new ∧
        new.Nodup ∧ found.Disjoint new := by
  induction columns generalizing found with
  | nil => simp [positionsFrom, pure, Except.pure, eq_comm]
  | cons column rest ih =>
    rw [positionsFrom_cons_eq_ok_iff]
    constructor
    · rintro ⟨position, hposition, hfound, h⟩
      obtain ⟨new, rfl, hrest, hnodup, hdisjoint⟩ := ih.mp h
      obtain ⟨hdisjoint, hnew⟩ := List.disjoint_append_left.mp hdisjoint
      refine ⟨position :: new, List.append_assoc .., .cons hposition hrest, ?_, ?_⟩
      · exact List.nodup_cons.mpr ⟨List.singleton_disjoint.mp hnew, hnodup⟩
      · exact List.disjoint_cons_right.mpr ⟨hfound, hdisjoint⟩
    · rintro ⟨_, rfl, hnames, hnodup, hdisjoint⟩
      cases hnames with
      | @cons _ position _ new hposition hrest =>
        obtain ⟨hnew, hnodup⟩ := List.nodup_cons.mp hnodup
        obtain ⟨hfound, hdisjoint⟩ := List.disjoint_cons_right.mp hdisjoint
        refine ⟨position, hposition, hfound, ih.mpr ⟨new, ?_, hrest, hnodup, ?_⟩⟩
        · rw [List.append_assoc, List.singleton_append]
        · exact List.disjoint_append_left.mpr ⟨hdisjoint, List.singleton_disjoint.mpr hnew⟩

/-- A binding takes no value from behind the end of a tuple of its arity. -/
theorem place_lt_arity {columns : Option (List String)} {binding : Binding} {place : Nat}
    (h : t.binding columns = .ok binding) (hplace : place ∈ binding.places) :
    place < binding.arity := by
  cases columns with
  | none =>
    cases h
    exact List.mem_range.mp hplace
  | some names =>
    obtain ⟨positions, hpositions, h⟩ := bind_eq_ok_iff.mp h
    obtain ⟨places, hplaces, h⟩ := bind_eq_ok_iff.mp h
    cases h
    obtain ⟨new, rfl, hnames, _⟩ := positionsFrom_eq_ok_iff.mp hpositions
    obtain ⟨position, _, hfound⟩ := exists_of_mem_mapM hplaces hplace
    split at hfound
    · rename_i hidx
      cases hfound
      have hlt := (List.idxOf?_eq_some_iff.mp hidx).1
      rwa [← hnames.length_eq] at hlt
    · cases hfound

/-- Every value of a bound row is some literal, taken as a value of the column at its position. -/
theorem exists_fit_of_row {binding : Binding} {enforce : Bool} {tuple row : List Value}
    {position : Nat} {v : Value} (h : binding.row t enforce tuple = .ok row)
    (hv : row[position]? = some v) :
    ∃ literal decl, t.decls[position]? = some decl ∧ decl.fit literal enforce = .ok v := by
  unfold Binding.row at h
  split at h
  · obtain ⟨⟨place, position'⟩, hplace, hfit⟩ := exists_of_getElem?_mapM h hv
    rw [List.getElem?_zipIdx] at hplace
    obtain ⟨_, _, heq⟩ := Option.map_eq_some_iff.mp hplace
    have hposition : position = position' := by simpa using congrArg Prod.snd heq
    rw [← hposition] at hfit
    exact ⟨_, fit_eq_ok_iff.mp hfit⟩
  · cases h

private theorem length_of_row {binding : Binding} {enforce : Bool} {tuple row : List Value}
    (h : binding.row t enforce tuple = .ok row) : row.length = binding.places.length := by
  unfold Binding.row at h
  split at h
  · rw [← (mapM_eq_ok_iff.mp h).length_eq, List.length_zipIdx]
  · cases h

private theorem fits_of_row {binding : Binding} {enforce : Bool} {tuple row : List Value}
    (hplaces : binding.places.length = t.decls.length)
    (h : binding.row t enforce tuple = .ok row) : Fits t.decls row := by
  have hlength : row.length = t.decls.length := (length_of_row h).trans hplaces
  apply List.ext_getElem?
  intro position
  rw [List.getElem?_map, List.getElem?_map]
  cases hv : row[position]? with
  | none =>
    rw [List.getElem?_eq_none_iff, hlength] at hv
    rw [List.getElem?_eq_none hv]
    rfl
  | some v =>
    obtain ⟨literal, decl, hdecl, hfit⟩ := exists_fit_of_row h hv
    rw [hdecl, Option.map_some, Option.map_some, ColumnDecl.kind_of_fit hfit]

/-! ### Sound tables -/

/-- A table of the given name that holds some row store. -/
def Sound (name : String) (t : Table) : Prop := ∃ s : RowStore, s.name = name ∧ t.Holds s

theorem holds_create (h : create name decls = .ok t) : t.Holds ⟨name, decls, [], 0⟩ := by
  unfold create at h
  split at h
  · cases h
  · rename_i hnodup
    cases h
    have hvalid : RowStore.Valid ⟨name, decls, [], 0⟩ :=
      ⟨firstRepeated?_eq_none_iff.mp hnodup, .nil, nofun, nofun⟩
    refine ⟨hvalid, rfl, rfl, ?_, List.length_map _, ?_, rfl, rfl, rfl, rfl⟩
    · rw [empty, List.map_map]
      exact List.map_id decls
    · intro position field hf
      obtain ⟨hc, hi⟩ := getElem?_fields_eq_some_iff.mp hf
      rw [empty, List.getElem?_map] at hc hi
      obtain ⟨decl, hd, hcolumn⟩ := Option.map_eq_some_iff.mp hc
      rw [hd, Option.map_some, Option.some.injEq] at hi
      obtain ⟨column, index⟩ := field
      cases hcolumn
      cases hi
      exact Field.holds_ofDecl decl position

theorem sound_create (h : create name decls = .ok t) : t.Sound name := ⟨_, rfl, holds_create h⟩

/-! ### What a change comes to -/

theorem insert_cases (h : t.Holds s) (row : List Value) :
    (∃ e, (insert row).outcome t = (.error e, t)) ∨
      ∃ t', (insert row).outcome t = (.ok s.nextId, t') ∧ t'.Holds (s.insert row) := by
  cases hfault : rowFault? s.decls row with
  | some e => exact .inl ⟨e, insert_of_fault h hfault⟩
  | none => exact .inr (insert_ok h (rowFault?_eq_none_iff.mp hfault))

theorem update_cases (h : t.Holds s) (ids : RowIds) (assignments : List (Nat × Value)) :
    (∃ e, (update ids assignments).outcome t = (.error e, t)) ∨
      ∃ t', (update ids assignments).outcome t = (.ok ids.size, t') ∧
        t'.Holds (s.update ids assignments) := by
  cases hfault : updateFault? t.name t.decls t.contains ids assignments with
  | some e => exact .inl ⟨e, update_of_fault hfault⟩
  | none => exact .inr (update_ok h hfault)

theorem delete_cases (h : t.Holds s) (ids : RowIds) :
    (∃ e, (delete ids).outcome t = (.error e, t)) ∨
      ∃ t', (delete ids).outcome t = (.ok ids.size, t') ∧ t'.Holds (s.delete ids) := by
  cases hfault : missingFault? t.contains ids with
  | some e => exact .inl ⟨e, delete_of_fault hfault⟩
  | none => exact .inr (delete_ok h hfault)

/-- Tuples that are bound to the columns become rows, all of them. -/
theorem insertTuples_ok (h : t.Holds s) {columns : Option (List String)}
    {tuples rows : List (List Value)} {enforce : Bool}
    (hbound : (t.binding columns >>= fun binding => tuples.mapM (binding.row t enforce)) =
      .ok rows) :
    ∃ t', (insertTuples columns tuples enforce).outcome t =
        (.ok (List.range' s.nextId rows.length), t') ∧
      t'.Holds (rows.foldl (fun s row => s.insert row) s) := by
  obtain ⟨binding, hbinding, hrows⟩ := bind_eq_ok_iff.mp hbound
  have hfits : ∀ row ∈ rows, Fits s.decls row := by
    intro row hrow
    obtain ⟨tuple, _, hfit⟩ := exists_of_mem_mapM hrows hrow
    rw [← h.decls]
    exact fits_of_row (length_places hbinding) hfit
  obtain ⟨t', hout, h'⟩ := mapM_insert_ok h hfits
  have hinsert : (insertTuples columns tuples enforce).outcome t = (rows.mapM insert).outcome t :=
    Action.outcome_observe_bind_of_ok _ hbound
  exact ⟨t', hinsert.trans hout, h'⟩

/-- Either all of the tuples become rows or none does. -/
theorem insertTuples_cases (h : t.Holds s) (columns : Option (List String))
    (tuples : List (List Value)) (enforce : Bool) :
    (∃ e, (insertTuples columns tuples enforce).outcome t = (.error e, t)) ∨
      ∃ binding rows t', t.binding columns = .ok binding ∧
        tuples.mapM (binding.row t enforce) = .ok rows ∧
        (insertTuples columns tuples enforce).outcome t =
          (.ok (List.range' s.nextId rows.length), t') ∧
        t'.Holds (rows.foldl (fun s row => s.insert row) s) := by
  cases hbound : t.binding columns >>= fun binding => tuples.mapM (binding.row t enforce) with
  | error e => exact .inl ⟨e, Action.outcome_observe_bind_of_error _ hbound⟩
  | ok rows =>
    obtain ⟨binding, hbinding, hrows⟩ := bind_eq_ok_iff.mp hbound
    obtain ⟨t', hout, h'⟩ := insertTuples_ok h hbound
    exact .inr ⟨binding, rows, t', hbinding, hrows, hout, h'⟩

/-- Either all of the assignments are made to all of the rows or none is. -/
theorem assign_cases (h : t.Holds s) (assignments : List (String × Value)) (ids : RowIds)
    (enforce : Bool) :
    (∃ e, (assign assignments ids enforce).outcome t = (.error e, t)) ∨
      ∃ resolved t',
        (assignments.mapM fun (column, literal) => do
          let position ← t.positionOf column
          return (position, ← t.fit position literal enforce)) = .ok resolved ∧
        (assign assignments ids enforce).outcome t = (.ok ids.size, t') ∧
        t'.Holds (s.update ids resolved) := by
  cases hresolved : assignments.mapM fun (column, literal) => do
      let position ← t.positionOf column
      return (position, ← t.fit position literal enforce) with
  | error e => exact .inl ⟨e, Action.outcome_observe_bind_of_error _ hresolved⟩
  | ok resolved =>
    have hupdate : (assign assignments ids enforce).outcome t = (update ids resolved).outcome t :=
      Action.outcome_observe_bind_of_ok _ hresolved
    rw [hupdate]
    exact (update_cases h ids resolved).imp_right fun ⟨t', hout, h'⟩ =>
      ⟨resolved, t', rfl, hout, h'⟩

/-! ### Every call is a transaction -/

private theorem transacts_insert (h : t.Sound name) (row : List Value) :
    (insert row).Transacts (Sound name) t := by
  obtain ⟨s, hname, h⟩ := h
  refine (insert_cases h row).imp_right fun hdone => ?_
  obtain ⟨t', hout, h'⟩ := hdone
  exact ⟨_, t', hout, s.insert row, hname, h'⟩

private theorem transacts_update (h : t.Sound name) (ids : RowIds)
    (assignments : List (Nat × Value)) : (update ids assignments).Transacts (Sound name) t := by
  obtain ⟨s, hname, h⟩ := h
  refine (update_cases h ids assignments).imp_right fun hdone => ?_
  obtain ⟨t', hout, h'⟩ := hdone
  exact ⟨_, t', hout, s.update ids assignments, hname, h'⟩

theorem transacts_delete (h : t.Sound name) (ids : RowIds) :
    (delete ids).Transacts (Sound name) t := by
  obtain ⟨s, hname, h⟩ := h
  refine (delete_cases h ids).imp_right fun hdone => ?_
  obtain ⟨t', hout, h'⟩ := hdone
  exact ⟨_, t', hout, _, (RowStore.name_delete ids s).trans hname, h'⟩

theorem transacts_insertTuples (h : t.Sound name) (columns : Option (List String))
    (tuples : List (List Value)) (enforce : Bool) :
    (insertTuples columns tuples enforce).Transacts (Sound name) t := by
  obtain ⟨s, hname, h⟩ := h
  refine (insertTuples_cases h columns tuples enforce).imp_right fun hdone => ?_
  obtain ⟨_, rows, t', _, _, hout, h'⟩ := hdone
  exact ⟨_, t', hout, _, (RowStore.name_foldl_insert rows s).trans hname, h'⟩

theorem transacts_assign (h : t.Sound name) (assignments : List (String × Value)) (ids : RowIds)
    (enforce : Bool) : (assign assignments ids enforce).Transacts (Sound name) t :=
  Action.transacts_observe_bind fun resolved _ => transacts_update h ids resolved

/-- New tables have the property and the changes that statements make keep it, with lengths enforced
or not. -/
structure KeptByStatements (enforce : Bool) (P : String → Table → Prop) : Prop where
  create : ∀ {name decls t}, Table.create name decls = .ok t → P name t
  insertTuples : ∀ {name t}, P name t → ∀ columns tuples,
    (Table.insertTuples columns tuples enforce).Transacts (P name) t
  assign : ∀ {name t}, P name t → ∀ assignments ids,
    (Table.assign assignments ids enforce).Transacts (P name) t
  delete : ∀ {name t}, P name t → ∀ ids, (Table.delete ids).Transacts (P name) t

theorem sound_kept (enforce : Bool) : KeptByStatements enforce Sound where
  create h := sound_create h
  insertTuples h columns tuples := transacts_insertTuples h columns tuples enforce
  assign h assignments ids := transacts_assign h assignments ids enforce
  delete h ids := transacts_delete h ids

/-- A call that changes a table. -/
inductive Call
  | insert (row : List Value)
  | update (ids : RowIds) (assignments : List (Nat × Value))
  | delete (ids : RowIds)
  deriving DecidableEq, Repr

/-- What a call does. It answers with the id of the new row, or with the number of rows. -/
def Call.act : Call → Action Table Nat
  | .insert row             => Table.insert row
  | .update ids assignments => Table.update ids assignments
  | .delete ids             => Table.delete ids

theorem transacts_call (h : t.Sound name) (call : Call) : call.act.Transacts (Sound name) t := by
  cases call with
  | insert row => exact transacts_insert h row
  | update ids assignments => exact transacts_update h ids assignments
  | delete ids => exact transacts_delete h ids

end Table

end SqlEngine
