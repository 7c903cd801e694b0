import SqlEngine.Proofs.DatabaseCalls

/-!
# Texts within their limits

Where lengths are enforced, whatever statements store in a column fits its declared length: rows are
stored and values assigned only after they have been fitted to their columns. The limit is kept by
the values of dead slots too, and the keys of an index are values of its column.
-/

namespace SqlEngine

/-- The value is no text that is longer than the declared type allows. -/
def ColumnDecl.Admits (decl : ColumnDecl) (v : Value) : Prop :=
  ∀ limit s, decl.type = .varchar limit → v = .text s → s.length ≤ limit

namespace ColumnDecl

variable {decl : ColumnDecl} {literal v : Value}

private theorem checkLength_eq_ok_iff : decl.checkLength v = .ok () ↔ decl.Admits v := by
  unfold checkLength
  split
  · rename_i limit s htype
    have hadmits : decl.Admits (.text s) ↔ ¬ limit < s.length := by
      simp [Admits, htype]
    by_cases hlong : limit < s.length <;> simp [hadmits, hlong]
  · rename_i hother
    simp only [true_iff]
    intro limit s htype hv
    exact absurd hv (hother limit s htype)

theorem convert_eq_ok_iff : decl.convert literal = .ok v ↔ literal.coerce decl.type = .ok v := by
  rw [convert]
  cases literal.coerce decl.type <;> simp

/-- A literal fits as the value that it is taken as, unless this is to be too long. -/
theorem fit_eq_ok_iff {enforce : Bool} : decl.fit literal enforce = .ok v ↔
    literal.coerce decl.type = .ok v ∧ (enforce → decl.Admits v) := by
  rw [fit, bind_eq_ok_iff]
  simp only [convert_eq_ok_iff]
  cases enforce with
  | false => simp [pure, Except.pure]
  | true =>
    simp only [if_true, true_implies, ← checkLength_eq_ok_iff]
    constructor
    · intro hfit
      obtain ⟨w, hw, hfit⟩ := hfit
      obtain ⟨_, hlength, hfit⟩ := bind_eq_ok_iff.mp hfit
      cases hfit
      exact ⟨hw, hlength⟩
    · intro hfit
      obtain ⟨hv, hlength⟩ := hfit
      exact ⟨v, hv, bind_eq_ok_iff.mpr ⟨_, hlength, rfl⟩⟩

private theorem admits_of_fit (h : decl.fit literal true = .ok v) : decl.Admits v :=
  (fit_eq_ok_iff.mp h).2 rfl

end ColumnDecl

/-- Every value of the row is one that its column admits. -/
def Admitted (decls : List ColumnDecl) (row : List Value) : Prop :=
  ∀ (position : Nat) decl v, decls[position]? = some decl → row[position]? = some v → decl.Admits v

section Rows

variable {decls : List ColumnDecl} {row : List Value} {assignments : List (Nat × Value)}

private theorem admitted_of_row {t : Table} {binding : Binding} {tuple : List Value}
    (h : binding.row t true tuple = .ok row) : Admitted t.decls row := by
  intro position decl v hd hv
  obtain ⟨literal, decl', hd', hfit⟩ := Table.exists_fit_of_row h hv
  cases hd.symm.trans hd'
  exact ColumnDecl.admits_of_fit hfit

private theorem Admitted.assignAll (h : Admitted decls row)
    (hassign : ∀ a ∈ assignments, ∀ decl, decls[a.1]? = some decl → decl.Admits a.2) :
    Admitted decls (assignAll assignments row) := by
  induction assignments generalizing row with
  | nil => exact h
  | cons first rest ih =>
    refine ih ?_ fun a ha => hassign a (List.mem_cons_of_mem first ha)
    intro position decl v hd hv
    rw [List.getElem?_set] at hv
    split at hv
    · rename_i heq
      subst heq
      split at hv
      · cases hv
        exact hassign _ List.mem_cons_self decl hd
      · cases hv
    · exact h position decl v hd hv

end Rows

/-! ### Row stores -/

namespace RowStore

/-- The rows of all records have the property, those of dead ones included. -/
def AllRows (P : List Value → Prop) (s : RowStore) : Prop := ∀ r ∈ s.records, P r.row

variable {P : List Value → Prop} {s : RowStore}

private theorem AllRows.insert {row : List Value} (h : s.AllRows P) (hrow : P row) :
    (s.insert row).AllRows P := by
  intro r hr
  rcases List.mem_append.mp hr with hr | hr
  · exact h r hr
  · rw [List.mem_singleton.mp hr]
    exact hrow

private theorem AllRows.foldl_insert {rows : List (List Value)} (h : s.AllRows P)
    (hrows : ∀ row ∈ rows, P row) : (rows.foldl (fun s row => s.insert row) s).AllRows P := by
  induction rows generalizing s with
  | nil => exact h
  | cons row rest ih =>
    obtain ⟨hrow, hrest⟩ := List.forall_mem_cons.mp hrows
    exact ih (h.insert hrow) hrest

private theorem AllRows.edit {which : Slot → Bool} {change : Record → Record} (h : s.AllRows P)
    (hchange : ∀ r, P r.row → P (change r).row) : (s.edit which change).AllRows P := by
  intro r' hr'
  obtain ⟨r, hr, rfl⟩ := Record.mem_edit.mp hr'
  split
  · exact hchange r (h r hr)
  · exact h r hr

private theorem AllRows.delete (h : s.AllRows P) (ids : RowIds) : (s.delete ids).AllRows P := by
  have hkill : (s.kill ids).AllRows P := h.edit fun _ hr => hr
  rw [RowStore.delete, reclaim]
  split
  · intro r hr
    exact hkill r (List.mem_of_mem_filter hr)
  · exact hkill

end RowStore

/-! ### Tables -/

namespace Table

variable {t : Table} {name : String}

/-- No slot, of a live row or of a dead one, and no key of an index has a text that is longer than
its column allows. -/
structure WithinLimits (t : Table) : Prop where
  slots : ∀ (position : Nat) column, t.columns[position]? = some column →
    ∃ decl, t.decls[position]? = some decl ∧ ∀ v ∈ column.toList, decl.Admits v
  keys : ∀ (position : Nat) index, t.indexes[position]? = some index →
    ∃ decl, t.decls[position]? = some decl ∧ ∀ v ∈ index.entries.keys, decl.Admits v

/-- A sound table of which all records have rows that the columns admit. -/
def Limited (name : String) (t : Table) : Prop :=
  ∃ s : RowStore, s.name = name ∧ t.Holds s ∧ s.AllRows (Admitted s.decls)

theorem Limited.withinLimits (h : t.Limited name) : t.WithinLimits := by
  obtain ⟨s, _, hs, hrows⟩ := h
  have hdecl : ∀ (position : Nat) field, t.fields[position]? = some field →
      ∃ decl, t.decls[position]? = some decl ∧
        ∀ r ∈ s.records, ∀ v, r.row[position]? = some v → decl.Admits v := by
    intro position field hf
    have hd := hs.decl_of_field hf
    refine ⟨field.column.decl, by rw [hs.decls, hd], ?_⟩
    exact fun r hr v hv => hrows r hr position _ v hd hv
  refine ⟨?_, ?_⟩
  · intro position column hc
    obtain ⟨field, hf, rfl⟩ := hs.field_of_column hc
    obtain ⟨decl, hd, hadmits⟩ := hdecl position field hf
    refine ⟨decl, hd, fun v hv => ?_⟩
    have hmem : some v ∈ s.records.map (·.row[position]?) := by
      rw [← (hs.fields position field hf).values]
      exact List.mem_map_of_mem hv
    obtain ⟨r, hr, hrow⟩ := List.mem_map.mp hmem
    exact hadmits r hr v hrow
  · intro position index hi
    obtain ⟨field, hf, rfl⟩ := hs.field_of_index hi
    obtain ⟨decl, hd, hadmits⟩ := hdecl position field hf
    refine ⟨decl, hd, fun v hv => ?_⟩
    obtain ⟨_, r, hr, _, hrow⟩ :=
      (ValueIndex.mem_keys_iff (hs.fields position field hf).index).mp hv
    exact hadmits r hr v hrow

private theorem limited_create {decls : List ColumnDecl} (h : create name decls = .ok t) :
    t.Limited name := by
  refine ⟨_, rfl, holds_create h, ?_⟩
  intro r hr
  cases hr

private theorem Limited.transacts_insertTuples (h : t.Limited name) (columns : Option (List String))
    (tuples : List (List Value)) : (insertTuples columns tuples true).Transacts (Limited name) t := by
  obtain ⟨s, hname, hs, hrows⟩ := h
  refine (insertTuples_cases hs columns tuples true).imp_right fun hdone => ?_
  obtain ⟨binding, rows, t', _, hbound, hout, h'⟩ := hdone
  refine ⟨_, t', hout, _, (RowStore.name_foldl_insert rows s).trans hname, h', ?_⟩
  rw [RowStore.decls_foldl_insert]
  apply hrows.foldl_insert
  intro row hrow
  obtain ⟨tuple, _, hfit⟩ := exists_of_mem_mapM hbound hrow
  rw [← hs.decls]
  exact admitted_of_row hfit

private theorem Limited.transacts_assign (h : t.Limited name) (assignments : List (String × Value))
    (ids : RowIds) : (assign assignments ids true).Transacts (Limited name) t := by
  obtain ⟨s, hname, hs, hrows⟩ := h
  refine (assign_cases hs assignments ids true).imp_right fun hdone => ?_
  obtain ⟨resolved, t', hresolved, hout, h'⟩ := hdone
  refine ⟨_, t', hout, s.update ids resolved, hname, h', hrows.edit fun r hr => ?_⟩
  refine Admitted.assignAll hr ?_
  intro a ha decl hd
  obtain ⟨⟨column, literal⟩, _, hassign⟩ := exists_of_mem_mapM hresolved ha
  obtain ⟨position, _, hassign⟩ := bind_eq_ok_iff.mp hassign
  obtain ⟨v, hv, hassign⟩ := bind_eq_ok_iff.mp hassign
  cases hassign
  obtain ⟨decl', hd', hfit⟩ := fit_eq_ok_iff.mp hv
  rw [hs.decls] at hd'
  cases hd.symm.trans hd'
  exact ColumnDecl.admits_of_fit hfit

private theorem Limited.transacts_delete (h : t.Limited name) (ids : RowIds) :
    (delete ids).Transacts (Limited name) t := by
  obtain ⟨s, hname, hs, hrows⟩ := h
  refine (delete_cases hs ids).imp_right fun hdone => ?_
  obtain ⟨t', hout, h'⟩ := hdone
  refine ⟨_, t', hout, _, (RowStore.name_delete ids s).trans hname, h', ?_⟩
  rw [RowStore.decls_delete]
  exact hrows.delete ids

private theorem limited_kept : KeptByStatements true Limited where
  create := limited_create
  insertTuples := Limited.transacts_insertTuples
  assign := Limited.transacts_assign
  delete := Limited.transacts_delete

end Table

/-! ### Databases -/

namespace Database

/-- A call, or texts that are run up to the first that fails. -/
inductive Request
  | call (call : Call)
  | executeAll (sqls : List String)
  deriving DecidableEq, Repr

/-- The database that a request leaves, whether it is answered or fails. -/
def Request.after : Request → Database → Database
  | .call c          => c.act.after
  | .executeAll sqls => (Database.executeAll sqls).after

/-- The database that a run of requests leaves. -/
def afterRequests (requests : List Request) (db : Database) : Database :=
  requests.foldl (fun db request => request.after db) db

/-- A database that enforces lengths and of which all tables are within their limits. -/
structure Limited (db : Database) : Prop where
  enforcing : db.settings.enforceLength = true
  tables : db.catalog.Every Table.Limited

variable {db : Database}

theorem limited_create (useIndexes : Bool) : (create ⟨useIndexes, true⟩).Limited :=
  ⟨rfl, Catalog.every_empty⟩

private theorem Limited.after_call (h : db.Limited) (call : Call) :
    (call.act.after db).Limited := by
  obtain ⟨henforcing, htables⟩ := h
  have hkept : Table.KeptByStatements db.settings.enforceLength Table.Limited := by
    rw [henforcing]
    exact Table.limited_kept
  have htransacts := transacts_onCatalog (call.transacts_onCatalog htables hkept)
  rw [Action.after, outcome_act]
  refine ⟨?_, htransacts.invariant htables⟩
  rw [outcome_onCatalog]
  exact henforcing

private theorem Limited.after_request (h : db.Limited) (request : Request) :
    (request.after db).Limited := by
  cases request with
  | call call => exact h.after_call call
  | executeAll sqls =>
    refine Action.after_mapM (fun sql db hdb => ?_) sqls h
    rw [← Action.after_bind_pure (execute sql) Answer.outcome]
    exact hdb.after_call (.execute sql)

theorem limited_afterRequests (requests : List Request) (h : db.Limited) :
    (afterRequests requests db).Limited := by
  induction requests generalizing db with
  | nil => exact h
  | cons request later ih => exact ih (h.after_request request)

end Database

end SqlEngine
