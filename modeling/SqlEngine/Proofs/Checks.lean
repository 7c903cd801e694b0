import Mathlib.Data.List.Forall2
import SqlEngine.Storage.Table.Binding

/-!
# Checks and their faults

A check is read as the fault that it finds, if any. A loop of checks finds the fault of the first
item that has one, so what a loop reports can be said without the loop.
-/

namespace SqlEngine

variable {α β γ : Type}

/-- The error of a failing check. -/
def fault? : Except Error α → Option Error
  | .ok _    => none
  | .error e => some e

@[simp] theorem fault?_ok (a : α) : fault? (.ok a) = none := rfl

@[simp] theorem fault?_error (e : Error) : fault? (.error e : Except Error α) = some e := rfl

theorem fault?_eq_some_iff {x : Except Error α} {e : Error} : fault? x = some e ↔ x = .error e := by
  cases x <;> simp

theorem fault?_eq_none_iff {x : Except Error α} : fault? x = none ↔ ∃ a, x = .ok a := by
  cases x <;> simp

theorem eq_ok_iff_fault? {x : Except Error PUnit} : x = .ok ⟨⟩ ↔ fault? x = none := by
  cases x <;> simp

theorem bind_eq_ok_iff {x : Except Error α} {f : α → Except Error β} {b : β} :
    x >>= f = .ok b ↔ ∃ a, x = .ok a ∧ f a = .ok b := by
  cases x <;> simp [bind, Except.bind]

theorem bind_eq_error_iff {x : Except Error α} {f : α → Except Error β} {e : Error} :
    x >>= f = .error e ↔ x = .error e ∨ ∃ a, x = .ok a ∧ f a = .error e := by
  cases x <;> simp [bind, Except.bind]

theorem map_eq_ok_iff {x : Except Error α} {f : α → β} {b : β} :
    f <$> x = .ok b ↔ ∃ a, x = .ok a ∧ f a = b := by
  cases x <;> simp [Functor.map, Except.map]

theorem map_eq_error_iff {x : Except Error α} {f : α → β} {e : Error} :
    f <$> x = .error e ↔ x = .error e := by
  cases x <;> simp [Functor.map, Except.map]

theorem bind_congr_ok {x : Except Error α} {f g : α → Except Error β}
    (h : ∀ a, x = .ok a → f a = g a) : x >>= f = x >>= g := by
  cases x with
  | error e => rfl
  | ok a => exact h a rfl

private theorem fault?_forM (l : List α) (f : α → Except Error PUnit) :
    fault? (l.forM f) = l.findSome? fun a => fault? (f a) := by
  induction l with
  | nil => rfl
  | cons a l ih =>
    have hcons : (a :: l).forM f = f a >>= fun _ => l.forM f := rfl
    rw [hcons, List.findSome?_cons]
    cases hf : f a with
    | error e => rfl
    | ok u => exact ih

private theorem fault?_mapM (l : List α) (f : α → Except Error β) :
    fault? (l.mapM f) = l.findSome? fun a => fault? (f a) := by
  induction l with
  | nil => rfl
  | cons a l ih =>
    rw [List.mapM_cons, List.findSome?_cons]
    cases hf : f a with
    | error e => rfl
    | ok b =>
      rw [fault?_ok, ← ih]
      cases l.mapM f <;> rfl

theorem mapM_eq_ok_iff {l : List α} {f : α → Except Error β} {bs : List β} :
    l.mapM f = .ok bs ↔ List.Forall₂ (fun a b => f a = .ok b) l bs := by
  induction l generalizing bs with
  | nil => cases bs <;> simp [pure, Except.pure]
  | cons a l ih =>
    rw [List.mapM_cons, bind_eq_ok_iff]
    constructor
    · intro hbind
      obtain ⟨b, hb, h⟩ := hbind
      obtain ⟨bs', hbs', hpure⟩ := bind_eq_ok_iff.mp h
      cases hpure
      exact .cons hb (ih.mp hbs')
    · intro h
      cases h with
      | cons hb hbs => exact ⟨_, hb, bind_eq_ok_iff.mpr ⟨_, ih.mpr hbs, rfl⟩⟩

/-- A loop fails with the error of the first item that fails. -/
theorem mapM_eq_error_iff {l : List α} {f : α → Except Error β} {e : Error} :
    l.mapM f = .error e ↔
      ∃ before a after, l = before ++ a :: after ∧ (∀ b ∈ before, ∃ c, f b = .ok c) ∧
        f a = .error e := by
  rw [← fault?_eq_some_iff, fault?_mapM, List.findSome?_eq_some_iff]
  simp only [fault?_eq_some_iff, fault?_eq_none_iff]
  constructor
  · rintro ⟨before, a, after, hl, ha, hbefore⟩
    exact ⟨before, a, after, hl, hbefore, ha⟩
  · rintro ⟨before, a, after, hl, hbefore, ha⟩
    exact ⟨before, a, after, hl, ha, hbefore⟩

theorem exists_mapM_eq_ok_iff {l : List α} {f : α → Except Error β} :
    (∃ bs, l.mapM f = .ok bs) ↔ ∀ a ∈ l, ∃ b, f a = .ok b := by
  simp only [← fault?_eq_none_iff, fault?_mapM, List.findSome?_eq_none_iff]

theorem exists_of_mem_mapM {l : List α} {f : α → Except Error β} {bs : List β} {b : β}
    (h : l.mapM f = .ok bs) (hb : b ∈ bs) : ∃ a ∈ l, f a = .ok b := by
  have hpairs := mapM_eq_ok_iff.mp h
  clear h
  induction hpairs with
  | nil => cases hb
  | cons hab _ ih =>
    rcases List.mem_cons.mp hb with rfl | hb
    · exact ⟨_, List.mem_cons_self, hab⟩
    · obtain ⟨a, ha, hf⟩ := ih hb
      exact ⟨a, List.mem_cons_of_mem _ ha, hf⟩

theorem exists_of_getElem?_mapM {l : List α} {f : α → Except Error β} {bs : List β} {i : Nat} {b : β}
    (h : l.mapM f = .ok bs) (hb : bs[i]? = some b) : ∃ a, l[i]? = some a ∧ f a = .ok b := by
  have hpairs := mapM_eq_ok_iff.mp h
  clear h
  induction hpairs generalizing i with
  | nil => cases hb
  | cons hab _ ih =>
    cases i with
    | zero =>
      cases hb
      exact ⟨_, rfl, hab⟩
    | succ i => exact ih hb

theorem mapM_congr {l : List α} {f g : α → Except Error β}
    (h : ∀ a ∈ l, f a = g a) : l.mapM f = l.mapM g := by
  induction l with
  | nil => rfl
  | cons a l ih =>
    rw [List.mapM_cons, List.mapM_cons, h a List.mem_cons_self,
      ih fun b hb => h b (List.mem_cons_of_mem a hb)]

theorem mapM_congr₂ {l : List α} {l' : List γ} {f : α → Except Error β} {g : γ → Except Error β}
    (h : List.Forall₂ (fun a c => f a = g c) l l') : l.mapM f = l'.mapM g := by
  induction h with
  | nil => rfl
  | cons hac _ ih => rw [List.mapM_cons, List.mapM_cons, hac, ih]

theorem mapM_map {l : List α} {f : α → Except Error β} {g : α → Except Error γ} {k : γ → β}
    (h : ∀ a, f a = k <$> g a) : l.mapM f = List.map k <$> l.mapM g := by
  induction l with
  | nil => rfl
  | cons a l ih =>
    rw [List.mapM_cons, List.mapM_cons, h, ih]
    cases g a with
    | error e => rfl
    | ok c => cases l.mapM g <;> rfl

/-! ### What can be wrong with rows and assignments -/

/-- What is wrong with a value for a column. -/
def valueFault? (decl : ColumnDecl) (v : Value) : Option Error :=
  if v.kind = decl.type.kind then none else some (.typeMismatch decl.name decl.type (.kind v.kind))

/-- What is wrong with a row: its length, or else its first value of another type than its
column's. -/
def rowFault? (decls : List ColumnDecl) (row : List Value) : Option Error :=
  if row.length = decls.length then (decls.zip row).findSome? fun (decl, v) => valueFault? decl v
  else some (.columnCountMismatch decls.length row.length)

/-- What is wrong with the assignment of a value to the column at a position. -/
def assignmentFault? (table : String) (decls : List ColumnDecl) (position : Nat) (v : Value) :
    Option Error :=
  match decls[position]? with
  | some decl => valueFault? decl v
  | none      => some (.columnOutOfRange table position)

/-- The first, and so the smallest, of the ids that is not a live row's. -/
def missingFault? (isLive : RowId → Bool) (ids : RowIds) : Option Error :=
  (ids.toList.find? fun id => !isLive id).map .unknownRow

/-- What is wrong with an update: a missing row, or else the first faulty assignment. -/
def updateFault? (table : String) (decls : List ColumnDecl) (isLive : RowId → Bool) (ids : RowIds)
    (assignments : List (Nat × Value)) : Option Error :=
  (missingFault? isLive ids).or
    (assignments.findSome? fun (position, v) => assignmentFault? table decls position v)

/-- The row has one value of the right type for each column. -/
def Fits (decls : List ColumnDecl) (row : List Value) : Prop :=
  row.map (·.kind) = decls.map (·.type.kind)

theorem Fits.length_eq {decls : List ColumnDecl} {row : List Value} (h : Fits decls row) :
    row.length = decls.length := by
  have hlength := congrArg List.length h
  rwa [List.length_map, List.length_map] at hlength

theorem Fits.kind_eq {decls : List ColumnDecl} {row : List Value} {position : Nat}
    {decl : ColumnDecl} {v : Value} (h : Fits decls row) (hd : decls[position]? = some decl)
    (hv : row[position]? = some v) : v.kind = decl.type.kind := by
  have hkinds := congrArg (·[position]?) h
  simpa [hd, hv] using hkinds

theorem Fits.set {decls : List ColumnDecl} {row : List Value} {position : Nat} {decl : ColumnDecl}
    {v : Value} (h : Fits decls row) (hd : decls[position]? = some decl)
    (hv : v.kind = decl.type.kind) : Fits decls (row.set position v) := by
  obtain ⟨hlt, rfl⟩ := List.getElem?_eq_some_iff.mp hd
  have hlt' : position < (decls.map (·.type.kind)).length := by rwa [List.length_map]
  have hself := List.set_getElem_self hlt'
  rw [List.getElem_map] at hself
  rw [Fits, List.map_set, h, hv, hself]

private theorem valueFault?_eq_none_iff {decl : ColumnDecl} {v : Value} :
    valueFault? decl v = none ↔ v.kind = decl.type.kind := by
  simp [valueFault?]

theorem rowFault?_eq_none_iff {decls : List ColumnDecl} {row : List Value} :
    rowFault? decls row = none ↔ Fits decls row := by
  unfold rowFault?
  by_cases hlength : row.length = decls.length
  · rw [if_pos hlength, Fits]
    induction decls generalizing row with
    | nil =>
      rw [List.length_eq_zero_iff.mp hlength]
      simp
    | cons decl decls ih =>
      obtain ⟨v, row, rfl⟩ := List.exists_cons_of_length_eq_add_one hlength
      rw [List.length_cons, List.length_cons, Nat.add_right_cancel_iff] at hlength
      rw [List.zip_cons_cons, List.findSome?_cons, List.map_cons, List.map_cons, List.cons.injEq,
        ← ih hlength, ← valueFault?_eq_none_iff]
      dsimp only
      cases valueFault? decl v with
      | none => simp
      | some e => simp
  · rw [if_neg hlength]
    simp only [reduceCtorEq, false_iff]
    exact fun h => hlength h.length_eq

theorem assignmentFault?_eq_none_iff {table : String} {decls : List ColumnDecl} {position : Nat}
    {v : Value} :
    assignmentFault? table decls position v = none ↔
      ∃ decl, decls[position]? = some decl ∧ v.kind = decl.type.kind := by
  unfold assignmentFault?
  cases decls[position]? with
  | none => simp
  | some decl => simp [valueFault?_eq_none_iff]

/-! ### What tables check -/

private theorem fault?_checkType (decl : ColumnDecl) (v : Value) :
    fault? (decl.checkType v) = valueFault? decl v := by
  unfold ColumnDecl.checkType valueFault?
  by_cases h : v.kind = decl.type.kind <;> simp [Value.isOf, ColumnDecl.mismatch, h]

namespace Table

variable {t : Table} {position : Nat}

theorem itemAt_eq_ok_iff {α : Type} {items : List α} {a : α} :
    t.itemAt items position = .ok a ↔ items[position]? = some a := by
  unfold itemAt
  cases items[position]? <;> simp

theorem getElem?_fields_eq_some_iff {field : Field} :
    t.fields[position]? = some field ↔
      t.columns[position]? = some field.column ∧ t.indexes[position]? = some field.index := by
  rw [fields, List.getElem?_zipWith]
  obtain ⟨column, index⟩ := field
  cases t.columns[position]? <;> cases t.indexes[position]? <;> simp

theorem fieldAt_eq_ok_iff {field : Field} :
    t.fieldAt position = .ok field ↔ t.fields[position]? = some field := by
  rw [getElem?_fields_eq_some_iff, ← itemAt_eq_ok_iff, ← itemAt_eq_ok_iff]
  obtain ⟨column, index⟩ := field
  unfold fieldAt columnAt indexAt
  cases t.itemAt t.columns position <;> cases t.itemAt t.indexes position <;>
    simp [bind, Except.bind, pure, Except.pure]

/-- Rows are checked against the columns, which are those of the schema. -/
theorem fault?_checkRow (hcolumns : t.columns.map (·.decl) = t.decls) (row : List Value) :
    fault? (t.checkRow row) = rowFault? t.decls row := by
  have hlength : t.columns.length = t.decls.length := by rw [← hcolumns, List.length_map]
  unfold checkRow rowFault?
  rw [hlength]
  by_cases h : row.length = t.decls.length
  · rw [if_pos h]
    have hzip : t.decls.zip row = (t.columns.zip row).map fun e => (e.1.decl, e.2) := by
      rw [← hcolumns, List.zip_map_left]
      rfl
    simp only [h, ne_eq, not_true_eq_false, if_false, fault?_forM, hzip,
      List.findSome?_map, Function.comp_def, Column.checkType, fault?_checkType]
  · simp only [h, ne_eq, not_false_eq_true, if_true]
    rfl

private theorem fault?_checkAssignment (t : Table) (position : Nat) (v : Value) :
    fault? (t.checkAssignment position v) = assignmentFault? t.name t.decls position v := by
  unfold checkAssignment assignmentFault? declAt itemAt
  cases t.decls[position]? with
  | none => rfl
  | some decl => exact fault?_checkType decl v

theorem fault?_checkAssignments (t : Table) (assignments : List (Nat × Value)) :
    fault? (assignments.forM fun (position, v) => t.checkAssignment position v) =
      assignments.findSome? fun (position, v) => assignmentFault? t.name t.decls position v := by
  simp only [fault?_forM, fault?_checkAssignment]

theorem fault?_slotsOf (t : Table) (ids : RowIds) :
    fault? (t.slotsOf ids) = missingFault? t.contains ids := by
  rw [slotsOf, fault?_mapM, missingFault?]
  induction ids.toList with
  | nil => rfl
  | cons id rest ih =>
    rw [List.findSome?_cons, List.find?_cons, ih]
    cases hslot : t.slotOf? id <;> simp [contains, hslot]

end Table

end SqlEngine
