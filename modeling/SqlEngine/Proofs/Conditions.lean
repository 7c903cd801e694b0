import SqlEngine.Proofs.RelationAnswers

/-!
# What conditions say of rows

A condition compares the value that a row has under the name of a column with its literal, taken as
a value of that column's type. It fails if no column has the name or if the literal does not fit, and
a filter fails with the error of its first condition that fails, whatever the others select.
-/

namespace SqlEngine

namespace Table

/-- What a row has under a name: the column as declared, and the value. -/
def cell? (t : Table) (column : String) (row : List Value) : Option (ColumnDecl × Value) :=
  (t.decls.zip row).find? (·.1.name = column)

def valueOf? (t : Table) (column : String) (row : List Value) : Option Value :=
  (t.cell? column row).map (·.2)

/-- Whether a row satisfies a condition. -/
def meets (t : Table) (row : List Value) (condition : Condition) : Bool :=
  (t.cell? condition.column row).any fun (decl, v) =>
    (condition.literal.coerce decl.type).toOption.any (condition.comparison.holds v ·)

/-- Whether a row satisfies all of a filter's conditions or any of them. -/
def selects (t : Table) (filter : Option Filter) (row : List Value) : Bool :=
  match filter with
  | none                    => true
  | some ⟨.and, conditions⟩ => conditions.all (t.meets row)
  | some ⟨.or, conditions⟩  => conditions.any (t.meets row)

/-- What is wrong with a condition on the table's rows. -/
inductive ConditionFault (t : Table) (condition : Condition) : Error → Prop
  | column (hcolumn : condition.column ∉ t.columnNames) :
    ConditionFault t condition (.unknownColumn t.name condition.column)
  | literal {decl : ColumnDecl} {misfit : Misfit} (hdecl : decl ∈ t.decls)
      (hname : decl.name = condition.column)
      (hliteral : condition.literal.coerce decl.type = .error misfit) :
    ConditionFault t condition (.typeMismatch decl.name decl.type misfit)

/-- What is wrong with the first faulty condition of a filter. -/
inductive FilterFault (t : Table) : Option Filter → Error → Prop
  | condition {filter : Filter} {before after : List Condition} {condition : Condition} {e : Error}
      (hconditions : filter.conditions = before ++ condition :: after)
      (hbefore : ∀ earlier ∈ before, ∀ e, ¬ t.ConditionFault earlier e)
      (hfault : t.ConditionFault condition e) :
    FilterFault t (some filter) e

variable {t : Table} {column : String} {position : Nat} {row : List Value} {condition : Condition}
  {filter : Option Filter} {e : Error}

/-! ### Columns by name -/

private theorem positionOf_eq_ok_iff :
    t.positionOf column = .ok position ↔ t.columnNames.idxOf? column = some position := by
  unfold positionOf
  cases t.columnNames.idxOf? column <;> simp

theorem positionOf_eq_error_iff :
    t.positionOf column = .error e ↔
      column ∉ t.columnNames ∧ e = .unknownColumn t.name column := by
  rw [← List.idxOf?_eq_none_iff, positionOf]
  cases t.columnNames.idxOf? column <;> simp [eq_comm]

theorem exists_positionOf_iff :
    (∃ position, t.positionOf column = .ok position) ↔ column ∈ t.columnNames := by
  rw [← fault?_eq_none_iff, positionOf]
  cases h : t.columnNames.idxOf? column with
  | none => simpa using List.idxOf?_eq_none_iff.mp h
  | some position =>
    obtain ⟨hlt, hname, _⟩ := List.idxOf?_eq_some_iff.mp h
    simp [← hname]

theorem decl_of_positionOf (h : t.positionOf column = .ok position) :
    ∃ decl, t.decls[position]? = some decl ∧ decl.name = column := by
  obtain ⟨hlt, hname, _⟩ := List.idxOf?_eq_some_iff.mp (positionOf_eq_ok_iff.mp h)
  have hget : t.columnNames[position]? = some column := by
    rw [List.getElem?_eq_getElem hlt, hname]
  rw [columnNames, List.getElem?_map] at hget
  exact Option.map_eq_some_iff.mp hget

/-- Where names differ a column is known by its name. -/
private theorem decl_eq_of_name_eq (hnames : t.columnNames.Nodup) {decl decl' : ColumnDecl}
    (h : decl ∈ t.decls) (h' : decl' ∈ t.decls) (hname : decl.name = decl'.name) : decl = decl' :=
  List.inj_on_of_nodup_map hnames h h' hname

/-- Where names differ a column's name is found where the column is. -/
theorem positionOf_name (hnames : t.columnNames.Nodup) {decl : ColumnDecl}
    (h : t.decls[position]? = some decl) : t.positionOf decl.name = .ok position := by
  have hname : t.columnNames[position]? = some decl.name := by
    rw [columnNames, List.getElem?_map, h, Option.map_some]
  obtain ⟨hlt, hname⟩ := List.getElem?_eq_some_iff.mp hname
  refine positionOf_eq_ok_iff.mpr (List.idxOf?_eq_some_iff.mpr ⟨hlt, hname, fun i hi heq => ?_⟩)
  exact Nat.ne_of_lt hi (hnames.getElem_inj_iff.mp (heq.trans hname.symm))

/-- A row that has a value for every column has one under each of their names. -/
theorem cell?_of_positionOf (h : t.positionOf column = .ok position)
    (hrow : row.length = t.decls.length) :
    ∃ decl v, t.decls[position]? = some decl ∧ row[position]? = some v ∧
      t.cell? column row = some (decl, v) := by
  obtain ⟨decl, hdecl, hname⟩ := decl_of_positionOf h
  obtain ⟨hlt, _, hbefore⟩ := List.idxOf?_eq_some_iff.mp (positionOf_eq_ok_iff.mp h)
  have hlt' : position < row.length := by
    rw [hrow]
    exact (List.getElem?_eq_some_iff.mp hdecl).1
  have hv : row[position]? = some row[position] := List.getElem?_eq_getElem hlt'
  have hpair : (t.decls.zip row)[position]? = some (decl, row[position]) :=
    List.getElem?_zip_eq_some.mpr ⟨hdecl, hv⟩
  obtain ⟨hzip, hpair⟩ := List.getElem?_eq_some_iff.mp hpair
  refine ⟨decl, row[position], hdecl, hv, ?_⟩
  rw [cell?, List.find?_eq_some_iff_getElem]
  refine ⟨by simpa using hname, position, hzip, hpair, ?_⟩
  intro i hi
  have hother := hbefore i hi
  rw [List.getElem_zip]
  simpa [columnNames] using hother

theorem valueOf?_of_positionOf (h : t.positionOf column = .ok position)
    (hrow : row.length = t.decls.length) : t.valueOf? column row = row[position]? := by
  obtain ⟨decl, v, _, hv, hcell⟩ := cell?_of_positionOf h hrow
  rw [valueOf?, hcell, hv]
  rfl

/-! ### Conditions -/

private theorem test_of_unknown (h : condition.column ∉ t.columnNames) :
    t.relation.test condition = .error (.unknownColumn t.name condition.column) := by
  rw [test_relation, positionOf_eq_error_iff.mpr ⟨h, rfl⟩]
  rfl

/-- A condition on a column with its position found is as good as its literal. -/
private theorem test_of_positionOf {decl : ColumnDecl}
    (h : t.positionOf condition.column = .ok position) (hdecl : t.decls[position]? = some decl) :
    t.relation.test condition = do
      let v ← decl.convert condition.literal
      return fun row => row[position]?.any (condition.comparison.holds · v) := by
  rw [test_relation, h]
  show (t.declAt position >>= fun decl => _) = _
  rw [t.declAt_bind, hdecl]

theorem test_eq_error_iff (hnames : t.columnNames.Nodup) :
    t.relation.test condition = .error e ↔ t.ConditionFault condition e := by
  cases hposition : t.positionOf condition.column with
  | error e' =>
    obtain ⟨hcolumn, rfl⟩ := positionOf_eq_error_iff.mp hposition
    rw [test_of_unknown hcolumn]
    constructor
    · intro h
      cases h
      exact .column hcolumn
    · intro h
      cases h with
      | column _ => rfl
      | literal hdecl hname _ =>
        refine absurd ?_ hcolumn
        rw [← hname]
        exact List.mem_map_of_mem hdecl
  | ok position =>
    obtain ⟨decl, hdecl, hname⟩ := decl_of_positionOf hposition
    have hmem : decl ∈ t.decls := List.mem_of_getElem? hdecl
    rw [test_of_positionOf hposition hdecl, ColumnDecl.convert]
    constructor
    · intro h
      split at h
      · cases h
      · rename_i hliteral
        cases h
        exact .literal hmem hname hliteral
    · intro h
      cases h with
      | column hcolumn => exact absurd (exists_positionOf_iff.mp ⟨position, hposition⟩) hcolumn
      | literal hdecl' hname' hliteral =>
        obtain rfl := decl_eq_of_name_eq hnames hmem hdecl' (hname.trans hname'.symm)
        rw [hliteral]
        rfl

private theorem meets_of_cell? {decl : ColumnDecl} {v w : Value}
    (hcell : t.cell? condition.column row = some (decl, v))
    (hliteral : condition.literal.coerce decl.type = .ok w) :
    t.meets row condition = condition.comparison.holds v w := by
  simp [meets, hcell, hliteral, Except.toOption]

private theorem test_eq_ok {test : List Value → Bool} (htest : t.relation.test condition = .ok test)
    (hrow : row.length = t.decls.length) : test row = t.meets row condition := by
  obtain ⟨position, hposition, _⟩ := bind_eq_ok_iff.mp (t.test_relation condition ▸ htest)
  obtain ⟨decl, v, hdecl, hv, hcell⟩ := cell?_of_positionOf hposition hrow
  rw [test_of_positionOf hposition hdecl] at htest
  obtain ⟨w, hconvert, htest⟩ := bind_eq_ok_iff.mp htest
  cases htest
  rw [ColumnDecl.convert] at hconvert
  split at hconvert
  · rename_i hliteral
    cases hconvert
    rw [meets_of_cell? hcell hliteral]
    show row[position]?.any (condition.comparison.holds · w) = _
    rw [hv, Option.any_some]
  · cases hconvert

/-! ### Filters -/

theorem selector_eq_error_iff (hnames : t.columnNames.Nodup) :
    t.relation.selector filter = .error e ↔ t.FilterFault filter e := by
  cases filter with
  | none =>
    constructor
    · intro h
      cases h
    · intro h
      cases h
  | some filter =>
    have hfaultless : ∀ condition, (∃ test, t.relation.test condition = .ok test) ↔
        ∀ e, ¬ t.ConditionFault condition e := by
      intro condition
      simp only [← test_eq_error_iff hnames]
      cases t.relation.test condition <;> simp
    have hselector : t.relation.selector (some filter) = .error e ↔
        filter.conditions.mapM t.relation.test = .error e := by
      rw [Relation.selector]
      cases filter.conditions.mapM t.relation.test <;> simp [bind, Except.bind, pure, Except.pure]
    rw [hselector, mapM_eq_error_iff]
    constructor
    · intro h
      obtain ⟨before, condition, after, hconditions, hbefore, hfault⟩ := h
      refine .condition hconditions ?_ ((test_eq_error_iff hnames).mp hfault)
      exact fun earlier hearlier => (hfaultless earlier).mp (hbefore earlier hearlier)
    · intro h
      cases h with
      | condition hconditions hbefore hfault =>
        refine ⟨_, _, _, hconditions, ?_, (test_eq_error_iff hnames).mpr hfault⟩
        exact fun earlier hearlier => (hfaultless earlier).mpr (hbefore earlier hearlier)

/-- A filter that has conditions selects a row by all of them or any. -/
theorem selector_eq_ok {selector : List Value → Bool}
    (hselector : t.relation.selector filter = .ok selector)
    (hconditions : ∀ f ∈ filter, f.conditions ≠ []) (hrow : row.length = t.decls.length) :
    selector row = t.selects filter row := by
  cases filter with
  | none =>
    cases hselector
    rfl
  | some filter =>
    obtain ⟨tests, htests, hselector⟩ := bind_eq_ok_iff.mp hselector
    cases hselector
    have hmeets : tests.map (· row) = filter.conditions.map (t.meets row) := by
      rw [← List.forall₂_eq_eq_eq, List.forall₂_map_left_iff, List.forall₂_map_right_iff]
      exact (mapM_eq_ok_iff.mp htests).flip.imp fun test condition htest => test_eq_ok htest hrow
    have hne : tests ≠ [] := by
      intro h
      rw [h] at hmeets
      exact hconditions filter rfl (List.map_eq_nil_iff.mp hmeets.symm)
    obtain ⟨connective, conditions⟩ := filter
    cases connective with
    | and =>
      have hall : tests.all (· row) = conditions.all (t.meets row) := by
        have := congrArg (List.all · id) hmeets
        simpa [List.all_map] using this
      simp [Relation.passes, selects, hall, hne]
    | or =>
      have hany : tests.any (· row) = conditions.any (t.meets row) := by
        have := congrArg (List.any · id) hmeets
        simpa [List.any_map] using this
      simp [Relation.passes, selects, hany]

end Table

end SqlEngine
