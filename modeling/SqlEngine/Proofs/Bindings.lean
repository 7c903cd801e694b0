import SqlEngine.Proofs.LengthLimits
import SqlEngine.Proofs.PredicateResolution

/-!
# What bindings bind

A column list has a binding when it names every column once. The binding then gives each column the
value that stands in a tuple where the list names the column, so that a tuple amounts to the set of
its pairs of name and value. How list and tuple are ordered does not matter, as long as they are
ordered alike.
-/

namespace SqlEngine

/-- In a list of pairs with different first components each has one partner. -/
private theorem eq_of_mem_zip {α β : Type} {names : List α} {items : List β} (hnames : names.Nodup)
    {a : α} {b b' : β} (h : (a, b) ∈ names.zip items) (h' : (a, b') ∈ names.zip items) : b = b' := by
  obtain ⟨i, hi⟩ := List.mem_iff_getElem?.mp h
  obtain ⟨j, hj⟩ := List.mem_iff_getElem?.mp h'
  obtain ⟨hi, hb⟩ := List.getElem?_zip_eq_some.mp hi
  obtain ⟨hj, hb'⟩ := List.getElem?_zip_eq_some.mp hj
  obtain rfl :=
    (List.getElem?_inj (List.getElem?_eq_some_iff.mp hi).1 hnames).mp (hi.trans hj.symm)
  exact Option.some.inj (hb.symm.trans hb')

private theorem forall₂_of_zip {α β γ : Type} {R : α → β → Prop} {S : α × β → γ → Prop}
    {as : List α} {bs : List β} {cs : List γ} (h : List.Forall₂ R as bs)
    (h' : List.Forall₂ S (as.zip bs) cs) :
    List.Forall₂ (fun a c => ∃ b, R a b ∧ S (a, b) c) as cs := by
  induction h generalizing cs with
  | nil =>
    cases h'
    exact .nil
  | cons hab _ ih =>
    cases h' with
    | cons hc hcs => exact .cons ⟨_, hab, hc⟩ (ih hcs)

namespace Binding

variable {t : Table} {binding binding' : Binding} {names names' : List String}
  {tuple tuple' row literals : List Value} {enforce : Bool}

/-- The places are those at which the names have the names of the columns. -/
structure Follows (binding : Binding) (decls : List ColumnDecl) (names : List String) : Prop where
  names_nodup : names.Nodup
  length_eq : names.length = decls.length
  arity_eq : binding.arity = names.length
  places : List.Forall₂ (fun decl place => names[place]? = some decl.name) decls binding.places

/-- A row has in each column the literal that its tuple has under the column's name, taken as a value
of the column's type. -/
def BoundRow (decls : List ColumnDecl) (names : List String) (tuple row : List Value) : Prop :=
  List.Forall₂ (fun decl v => ∃ literal, (decl.name, literal) ∈ names.zip tuple ∧
    literal.coerce decl.type = .ok v) decls row

namespace Follows

/-- In declared order the literals of a tuple are those under the columns' names. -/
private theorem exists_literals (h : binding.Follows t.decls names)
    (hlength : tuple.length = names.length) :
    ∃ literals, List.Forall₂ (fun decl literal => (decl.name, literal) ∈ names.zip tuple)
        t.decls literals ∧
      ∀ enforce, binding.row t enforce tuple =
        (t.decls.zip literals).mapM fun (decl, literal) => decl.fit literal enforce := by
  have harity : tuple.length = binding.arity := hlength.trans h.arity_eq.symm
  refine ⟨binding.places.map (tuple[·]!), ?_, ?_⟩
  · rw [List.forall₂_map_right_iff]
    refine h.places.imp ?_
    intro decl place hplace
    have hlt : place < tuple.length := by
      rw [hlength]
      exact (List.getElem?_eq_some_iff.mp hplace).1
    refine List.mem_iff_getElem?.mpr ⟨place, List.getElem?_zip_eq_some.mpr ⟨hplace, ?_⟩⟩
    rw [getElem!_pos tuple place hlt, List.getElem?_eq_getElem hlt]
  · intro enforce
    rw [row, if_pos harity]
    apply mapM_congr₂
    refine List.forall₂_iff_get.mpr ⟨?_, fun position hposition hdecl => ?_⟩
    · rw [List.length_zipIdx, List.length_zip, List.length_map, h.places.length_eq, Nat.min_self]
    · rw [List.length_zip, Nat.lt_min] at hdecl
      simpa using Table.fit_of_decl (List.getElem?_eq_getElem hdecl.1) _ enforce

/-- Tuples that have the same values under the same names are the same row, or fail alike. -/
private theorem row_congr (h : binding.Follows t.decls names) (h' : binding'.Follows t.decls names')
    (hlength : tuple'.length = tuple.length)
    (hpairs : (names'.zip tuple').Perm (names.zip tuple)) :
    binding'.row t enforce tuple' = binding.row t enforce tuple := by
  have harity : binding'.arity = binding.arity := by
    rw [h'.arity_eq, h.arity_eq, h'.length_eq, h.length_eq]
  by_cases hwidth : tuple.length = names.length
  · have hwidth' : tuple'.length = names'.length := by
      rw [hlength, hwidth, h.length_eq, h'.length_eq]
    obtain ⟨literals, hliterals, hrow⟩ := h.exists_literals hwidth
    obtain ⟨literals', hliterals', hrow'⟩ := h'.exists_literals hwidth'
    have hunique : Relator.RightUnique fun (decl : ColumnDecl) (literal : Value) =>
        (decl.name, literal) ∈ names.zip tuple := fun _ _ _ => eq_of_mem_zip h.names_nodup
    have hsame : literals' = literals :=
      List.right_unique_forall₂' hunique (hliterals'.imp fun _ _ => hpairs.mem_iff.mp) hliterals
    rw [hrow, hrow', hsame]
  · rw [← h.arity_eq] at hwidth
    have hwidth' : tuple'.length ≠ binding'.arity := by rwa [hlength, harity]
    rw [row, row, if_neg hwidth, if_neg hwidth', harity, hlength]

private theorem length_of_row (h : binding.Follows t.decls names)
    (hrow : binding.row t enforce tuple = .ok row) : tuple.length = names.length := by
  unfold Binding.row at hrow
  split at hrow
  · rename_i harity
    exact harity.trans h.arity_eq
  · cases hrow

private theorem boundRow_of_row (h : binding.Follows t.decls names)
    (hrow : binding.row t enforce tuple = .ok row) : BoundRow t.decls names tuple row := by
  obtain ⟨literals, hliterals, hrows⟩ := h.exists_literals (h.length_of_row hrow)
  rw [hrows, mapM_eq_ok_iff] at hrow
  refine (forall₂_of_zip hliterals hrow).imp ?_
  rintro decl v ⟨literal, hliteral, hfit⟩
  exact ⟨literal, hliteral, (ColumnDecl.fit_eq_ok_iff.mp hfit).1⟩

/-- A tuple is a row if it has a value for each column and all of them fit. -/
private theorem exists_row_iff (h : binding.Follows t.decls names) :
    (∃ row, binding.row t enforce tuple = .ok row) ↔
      tuple.length = t.decls.length ∧ ∀ decl ∈ t.decls, ∀ literal,
        (decl.name, literal) ∈ names.zip tuple →
          ∃ v, literal.coerce decl.type = .ok v ∧ (enforce → decl.Admits v) := by
  simp only [← ColumnDecl.fit_eq_ok_iff, ← h.length_eq]
  constructor
  · rintro ⟨row, hrow⟩
    have hlength := h.length_of_row hrow
    obtain ⟨literals, hliterals, hrows⟩ := h.exists_literals hlength
    refine ⟨hlength, fun decl hdecl literal hliteral => ?_⟩
    rw [← List.map_fst_zip (Nat.le_of_eq hliterals.length_eq), List.mem_map] at hdecl
    obtain ⟨⟨_, literal'⟩, hpair, rfl⟩ := hdecl
    rw [eq_of_mem_zip h.names_nodup hliteral (List.forall₂_zip hliterals hpair)]
    exact exists_mapM_eq_ok_iff.mp ⟨row, (hrows enforce).symm.trans hrow⟩ _ hpair
  · rintro ⟨hlength, hfits⟩
    obtain ⟨literals, hliterals, hrows⟩ := h.exists_literals hlength
    rw [hrows, exists_mapM_eq_ok_iff]
    rintro ⟨decl, literal⟩ hpair
    exact hfits decl (List.of_mem_zip hpair).1 literal (List.forall₂_zip hliterals hpair)

end Follows

end Binding

namespace Table

variable {t : Table} {columns : Option (List String)} {names : List String} {positions : List Nat}
  {position place : Nat} {decl : ColumnDecl} {binding : Binding} {tuples : List (List Value)}
  {enforce : Bool}

/-- The names of the columns in the order in which tuples have their values. -/
def namesFor (t : Table) (columns : Option (List String)) : List String :=
  columns.getD t.columnNames

/-! ### Which column lists have bindings -/

/-- The positions of the named columns, name by name. -/
def NamesAt (t : Table) (names : List String) (positions : List Nat) : Prop :=
  List.Forall₂ (fun name position => t.positionOf name = .ok position) names positions

/-- A name has one position, and no other name has it. -/
private theorem positionOf_biUnique (t : Table) :
    Relator.BiUnique fun name position => t.positionOf name = .ok position := by
  constructor
  · intro name position name' h h'
    obtain ⟨decl, hdecl, rfl⟩ := decl_of_positionOf h
    obtain ⟨decl', hdecl', rfl⟩ := decl_of_positionOf h'
    cases hdecl.symm.trans hdecl'
    rfl
  · intro name position position' h h'
    exact Except.ok.inj (h.symm.trans h')

private theorem namesAt_of_positionsFrom (h : t.positionsFrom [] names = .ok positions) :
    t.NamesAt names positions := by
  obtain ⟨_, rfl, hnames, _⟩ := positionsFrom_eq_ok_iff.mp h
  exact hnames

/-- Names have positions if all are columns' and none stands twice. -/
private theorem exists_positionsFrom_iff :
    (∃ positions, t.positionsFrom [] names = .ok positions) ↔
      names ⊆ t.columnNames ∧ names.Nodup := by
  have hknown : (∃ positions, t.NamesAt names positions) ↔ names ⊆ t.columnNames := by
    simp only [NamesAt, ← mapM_eq_ok_iff, exists_mapM_eq_ok_iff, exists_positionOf_iff]
    rfl
  rw [← hknown]
  constructor
  · rintro ⟨positions, h⟩
    obtain ⟨_, rfl, hnames, hnodup, _⟩ := positionsFrom_eq_ok_iff.mp h
    exact ⟨⟨_, hnames⟩, (List.rel_nodup t.positionOf_biUnique hnames).mpr hnodup⟩
  · rintro ⟨⟨positions, hnames⟩, hnodup⟩
    exact ⟨positions, positionsFrom_eq_ok_iff.mpr ⟨positions, rfl, hnames,
      (List.rel_nodup t.positionOf_biUnique hnames).mp hnodup, List.disjoint_nil_left positions⟩⟩

/-- The place of a column's position is the place of its name. -/
private theorem NamesAt.getElem?_place (h : t.NamesAt names positions)
    (hdecl : t.decls[position]? = some decl) (hplace : positions.idxOf? position = some place) :
    names[place]? = some decl.name := by
  obtain ⟨hlt, hposition, _⟩ := List.idxOf?_eq_some_iff.mp hplace
  have hlt' : place < names.length := by rwa [h.length_eq]
  have hnamed : t.positionOf names[place] = .ok positions[place] := h.get hlt' hlt
  rw [hposition] at hnamed
  obtain ⟨decl', hdecl', hname⟩ := decl_of_positionOf hnamed
  cases hdecl.symm.trans hdecl'
  rw [List.getElem?_eq_getElem hlt', hname]

/-- A column's position is found among those of the names that have its name. -/
private theorem NamesAt.mem_iff (h : t.NamesAt names positions) (hnames : t.columnNames.Nodup)
    (hdecl : t.decls[position]? = some decl) : position ∈ positions ↔ decl.name ∈ names :=
  (List.rel_mem t.positionOf_biUnique (positionOf_name hnames hdecl) h).symm

/-- Every column is to have a place. -/
private theorem exists_binding_some_iff :
    (∃ binding, t.binding (some names) = .ok binding) ↔
      ∃ positions, t.positionsFrom [] names = .ok positions ∧
        ∀ position < t.width, position ∈ positions := by
  constructor
  · rintro ⟨binding, h⟩
    obtain ⟨positions, hpositions, h⟩ := bind_eq_ok_iff.mp h
    obtain ⟨places, hplaces, _⟩ := bind_eq_ok_iff.mp h
    refine ⟨positions, hpositions, fun position hposition => ?_⟩
    obtain ⟨place, hplace⟩ :=
      exists_mapM_eq_ok_iff.mp ⟨places, hplaces⟩ position (List.mem_range.mpr hposition)
    by_contra hmissing
    rw [List.idxOf?_eq_none_iff.mpr hmissing] at hplace
    cases hplace
  · rintro ⟨positions, hpositions, hall⟩
    refine Exists.elim (exists_mapM_eq_ok_iff.mpr ?_) fun places hplaces =>
      ⟨_, bind_eq_ok_iff.mpr ⟨positions, hpositions, bind_eq_ok_iff.mpr ⟨places, hplaces, rfl⟩⟩⟩
    intro position hposition
    cases hplace : positions.idxOf? position with
    | some place => exact ⟨place, rfl⟩
    | none =>
      exact absurd (hall position (List.mem_range.mp hposition)) (List.idxOf?_eq_none_iff.mp hplace)

/-- A list of different columns that has all of them has them in any order. -/
private theorem perm_columnNames_iff (hnames : t.columnNames.Nodup) :
    names.Perm t.columnNames ↔
      (names ⊆ t.columnNames ∧ names.Nodup) ∧ t.columnNames ⊆ names := by
  constructor
  · intro hperm
    exact ⟨⟨hperm.subset, hperm.nodup_iff.mpr hnames⟩, hperm.symm.subset⟩
  · rintro ⟨⟨hknown, hnodup⟩, hall⟩
    exact (List.perm_ext_iff_of_nodup hnodup hnames).mpr fun _ => ⟨@hknown _, @hall _⟩

/-- There is a binding for the column lists that have the columns' names, in any order. -/
private theorem exists_binding_iff (hnames : t.columnNames.Nodup) :
    (∃ binding, t.binding columns = .ok binding) ↔ (t.namesFor columns).Perm t.columnNames := by
  cases columns with
  | none => exact iff_of_true ⟨_, rfl⟩ (List.Perm.refl _)
  | some names =>
    rw [exists_binding_some_iff, namesFor, Option.getD_some, perm_columnNames_iff hnames,
      ← exists_positionsFrom_iff, ← exists_and_right]
    refine exists_congr fun positions => and_congr_right fun hpositions => ?_
    have hmem : ∀ (position : Nat) (hlt : position < t.decls.length),
        position ∈ positions ↔ t.decls[position].name ∈ names := fun position hlt =>
      (namesAt_of_positionsFrom hpositions).mem_iff hnames (List.getElem?_eq_getElem hlt)
    constructor
    · intro hall name hname
      obtain ⟨decl, hdecl, rfl⟩ := List.mem_map.mp hname
      obtain ⟨position, hlt, rfl⟩ := List.getElem_of_mem hdecl
      exact (hmem position hlt).mp (hall position hlt)
    · intro hall position hlt
      exact (hmem position hlt).mpr (hall (List.mem_map_of_mem (List.getElem_mem hlt)))

private theorem follows_positional (hnames : t.columnNames.Nodup) :
    (Binding.positional t.width).Follows t.decls t.columnNames := by
  have hlength : t.columnNames.length = t.decls.length := by rw [columnNames, List.length_map]
  refine ⟨hnames, hlength, hlength.symm, List.forall₂_iff_get.mpr ⟨?_, ?_⟩⟩
  · exact List.length_range.symm
  · intro position hdecl _
    have hname : t.columnNames[position]? = some (t.decls[position].name) := by
      rw [columnNames, List.getElem?_map, List.getElem?_eq_getElem hdecl, Option.map_some]
    simpa [Binding.positional] using hname

/-- The places that a binding has for the columns are those of their names. -/
theorem follows_of_binding (hnames : t.columnNames.Nodup) (h : t.binding columns = .ok binding) :
    binding.Follows t.decls (t.namesFor columns) := by
  have hperm := (exists_binding_iff hnames).mp ⟨binding, h⟩
  have hlength : (t.namesFor columns).length = t.decls.length := by
    rw [hperm.length_eq, columnNames, List.length_map]
  cases columns with
  | none =>
    cases h
    exact follows_positional hnames
  | some names =>
    obtain ⟨positions, hpositions, h⟩ := bind_eq_ok_iff.mp h
    obtain ⟨places, hplaces, h⟩ := bind_eq_ok_iff.mp h
    cases h
    have hat := namesAt_of_positionsFrom hpositions
    have hpairs := mapM_eq_ok_iff.mp hplaces
    have hwidth := hpairs.length_eq
    rw [List.length_range, width] at hwidth
    refine ⟨hperm.nodup_iff.mpr hnames, hlength, rfl,
      List.forall₂_iff_get.mpr ⟨hwidth, fun position hdecl hplace => ?_⟩⟩
    have hfound := hpairs.get (List.length_range.symm ▸ hdecl) hplace
    rw [List.get_eq_getElem, List.getElem_range] at hfound
    split at hfound
    · rename_i hidx
      cases hfound
      exact hat.getElem?_place (List.getElem?_eq_getElem hdecl) hidx
    · cases hfound

/-! ### What tuples amount to -/

/-- The tuples have a value for each column, and all of them fit. -/
structure Accepts (t : Table) (columns : Option (List String)) (tuples : List (List Value))
    (enforce : Bool) : Prop where
  names : ∀ names ∈ columns, names.Perm t.columnNames
  widths : ∀ tuple ∈ tuples, tuple.length = t.width
  values : ∀ tuple ∈ tuples, ∀ decl ∈ t.decls, ∀ literal,
    (decl.name, literal) ∈ (t.namesFor columns).zip tuple →
      ∃ v, literal.coerce decl.type = .ok v ∧ (enforce → decl.Admits v)

theorem namesFor_perm_iff :
    (t.namesFor columns).Perm t.columnNames ↔ ∀ names ∈ columns, names.Perm t.columnNames := by
  cases columns <;> simp [namesFor]

theorem exists_bind_iff (hnames : t.columnNames.Nodup) :
    (∃ rows, t.relation.bind columns tuples enforce = .ok rows) ↔
      t.Accepts columns tuples enforce := by
  rw [bind_relation]
  constructor
  · rintro ⟨rows, hrows⟩
    obtain ⟨binding, hbinding, hrows⟩ := bind_eq_ok_iff.mp hrows
    have hfollows := follows_of_binding hnames hbinding
    have htuples : ∀ tuple ∈ tuples, _ := fun tuple htuple =>
      hfollows.exists_row_iff.mp (exists_mapM_eq_ok_iff.mp ⟨rows, hrows⟩ tuple htuple)
    refine ⟨namesFor_perm_iff.mp ((exists_binding_iff hnames).mp ⟨binding, hbinding⟩), ?_, ?_⟩
    · exact fun tuple htuple => (htuples tuple htuple).1
    · exact fun tuple htuple => (htuples tuple htuple).2
  · intro haccepts
    obtain ⟨binding, hbinding⟩ :=
      (exists_binding_iff hnames).mpr (namesFor_perm_iff.mpr haccepts.names)
    have hfollows := follows_of_binding hnames hbinding
    obtain ⟨rows, hrows⟩ : ∃ rows, tuples.mapM (binding.row t enforce) = .ok rows :=
      exists_mapM_eq_ok_iff.mpr fun tuple htuple => hfollows.exists_row_iff.mpr
        ⟨haccepts.widths tuple htuple, haccepts.values tuple htuple⟩
    exact ⟨rows, bind_eq_ok_iff.mpr ⟨binding, hbinding, hrows⟩⟩

theorem boundRows_of_bind (hnames : t.columnNames.Nodup) {rows : List (List Value)}
    (h : t.relation.bind columns tuples enforce = .ok rows) :
    List.Forall₂ (Binding.BoundRow t.decls (t.namesFor columns)) tuples rows := by
  rw [bind_relation] at h
  obtain ⟨binding, hbinding, hrows⟩ := bind_eq_ok_iff.mp h
  exact (mapM_eq_ok_iff.mp hrows).imp fun _ _ =>
    (follows_of_binding hnames hbinding).boundRow_of_row

/-- Columns and values may be written in any order, if in the same one. -/
theorem bind_congr (enforce : Bool) (hnames : t.columnNames.Nodup) {columns' : Option (List String)}
    {tuples' : List (List Value)} (hcolumns : ∀ names ∈ columns, names.Perm t.columnNames)
    (hcolumns' : ∀ names ∈ columns', names.Perm t.columnNames)
    (hpairs : List.Forall₂ (fun tuple' tuple => tuple'.length = tuple.length ∧
      ((t.namesFor columns').zip tuple').Perm ((t.namesFor columns).zip tuple)) tuples' tuples) :
    t.relation.bind columns' tuples' enforce = t.relation.bind columns tuples enforce := by
  obtain ⟨binding, hbinding⟩ := (exists_binding_iff hnames).mpr (namesFor_perm_iff.mpr hcolumns)
  obtain ⟨binding', hbinding'⟩ := (exists_binding_iff hnames).mpr (namesFor_perm_iff.mpr hcolumns')
  have hfollows := follows_of_binding hnames hbinding
  have hfollows' := follows_of_binding hnames hbinding'
  rw [bind_relation, bind_relation, hbinding, hbinding']
  apply mapM_congr₂
  refine hpairs.imp ?_
  rintro tuple' tuple ⟨hlength, hpair⟩
  exact hfollows.row_congr hfollows' hlength hpair

end Table

end SqlEngine
