import Mathlib
import SqlEngine.Proofs.Conditions
import SqlEngine.Proofs.StatementBounds

/-!
# What queries return

A query takes the live rows by id, keeps those that its filter selects, sorts them by a column, cuts
them off at its limit and takes from each row the columns asked for. What it can fail with is found
before any row is looked at and does not depend on the rows.
-/

namespace SqlEngine

/-! ### Stable sorting -/

section StableSorting

variable {α β : Type} [DecidableEq β] {key key' : α → β} {items sorted sorted' : List α}

private theorem mem_of_filter_eq (h : ∀ k, sorted.filter (key · = k) = sorted'.filter (key · = k))
    {a : α} (ha : a ∈ sorted) : a ∈ sorted' := by
  have hfilter : a ∈ sorted.filter (key · = key a) := List.mem_filter.mpr ⟨ha, by simp⟩
  rw [h] at hfilter
  exact List.mem_of_mem_filter hfilter

variable [Ord β]

/-- The items in ascending order of their keys. Of each key they are the same items, in the order in
which they stood. -/
structure StablySorted (key : α → β) (items sorted : List α) : Prop where
  ascending : sorted.Pairwise fun a b => (compare (key a) (key b)).isLE
  ties : ∀ k, sorted.filter (key · = k) = items.filter (key · = k)

private theorem StablySorted.mem_iff (h : StablySorted key items sorted) {a : α} :
    a ∈ sorted ↔ a ∈ items :=
  ⟨mem_of_filter_eq h.ties, mem_of_filter_eq fun k => (h.ties k).symm⟩

private theorem StablySorted.congr (h : StablySorted key items sorted)
    (hkey : ∀ a ∈ items, key a = key' a) : StablySorted key' items sorted := by
  have hfilter : ∀ l : List α, l ⊆ items → ∀ k, l.filter (key' · = k) = l.filter (key · = k) := by
    intro l hl k
    apply List.filter_congr
    intro a ha
    rw [hkey a (hl ha)]
  have hsorted : sorted ⊆ items := fun a ha => h.mem_iff.mp ha
  refine ⟨h.ascending.imp_of_mem ?_, ?_⟩
  · intro a b ha hb hle
    rwa [← hkey a (hsorted ha), ← hkey b (hsorted hb)]
  · intro k
    rw [hfilter sorted hsorted, hfilter items (List.Subset.refl _), h.ties]

variable [Std.TransOrd β] [Std.LawfulEqOrd β]

private theorem stablySorted_mergeSort (key : α → β) (items : List α) :
    StablySorted key items (items.mergeSort fun a b => (compare (key a) (key b)).isLE) := by
  have htrans : ∀ a b c, (compare (key a) (key b)).isLE → (compare (key b) (key c)).isLE →
      (compare (key a) (key c)).isLE := fun _ _ _ => Std.TransOrd.isLE_trans
  have htotal : ∀ a b, ((compare (key a) (key b)).isLE || (compare (key b) (key a)).isLE) := by
    intro a b
    rw [Std.OrientedOrd.eq_swap (a := key b)]
    cases compare (key a) (key b) <;> rfl
  refine ⟨List.pairwise_mergeSort htrans htotal items, ?_⟩
  intro k
  -- The items of one key are sorted as they stand, so sorting keeps them as a sublist.
  have hpairwise : (items.filter (key · = k)).Pairwise fun a b =>
      (compare (key a) (key b)).isLE := by
    apply List.pairwise_of_forall_mem_list
    intro a ha b hb
    obtain ⟨_, ha⟩ := List.mem_filter.mp ha
    obtain ⟨_, hb⟩ := List.mem_filter.mp hb
    rw [of_decide_eq_true ha, of_decide_eq_true hb, Std.compare_self]
    rfl
  have hsublist := (List.sublist_mergeSort htrans htotal hpairwise List.filter_sublist).filter
    (key · = k)
  simp only [List.filter_filter, Bool.and_self] at hsublist
  have hlength := ((List.mergeSort_perm items fun a b =>
    (compare (key a) (key b)).isLE).filter (key · = k)).length_eq
  exact (hsublist.eq_of_length hlength.symm).symm

/-- Sorted lists of the same items by key are equal, since in each the first item is the first one
of the least key. -/
private theorem eq_of_filter_eq (h : sorted.Pairwise fun a b => (compare (key a) (key b)).isLE)
    (h' : sorted'.Pairwise fun a b => (compare (key a) (key b)).isLE)
    (hfilter : ∀ k, sorted.filter (key · = k) = sorted'.filter (key · = k)) : sorted = sorted' := by
  induction sorted generalizing sorted' with
  | nil =>
    rw [eq_comm, List.eq_nil_iff_forall_not_mem]
    exact fun a ha => List.not_mem_nil (mem_of_filter_eq (fun k => (hfilter k).symm) ha)
  | cons a sorted ih =>
    cases sorted' with
    | nil => exact absurd (mem_of_filter_eq hfilter List.mem_cons_self) List.not_mem_nil
    | cons b sorted' =>
      have hle : ∀ {c : α} {l : List α}, (c :: l).Pairwise
          (fun a b => (compare (key a) (key b)).isLE) → ∀ d ∈ c :: l,
          (compare (key c) (key d)).isLE := by
        intro c l hl d hd
        rcases List.mem_cons.mp hd with rfl | hd
        · rw [Std.compare_self]
          rfl
        · exact List.rel_of_pairwise_cons hl hd
      have hkey : key a = key b := by
        apply Std.LawfulEqOrd.eq_of_compare
        apply Std.OrientedCmp.isLE_antisymm
        · exact hle h b (mem_of_filter_eq (fun k => (hfilter k).symm) List.mem_cons_self)
        · exact hle h' a (mem_of_filter_eq hfilter List.mem_cons_self)
      have hheads := hfilter (key a)
      rw [List.filter_cons_of_pos (by simp), List.filter_cons_of_pos (by simp [hkey])] at hheads
      obtain ⟨rfl, _⟩ := List.cons.inj hheads
      refine congrArg (a :: ·) (ih h.tail h'.tail fun k => ?_)
      have htails := hfilter k
      rw [List.filter_cons, List.filter_cons] at htails
      split at htails
      · exact (List.cons.inj htails).2
      · exact htails

private theorem StablySorted.unique (h : StablySorted key items sorted)
    (h' : StablySorted key items sorted') : sorted = sorted' :=
  eq_of_filter_eq h.ascending h'.ascending fun k => (h.ties k).trans (h'.ties k).symm

end StableSorting

namespace Table

/-! ### What a query is asked for -/

/-- The live rows in the order of their ids. -/
def liveRows (t : Table) : List (List Value) := t.rowIds.toList.filterMap t.row?

/-- The names of the columns that a query returns, in their order. -/
def requested (t : Table) : Projection → List String
  | .all           => t.columnNames
  | .columns names => names

/-- What is wrong with a query on the table's rows: the first name that is listed again, or else the
first that is no column's, or else the name to order by, or else a condition. -/
inductive QueryFault (t : Table) (q : Select) : Error → Prop
  | repeated {before after : List String} {column : String}
      (hnames : t.requested q.projection = before ++ column :: after)
      (hbefore : before.Nodup) (hcolumn : column ∈ before) :
    QueryFault t q (.duplicateColumn t.name column)
  | projected {before after : List String} {column : String}
      (hnodup : (t.requested q.projection).Nodup)
      (hnames : t.requested q.projection = before ++ column :: after)
      (hbefore : before ⊆ t.columnNames) (hcolumn : column ∉ t.columnNames) :
    QueryFault t q (.unknownColumn t.name column)
  | ordering {column : String} (hnodup : (t.requested q.projection).Nodup)
      (hknown : t.requested q.projection ⊆ t.columnNames)
      (horder : q.orderBy = some column) (hcolumn : column ∉ t.columnNames) :
    QueryFault t q (.unknownColumn t.name column)
  | condition {e : Error} (hnodup : (t.requested q.projection).Nodup)
      (hknown : t.requested q.projection ⊆ t.columnNames)
      (horder : ∀ column ∈ q.orderBy, column ∈ t.columnNames) (hfault : t.FilterFault q.filter e) :
    QueryFault t q e

/-- The rows as a query orders them. -/
def Orders (t : Table) (q : Select) (rows ordered : List (List Value)) : Prop :=
  match q.orderBy with
  | some column => StablySorted (t.valueOf? column) rows ordered
  | none        => ordered = rows

/-- What a query returns of the table's rows. None of the values that it asks for is missing. -/
structure Answers (t : Table) (q : Select) (r : ResultSet) : Prop where
  columns : r.columns = t.requested q.projection
  rows : ∃ ordered, t.Orders q (t.liveRows.filter (t.selects q.filter)) ordered ∧
    r.rows.map (·.map some) =
      (q.limit.elim ordered ordered.take).map fun row => r.columns.map (t.valueOf? · row)
  count : r.count = r.rows.length

variable {t : Table} {s : RowStore} {q : Select} {r r' : ResultSet} {e : Error}
  {names : List String}

/-- A query asks for one answer only. -/
private theorem Answers.unique (h : t.Answers q r) (h' : t.Answers q r') : r = r' := by
  obtain ⟨ordered, hordered, hrows⟩ := h.rows
  obtain ⟨ordered', hordered', hrows'⟩ := h'.rows
  have hsame : ordered = ordered' := by
    unfold Orders at hordered hordered'
    cases horder : q.orderBy with
    | none =>
      rw [horder] at hordered hordered'
      exact hordered.trans hordered'.symm
    | some column =>
      rw [horder] at hordered hordered'
      exact StablySorted.unique hordered hordered'
  have hcolumns : r.columns = r'.columns := h.columns.trans h'.columns.symm
  rw [← hsame, ← hcolumns, ← hrows] at hrows'
  have hinjective : Function.Injective (List.map (List.map (some : Value → Option Value))) :=
    List.map_injective_iff.mpr (List.map_injective_iff.mpr fun _ _ => Option.some.inj)
  have hvalues : r.rows = r'.rows := (hinjective hrows').symm
  have hcount : r.count = r'.count := by rw [h.count, h'.count, hvalues]
  cases r
  cases r'
  congr

/-! ### Names -/

private theorem projectedNames_requested (t : Table) (projection : Projection) :
    t.projectedNames projection =
      match firstRepeated? (t.requested projection) with
      | some column => .error (.duplicateColumn t.name column)
      | none        => .ok (t.requested projection) := rfl

theorem projectedNames_eq_ok_iff :
    t.projectedNames q.projection = .ok names ↔
      names = t.requested q.projection ∧ (t.requested q.projection).Nodup := by
  rw [projectedNames_requested, ← firstRepeated?_eq_none_iff]
  cases firstRepeated? (t.requested q.projection) <;> simp [eq_comm]

private theorem projectedNames_eq_error_iff :
    t.projectedNames q.projection = .error e ↔
      ∃ before column after, t.requested q.projection = before ++ column :: after ∧ before.Nodup ∧
        column ∈ before ∧ e = .duplicateColumn t.name column := by
  have hrepeated := @firstRepeated?_eq_some_iff _ _ (t.requested q.projection)
  rw [projectedNames_requested]
  cases h : firstRepeated? (t.requested q.projection) with
  | none =>
    constructor
    · intro hok
      cases hok
    · rintro ⟨before, column, after, hnames, hbefore, hcolumn, _⟩
      rw [hrepeated.mpr ⟨before, after, hnames, hbefore, hcolumn⟩] at h
      cases h
  | some column =>
    constructor
    · intro hfails
      cases hfails
      obtain ⟨before, after, hnames, hbefore, hcolumn⟩ := hrepeated.mp h
      exact ⟨before, column, after, hnames, hbefore, hcolumn, rfl⟩
    · rintro ⟨before, column', after, hnames, hbefore, hcolumn, rfl⟩
      rw [hrepeated.mpr ⟨before, after, hnames, hbefore, hcolumn⟩] at h
      cases h
      rfl

private theorem mapM_positionOf_eq_error_iff :
    names.mapM t.positionOf = .error e ↔
      ∃ before column after, names = before ++ column :: after ∧ before ⊆ t.columnNames ∧
        column ∉ t.columnNames ∧ e = .unknownColumn t.name column := by
  rw [mapM_eq_error_iff]
  simp only [exists_positionOf_iff, positionOf_eq_error_iff]
  rfl

theorem exists_mapM_positionOf_iff :
    (∃ positions, names.mapM t.positionOf = .ok positions) ↔ names ⊆ t.columnNames := by
  rw [exists_mapM_eq_ok_iff]
  simp only [exists_positionOf_iff]
  rfl

private theorem orderBy_eq_error_iff {orderBy : Option String} :
    orderBy.mapM t.positionOf = .error e ↔
      ∃ column, orderBy = some column ∧ column ∉ t.columnNames ∧
        e = .unknownColumn t.name column := by
  cases orderBy with
  | none => simp [pure, Except.pure]
  | some column =>
    rw [Option.mapM_some]
    simp only [Option.some.injEq, exists_eq_left', ← positionOf_eq_error_iff]
    cases t.positionOf column <;> simp

private theorem exists_orderBy_iff {orderBy : Option String} :
    (∃ key, orderBy.mapM t.positionOf = .ok key) ↔ ∀ column ∈ orderBy, column ∈ t.columnNames := by
  cases orderBy with
  | none => simp [pure, Except.pure]
  | some column =>
    rw [Option.mapM_some]
    simp only [Option.mem_some_iff, forall_eq', ← exists_positionOf_iff]
    cases t.positionOf column <;> simp

/-! ### Errors and answers -/

namespace Holds

theorem columnNames_nodup (h : t.Holds s) : t.columnNames.Nodup := by
  have hnames := h.valid.names_nodup
  rwa [← h.decls] at hnames

/-- Looking rows up by ascending id finds them in the order of their slots. -/
private theorem liveRows_eq (h : t.Holds s) : t.liveRows = t.relation.rows := by
  rw [liveRows, h.rowIds_eq, h.relation_eq, List.filterMap_map, ← List.filterMap_eq_map]
  apply List.filterMap_congr
  intro entry hentry
  exact h.row?_eq_some_iff.mpr (RowStore.mem_liveRows.mp hentry)

/-- A query by its four steps that can fail. -/
theorem query_eq (h : t.Holds s) (q : Select) (useIndexes : Bool) :
    t.query q useIndexes = do
      let columns ← t.projectedNames q.projection
      let positions ← columns.mapM t.positionOf
      let key ← q.orderBy.mapM t.positionOf
      let selects ← t.relation.selector q.filter
      let rows := Relation.arrange key q.limit (t.relation.rows.filter selects)
      let values := rows.map fun row => positions.filterMap (row[·]?)
      return ⟨columns, values, values.length⟩ := by
  rw [h.query_relation, Relation.query, projectedNames_heading, positionOf_heading]

private theorem query_eq_error_iff (h : t.Holds s) (q : Select) (useIndexes : Bool) :
    t.query q useIndexes = .error e ↔ t.QueryFault q e := by
  rw [h.query_eq]
  constructor
  · intro hfails
    rcases bind_eq_error_iff.mp hfails with hrepeated | ⟨columns, hcolumns, hfails⟩
    · obtain ⟨_, _, _, hnames, hbefore, hcolumn, rfl⟩ := projectedNames_eq_error_iff.mp hrepeated
      exact .repeated hnames hbefore hcolumn
    obtain ⟨rfl, hnodup⟩ := projectedNames_eq_ok_iff.mp hcolumns
    rcases bind_eq_error_iff.mp hfails with hprojected | ⟨positions, hpositions, hfails⟩
    · obtain ⟨_, _, _, hnames, hbefore, hcolumn, rfl⟩ :=
        mapM_positionOf_eq_error_iff.mp hprojected
      exact .projected hnodup hnames hbefore hcolumn
    have hknown := exists_mapM_positionOf_iff.mp ⟨positions, hpositions⟩
    rcases bind_eq_error_iff.mp hfails with hordering | ⟨key, hkey, hfails⟩
    · obtain ⟨column, horder, hcolumn, rfl⟩ := orderBy_eq_error_iff.mp hordering
      exact .ordering hnodup hknown horder hcolumn
    have horder := exists_orderBy_iff.mp ⟨key, hkey⟩
    rcases bind_eq_error_iff.mp hfails with hfilter | ⟨selects, _, hfails⟩
    · exact .condition hnodup hknown horder
        ((selector_eq_error_iff h.columnNames_nodup).mp hfilter)
    · cases hfails
  · intro hfault
    cases hfault with
    | repeated hnames hbefore hcolumn =>
      exact bind_eq_error_iff.mpr (.inl (projectedNames_eq_error_iff.mpr
        ⟨_, _, _, hnames, hbefore, hcolumn, rfl⟩))
    | projected hnodup hnames hbefore hcolumn =>
      refine bind_eq_error_iff.mpr (.inr ⟨_, projectedNames_eq_ok_iff.mpr ⟨rfl, hnodup⟩, ?_⟩)
      exact bind_eq_error_iff.mpr (.inl (mapM_positionOf_eq_error_iff.mpr
        ⟨_, _, _, hnames, hbefore, hcolumn, rfl⟩))
    | ordering hnodup hknown horder hcolumn =>
      obtain ⟨positions, hpositions⟩ := exists_mapM_positionOf_iff.mpr hknown
      refine bind_eq_error_iff.mpr (.inr ⟨_, projectedNames_eq_ok_iff.mpr ⟨rfl, hnodup⟩, ?_⟩)
      refine bind_eq_error_iff.mpr (.inr ⟨positions, hpositions, ?_⟩)
      exact bind_eq_error_iff.mpr (.inl (orderBy_eq_error_iff.mpr ⟨_, horder, hcolumn, rfl⟩))
    | condition hnodup hknown horder hfault =>
      obtain ⟨positions, hpositions⟩ := exists_mapM_positionOf_iff.mpr hknown
      obtain ⟨key, hkey⟩ := exists_orderBy_iff.mpr horder
      refine bind_eq_error_iff.mpr (.inr ⟨_, projectedNames_eq_ok_iff.mpr ⟨rfl, hnodup⟩, ?_⟩)
      refine bind_eq_error_iff.mpr (.inr ⟨positions, hpositions, ?_⟩)
      refine bind_eq_error_iff.mpr (.inr ⟨key, hkey, ?_⟩)
      exact bind_eq_error_iff.mpr (.inl ((selector_eq_error_iff h.columnNames_nodup).mpr hfault))

/-- The rows of a relation in the order of a column's position are so by the column's name. -/
private theorem orders_arrange (h : t.Holds s) {key : Option Nat} {rows : List (List Value)}
    (hkey : q.orderBy.mapM t.positionOf = .ok key) (hrows : rows ⊆ t.relation.rows) :
    t.Orders q rows (Relation.arrange key none rows) := by
  unfold Orders
  cases horder : q.orderBy with
  | none =>
    rw [horder] at hkey
    cases hkey
    rfl
  | some column =>
    rw [horder, Option.mapM_some] at hkey
    cases hposition : t.positionOf column with
    | error e =>
      rw [hposition] at hkey
      cases hkey
    | ok position =>
      rw [hposition] at hkey
      cases hkey
      apply (stablySorted_mergeSort (fun row : List Value => row[position]?) rows).congr
      intro row hrow
      exact (valueOf?_of_positionOf hposition (h.length_of_mem_relation (hrows hrow))).symm

/-- The values at the positions of columns are those under the columns' names, and all are there. -/
theorem map_valueOf? (h : t.Holds s) {positions : List Nat} {row : List Value}
    (hpositions : names.mapM t.positionOf = .ok positions) (hrow : row ∈ t.relation.rows) :
    (positions.filterMap (row[·]?)).map some = names.map (t.valueOf? · row) := by
  have hlength := h.length_of_mem_relation hrow
  have hpairs := mapM_eq_ok_iff.mp hpositions
  clear hpositions
  induction hpairs with
  | nil => rfl
  | cons hposition _ ih =>
    obtain ⟨decl, v, _, hv, _⟩ := cell?_of_positionOf hposition hlength
    rw [List.filterMap_cons, hv, List.map_cons, List.map_cons, ih,
      valueOf?_of_positionOf hposition hlength, hv]

private theorem answers_of_query_eq_ok (h : t.Holds s) {useIndexes : Bool}
    (hfilter : ∀ f ∈ q.filter, f.conditions ≠ []) (hquery : t.query q useIndexes = .ok r) :
    t.Answers q r := by
  rw [h.query_eq] at hquery
  obtain ⟨columns, hcolumns, hquery⟩ := bind_eq_ok_iff.mp hquery
  obtain ⟨rfl, _⟩ := projectedNames_eq_ok_iff.mp hcolumns
  obtain ⟨positions, hpositions, hquery⟩ := bind_eq_ok_iff.mp hquery
  obtain ⟨key, hkey, hquery⟩ := bind_eq_ok_iff.mp hquery
  obtain ⟨selects, hselects, hquery⟩ := bind_eq_ok_iff.mp hquery
  cases hquery
  have hselected : t.relation.rows.filter selects = t.liveRows.filter (t.selects q.filter) := by
    rw [h.liveRows_eq]
    apply List.filter_congr
    intro row hrow
    exact selector_eq_ok hselects hfilter (h.length_of_mem_relation hrow)
  have hlimit : Relation.arrange key q.limit (t.relation.rows.filter selects) =
      q.limit.elim (Relation.arrange key none (t.relation.rows.filter selects))
        (Relation.arrange key none (t.relation.rows.filter selects)).take := by
    cases q.limit <;> rfl
  refine ⟨rfl, ⟨Relation.arrange key none (t.relation.rows.filter selects), ?_, ?_⟩, rfl⟩
  · rw [← hselected]
    exact h.orders_arrange hkey List.filter_sublist.subset
  · dsimp only
    rw [← hlimit, List.map_map]
    apply List.map_congr_left
    intro row hrow
    exact h.map_valueOf? hpositions (List.mem_of_mem_filter (Relation.mem_of_mem_arrange hrow))

private theorem query_eq_ok_iff (h : t.Holds s) (useIndexes : Bool)
    (hfilter : ∀ f ∈ q.filter, f.conditions ≠ []) :
    t.query q useIndexes = .ok r ↔ (∀ e, ¬ t.QueryFault q e) ∧ t.Answers q r := by
  simp only [← h.query_eq_error_iff q useIndexes]
  constructor
  · intro hquery
    refine ⟨fun e hfails => ?_, h.answers_of_query_eq_ok hfilter hquery⟩
    rw [hquery] at hfails
    cases hfails
  · intro hanswers
    obtain ⟨hfaultless, hanswers⟩ := hanswers
    cases hquery : t.query q useIndexes with
    | error e => exact absurd hquery (hfaultless e)
    | ok r' => rw [(h.answers_of_query_eq_ok hfilter hquery).unique hanswers]

end Holds

end Table

/-! ### Queries on catalogs -/

/-- In every catalog that calls lead to, a query fails exactly with what is wrong with it, and else
returns exactly the rows that it asks for; in either case the catalog stays as it is. -/
theorem Catalog.Reachable.query_pipeline {c : Catalog} (h : c.Reachable) (settings : Settings)
    (q : Select) (hfilter : ∀ f ∈ q.filter, f.conditions ≠ []) :
    (∀ e, c.query settings q = .error e ↔
      (c.table? q.table = none ∧ e = .unknownTable q.table) ∨
        ∃ t, c.table? q.table = some t ∧ t.QueryFault q e) ∧
    (∀ r, c.query settings q = .ok r ↔
      ∃ t, c.table? q.table = some t ∧ (∀ e, ¬ t.QueryFault q e) ∧ t.Answers q r) ∧
    ((Statement.select q).run settings).outcome c = (.rows <$> c.query settings q, c) := by
  have hunchanged : ((Statement.select q).run settings).outcome c =
      (.rows <$> c.query settings q, c) := by
    rw [Statement.run, Action.outcome_bind_pure, Action.answer_observe, Action.after,
      Action.outcome_observe]
  cases htable : c.table? q.table with
  | none =>
    have hquery : c.query settings q = .error (.unknownTable q.table) := by
      rw [query, table, htable]
      rfl
    refine ⟨?_, ?_, hunchanged⟩
    · intro e
      simp [hquery, eq_comm]
    · intro r
      simp [hquery]
  | some t =>
    have hquery : c.query settings q = t.query q settings.useIndexes := by
      rw [query, table, htable]
      rfl
    obtain ⟨s, _, hs⟩ := h.sound q.table t htable
    refine ⟨?_, ?_, hunchanged⟩
    · intro e
      simp [hquery, hs.query_eq_error_iff]
    · intro r
      simp [hquery, hs.query_eq_ok_iff settings.useIndexes hfilter]

/-- Rows are ordered by a column that is not returned, with ties, a dead row and a limit; and of all
that is wrong with another query its repeated column is reported. -/
theorem Catalog.Reachable.query_pipeline_with_ties :
    ∃ (c : Catalog) (t : Table) (q q' : Select) (r : ResultSet), c.Reachable ∧
      c.table? "t" = some t ∧
      t.liveRows = [[.text "u", .int 2], [.text "v", .int 1], [.text "w", .int 2],
        [.text "x", .int 1], [.text "z", .int 3]] ∧
      q = ⟨.columns ["name"], "t", some ⟨.or, [⟨"rank", .le, .text "2"⟩]⟩, some "rank", some 3⟩ ∧
      r.rows = [[.text "v"], [.text "x"], [.text "u"]] ∧
      c.query {} q = .ok r ∧ t.Answers q r ∧
      q' = ⟨.columns ["name", "rank", "name", "size"], "t", some ⟨.and, [⟨"rank", .eq, .bool true⟩]⟩,
        some "size", none⟩ ∧
      c.query {} q' = .error (.duplicateColumn "t" "name") ∧
      t.QueryFault q' (.duplicateColumn "t" "name") := by
  let c : Catalog := afterCalls [
    .createTable "t" [⟨"name", .varchar 3⟩, ⟨"rank", .int⟩],
    .insert "t" none [[.text "u", .int 2], [.text "v", .int 1], [.text "w", .int 2],
      [.text "x", .int 1], [.text "y", .int 1], [.text "z", .int 3]] false,
    .onTable "t" (.delete (.ofList [4]))] .empty
  let q : Select :=
    ⟨.columns ["name"], "t", some ⟨.or, [⟨"rank", .le, .text "2"⟩]⟩, some "rank", some 3⟩
  let q' : Select :=
    ⟨.columns ["name", "rank", "name", "size"], "t", some ⟨.and, [⟨"rank", .eq, .bool true⟩]⟩,
      some "size", none⟩
  have hc : c.Reachable := reachable_afterCalls .empty _
  have hquery : c.query {} q = .ok ⟨["name"], [[.text "v"], [.text "x"], [.text "u"]], 3⟩ := by
    dsimp only [c, q]
    cbv
  have hfails : c.query {} q' = .error (.duplicateColumn "t" "name") := by decide +kernel
  obtain ⟨t, htable, _, hanswers⟩ := ((hc.query_pipeline {} q (by decide)).2.1 _).mp hquery
  obtain ⟨hmissing, _⟩ | ⟨t', htable', hfault⟩ :=
    ((hc.query_pipeline {} q' (by decide)).1 _).mp hfails
  · cases htable.symm.trans hmissing
  cases htable.symm.trans htable'
  have hrows : (c.table? "t").map (·.liveRows) = some [[.text "u", .int 2], [.text "v", .int 1],
      [.text "w", .int 2], [.text "x", .int 1], [.text "z", .int 3]] := by decide +kernel
  rw [show c.table? "t" = some t from htable] at hrows
  exact ⟨c, t, q, q', _, hc, htable, Option.some.inj hrows, rfl, rfl, hquery, hanswers, rfl, hfails,
    hfault⟩

end SqlEngine
