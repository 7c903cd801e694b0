import SqlEngine.Proofs.HistoryIndependence
import SqlEngine.Proofs.IndexedAnswers
import SqlEngine.Proofs.InsertEffects
import SqlEngine.Proofs.StatementTexts

/-!
# Places of literals

A literal stands in a tuple that is inserted, in an assignment, or in a condition. What a statement
does depends on the literal in one of its places only through the column that the literal is for:
literals that the column takes alike make the same statement, and with one that it does not take the
statement fails.
-/

namespace SqlEngine

/-- The statement that a filter stands in. -/
inductive FilterPlace
  | select (projection : Projection) (table : String) (orderBy : Option String) (limit : Option Nat)
  | update (table : String) (assignments : List (String × Value))
  | delete (table : String)

/-- A statement with one literal left out. -/
inductive LiteralPlace
  | cell (table : String) (columns : Option (List String)) (before : List (List Value))
      (left right : List Value) (after : List (List Value))
  | assignment (table : String) (before : List (String × Value)) (column : String)
      (after : List (String × Value)) (filter : Option Filter)
  | condition (place : FilterPlace) (connective : Connective) (before : List Condition)
      (column : String) (comparison : Comparison) (after : List Condition)

namespace FilterPlace

def fill (place : FilterPlace) (filter : Filter) : Statement :=
  match place with
  | .select projection table orderBy limit => .select ⟨projection, table, filter, orderBy, limit⟩
  | .update table assignments              => .update ⟨table, assignments, filter⟩
  | .delete table                          => .delete ⟨table, filter⟩

def table : FilterPlace → String
  | .select _ table _ _ => table
  | .update table _     => table
  | .delete table       => table

/-- The lexemes before the filter. -/
def before : FilterPlace → List Lexeme
  | .select projection table _ _ =>
    [.keyword .SELECT] ++ projection.lexemes ++ [.keyword .FROM, .identifier table]
  | .update table assignments    =>
    [.keyword .UPDATE, .identifier table, .keyword .SET] ++ commaList assignmentLexemes assignments
  | .delete table                => [.keyword .DELETE, .keyword .FROM, .identifier table]

/-- The lexemes after the filter. -/
def after : FilterPlace → List Lexeme
  | .select _ _ orderBy limit => clause orderByLexemes orderBy ++ clause limitLexemes limit
  | .update _ _               => []
  | .delete _                 => []

private theorem lexemes_fill (place : FilterPlace) (filter : Filter) :
    (place.fill filter).lexemes = place.before ++ filter.lexemes ++ place.after := by
  cases place <;>
    simp [fill, before, after, Statement.lexemes, Select.lexemes, Update.lexemes, Delete.lexemes,
      clause]

end FilterPlace

section Separated

variable {α : Type} (separator : Lexeme) (lexemes : α → List Lexeme)

/-- Items, each with the separator after it. -/
def ended (items : List α) : List Lexeme := items.flatMap fun a => lexemes a ++ [separator]

/-- Items, each with the separator before it. -/
def led (items : List α) : List Lexeme := items.flatMap fun a => separator :: lexemes a

private theorem separated_split (before : List α) (a : α) (after : List α) :
    separated separator lexemes (before ++ a :: after) =
      ended separator lexemes before ++ lexemes a ++ led separator lexemes after := by
  cases before with
  | nil => rfl
  | cons first before =>
    rw [List.cons_append, separated, List.flatMap_append, List.flatMap_cons, ended, led]
    induction before generalizing first with
    | nil => simp
    | cons next before ih => simpa using congrArg (lexemes first ++ separator :: ·) (ih next)

private theorem getLast?_ended (items : List α) (prior : List Lexeme) :
    (prior ++ ended separator lexemes items).getLast? =
      if items = [] then prior.getLast? else some separator := by
  rcases List.eq_nil_or_concat items with rfl | ⟨items, last, rfl⟩
  · simp [ended]
  · simp [ended]

end Separated

namespace LiteralPlace

def fill (p : LiteralPlace) (v : Value) : Statement :=
  match p with
  | .cell table columns before left right after =>
    .insert ⟨table, columns, before ++ (left ++ v :: right) :: after⟩
  | .assignment table before column after filter =>
    .update ⟨table, before ++ (column, v) :: after, filter⟩
  | .condition place connective before column comparison after =>
    place.fill ⟨connective, before ++ ⟨column, comparison, v⟩ :: after⟩

def table : LiteralPlace → String
  | .cell table _ _ _ _ _        => table
  | .assignment table _ _ _ _    => table
  | .condition place _ _ _ _ _   => place.table

/-- The name of the column that the literal is for, if there is one. -/
def column? (p : LiteralPlace) (t : Table) : Option String :=
  match p with
  | .cell _ columns _ left _ _   => (t.namesFor columns)[left.length]?
  | .assignment _ _ column _ _   => some column
  | .condition _ _ _ column _ _  => some column

/-- What holds of the table and of the column's name, if there is a table and the literal is for a
column. -/
def AtColumn (p : LiteralPlace) (c : Catalog) (P : Table → String → Prop) : Prop :=
  ∀ t, c.table? p.table = some t → ∀ column, p.column? t = some column → P t column

/-- The statement can be written, whatever the literal is. -/
def WellFormed (p : LiteralPlace) : Prop := ∀ v, (p.fill v).WellFormed

/-! ### Lexemes -/

/-- The lexemes before the literal. -/
def before : LiteralPlace → List Lexeme
  | .cell table columns before left _ _ =>
    [.keyword .INSERT, .keyword .INTO, .identifier table]
      ++ clause (fun names => inParens (nameList names)) columns
      ++ [.keyword .VALUES]
      ++ ended (.symbol .comma) (fun tuple => inParens (literalList tuple)) before
      ++ [.symbol .leftParen]
      ++ ended (.symbol .comma) (fun v => [v.lexeme]) left
  | .assignment table before column _ _ =>
    [.keyword .UPDATE, .identifier table, .keyword .SET]
      ++ ended (.symbol .comma) assignmentLexemes before
      ++ [.identifier column, .comparison .eq]
  | .condition place connective before column comparison _ =>
    place.before ++ [.keyword .WHERE]
      ++ ended connective.lexeme Condition.lexemes before
      ++ [.identifier column, .comparison comparison]

/-- The lexemes after the literal. -/
def after : LiteralPlace → List Lexeme
  | .cell _ _ _ _ right after =>
    led (.symbol .comma) (fun v => [v.lexeme]) right
      ++ [.symbol .rightParen]
      ++ led (.symbol .comma) (fun tuple => inParens (literalList tuple)) after
  | .assignment _ _ _ after filter =>
    led (.symbol .comma) assignmentLexemes after ++ clause Filter.lexemes filter
  | .condition place connective _ _ _ after =>
    led connective.lexeme Condition.lexemes after ++ place.after

theorem lexemes_fill (p : LiteralPlace) (v : Value) :
    (p.fill v).lexemes = p.before ++ v.lexeme :: p.after := by
  cases p with
  | cell table columns before left right after =>
    simp [fill, Statement.lexemes, Insert.lexemes, commaList, separated_split, inParens,
      literalList, LiteralPlace.before, LiteralPlace.after]
  | assignment table before column after filter =>
    simp [fill, Statement.lexemes, Update.lexemes, commaList, separated_split, assignmentLexemes,
      LiteralPlace.before, LiteralPlace.after]
  | condition place connective before column comparison after =>
    simp [fill, FilterPlace.lexemes_fill, Filter.lexemes, separated_split, Condition.lexemes,
      LiteralPlace.before, LiteralPlace.after]

/-- Before a literal stands a parenthesis, a comma or a comparison. -/
theorem last_before {p : LiteralPlace} {l : Lexeme} (h : l ∈ p.before.getLast?) :
    (∃ s, l = .symbol s) ∨ ∃ c, l = .comparison c := by
  cases p with
  | cell table columns before left right after =>
    rw [LiteralPlace.before, getLast?_ended] at h
    split at h
    · rw [List.getLast?_append] at h
      exact .inl ⟨_, (Option.some.inj h).symm⟩
    · exact .inl ⟨_, (Option.some.inj h).symm⟩
  | assignment table before column after filter =>
    rw [LiteralPlace.before, List.getLast?_append] at h
    exact .inr ⟨_, (Option.some.inj h).symm⟩
  | condition place connective before column comparison after =>
    rw [LiteralPlace.before, List.getLast?_append] at h
    exact .inr ⟨_, (Option.some.inj h).symm⟩

/-- Behind a literal stands a symbol or a keyword, if anything. -/
theorem head_after {p : LiteralPlace} {l : Lexeme} (h : l ∈ p.after.head?) :
    (∃ s, l = .symbol s) ∨ ∃ k, l = .keyword k := by
  cases p with
  | cell table columns before left right after =>
    cases right <;> exact .inl ⟨_, (Option.some.inj h).symm⟩
  | assignment table before column after filter =>
    cases after with
    | cons next after => exact .inl ⟨_, (Option.some.inj h).symm⟩
    | nil =>
      cases filter with
      | none => cases h
      | some f => exact .inr ⟨.WHERE, (Option.some.inj h).symm⟩
  | condition place connective before column comparison after =>
    cases after with
    | cons next after => cases connective <;> exact .inr ⟨_, (Option.some.inj h).symm⟩
    | nil =>
      cases place with
      | select projection table orderBy limit =>
        rcases orderBy with _ | by_ <;> rcases limit with _ | n
        · cases h
        all_goals exact .inr ⟨_, (Option.some.inj h).symm⟩
      | update table assignments => cases h
      | delete table => cases h

end LiteralPlace

/-! ### What the literal does -/

private theorem ColumnDecl.fit_congr {decl : ColumnDecl} {v w : Value}
    (h : decl.convert v = decl.convert w) (enforce : Bool) :
    decl.fit v enforce = decl.fit w enforce := by
  rw [fit, fit, h]

/-- A loop comes to the item in the middle of a list, or fails before. -/
private theorem mapM_middle_congr {α β : Type} {f : α → Except Error β} {a b : α}
    (before after : List α) (h : f a = f b) :
    (before ++ a :: after).mapM f = (before ++ b :: after).mapM f := by
  rw [List.mapM_append, List.mapM_append, List.mapM_cons, List.mapM_cons, h]

namespace Table

variable {t : Table} {column : String} {v w : Value}

/-- The columns of the name take the two literals alike. -/
def TakesAlike (t : Table) (column : String) (v w : Value) : Prop :=
  ∀ decl ∈ t.decls, decl.name = column → decl.convert v = decl.convert w

/-- No column of the name takes the literal. -/
def Refuses (t : Table) (column : String) (v : Value) : Prop :=
  ∀ decl ∈ t.decls, decl.name = column → ∀ w, decl.convert v ≠ .ok w

private theorem decl_at_position {position : Nat} {decl : ColumnDecl}
    (hposition : t.positionOf column = .ok position) (hdecl : t.decls[position]? = some decl) :
    decl ∈ t.decls ∧ decl.name = column := by
  obtain ⟨decl', hdecl', hname⟩ := decl_of_positionOf hposition
  cases hdecl.symm.trans hdecl'
  exact ⟨List.mem_of_getElem? hdecl, hname⟩

private theorem TakesAlike.satisfying (h : t.TakesAlike column v w) (c : Comparison)
    (useIndex : Bool) :
    t.satisfying ⟨column, c, v⟩ useIndex = t.satisfying ⟨column, c, w⟩ useIndex := by
  refine bind_congr_ok fun position hposition => bind_congr_ok fun decl hdecl => ?_
  obtain ⟨hmem, hname⟩ := decl_at_position hposition (itemAt_eq_ok_iff.mp hdecl)
  rw [h decl hmem hname]

private theorem Refuses.satisfying (h : t.Refuses column v) (c : Comparison) (useIndex : Bool)
    (ids : RowIds) : t.satisfying ⟨column, c, v⟩ useIndex ≠ .ok ids := by
  intro hids
  obtain ⟨position, hposition, hids⟩ := bind_eq_ok_iff.mp hids
  obtain ⟨decl, hdecl, hids⟩ := bind_eq_ok_iff.mp hids
  obtain ⟨w, hw, _⟩ := bind_eq_ok_iff.mp hids
  obtain ⟨hmem, hname⟩ := decl_at_position hposition (itemAt_eq_ok_iff.mp hdecl)
  exact h decl hmem hname w hw

/-- The assignment of a literal as `assign` resolves it. -/
def resolveAssignment (t : Table) (enforce : Bool) (assignment : String × Value) :
    Except Error (Nat × Value) := do
  let position ← t.positionOf assignment.1
  return (position, ← t.fit position assignment.2 enforce)

private theorem TakesAlike.resolveAssignment (h : t.TakesAlike column v w) (enforce : Bool) :
    t.resolveAssignment enforce (column, v) = t.resolveAssignment enforce (column, w) := by
  refine bind_congr_ok fun position hposition => ?_
  obtain ⟨decl, hdecl, hname⟩ := decl_of_positionOf hposition
  have hconvert := h decl (List.mem_of_getElem? hdecl) hname
  rw [fit_of_decl hdecl, fit_of_decl hdecl, ColumnDecl.fit_congr hconvert]

private theorem Refuses.resolveAssignment (h : t.Refuses column v) (enforce : Bool)
    (r : Nat × Value) : t.resolveAssignment enforce (column, v) ≠ .ok r := by
  intro hr
  obtain ⟨position, hposition, hr⟩ := bind_eq_ok_iff.mp hr
  obtain ⟨w, hw, _⟩ := bind_eq_ok_iff.mp hr
  obtain ⟨decl, hdecl, hname⟩ := decl_of_positionOf hposition
  rw [fit_of_decl hdecl] at hw
  obtain ⟨u, hu, _⟩ := bind_eq_ok_iff.mp hw
  exact h decl (List.mem_of_getElem? hdecl) hname u hu

private theorem TakesAlike.resolve (h : t.TakesAlike column v w) (connective : Connective)
    (before after : List Condition) (c : Comparison) (useIndexes : Bool) :
    t.resolve (some ⟨connective, before ++ ⟨column, c, v⟩ :: after⟩) useIndexes =
      t.resolve (some ⟨connective, before ++ ⟨column, c, w⟩ :: after⟩) useIndexes := by
  rw [Table.resolve, Table.resolve, mapM_middle_congr before after (h.satisfying c useIndexes)]

private theorem Refuses.resolve (h : t.Refuses column v) {connective : Connective}
    {before after : List Condition} {c : Comparison} {useIndexes : Bool} {ids : RowIds} :
    t.resolve (some ⟨connective, before ++ ⟨column, c, v⟩ :: after⟩) useIndexes ≠ .ok ids := by
  intro hids
  obtain ⟨sets, hsets, _⟩ := bind_eq_ok_iff.mp hids
  obtain ⟨ids, hids⟩ := exists_mapM_eq_ok_iff.mp ⟨sets, hsets⟩ ⟨column, c, v⟩ (by simp)
  exact h.satisfying c useIndexes ids hids

/-- A literal of a tuple that is accepted is one that the column named at its place takes. -/
private theorem Accepts.exists_convert {columns : Option (List String)} {tuples : List (List Value)}
    {enforce : Bool} (h : t.Accepts columns tuples enforce) {left right : List Value}
    (htuple : left ++ v :: right ∈ tuples) :
    ∃ decl ∈ t.decls, (t.namesFor columns)[left.length]? = some decl.name ∧
      ∃ w, decl.convert v = .ok w := by
  have hnames := namesFor_perm_iff.mpr h.names
  have hplace : left.length < (t.namesFor columns).length := by
    have hwidth := h.widths _ htuple
    rw [List.length_append, List.length_cons, width] at hwidth
    rw [hnames.length_eq, columnNames, List.length_map]
    omega
  obtain ⟨decl, hdecl, hsame⟩ := List.mem_map.mp (hnames.subset (List.getElem_mem hplace))
  have hname : (t.namesFor columns)[left.length]? = some decl.name :=
    hsame ▸ List.getElem?_eq_getElem hplace
  have hpair : (decl.name, v) ∈ (t.namesFor columns).zip (left ++ v :: right) :=
    List.mem_iff_getElem?.mpr ⟨left.length, List.getElem?_zip_eq_some.mpr ⟨hname, by simp⟩⟩
  obtain ⟨w, hw, -⟩ := h.values _ htuple decl hdecl v hpair
  exact ⟨decl, hdecl, hname, w, ColumnDecl.convert_eq_ok_iff.mpr hw⟩

/-- Only the column that is named at its place takes a literal from there. -/
private theorem row_set_congr {binding : Binding} {names : List String} {tuple : List Value}
    {i : Nat}
    (hfollows : binding.Follows t.decls names) (enforce : Bool)
    (h : ∀ decl ∈ t.decls, names[i]? = some decl.name →
      ∀ v ∈ tuple[i]?, decl.convert v = decl.convert w) :
    binding.row t enforce tuple = binding.row t enforce (tuple.set i w) := by
  have hlength : (tuple.set i w).length = tuple.length := List.length_set
  by_cases harity : tuple.length = binding.arity
  · rw [Binding.row, Binding.row, if_pos harity, if_pos (hlength.trans harity)]
    apply mapM_congr
    rintro ⟨place, position⟩ hmem
    obtain ⟨hposition, hat⟩ := List.mem_zipIdx' hmem
    have hdecl : position < t.decls.length := by rwa [hfollows.places.length_eq]
    have hname : names[place]? = some t.decls[position].name := by
      rw [hat]
      exact hfollows.places.get hdecl hposition
    have hplace : place < tuple.length := by
      rw [harity, hfollows.arity_eq]
      exact (List.getElem?_eq_some_iff.mp hname).1
    dsimp only
    rw [fit_of_decl (List.getElem?_eq_getElem hdecl), fit_of_decl (List.getElem?_eq_getElem hdecl),
      getElem!_pos tuple _ hplace, getElem!_pos (tuple.set i w) _ (hlength ▸ hplace),
      List.getElem_set]
    split
    · rename_i hsame
      exact ColumnDecl.fit_congr (h _ (List.getElem_mem hdecl) (hsame ▸ hname) _
        (hsame ▸ List.getElem?_eq_getElem hplace)) enforce
    · rfl
  · rw [Binding.row, Binding.row, if_neg harity, if_neg (hlength ▸ harity), hlength]

end Table

namespace LiteralPlace

open Table

variable {p : LiteralPlace} {t : Table} {s : RowStore} {c : Catalog} {v w : Value}
  {settings : Settings}

/-- Literals that the column takes alike make the same of the table. -/
private theorem onTable_fill_congr (ht : t.Holds s)
    (h : ∀ column, p.column? t = some column → t.TakesAlike column v w) :
    ((p.fill v).onTable settings).outcome t = ((p.fill w).onTable settings).outcome t := by
  cases p with
  | cell table columns before left right after =>
    apply Action.outcome_bind_congr
    apply Action.outcome_observe_bind_congr
    refine bind_congr_ok fun binding hbinding => mapM_middle_congr before after ?_
    have hset : left ++ w :: right = (left ++ v :: right).set left.length w := by simp
    rw [hset]
    refine row_set_congr (follows_of_binding ht.columnNames_nodup hbinding) _ ?_
    intro decl hdecl hname u hu
    obtain rfl : v = u := by simpa using hu
    exact h decl.name hname decl hdecl rfl
  | assignment table before column after filter =>
    have hassign : ∀ ids, (assign (before ++ (column, v) :: after) ids
          settings.enforceLength).outcome t =
        (assign (before ++ (column, w) :: after) ids settings.enforceLength).outcome t := fun ids =>
      Action.outcome_observe_bind_congr _
        (mapM_middle_congr before after ((h column rfl).resolveAssignment _))
    simp only [fill, Statement.onTable, Action.outcome_bind (Action.observe _),
      Action.outcome_observe]
    cases t.resolve filter settings.useIndexes with
    | error e => rfl
    | ok ids => exact Action.outcome_bind_congr _ (hassign ids)
  | condition place connective before column comparison after =>
    have hresolve := (h column rfl).resolve connective before after comparison settings.useIndexes
    cases place with
    | select projection table orderBy limit =>
      apply Action.outcome_observe_bind_congr
      rw [query, query]
      dsimp only
      rw [hresolve]
    | update table assignments => exact Action.outcome_observe_bind_congr _ hresolve
    | delete table => exact Action.outcome_observe_bind_congr _ hresolve

/-- With a literal that the column does not take, the statement fails. -/
private theorem not_succeeds_onTable_fill (ht : t.Holds s)
    (h : ∀ column, p.column? t = some column → t.Refuses column v) :
    ¬ ((p.fill v).onTable settings).Succeeds t := by
  rintro ⟨answer, t', hrun⟩
  cases p with
  | cell table columns before left right after =>
    obtain ⟨ids, t', hinsert, -⟩ := Action.outcome_bind_eq_ok_iff.mp hrun
    have haccepts := ht.succeeds_insertTuples_iff.mp ⟨ids, t', hinsert⟩
    have htuple : left ++ v :: right ∈ before ++ (left ++ v :: right) :: after := by simp
    obtain ⟨decl, hdecl, hname, u, hu⟩ := haccepts.exists_convert htuple
    exact h decl.name hname decl hdecl rfl u hu
  | assignment table before column after filter =>
    obtain ⟨ids, -, hrun⟩ := Action.outcome_observe_bind_eq_ok_iff.mp hrun
    obtain ⟨count, t', hassign, -⟩ := Action.outcome_bind_eq_ok_iff.mp hrun
    obtain ⟨resolved, hresolved, -⟩ := Action.outcome_observe_bind_eq_ok_iff.mp hassign
    obtain ⟨r, hr⟩ := exists_mapM_eq_ok_iff.mp ⟨resolved, hresolved⟩ (column, v) (by simp)
    exact (h column rfl).resolveAssignment _ r hr
  | condition place connective before column comparison after =>
    cases place with
    | select projection table orderBy limit =>
      obtain ⟨r, hquery, -⟩ := Action.outcome_observe_bind_eq_ok_iff.mp hrun
      obtain ⟨columns, -, hquery⟩ := bind_eq_ok_iff.mp hquery
      obtain ⟨positions, -, hquery⟩ := bind_eq_ok_iff.mp hquery
      obtain ⟨key, -, hquery⟩ := bind_eq_ok_iff.mp hquery
      obtain ⟨ids, hids, -⟩ := bind_eq_ok_iff.mp hquery
      exact (h column rfl).resolve hids
    | update table assignments =>
      obtain ⟨ids, hids, -⟩ := Action.outcome_observe_bind_eq_ok_iff.mp hrun
      exact (h column rfl).resolve hids
    | delete table =>
      obtain ⟨ids, hids, -⟩ := Action.outcome_observe_bind_eq_ok_iff.mp hrun
      exact (h column rfl).resolve hids

/-! ### Running the statement -/

private theorem table_fill (p : LiteralPlace) (v : Value) : (p.fill v).table = p.table := by
  cases p with
  | condition place connective before column comparison after => cases place <;> rfl
  | _ => rfl

private theorem outcome_run_of_missing (h : c.table? p.table = none) :
    ((p.fill v).run settings).outcome c = (.error (.unknownTable p.table), c) := by
  have hmissing : c.table p.table = .error (.unknownTable p.table) := by rw [Catalog.table, h]
  have honTable : ∀ {α : Type} (act : Action Table α),
      (Catalog.onTable p.table act).outcome c = (.error (.unknownTable p.table), c) := by
    intro α act
    rw [Catalog.onTable, Action.outcome_within, hmissing]
  cases p with
  | cell table columns before left right after =>
    have hinsert := honTable
      (insertTuples columns (before ++ (left ++ v :: right) :: after) settings.enforceLength)
    rw [LiteralPlace.table] at hinsert
    rw [fill, Statement.run, Action.outcome_bind, hinsert]
    rfl
  | assignment table before column after filter => exact honTable _
  | condition place connective before column comparison after =>
    cases place with
    | select projection table orderBy limit =>
      rw [fill, FilterPlace.fill, Statement.run, Action.outcome_bind, Action.outcome_observe,
        Catalog.query, show c.table table = _ from hmissing]
      rfl
    | update table assignments => exact honTable _
    | delete table => exact honTable _

theorem outcome_run_fill_congr (hc : c.Sound)
    (h : p.AtColumn c fun t column => t.TakesAlike column v w) :
    ((p.fill v).run settings).outcome c = ((p.fill w).run settings).outcome c := by
  cases ht : c.table? p.table with
  | none => rw [outcome_run_of_missing ht, outcome_run_of_missing ht]
  | some t =>
    obtain ⟨s, -, hs⟩ := hc p.table t ht
    rw [Statement.outcome_run_of_table (by rwa [table_fill]),
      Statement.outcome_run_of_table (by rwa [table_fill]), onTable_fill_congr hs (h t ht),
      table_fill, table_fill]

/-- A statement with a literal that its column does not take changes nothing. -/
theorem outcome_run_fill_of_refuses (hc : c.Sound)
    (h : p.AtColumn c fun t column => t.Refuses column v) :
    ∃ e, ((p.fill v).run settings).outcome c = (.error e, c) := by
  obtain hfails | ⟨answer, c', hrun, -⟩ := (p.fill v).transacts_run hc settings
  · exact hfails
  · cases ht : c.table? p.table with
    | none => exact ⟨_, outcome_run_of_missing ht⟩
    | some t =>
      obtain ⟨s, -, hs⟩ := hc p.table t ht
      rw [Statement.outcome_run_of_table (by rwa [table_fill])] at hrun
      exact absurd ⟨answer, _, Prod.ext (Prod.ext_iff.mp hrun).1 rfl⟩
        (not_succeeds_onTable_fill hs (h t ht))

end LiteralPlace

end SqlEngine
