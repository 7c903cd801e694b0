import SqlEngine.Proofs.ActionRuns
import SqlEngine.Proofs.ParserReads

/-!
# What the grammar accepts

Rule by rule, what a parser answers with is written by exactly the tokens that it passes. A rule
with an optional end is read to the full, so what may come after it is said beside it. Together the
rules say which token lists are statements: the ones that write a well-formed statement, with a
semicolon after it or without.
-/

namespace SqlEngine

namespace Parser

open TokenStream

variable {s s' : TokenStream}

/-! ### Words and literals -/

theorem reads_identifier {name : String} :
    identifier.Reads s name s' ↔ s.Passes [.identifier name] s' := by
  refine reads_take_of_lexeme ?_ rfl
  intro l name
  cases l <;> simp [eq_comm]

theorem literalOf_eq_some_iff (l : Lexeme) (v : Value) : literalOf l = some v ↔ l = v.lexeme := by
  constructor
  · intro h
    cases l with
    | number n =>
      cases h
      rfl
    | text s =>
      cases h
      rfl
    | keyword k =>
      cases k with
      | TRUE =>
        cases h
        rfl
      | FALSE =>
        cases h
        rfl
      | _ => cases h
    | _ => cases h
  · rintro rfl
    rcases v with n | s | _ | _ <;> rfl

private theorem reads_literal {v : Value} : literal.Reads s v s' ↔ s.Passes [v.lexeme] s' :=
  reads_take_of_lexeme literalOf_eq_some_iff rfl

private theorem reads_comparison {c : Comparison} :
    comparison.Reads s c s' ↔ s.Passes [.comparison c] s' := by
  refine reads_take_of_lexeme ?_ rfl
  intro l c
  cases l <;> simp [eq_comm]

theorem numberFrom_eq_some_iff {least n : Nat} {l : Lexeme} :
    numberFrom least l = some n ↔ IsLiteralFrom least n ∧ l = numberLexeme n := by
  constructor
  · intro h
    unfold numberFrom at h
    split at h
    · rename_i m
      split at h
      · rename_i hle
        obtain rfl := Option.some.inj h
        have hm : (m.toInt.toNat : Int) = m.toInt := Int.toNat_of_nonneg (by omega)
        have hlt := m.toInt_lt
        refine ⟨⟨by omega, by omega⟩, congrArg Lexeme.number (Int64.toInt_inj.mp ?_)⟩
        rw [Int64.toInt_ofNat_of_lt (by omega), hm]
      · cases h
    · cases h
  · intro hwritten
    obtain ⟨⟨hle, hlt⟩, rfl⟩ := hwritten
    have hn : (Int64.ofNat n).toInt = n := Int64.toInt_ofNat_of_lt hlt
    simp only [numberLexeme, numberFrom, hn]
    simp [hle]

private theorem reads_numberFrom {expected : Expectation} {least n : Nat} :
    (take expected (numberFrom least)).Reads s n s' ↔
      IsLiteralFrom least n ∧ s.Passes [numberLexeme n] s' := by
  rw [reads_take rfl]
  simp only [numberFrom_eq_some_iff, and_assoc]
  constructor
  · intro hread
    obtain ⟨_, hn, rfl, hpass⟩ := hread
    exact ⟨hn, hpass⟩
  · intro hwritten
    obtain ⟨hn, hpass⟩ := hwritten
    exact ⟨_, hn, rfl, hpass⟩

private theorem reads_nameList {names : List String} :
    (commaSeparated identifier).Reads s names s' ↔
      names ≠ [] ∧ s.Passes (nameList names) s' ∧ s'.current.lexeme ≠ .symbol .comma := by
  have hname : ∀ (s : TokenStream) (name : String) (s' : TokenStream),
      identifier.Reads s name s' ↔ True ∧ s.Passes [.identifier name] s' := by
    intro s name s'
    rw [reads_identifier, true_and]
  rw [reads_commaSeparated hname]
  simp [nameList]

private theorem reads_literalList {values : List Value} :
    (commaSeparated literal).Reads s values s' ↔
      values ≠ [] ∧ s.Passes (literalList values) s' ∧ s'.current.lexeme ≠ .symbol .comma := by
  have hliteral : ∀ (s : TokenStream) (v : Value) (s' : TokenStream),
      literal.Reads s v s' ↔ True ∧ s.Passes [v.lexeme] s' := by
    intro s v s'
    rw [reads_literal, true_and]
  rw [reads_commaSeparated hliteral]
  simp [literalList]

private theorem kindOf_endOfInput : kindOf .endOfInput = none := rfl

private theorem reads_columnType {type : DataType} :
    columnType.Reads s type s' ↔ type.WellFormed ∧ s.Passes type.lexemes s' := by
  have hlimit : ∀ {s s' : TokenStream} {n : Nat},
      (parenthesized (take .varcharLimit (numberFrom 1))).Reads s n s' ↔
        IsLiteralFrom 1 n ∧ s.Passes (inParens [numberLexeme n]) s' :=
    reads_parenthesized fun _ _ _ _ => reads_numberFrom
  rw [columnType, reads_bind]
  simp only [reads_take kindOf_endOfInput]
  constructor
  · intro hread
    obtain ⟨kind, s₁, ⟨l, hl, hpass⟩, hrest⟩ := hread
    unfold kindOf at hl
    split at hl <;> cases hl
    · obtain ⟨rfl, rfl⟩ := reads_pure.mp hrest
      exact ⟨trivial, hpass⟩
    · obtain ⟨n, s₂, hn, hpure⟩ := reads_bind.mp hrest
      obtain ⟨rfl, rfl⟩ := reads_pure.mp hpure
      obtain ⟨hwell, hpass'⟩ := hlimit.mp hn
      exact ⟨hwell, hpass.append hpass'⟩
    · obtain ⟨rfl, rfl⟩ := reads_pure.mp hrest
      exact ⟨trivial, hpass⟩
  · intro hwritten
    obtain ⟨hwell, hpass⟩ := hwritten
    cases type with
    | int => exact ⟨.int, s', ⟨_, rfl, hpass⟩, reads_pure.mpr ⟨rfl, rfl⟩⟩
    | bool => exact ⟨.bool, s', ⟨_, rfl, hpass⟩, reads_pure.mpr ⟨rfl, rfl⟩⟩
    | varchar n =>
      obtain ⟨s₁, hword, hrest⟩ := passes_append.mp hpass
      refine ⟨.text, s₁, ⟨_, rfl, hword⟩, reads_bind.mpr ⟨n, s', ?_, reads_pure.mpr ⟨rfl, rfl⟩⟩⟩
      exact hlimit.mpr ⟨hwell, hrest⟩

private theorem reads_columnDecl {decl : ColumnDecl} :
    columnDecl.Reads s decl s' ↔ decl.type.WellFormed ∧ s.Passes decl.lexemes s' := by
  simp only [columnDecl, reads_bind, reads_identifier, reads_columnType, reads_pure]
  rw [ColumnDecl.lexemes, passes_append]
  constructor
  · intro hread
    obtain ⟨name, s₁, hname, type, s₂, ⟨hwell, htype⟩, rfl, rfl⟩ := hread
    exact ⟨hwell, s₁, hname, htype⟩
  · intro hwritten
    obtain ⟨hwell, s₁, hname, htype⟩ := hwritten
    exact ⟨decl.name, s₁, hname, decl.type, s', ⟨hwell, htype⟩, rfl, rfl⟩

theorem reads_condition {c : Condition} : condition.Reads s c s' ↔ s.Passes c.lexemes s' := by
  simp only [condition, reads_bind, reads_identifier, reads_comparison, reads_literal, reads_pure]
  simp only [Condition.lexemes, passes_cons_cons]
  constructor
  · intro hread
    obtain ⟨column, s₁, hcolumn, comparison, s₂, hcomparison, v, s₃, hv, rfl, rfl⟩ := hread
    exact ⟨s₁, hcolumn, s₂, hcomparison, hv⟩
  · intro hwritten
    obtain ⟨s₁, hcolumn, s₂, hcomparison, hv⟩ := hwritten
    exact ⟨c.column, s₁, hcolumn, c.comparison, s₂, hcomparison, c.literal, s', hv, rfl, rfl⟩

/-! ### Optional clauses -/

/-- What may come after a statement. -/
def afterStatement : List Lexeme := [.symbol .semicolon, .endOfInput]

def afterOrderBy : List Lexeme := .keyword .LIMIT :: afterStatement

def afterFilter : List Lexeme := .keyword .ORDER :: afterOrderBy

/-- A clause begins with its word, and if it is missing something else comes next. -/
private theorem current_mem_of_clause {α : Type} {lexemes : α → List Lexeme} {o : Option α}
    {word : Lexeme} {next : List Lexeme} (h : s.Passes (clause lexemes o) s')
    (hword : ∀ a, (lexemes a).headD s'.current.lexeme = word) (hnext : s'.current.lexeme ∈ next) :
    s.current.lexeme ∈ word :: next := by
  cases o with
  | none =>
    obtain rfl := passes_nil.mp h
    exact List.mem_cons_of_mem word hnext
  | some a =>
    rw [h.current_lexeme]
    exact List.mem_cons.mpr (.inl (hword a))

private theorem reads_limit {n : Option Nat} (hnext : s'.current.lexeme ∈ afterStatement) :
    limit.Reads s n s' ↔ (∀ m ∈ n, IsLiteralFrom 0 m) ∧ s.Passes (clause limitLexemes n) s' := by
  have hnumber : ∀ {s s' : TokenStream} {m : Nat},
      (take .limit (numberFrom 0)).Reads s m s' ↔
        IsLiteralFrom 0 m ∧ s.Passes [numberLexeme m] s' := reads_numberFrom
  rw [limit, reads_accept_bind (by simp)]
  simp only [if_true, Bool.false_eq_true, if_false, reads_bind, reads_pure, hnumber]
  constructor
  · intro hread
    rcases hread with ⟨s₁, hword, m, s₂, ⟨hm, hpass⟩, rfl, rfl⟩ | ⟨_, rfl, rfl⟩
    · exact ⟨fun _ hmem => Option.mem_some.mp hmem ▸ hm, hword.append hpass⟩
    · exact ⟨nofun, passes_nil.mpr rfl⟩
  · intro hwritten
    obtain ⟨hm, hpass⟩ := hwritten
    cases n with
    | none =>
      obtain rfl := passes_nil.mp hpass
      refine .inr ⟨fun hword => ?_, rfl, rfl⟩
      simp [afterStatement, hword] at hnext
    | some m =>
      obtain ⟨s₁, hword, hrest⟩ := passes_cons_cons.mp hpass
      exact .inl ⟨s₁, hword, m, s', ⟨hm m rfl, hrest⟩, rfl, rfl⟩

private theorem reads_orderBy {column : Option String} (hnext : s'.current.lexeme ∈ afterOrderBy) :
    orderBy.Reads s column s' ↔ s.Passes (clause orderByLexemes column) s' := by
  rw [orderBy, reads_accept_bind (by simp)]
  simp only [if_true, Bool.false_eq_true, if_false, reads_pure]
  simp only [reads_expect_bind (l := .keyword .BY) (by simp), reads_bind, reads_identifier,
    reads_pure]
  constructor
  · intro hread
    rcases hread with ⟨s₁, horder, s₂, hby, name, s₃, hname, rfl, rfl⟩ | ⟨_, rfl, rfl⟩
    · exact horder.append (hby.append hname)
    · exact passes_nil.mpr rfl
  · intro hpass
    cases column with
    | none =>
      obtain rfl := passes_nil.mp hpass
      refine .inr ⟨fun hword => ?_, rfl, rfl⟩
      simp [afterOrderBy, afterStatement, hword] at hnext
    | some name =>
      obtain ⟨s₁, horder, hrest⟩ := passes_cons_cons.mp hpass
      obtain ⟨s₂, hby, hname⟩ := passes_cons_cons.mp hrest
      exact .inl ⟨s₁, horder, s₂, hby, name, s', hname, rfl, rfl⟩

theorem connectiveOf_lexeme (c : Connective) : connectiveOf c.lexeme = some c := by
  cases c <;> rfl

private theorem connectiveOf_of_mem_afterFilter {l : Lexeme} (h : l ∈ afterFilter) :
    connectiveOf l = none := by
  simp only [afterFilter, afterOrderBy, afterStatement, List.mem_cons, List.not_mem_nil,
    or_false] at h
  rcases h with rfl | rfl | rfl | rfl <;> rfl

private theorem reads_filter {f : Option Filter} (hnext : s'.current.lexeme ∈ afterFilter) :
    filter.Reads s f s' ↔ (∀ g ∈ f, g.WellFormed) ∧ s.Passes (clause Filter.lexemes f) s' := by
  have hcondition : ∀ (earlier : List Condition) (s : TokenStream) (c : Condition)
      (s' : TokenStream), condition.Reads s c s' ↔ True ∧ s.Passes c.lexemes s' := by
    intro earlier s c s'
    rw [reads_condition, true_and]
  have hnone := connectiveOf_of_mem_afterFilter hnext
  rw [filter, reads_accept_bind (by simp)]
  simp only [if_true, Bool.false_eq_true, if_false, reads_pure]
  simp only [reads_bind (p := condition), reads_condition, reads_current_bind, reads_get_bind]
  simp only [reads_bind (p := more _ _ _ _),
    reads_more (Lexeme.noConfusion : Lexeme.keyword _ ≠ .endOfInput) hcondition (Nat.le_refl _)]
  simp only [reads_current_bind]
  constructor
  · intro hread
    rcases hread with ⟨s₁, hwhere, c, s₂, hc, conditions, s₃, ⟨later, rfl, -, hlater, -⟩, hend⟩ |
      ⟨_, rfl, rfl⟩
    · split at hend
      · exact absurd hend not_reads_throw_bind
      obtain ⟨rfl, rfl⟩ := reads_pure.mp hend
      refine ⟨fun g hg => ?_, hwhere.append (hc.append hlater)⟩
      obtain rfl := Option.mem_some.mp hg
      refine ⟨List.cons_ne_nil c later, fun hsingle => ?_⟩
      -- of a single condition nothing is left to pass, so no connective came after it
      have hlater_nil : later = [] := by simpa using hsingle
      rw [hlater_nil] at hlater
      obtain rfl := passes_nil.mp hlater
      rw [hnone]
      rfl
    · exact ⟨nofun, passes_nil.mpr rfl⟩
  · intro hwritten
    obtain ⟨hwell, hpass⟩ := hwritten
    rcases f with _ | ⟨connective, conditions⟩
    · obtain rfl := passes_nil.mp hpass
      refine .inr ⟨fun hword => ?_, rfl, rfl⟩
      simp [afterFilter, afterOrderBy, afterStatement, hword] at hnext
    · obtain ⟨hne, hsingle⟩ := hwell _ rfl
      obtain ⟨c, later, rfl⟩ := List.exists_cons_of_ne_nil hne
      obtain ⟨s₁, hwhere, hrest⟩ := passes_append.mp hpass
      obtain ⟨s₂, hc, hlater⟩ := passes_append.mp hrest
      have hconnective : (connectiveOf s₂.current.lexeme).getD .and = connective := by
        cases later with
        | nil =>
          obtain rfl := passes_nil.mp hlater
          rw [hnone]
          exact (hsingle rfl).symm
        | cons c' later =>
          rw [hlater.current_lexeme]
          exact congrArg (·.getD .and) (connectiveOf_lexeme connective)
      have hstop : s'.current.lexeme ≠ connective.lexeme := by
        intro hl
        rw [hl, connectiveOf_lexeme] at hnone
        cases hnone
      refine .inl ⟨s₁, hwhere, c, s₂, hc, c :: later, s', ⟨later, rfl, ?_, ?_, ?_⟩, ?_⟩
      · exact admits_const.mpr fun _ _ => trivial
      · rw [hconnective]
        exact hlater
      · rw [hconnective]
        exact hstop
      · rw [hconnective, hnone]
        exact reads_pure.mpr ⟨rfl, rfl⟩

theorem reads_projection {projected : Projection} (hnext : s'.current.lexeme ≠ .symbol .comma) :
    projection.Reads s projected s' ↔
      projected ≠ .columns [] ∧ s.Passes projected.lexemes s' := by
  rw [projection, reads_accept_bind (by simp)]
  simp only [if_true, Bool.false_eq_true, if_false, reads_bind, reads_pure, reads_nameList]
  constructor
  · intro hread
    rcases hread with ⟨s₁, hstar, rfl, rfl⟩ | ⟨_, names, s₁, ⟨hne, hpass, _⟩, rfl, rfl⟩
    · exact ⟨nofun, hstar⟩
    · exact ⟨fun h => hne (Projection.columns.inj h), hpass⟩
  · intro hwritten
    obtain ⟨hne, hpass⟩ := hwritten
    cases projected with
    | all => exact .inl ⟨s', hpass, rfl, rfl⟩
    | columns names =>
      have hnames : names ≠ [] := fun h => hne (congrArg _ h)
      refine .inr ⟨?_, names, s', ⟨hnames, hpass, hnext⟩, rfl, rfl⟩
      obtain ⟨name, later, rfl⟩ := List.exists_cons_of_ne_nil hnames
      exact hpass.current_ne (by simp)

private theorem reads_insertColumns {columns : Option (List String)}
    (hnext : s'.current.lexeme = .keyword .VALUES) :
    insertColumns.Reads s columns s' ↔ columns ≠ some [] ∧
      s.Passes (clause (fun names => inParens (nameList names)) columns) s' := by
  rw [insertColumns, reads_accept_bind (by simp)]
  simp only [if_true, Bool.false_eq_true, if_false, reads_pure]
  simp only [reads_bind (p := commaSeparated identifier), reads_nameList, reads_closeParen_bind,
    reads_pure]
  constructor
  · intro hread
    rcases hread with ⟨s₁, hopen, names, s₂, ⟨hne, hnames, _⟩, s₃, hclose, rfl, rfl⟩ | ⟨_, rfl, rfl⟩
    · exact ⟨fun h => hne (Option.some.inj h), hopen.append (hnames.append hclose)⟩
    · exact ⟨nofun, passes_nil.mpr rfl⟩
  · intro hwritten
    obtain ⟨hne, hpass⟩ := hwritten
    cases columns with
    | none =>
      obtain rfl := passes_nil.mp hpass
      refine .inr ⟨fun hparen => ?_, rfl, rfl⟩
      rw [hparen] at hnext
      cases hnext
    | some names =>
      obtain ⟨s₂, hrest, hclose⟩ := passes_append.mp hpass
      obtain ⟨s₁, hopen, hnames⟩ := passes_append.mp hrest
      have hnonempty : names ≠ [] := fun h => hne (congrArg some h)
      exact .inl ⟨s₁, hopen, names, s₂, ⟨hnonempty, hnames, hclose.current_ne (by simp)⟩, s',
        hclose, rfl, rfl⟩

private theorem reads_tuple {tuple : List Value} :
    (parenthesized (commaSeparated literal)).Reads s tuple s' ↔
      tuple ≠ [] ∧ s.Passes (inParens (literalList tuple)) s' := by
  apply reads_parenthesized
  intro s tuple s' hparen
  rw [reads_literalList, hparen]
  simp

/-! ### Assignments -/

private theorem reads_assignment {earlier : List (String × Value)} {a : String × Value} :
    (assignment earlier).Reads s a s' ↔
      a.1 ∉ earlier.map (·.1) ∧ s.Passes (assignmentLexemes a) s' := by
  obtain ⟨column, v⟩ := a
  have hany : (earlier.any (·.1 = column)) ↔ column ∈ earlier.map (·.1) := by simp
  rw [assignment, reads_current_bind, reads_bind]
  simp only [assignmentLexemes, passes_cons_cons, reads_identifier]
  constructor
  · intro hread
    obtain ⟨name, s₁, hname, hrest⟩ := hread
    split at hrest
    · exact absurd hrest not_reads_throw_bind
    rename_i hfresh
    obtain ⟨s₂, heq, hrest⟩ := (reads_expect_bind (by simp)).mp hrest
    obtain ⟨w, s₃, hw, hpure⟩ := reads_bind.mp hrest
    obtain ⟨⟨⟩, rfl⟩ := reads_pure.mp hpure
    exact ⟨fun h => hfresh (hany.mpr h), s₁, hname, s₂, heq, reads_literal.mp hw⟩
  · intro hwritten
    obtain ⟨hfresh, s₁, hname, s₂, heq, hv⟩ := hwritten
    refine ⟨column, s₁, hname, ?_⟩
    rw [if_neg fun h => hfresh (hany.mp h), reads_expect_bind (by simp)]
    refine ⟨s₂, heq, reads_bind.mpr ⟨v, s', reads_literal.mpr hv, reads_pure.mpr ⟨rfl, rfl⟩⟩⟩

/-- Each assignment is to a column that no earlier one assigns. -/
theorem admits_assignments {earlier items : List (String × Value)} :
    Admits (fun earlier a => a.1 ∉ earlier.map (·.1)) earlier items ↔
      (items.map (·.1)).Nodup ∧ ∀ a ∈ items, a.1 ∉ earlier.map (·.1) := by
  induction items generalizing earlier with
  | nil => simp [Admits]
  | cons a items ih =>
    rw [Admits, ih, List.map_cons, List.nodup_cons, List.forall_mem_cons]
    have hsplit : ∀ b : String × Value, b.1 ∉ (earlier ++ [a]).map (·.1) ↔
        b.1 ∉ earlier.map (·.1) ∧ b.1 ≠ a.1 := by simp
    simp only [hsplit]
    have hfirst : a.1 ∉ items.map (·.1) ↔ ∀ b ∈ items, b.1 ≠ a.1 := by
      rw [List.mem_map, not_exists]
      exact forall_congr' fun _ => not_and
    rw [hfirst]
    constructor
    · intro hadmits
      obtain ⟨ha, hnodup, hitems⟩ := hadmits
      exact ⟨⟨fun b hb => (hitems b hb).2, hnodup⟩, ha, fun b hb => (hitems b hb).1⟩
    · intro hall
      obtain ⟨⟨hne, hnodup⟩, ha, hitems⟩ := hall
      exact ⟨ha, hnodup, fun b hb => ⟨hitems b hb, hne b hb⟩⟩

theorem reads_assignments {assignments : List (String × Value)} :
    (separatedBy (.symbol .comma) assignment).Reads s assignments s' ↔
      (assignments ≠ [] ∧ (assignments.map (·.1)).Nodup) ∧
        s.Passes (commaList assignmentLexemes assignments) s' ∧
        s'.current.lexeme ≠ .symbol .comma := by
  rw [reads_separatedBy (by simp) fun _ _ _ _ => reads_assignment, admits_assignments]
  simp [commaList]

/-! ### Statements -/

private theorem reads_createTable {c : CreateTable} :
    createTable.Reads s c s' ↔ c.WellFormed ∧ s.Passes c.lexemes s' := by
  simp only [createTable, reads_expect_bind (l := .keyword .CREATE) (by simp),
    reads_expect_bind (l := .keyword .TABLE) (by simp), reads_bind (p := identifier),
    reads_identifier, reads_expect_bind (l := .symbol .leftParen) (by simp),
    reads_bind (p := commaSeparated columnDecl), reads_commaSeparated fun _ _ _ => reads_columnDecl,
    reads_accept_bind (l := .symbol .rightParen) (by simp), if_true, Bool.false_eq_true, if_false,
    not_reads_fail_bind, and_false, or_false, reads_pure]
  simp only [CreateTable.lexemes, inParens, List.append_assoc, passes_append, passes_cons_cons]
  constructor
  · intro hread
    obtain ⟨s₁, hcreate, s₂, htable, name, s₃, hname, s₄, hopen, columns, s₅, ⟨⟨hne, htypes⟩,
      hcolumns, _⟩, s₆, hclose, rfl, rfl⟩ := hread
    exact ⟨⟨hne, htypes⟩, s₃, ⟨s₁, hcreate, s₂, htable, hname⟩, s₄, hopen, s₅, hcolumns, hclose⟩
  · intro hwritten
    obtain ⟨⟨hne, htypes⟩, s₃, ⟨s₁, hcreate, s₂, htable, hname⟩, s₄, hopen, s₅, hcolumns,
      hclose⟩ := hwritten
    exact ⟨s₁, hcreate, s₂, htable, c.table, s₃, hname, s₄, hopen, c.columns, s₅,
      ⟨⟨hne, htypes⟩, hcolumns, hclose.current_ne (by simp)⟩, s', hclose, rfl, rfl⟩

private theorem not_comma_of_mem_afterFilter {l : Lexeme} (h : l ∈ .keyword .WHERE :: afterFilter) :
    l ≠ .symbol .comma := by
  rintro rfl
  simp [afterFilter, afterOrderBy, afterStatement] at h

private theorem reads_insert {i : Insert} (hnext : s'.current.lexeme ∈ afterStatement) :
    insert.Reads s i s' ↔ i.WellFormed ∧ s.Passes i.lexemes s' := by
  have htuples : ∀ {s s' : TokenStream} {tuples : List (List Value)},
      (commaSeparated (parenthesized (commaSeparated literal))).Reads s tuples s' ↔
        (tuples ≠ [] ∧ ∀ tuple ∈ tuples, tuple ≠ []) ∧
          s.Passes (commaList (fun tuple => inParens (literalList tuple)) tuples) s' ∧
          s'.current.lexeme ≠ .symbol .comma :=
    reads_commaSeparated fun _ _ _ => reads_tuple
  simp only [insert, reads_expect_bind (l := .keyword .INSERT) (by simp),
    reads_expect_bind (l := .keyword .INTO) (by simp), reads_bind (p := identifier),
    reads_identifier, reads_bind (p := insertColumns),
    reads_expect_bind (l := .keyword .VALUES) (by simp),
    reads_bind (p := commaSeparated (parenthesized _)), htuples, reads_pure]
  simp only [Insert.lexemes, List.append_assoc, passes_append, passes_cons_cons]
  constructor
  · intro hread
    obtain ⟨s₁, hinsert, s₂, hinto, table, s₃, htable, columns, s₄, hcolumns, s₅, hvalues,
      tuples, s₆, ⟨⟨hne, htuple⟩, hpass, _⟩, rfl, rfl⟩ := hread
    obtain ⟨hlist, hcolumns⟩ := (reads_insertColumns hvalues.current_lexeme).mp hcolumns
    exact ⟨⟨hlist, hne, htuple⟩, s₃, ⟨s₁, hinsert, s₂, hinto, htable⟩, s₄, hcolumns, s₅, hvalues,
      hpass⟩
  · intro hwritten
    obtain ⟨⟨hlist, hne, htuple⟩, s₃, ⟨s₁, hinsert, s₂, hinto, htable⟩, s₄, hcolumns, s₅,
      hvalues, hpass⟩ := hwritten
    have hcomma : s'.current.lexeme ≠ .symbol .comma := by
      rintro h
      simp [afterStatement, h] at hnext
    have hcolumns' := (reads_insertColumns hvalues.current_lexeme).mpr ⟨hlist, hcolumns⟩
    exact ⟨s₁, hinsert, s₂, hinto, i.table, s₃, htable, i.columns, s₄, hcolumns', s₅, hvalues,
      i.tuples, s', ⟨⟨hne, htuple⟩, hpass, hcomma⟩, rfl, rfl⟩

private theorem reads_select {q : Select} (hnext : s'.current.lexeme ∈ afterStatement) :
    select.Reads s q s' ↔ q.WellFormed ∧ s.Passes q.lexemes s' := by
  simp only [select, reads_expect_bind (l := .keyword .SELECT) (by simp),
    reads_bind (p := projection), reads_expect_bind (l := .keyword .FROM) (by simp),
    reads_bind (p := identifier), reads_identifier, reads_bind (p := filter),
    reads_bind (p := orderBy), reads_bind (p := limit), reads_pure]
  simp only [Select.lexemes, List.append_assoc, passes_append, passes_cons_cons]
  have hfrom : ∀ {s₂ s₃ : TokenStream}, s₂.Passes [.keyword .FROM] s₃ →
      s₂.current.lexeme ≠ .symbol .comma := fun h => h.current_ne (by simp)
  have horder : ∀ {s₅ : TokenStream}, s₅.Passes (clause limitLexemes q.limit) s' →
      s₅.current.lexeme ∈ afterOrderBy := by
    intro s₅ h
    exact current_mem_of_clause h (fun _ => rfl) hnext
  have hfilter : ∀ {s₄ s₅ : TokenStream}, s₄.Passes (clause orderByLexemes q.orderBy) s₅ →
      s₅.current.lexeme ∈ afterOrderBy → s₄.current.lexeme ∈ afterFilter := by
    intro s₄ s₅ h hnext
    exact current_mem_of_clause h (fun _ => rfl) hnext
  constructor
  · intro hread
    obtain ⟨s₁, hselect, projected, s₂, hproject, s₃, hword, table, s₄, htable, f, s₅, hf,
      column, s₆, hcolumn, n, s₇, hn, rfl, rfl⟩ := hread
    obtain ⟨hlimit, hn⟩ := (reads_limit hnext).mp hn
    have hcolumn := (reads_orderBy (horder hn)).mp hcolumn
    obtain ⟨hwell, hf⟩ := (reads_filter (hfilter hcolumn (horder hn))).mp hf
    obtain ⟨hne, hproject⟩ := (reads_projection (hfrom hword)).mp hproject
    exact ⟨⟨hne, hwell, hlimit⟩, s₁, hselect, s₂, hproject, s₄, ⟨s₃, hword, htable⟩, s₅, hf, s₆,
      hcolumn, hn⟩
  · intro hwritten
    obtain ⟨⟨hne, hwell, hlimit⟩, s₁, hselect, s₂, hproject, s₄, ⟨s₃, hword, htable⟩, s₅, hf, s₆,
      hcolumn, hn⟩ := hwritten
    have hproject := (reads_projection (hfrom hword)).mpr ⟨hne, hproject⟩
    have hf := (reads_filter (hfilter hcolumn (horder hn))).mpr ⟨hwell, hf⟩
    have hcolumn := (reads_orderBy (horder hn)).mpr hcolumn
    exact ⟨s₁, hselect, q.projection, s₂, hproject, s₃, hword, q.table, s₄, htable, q.filter, s₅,
      hf, q.orderBy, s₆, hcolumn, q.limit, s', (reads_limit hnext).mpr ⟨hlimit, hn⟩, rfl, rfl⟩

private theorem mem_afterFilter_of_mem_afterStatement {l : Lexeme} (h : l ∈ afterStatement) :
    l ∈ afterFilter :=
  List.mem_cons_of_mem _ (List.mem_cons_of_mem _ h)

private theorem reads_update {u : Update} (hnext : s'.current.lexeme ∈ afterStatement) :
    update.Reads s u s' ↔ u.WellFormed ∧ s.Passes u.lexemes s' := by
  have hfilter := mem_afterFilter_of_mem_afterStatement hnext
  simp only [update, reads_expect_bind (l := .keyword .UPDATE) (by simp),
    reads_bind (p := identifier), reads_identifier, reads_expect_bind (l := .keyword .SET) (by simp),
    reads_bind (p := separatedBy (.symbol .comma) assignment), reads_assignments,
    reads_bind (p := filter), reads_pure]
  simp only [Update.lexemes, List.append_assoc, passes_append, passes_cons_cons]
  constructor
  · intro hread
    obtain ⟨s₁, hupdate, table, s₂, htable, s₃, hset, assignments, s₄, ⟨⟨hne, hnodup⟩, hassign,
      _⟩, f, s₅, hf, rfl, rfl⟩ := hread
    obtain ⟨hwell, hf⟩ := (reads_filter hfilter).mp hf
    exact ⟨⟨hne, hnodup, hwell⟩, s₃, ⟨s₁, hupdate, s₂, htable, hset⟩, s₄, hassign, hf⟩
  · intro hwritten
    obtain ⟨⟨hne, hnodup, hwell⟩, s₃, ⟨s₁, hupdate, s₂, htable, hset⟩, s₄, hassign, hf⟩ := hwritten
    have hcomma : s₄.current.lexeme ≠ .symbol .comma :=
      not_comma_of_mem_afterFilter (current_mem_of_clause hf (fun _ => rfl) hfilter)
    exact ⟨s₁, hupdate, u.table, s₂, htable, s₃, hset, u.assignments, s₄,
      ⟨⟨hne, hnodup⟩, hassign, hcomma⟩, u.filter, s', (reads_filter hfilter).mpr ⟨hwell, hf⟩, rfl,
      rfl⟩

private theorem reads_delete {d : Delete} (hnext : s'.current.lexeme ∈ afterStatement) :
    delete.Reads s d s' ↔ d.WellFormed ∧ s.Passes d.lexemes s' := by
  have hfilter := mem_afterFilter_of_mem_afterStatement hnext
  simp only [delete, reads_expect_bind (l := .keyword .DELETE) (by simp),
    reads_expect_bind (l := .keyword .FROM) (by simp), reads_bind (p := identifier),
    reads_identifier, reads_bind (p := filter), reads_pure]
  simp only [Delete.lexemes, passes_append, passes_cons_cons]
  constructor
  · intro hread
    obtain ⟨s₁, hdelete, s₂, hfrom, table, s₃, htable, f, s₄, hf, rfl, rfl⟩ := hread
    obtain ⟨hwell, hf⟩ := (reads_filter hfilter).mp hf
    exact ⟨⟨hwell⟩, s₃, ⟨s₁, hdelete, s₂, hfrom, htable⟩, hf⟩
  · intro hwritten
    obtain ⟨⟨hwell⟩, s₃, ⟨s₁, hdelete, s₂, hfrom, htable⟩, hf⟩ := hwritten
    exact ⟨s₁, hdelete, s₂, hfrom, d.table, s₃, htable, d.filter, s',
      (reads_filter hfilter).mpr ⟨hwell, hf⟩, rfl, rfl⟩

private theorem reads_statement {statement : Statement}
    (hnext : s'.current.lexeme ∈ afterStatement) :
    Parser.statement.Reads s statement s' ↔
      statement.WellFormed ∧ s.Passes statement.lexemes s' := by
  rw [Parser.statement, reads_current_bind]
  constructor
  · intro h
    split at h
    · obtain ⟨c, s₁, hc, hpure⟩ := reads_bind.mp h
      obtain ⟨rfl, rfl⟩ := reads_pure.mp hpure
      exact reads_createTable.mp hc
    · obtain ⟨i, s₁, hi, hpure⟩ := reads_bind.mp h
      obtain ⟨rfl, rfl⟩ := reads_pure.mp hpure
      exact (reads_insert hnext).mp hi
    · obtain ⟨q, s₁, hq, hpure⟩ := reads_bind.mp h
      obtain ⟨rfl, rfl⟩ := reads_pure.mp hpure
      exact (reads_select hnext).mp hq
    · obtain ⟨u, s₁, hu, hpure⟩ := reads_bind.mp h
      obtain ⟨rfl, rfl⟩ := reads_pure.mp hpure
      exact (reads_update hnext).mp hu
    · obtain ⟨d, s₁, hd, hpure⟩ := reads_bind.mp h
      obtain ⟨rfl, rfl⟩ := reads_pure.mp hpure
      exact (reads_delete hnext).mp hd
    · exact absurd h not_reads_fail
  · intro h
    have hword := h.2.current_lexeme
    cases statement with
    | createTable c =>
      rw [show s.current.lexeme = .keyword .CREATE from hword]
      exact reads_bind.mpr ⟨c, s', reads_createTable.mpr h, reads_pure.mpr ⟨rfl, rfl⟩⟩
    | insert i =>
      rw [show s.current.lexeme = .keyword .INSERT from hword]
      exact reads_bind.mpr ⟨i, s', (reads_insert hnext).mpr h, reads_pure.mpr ⟨rfl, rfl⟩⟩
    | select q =>
      rw [show s.current.lexeme = .keyword .SELECT from hword]
      exact reads_bind.mpr ⟨q, s', (reads_select hnext).mpr h, reads_pure.mpr ⟨rfl, rfl⟩⟩
    | update u =>
      rw [show s.current.lexeme = .keyword .UPDATE from hword]
      exact reads_bind.mpr ⟨u, s', (reads_update hnext).mpr h, reads_pure.mpr ⟨rfl, rfl⟩⟩
    | delete d =>
      rw [show s.current.lexeme = .keyword .DELETE from hword]
      exact reads_bind.mpr ⟨d, s', (reads_delete hnext).mpr h, reads_pure.mpr ⟨rfl, rfl⟩⟩

/-! ### Whole token lists -/

/-- A statement with a semicolon after it or without. -/
def scripts (statement : Statement) : List (List Lexeme) :=
  [statement.lexemes, statement.lexemes ++ [.symbol .semicolon]]

theorem endOfInput_notMem_of_mem_scripts {statement : Statement} {ls : List Lexeme}
    (h : ls ∈ scripts statement) : .endOfInput ∉ ls := by
  have hlexemes := statement.endOfInput_notMem_lexemes
  rcases List.mem_pair.mp h with rfl | rfl
  · exact hlexemes
  · simpa using hlexemes

theorem current_of_atEnd (h : s.atEnd) : s.current.lexeme = .endOfInput := of_decide_eq_true h

/-- Lexemes that are passed up to the end of input are all that come before it. -/
private theorem passes_atEnd_iff {ls : List Lexeme} (hls : .endOfInput ∉ ls) :
    (∃ s', s.Passes ls s' ∧ s'.atEnd) ↔ s.lexemes = ls := by
  rw [TokenStream.lexemes]
  constructor
  · intro hread
    obtain ⟨⟨pending, finish⟩, ⟨tokens, rfl, rfl⟩, hend⟩ := hread
    have hnext := current_of_atEnd hend
    have htokens : ∀ l ∈ tokens.map (·.lexeme), decide (l ≠ .endOfInput) := by
      intro l hl
      exact decide_eq_true (ne_of_mem_of_not_mem hl hls)
    rw [List.map_append, List.takeWhile_append_of_pos htokens]
    cases pending with
    | nil => exact List.append_nil _
    | cons t pending => simp [show t.lexeme = .endOfInput from hnext]
  · rintro rfl
    refine ⟨⟨s.pending.dropWhile (·.lexeme ≠ .endOfInput), s.finish⟩,
      ⟨s.pending.takeWhile (·.lexeme ≠ .endOfInput), ?_, ?_⟩, ?_⟩
    · rw [List.takeWhile_map]
      rfl
    · rw [List.takeWhile_append_dropWhile]
    · cases hdrop : s.pending.dropWhile (·.lexeme ≠ .endOfInput) with
      | nil => rfl
      | cons t pending =>
        have ht := List.head?_dropWhile_not (fun t : Token => t.lexeme ≠ .endOfInput) s.pending
        rw [hdrop] at ht
        exact decide_eq_true (by simpa using ht)

private theorem mem_afterStatement_of_atEnd (h : s.atEnd) : s.current.lexeme ∈ afterStatement := by
  rw [current_of_atEnd h]
  exact List.mem_cons_of_mem _ List.mem_cons_self

private theorem mem_afterStatement_of_semicolon (h : s.Passes [.symbol .semicolon] s') :
    s.current.lexeme ∈ afterStatement := by
  rw [h.current_lexeme]
  exact List.mem_cons_self

theorem reads_script {statement : Statement} :
    script.Reads s statement s' ↔
      statement.WellFormed ∧ (∃ ls ∈ scripts statement, s.Passes ls s') ∧ s'.atEnd := by
  simp only [script, reads_bind (p := Parser.statement),
    reads_accept_bind (l := .symbol .semicolon) (by simp), reads_get_bind]
  simp only [scripts, List.mem_cons, List.not_mem_nil, or_false, exists_eq_or_imp, exists_eq_left,
    passes_append]
  constructor
  · intro h
    obtain ⟨parsed, s₁, hparsed, ⟨s₂, hsemicolon, hrest⟩ | ⟨_, hrest⟩⟩ := h
    · split at hrest
      · rename_i hend
        obtain ⟨rfl, rfl⟩ := reads_pure.mp hrest
        have hnext := mem_afterStatement_of_semicolon hsemicolon
        obtain ⟨hwell, hpass⟩ := (reads_statement hnext).mp hparsed
        exact ⟨hwell, .inr ⟨s₁, hpass, hsemicolon⟩, hend⟩
      · exact absurd hrest not_reads_fail_bind
    · split at hrest
      · rename_i hend
        obtain ⟨rfl, rfl⟩ := reads_pure.mp hrest
        obtain ⟨hwell, hpass⟩ := (reads_statement (mem_afterStatement_of_atEnd hend)).mp hparsed
        exact ⟨hwell, .inl hpass, hend⟩
      · exact absurd hrest not_reads_fail_bind
  · intro h
    obtain ⟨hwell, hpass | ⟨s₁, hpass, hsemicolon⟩, hend⟩ := h
    · have hparsed := (reads_statement (mem_afterStatement_of_atEnd hend)).mpr ⟨hwell, hpass⟩
      refine ⟨statement, s', hparsed, .inr ⟨?_, ?_⟩⟩
      · rw [current_of_atEnd hend]
        exact Lexeme.noConfusion
      · rw [if_pos hend]
        exact reads_pure.mpr ⟨rfl, rfl⟩
    · have hnext := mem_afterStatement_of_semicolon hsemicolon
      have hparsed := (reads_statement hnext).mpr ⟨hwell, hpass⟩
      refine ⟨statement, s₁, hparsed, .inl ⟨s', hsemicolon, ?_⟩⟩
      rw [if_pos hend]
      exact reads_pure.mpr ⟨rfl, rfl⟩

/-- A stream is read as a statement exactly if it holds that statement's lexemes before its first
end of input. -/
theorem answer_script_eq_ok_iff {statement : Statement} :
    script.answer s = .ok statement ↔
      statement.WellFormed ∧ s.lexemes ∈ scripts statement := by
  have hanswer : script.answer s = .ok statement ↔ ∃ s', script.Reads s statement s' := by
    constructor
    · intro h
      exact ⟨_, Action.outcome_of_answer h⟩
    · intro h
      obtain ⟨s', h⟩ := h
      exact congrArg Prod.fst h
  simp only [hanswer, reads_script]
  constructor
  · intro h
    obtain ⟨s', hwell, ⟨ls, hls, hpass⟩, hend⟩ := h
    have hnone := endOfInput_notMem_of_mem_scripts hls
    rw [(passes_atEnd_iff hnone).mp ⟨s', hpass, hend⟩]
    exact ⟨hwell, hls⟩
  · intro h
    obtain ⟨hwell, hls⟩ := h
    have hnone := endOfInput_notMem_of_mem_scripts hls
    obtain ⟨s', hpass, hend⟩ := (passes_atEnd_iff hnone).mpr rfl
    exact ⟨s', hwell, ⟨_, hls, hpass⟩, hend⟩

/-- A token list is accepted as a statement exactly if the statement is well formed and the tokens
before the first end of input are its lexemes, with at most one semicolon after them. -/
theorem script_accepts_iff (tokens : List Token) (statement : Statement) :
    script.answer (.ofTokens tokens) = .ok statement ↔
      statement.WellFormed ∧
        ((tokens.map (·.lexeme)).takeWhile (· ≠ .endOfInput) = statement.lexemes ∨
          (tokens.map (·.lexeme)).takeWhile (· ≠ .endOfInput) =
            statement.lexemes ++ [.symbol .semicolon]) := by
  rw [answer_script_eq_ok_iff, TokenStream.lexemes_ofTokens, scripts, List.mem_cons,
    List.mem_singleton]

end Parser

end SqlEngine
