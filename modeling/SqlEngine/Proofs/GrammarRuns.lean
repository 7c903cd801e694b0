import Mathlib.Data.Fintype.EquivFin
import SqlEngine.Proofs.ParsedStatements
import SqlEngine.Proofs.ParserRuns

/-!
# Runs of the grammar

Every rule of the grammar runs on every stream, whatever the stream holds. To go on after what a
rule has read, an assignment needs a column that is not yet assigned, and there always is one; every
other rule has a continuation of its own.
-/

namespace SqlEngine

namespace Parser

open TokenStream

variable {s s' : TokenStream} {w : List Lexeme}

/-! ### Words and literals -/

private theorem recognizes_identifier :
    Recognizes identifier (fun _ => True) fun name => [.identifier name] := by
  refine recognizes_take (by simp) ?_ rfl ⟨"", trivial⟩
  intro l name
  cases l <;> simp [eq_comm]

private theorem recognizes_literal : Recognizes literal (fun _ => True) fun v => [v.lexeme] :=
  recognizes_take (by simp) (by simp [literalOf_eq_some_iff]) rfl ⟨.bool true, trivial⟩

private theorem recognizes_comparison :
    Recognizes comparison (fun _ => True) fun c => [.comparison c] := by
  refine recognizes_take (by simp) ?_ rfl ⟨.eq, trivial⟩
  intro l c
  cases l <;> simp [eq_comm]

private theorem recognizes_numberFrom {expected : Expectation} {least : Nat}
    (hexpected : expected ≠ .freshColumn) (hleast : least < 9223372036854775808) :
    Recognizes (take expected (numberFrom least)) (IsLiteralFrom least) fun n => [numberLexeme n] :=
  recognizes_take hexpected numberFrom_eq_some_iff rfl ⟨least, Nat.le_refl _, hleast⟩

/-- The first word of the types of a kind. -/
def kindWord : Kind → Lexeme
  | .int  => .keyword .INT
  | .text => .keyword .VARCHAR
  | .bool => .keyword .BOOLEAN

private theorem kindOf_eq_some_iff {l : Lexeme} {kind : Kind} :
    kindOf l = some kind ↔ l = kindWord kind := by
  constructor
  · intro h
    unfold kindOf at h
    split at h <;> cases h <;> rfl
  · rintro rfl
    cases kind <;> rfl

private theorem recognizes_kind : Recognizes (take .columnType kindOf) (fun _ => True)
    fun kind => [kindWord kind] :=
  recognizes_take (by simp) (by simp [kindOf_eq_some_iff]) rfl ⟨.int, trivial⟩

private theorem recognizes_columnType :
    Recognizes columnType DataType.WellFormed DataType.lexemes := by
  intro w s
  apply runs_bind (recognizes_kind w s)
  intro kind s₁ _
  cases kind with
  | int => exact runs_pure ⟨trivial, rfl⟩
  | bool => exact runs_pure ⟨trivial, rfl⟩
  | text =>
    have hlimit : Recognizes (take .varcharLimit (numberFrom 1)) (IsLiteralFrom 1)
        fun n => [numberLexeme n] := recognizes_numberFrom (by simp) (by simp)
    apply runs_bind (recognizes_parenthesized hlimit _ s₁)
    intro n s₂ hn
    exact runs_pure ⟨hn, List.append_assoc ..⟩

private theorem recognizes_columnDecl :
    Recognizes columnDecl (fun decl => decl.type.WellFormed) ColumnDecl.lexemes := by
  intro w s
  apply runs_bind (recognizes_identifier w s)
  intro name s₁ _
  apply runs_bind (recognizes_columnType _ s₁)
  intro type s₂ htype
  exact runs_pure ⟨htype, List.append_assoc ..⟩

private theorem recognizes_condition : Recognizes condition (fun _ => True) Condition.lexemes := by
  intro w s
  apply runs_bind (recognizes_identifier w s)
  intro column s₁ _
  apply runs_bind (recognizes_comparison _ s₁)
  intro c s₂ _
  apply runs_bind (recognizes_literal _ s₂)
  intro v s₃ _
  exact runs_pure ⟨trivial, by simp [Condition.lexemes]⟩

/-! ### Optional clauses -/

private theorem recognizes_limit :
    Recognizes limit (fun n => ∀ m ∈ n, IsLiteralFrom 0 m) (clause limitLexemes) := by
  intro w s
  apply runs_accept_bind (by simp)
  · intro s₁ _
    have hnumber : Recognizes (take .limit (numberFrom 0)) (IsLiteralFrom 0)
        fun n => [numberLexeme n] := recognizes_numberFrom (by simp) (by simp)
    apply runs_bind (hnumber _ s₁)
    intro n s₂ hn
    exact runs_pure ⟨fun m hm => Option.mem_some.mp hm ▸ hn, List.append_assoc ..⟩
  · intro _
    exact runs_pure ⟨nofun, (List.append_nil w).symm⟩

private theorem recognizes_orderBy :
    Recognizes orderBy (fun _ => True) (clause orderByLexemes) := by
  intro w s
  apply runs_accept_bind (by simp)
  · intro s₁ _
    apply runs_expect_bind (by simp)
    intro s₂
    apply runs_bind (recognizes_identifier _ s₂)
    intro column s₃ _
    exact runs_pure ⟨trivial, by simp [clause, orderByLexemes]⟩
  · intro _
    exact runs_pure ⟨trivial, (List.append_nil w).symm⟩

private theorem recognizes_nameList :
    Recognizes (commaSeparated identifier) (fun names => names ≠ []) nameList := by
  intro w s
  have hlist := recognizes_commaSeparated recognizes_identifier w s
  simp only [implies_true, and_true] at hlist
  exact hlist

private theorem recognizes_projection :
    Recognizes projection (fun projected => projected ≠ .columns []) Projection.lexemes := by
  intro w s
  apply runs_accept_bind (by simp)
  · intro s₁ _
    exact runs_pure ⟨nofun, rfl⟩
  · intro _
    apply runs_bind (recognizes_nameList w s)
    intro names s₁ hne
    exact runs_pure ⟨fun h => hne (Projection.columns.inj h), rfl⟩

private theorem recognizes_insertColumns :
    Recognizes insertColumns (fun columns => columns ≠ some [])
      (clause fun names => inParens (nameList names)) := by
  intro w s
  apply runs_accept_bind (by simp)
  · intro s₁ _
    apply runs_bind (recognizes_nameList _ s₁)
    intro names s₂ hne
    apply runs_expect_bind (by simp)
    intro s₃
    exact runs_pure ⟨fun h => hne (Option.some.inj h), by simp [clause, inParens]⟩
  · intro _
    exact runs_pure ⟨by simp, (List.append_nil w).symm⟩

private theorem recognizes_tuple : Recognizes (parenthesized (commaSeparated literal))
    (fun tuple => tuple ≠ []) fun tuple => inParens (literalList tuple) := by
  apply recognizes_parenthesized
  intro w s
  have hlist := recognizes_commaSeparated recognizes_literal w s
  simp only [implies_true, and_true] at hlist
  exact hlist

/-! ### Filters -/

/-- With one condition the connective makes no difference. -/
private theorem exists_wellFormed_filter (connective : Connective) {conditions : List Condition}
    (hne : conditions ≠ []) :
    ∃ f : Filter, f.WellFormed ∧ f.lexemes =
      [.keyword .WHERE] ++ separated connective.lexeme Condition.lexemes conditions := by
  by_cases hsingle : conditions.length = 1
  · obtain ⟨c, rfl⟩ := List.length_eq_one_iff.mp hsingle
    exact ⟨⟨.and, [c]⟩, ⟨hne, fun _ => rfl⟩, rfl⟩
  · exact ⟨⟨connective, conditions⟩, ⟨hne, fun h => absurd h hsingle⟩, rfl⟩

private theorem eq_lexeme_of_connectiveOf {l : Lexeme} {c : Connective}
    (h : connectiveOf l = some c) : l = c.lexeme := by
  unfold connectiveOf at h
  split at h <;> cases h <;> rfl

/-- The end of a filter, where no connective may stand. -/
def closeFilter (f : Filter) : Parser (Option Filter) := do
  let next ← current
  if (connectiveOf next.lexeme).isSome then
    throw (.mixedConnectives next.position)
  return some f

/-- The conditions of a filter of which the first is read. -/
def filterFrom (first : Condition) (connective : Connective) : Parser (Option Filter) := do
  let conditions ← moreOf connective.lexeme (fun _ => condition) [first]
  closeFilter ⟨connective, conditions⟩

theorem filter_eq : filter = accept (.keyword .WHERE) >>= fun present =>
    if present then condition >>= fun first => current >>= fun next =>
      filterFrom first ((connectiveOf next.lexeme).getD .and)
    else pure none := rfl

/-- The conditions after the first one go on for as long as their connective comes next. -/
theorem reads_conditions {connective : Connective} {first : Condition}
    {conditions : List Condition} :
    (moreOf connective.lexeme (fun _ => condition) [first]).Reads s conditions s' ↔
      ∃ later, conditions = first :: later ∧
        s.Passes (later.flatMap fun c => connective.lexeme :: c.lexemes) s' ∧
        s'.current.lexeme ≠ connective.lexeme := by
  have hcondition : ∀ (earlier : List Condition) (s : TokenStream) (c : Condition)
      (s' : TokenStream), condition.Reads s c s' ↔ True ∧ s.Passes c.lexemes s' := by
    intro earlier s c s'
    rw [reads_condition, true_and]
  have hsep : connective.lexeme ≠ .endOfInput := Lexeme.noConfusion
  rw [moreOf, reads_get_bind, reads_more hsep hcondition (Nat.le_refl _)]
  simp only [admits_const, implies_true, true_and, List.singleton_append]

/-- If only one condition was read, then no connective came after it. -/
private theorem joined_of_reads {connective : Connective} {first : Condition}
    {conditions : List Condition}
    (hconnective : (connectiveOf s.current.lexeme).getD .and = connective)
    (h : (moreOf connective.lexeme (fun _ => condition) [first]).Reads s conditions s') :
    (connectiveOf s'.current.lexeme = none → conditions.length = 1 → connective = .and) ∧
      ∀ c, connectiveOf s'.current.lexeme = some c → c ≠ connective ∧ 2 ≤ conditions.length := by
  obtain ⟨later, rfl, hpass, hstop⟩ := reads_conditions.mp h
  have hsame : later = [] → s = s' := by
    rintro rfl
    exact passes_nil.mp hpass
  constructor
  · intro hnone hsingle
    rw [← hconnective, hsame (by simpa using hsingle), hnone]
    rfl
  · intro c hc
    have hne : c ≠ connective := by
      rintro rfl
      exact hstop (eq_lexeme_of_connectiveOf hc)
    refine ⟨hne, ?_⟩
    cases later with
    | nil =>
      rw [hsame rfl, hc] at hconnective
      exact absurd hconnective hne
    | cons c' later => simp

/-- A filter in a place where it would complete a statement. -/
private theorem runs_filter (hstatement : ∀ f : Filter, f.WellFormed → ∃ statement : Statement,
      statement.WellFormed ∧ w ++ f.lexemes = statement.lexemes ∧
        statement.closingFilter = some f) :
    Runs filter (Continues w (fun f => ∀ g ∈ f, g.WellFormed) (clause Filter.lexemes)) w s := by
  rw [filter_eq]
  apply runs_accept_bind (by simp)
  · intro s₁ _
    apply runs_bind (recognizes_condition _ s₁)
    intro first s₂ _
    apply runs_current_bind
    generalize hconnective : (connectiveOf s₂.current.lexeme).getD .and = connective
    have hsep : connective.lexeme ≠ .endOfInput := Lexeme.noConfusion
    have hlist : Runs (moreOf connective.lexeme (fun _ => condition) [first]) _ _ s₂ :=
      runs_moreOf (w := w ++ [.keyword .WHERE]) hsep (fun _ s => recognizes_condition _ s)
        (List.cons_ne_nil first []) ⟨trivial, trivial⟩
    have hfirst : separated connective.lexeme Condition.lexemes [first] = first.lexemes := by
      simp [separated]
    rw [hfirst] at hlist
    apply runs_bind_of_reads hlist
    -- if one of the conditions fails, it could have been the last one
    · intro conditions ls hconditions
      obtain ⟨⟨hne, -⟩, rfl⟩ := hconditions
      obtain ⟨f, hf, hlexemes⟩ := exists_wellFormed_filter connective hne
      refine ⟨some f, [], fun g hg => Option.mem_some.mp hg ▸ hf, ?_⟩
      rw [List.append_nil, clause, Option.elim_some, hlexemes, List.append_assoc]
    · intro conditions ls s₃ hconditions hread
      obtain ⟨⟨hne, -⟩, rfl⟩ := hconditions
      obtain ⟨hsingle, hjoined⟩ := joined_of_reads hconnective hread
      apply runs_current_bind
      cases hnext : connectiveOf s₃.current.lexeme with
      | none =>
        refine runs_pure ⟨fun g hg => ?_, List.append_assoc ..⟩
        obtain rfl := Option.mem_some.mp hg
        exact ⟨hne, hsingle hnext⟩
      | some c =>
        obtain ⟨hc, htwo⟩ := hjoined c hnext
        have hwell : Filter.WellFormed ⟨connective, conditions⟩ :=
          ⟨hne, fun hone => absurd (hone ▸ htwo) (by simp)⟩
        obtain ⟨statement, hstatement, hlexemes, hclosing⟩ := hstatement _ hwell
        have hwords : w ++ [.keyword .WHERE] ++
            separated connective.lexeme Condition.lexemes conditions ++ [] =
              w ++ Filter.lexemes ⟨connective, conditions⟩ := by
          rw [List.append_nil, List.append_assoc, Filter.lexemes]
        refine ⟨[], s₃, .error (.mixedConnectives s₃.current.position), rfl, ⟨?_, ?_⟩,
          fun _ _ => rfl⟩
        · exact .mixed ⟨statement, _, c, hstatement, hwords.trans hlexemes, hclosing, htwo, hc,
            eq_lexeme_of_connectiveOf hnext⟩
        · refine ⟨some ⟨connective, conditions⟩, [], fun g hg => ?_, ?_⟩
          · exact Option.mem_some.mp hg ▸ hwell
          · rw [List.append_nil]
            exact hwords
  · intro _
    exact runs_pure ⟨by simp, (List.append_nil w).symm⟩

/-! ### Assignments -/

private theorem exists_fresh (names : List String) : ∃ name, name ∉ names := by
  obtain ⟨name, hname⟩ := Infinite.exists_notMem_finset names.toFinset
  exact ⟨name, fun h => hname (List.mem_toFinset.mpr h)⟩

private theorem runs_identifier_of_fresh {names : List String}
    (h : ∀ name ∈ names, s.current.lexeme ≠ .identifier name) :
    Runs identifier (Continues w (fun name => name ∉ names) fun name => [.identifier name])
      w s := by
  apply runs_current_bind
  split
  · rename_i name hname
    have hl : s.current.lexeme = .identifier name := by
      cases hl : s.current.lexeme <;> simp_all
    exact runs_advance_bind hl (by simp) (runs_pure ⟨fun hmem => h name hmem hl, rfl⟩)
  · obtain ⟨name, hname⟩ := exists_fresh names
    exact runs_fail (by simp) ⟨name, [.identifier name], hname, rfl⟩

/-- What the call of an assignment finds read before it. -/
def beforeAssignment (table : String) (earlier : List (String × Value)) : List Lexeme :=
  beforeItem [.keyword .UPDATE, .identifier table, .keyword .SET] (.symbol .comma) assignmentLexemes
    earlier

private theorem runs_assignment (table : String) (earlier : List (String × Value))
    (s : TokenStream) :
    Runs (assignment earlier)
      (Continues (beforeAssignment table earlier) (fun a => a.1 ∉ earlier.map (·.1))
        assignmentLexemes)
      (beforeAssignment table earlier) s := by
  have hany : ∀ column, (earlier.any (·.1 = column)) ↔ column ∈ earlier.map (·.1) := by simp
  apply runs_current_bind
  by_cases hrepeated : ∃ column ∈ earlier.map (·.1), s.current.lexeme = .identifier column
  · obtain ⟨column, hcolumn, hl⟩ := hrepeated
    -- the column is reported as the next token, although the stream is left behind it
    obtain ⟨fresh, hfresh⟩ := exists_fresh (earlier.map (·.1))
    refine ⟨[], s, .error (.unexpectedToken .freshColumn s.current), rfl,
      ⟨.repeated (List.append_nil _) hcolumn hl, (fresh, .bool true),
        assignmentLexemes (fresh, .bool true), hfresh, ?_⟩, ?_⟩
    · rw [List.map_nil, List.append_nil]
    · intro rest' hrest
      have hpass : rest'.Passes [.identifier column] rest'.advance :=
        (passes_singleton (by simp)).mpr ⟨hrest ▸ hl, rfl⟩
      have hread : identifier.outcome (rest'.prepend []) = (.ok column, rest'.advance) :=
        reads_identifier.mpr hpass
      rw [Action.outcome_bind_of_ok hread, if_pos ((hany column).mpr hcolumn)]
      rfl
  · have hfresh : ∀ column ∈ earlier.map (·.1), s.current.lexeme ≠ .identifier column :=
      fun column hcolumn hl => hrepeated ⟨column, hcolumn, hl⟩
    apply runs_bind (runs_identifier_of_fresh hfresh)
    intro column s₁ hcolumn
    rw [if_neg fun h => hcolumn ((hany column).mp h)]
    apply runs_expect_bind (by simp)
    intro s₂
    apply runs_bind (recognizes_literal _ s₂)
    intro v s₃ _
    exact runs_pure ⟨hcolumn, by simp [assignmentLexemes]⟩

private theorem runs_assignments (table : String) (s : TokenStream) :
    Runs (separatedBy (.symbol .comma) assignment)
      (Continues [.keyword .UPDATE, .identifier table, .keyword .SET]
        (fun assignments => assignments ≠ [] ∧ (assignments.map (·.1)).Nodup)
        (commaList assignmentLexemes))
      [.keyword .UPDATE, .identifier table, .keyword .SET] s := by
  have hsep : Lexeme.symbol .comma ≠ .endOfInput := by simp
  have hlist := runs_separatedBy (s := s) hsep (runs_assignment table)
  simp only [admits_assignments, List.map_nil, List.not_mem_nil, not_false_eq_true, implies_true,
    and_true] at hlist
  exact hlist

/-! ### Statements -/

theorem runs_fail_bind {α β : Type} {W : α → List Lexeme → Prop} {expected : Expectation}
    {next : β → Parser α} (h : Runs (fail expected) W w s) : Runs (fail expected >>= next) W w s :=
  h.congr fun _ => rfl

private theorem runs_createTable (s : TokenStream) :
    Runs createTable (Continues [] CreateTable.WellFormed CreateTable.lexemes) [] s := by
  apply runs_expect_bind (by simp)
  intro s₁
  apply runs_expect_bind (by simp)
  intro s₂
  apply runs_bind (recognizes_identifier _ s₂)
  intro table s₃ _
  apply runs_expect_bind (by simp)
  intro s₄
  apply runs_bind (recognizes_commaSeparated recognizes_columnDecl _ s₄)
  intro columns s₅ hcolumns
  obtain ⟨hne, htypes⟩ := hcolumns
  have hwords : [] ++ [.keyword .CREATE] ++ [.keyword .TABLE] ++ [.identifier table] ++
      [.symbol .leftParen] ++ commaList ColumnDecl.lexemes columns ++ [.symbol .rightParen] =
        [] ++ CreateTable.lexemes ⟨table, columns⟩ := by
    simp [CreateTable.lexemes, inParens]
  apply runs_accept_bind (by simp)
  · intro s₆ _
    exact runs_pure ⟨⟨hne, htypes⟩, hwords⟩
  · intro _
    exact runs_fail_bind (runs_fail (by simp) ⟨⟨table, columns⟩, _, ⟨hne, htypes⟩, hwords⟩)

private theorem runs_insert (s : TokenStream) :
    Runs insert (Continues [] Insert.WellFormed Insert.lexemes) [] s := by
  apply runs_expect_bind (by simp)
  intro s₁
  apply runs_expect_bind (by simp)
  intro s₂
  apply runs_bind (recognizes_identifier _ s₂)
  intro table s₃ _
  apply runs_bind (recognizes_insertColumns _ s₃)
  intro columns s₄ hcolumns
  apply runs_expect_bind (by simp)
  intro s₅
  apply runs_bind (recognizes_commaSeparated recognizes_tuple _ s₅)
  intro tuples s₆ htuples
  obtain ⟨hne, htuple⟩ := htuples
  exact runs_pure ⟨⟨hcolumns, hne, htuple⟩, by simp [Insert.lexemes]⟩

private theorem runs_select (s : TokenStream) :
    Runs select (Continues [] Select.WellFormed Select.lexemes) [] s := by
  apply runs_expect_bind (by simp)
  intro s₁
  apply runs_bind (recognizes_projection _ s₁)
  intro projected s₂ hprojected
  apply runs_expect_bind (by simp)
  intro s₃
  apply runs_bind (recognizes_identifier _ s₃)
  intro table s₄ _
  refine runs_bind (runs_filter ?_) ?_
  · intro f hf
    refine ⟨.select ⟨projected, table, some f, none, none⟩, ⟨hprojected, ?_, nofun⟩, ?_, rfl⟩
    · exact fun g hg => Option.mem_some.mp hg ▸ hf
    · simp [Statement.lexemes, Select.lexemes, clause]
  intro f s₅ hf
  apply runs_bind (recognizes_orderBy _ s₅)
  intro column s₆ _
  apply runs_bind (recognizes_limit _ s₆)
  intro n s₇ hn
  exact runs_pure ⟨⟨hprojected, hf, hn⟩, by simp [Select.lexemes]⟩

private theorem runs_update (s : TokenStream) :
    Runs update (Continues [] Update.WellFormed Update.lexemes) [] s := by
  apply runs_expect_bind (by simp)
  intro s₁
  apply runs_bind (recognizes_identifier _ s₁)
  intro table s₂ _
  apply runs_expect_bind (by simp)
  intro s₃
  apply runs_bind (runs_assignments table s₃)
  intro assignments s₄ hassignments
  obtain ⟨hne, hnodup⟩ := hassignments
  refine runs_bind (runs_filter ?_) ?_
  · intro f hf
    refine ⟨.update ⟨table, assignments, some f⟩, ⟨hne, hnodup, ?_⟩, ?_, rfl⟩
    · exact fun g hg => Option.mem_some.mp hg ▸ hf
    · simp [Statement.lexemes, Update.lexemes, clause]
  intro f s₅ hf
  exact runs_pure ⟨⟨hne, hnodup, hf⟩, by simp [Update.lexemes]⟩

private theorem runs_delete (s : TokenStream) :
    Runs delete (Continues [] Delete.WellFormed Delete.lexemes) [] s := by
  apply runs_expect_bind (by simp)
  intro s₁
  apply runs_expect_bind (by simp)
  intro s₂
  apply runs_bind (recognizes_identifier _ s₂)
  intro table s₃ _
  refine runs_bind (runs_filter ?_) ?_
  · intro f hf
    refine ⟨.delete ⟨table, some f⟩, ⟨fun g hg => Option.mem_some.mp hg ▸ hf⟩, ?_, rfl⟩
    simp [Statement.lexemes, Delete.lexemes, clause]
  intro f s₄ hf
  exact runs_pure ⟨⟨hf⟩, by simp [Delete.lexemes]⟩

theorem runs_statement (s : TokenStream) :
    Runs statement (Continues [] Statement.WellFormed Statement.lexemes) [] s := by
  apply runs_current_bind
  split
  · exact runs_bind (runs_createTable s) fun c _ hc => runs_pure ⟨hc, rfl⟩
  · exact runs_bind (runs_insert s) fun i _ hi => runs_pure ⟨hi, rfl⟩
  · exact runs_bind (runs_select s) fun q _ hq => runs_pure ⟨hq, rfl⟩
  · exact runs_bind (runs_update s) fun u _ hu => runs_pure ⟨hu, rfl⟩
  · exact runs_bind (runs_delete s) fun d _ hd => runs_pure ⟨hd, rfl⟩
  · exact runs_fail (by simp) ⟨.delete ⟨"", none⟩, _, ⟨nofun⟩, rfl⟩

end Parser

end SqlEngine
