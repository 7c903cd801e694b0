import SqlEngine.Sql.Parser

/-!
# Statements as the grammar writes them

The lexemes of a statement, in the order in which its form has them, and the statements that can be
written that way: lists are nonempty, numbers are 64-bit literals, no column is assigned twice, and
a single condition counts as joined by `AND`.
-/

namespace SqlEngine

variable {α : Type}

/-- Items in order, with a separator between neighbours. -/
def separated (separator : Lexeme) (lexemes : α → List Lexeme) : List α → List Lexeme
  | []        => []
  | a :: rest => lexemes a ++ rest.flatMap fun b => separator :: lexemes b

def commaList (lexemes : α → List Lexeme) : List α → List Lexeme :=
  separated (.symbol .comma) lexemes

def inParens (lexemes : List Lexeme) : List Lexeme :=
  [.symbol .leftParen] ++ lexemes ++ [.symbol .rightParen]

/-! ### The lexemes -/

def nameList (names : List String) : List Lexeme := commaList (fun name => [.identifier name]) names

def Value.lexeme : Value → Lexeme
  | .int n      => .number n
  | .text s     => .text s
  | .bool true  => .keyword .TRUE
  | .bool false => .keyword .FALSE

def literalList (values : List Value) : List Lexeme := commaList (fun v => [v.lexeme]) values

def numberLexeme (n : Nat) : Lexeme := .number (.ofNat n)

def DataType.lexemes : DataType → List Lexeme
  | .int           => [.keyword .INT]
  | .varchar limit => [.keyword .VARCHAR] ++ inParens [numberLexeme limit]
  | .bool          => [.keyword .BOOLEAN]

def ColumnDecl.lexemes (decl : ColumnDecl) : List Lexeme :=
  [.identifier decl.name] ++ decl.type.lexemes

def Condition.lexemes (c : Condition) : List Lexeme :=
  [.identifier c.column, .comparison c.comparison, c.literal.lexeme]

def Connective.lexeme (c : Connective) : Lexeme := .keyword (Parser.connectiveKeyword c)

def Filter.lexemes (f : Filter) : List Lexeme :=
  [.keyword .WHERE] ++ separated f.connective.lexeme Condition.lexemes f.conditions

def Projection.lexemes : Projection → List Lexeme
  | .all           => [.symbol .star]
  | .columns names => nameList names

def assignmentLexemes : String × Value → List Lexeme
  | (column, v) => [.identifier column, .comparison .eq, v.lexeme]

/-- A clause that may be missing. -/
def clause (lexemes : α → List Lexeme) (a : Option α) : List Lexeme := a.elim [] lexemes

def orderByLexemes (column : String) : List Lexeme :=
  [.keyword .ORDER, .keyword .BY, .identifier column]

def limitLexemes (n : Nat) : List Lexeme := [.keyword .LIMIT, numberLexeme n]

def CreateTable.lexemes (s : CreateTable) : List Lexeme :=
  [.keyword .CREATE, .keyword .TABLE, .identifier s.table]
    ++ inParens (commaList ColumnDecl.lexemes s.columns)

def Insert.lexemes (s : Insert) : List Lexeme :=
  [.keyword .INSERT, .keyword .INTO, .identifier s.table]
    ++ clause (fun names => inParens (nameList names)) s.columns
    ++ [.keyword .VALUES]
    ++ commaList (fun tuple => inParens (literalList tuple)) s.tuples

def Select.lexemes (s : Select) : List Lexeme :=
  [.keyword .SELECT] ++ s.projection.lexemes
    ++ [.keyword .FROM, .identifier s.table]
    ++ clause Filter.lexemes s.filter
    ++ clause orderByLexemes s.orderBy
    ++ clause limitLexemes s.limit

def Update.lexemes (s : Update) : List Lexeme :=
  [.keyword .UPDATE, .identifier s.table, .keyword .SET]
    ++ commaList assignmentLexemes s.assignments
    ++ clause Filter.lexemes s.filter

def Delete.lexemes (s : Delete) : List Lexeme :=
  [.keyword .DELETE, .keyword .FROM, .identifier s.table] ++ clause Filter.lexemes s.filter

def Statement.lexemes : Statement → List Lexeme
  | .createTable s => s.lexemes
  | .insert s      => s.lexemes
  | .select s      => s.lexemes
  | .update s      => s.lexemes
  | .delete s      => s.lexemes

/-! ### No statement mentions the end of input -/

private theorem notMem_separated {l separator : Lexeme} {lexemes : α → List Lexeme} {items : List α}
    (hsep : l ≠ separator) (hitems : ∀ a, l ∉ lexemes a) :
    l ∉ separated separator lexemes items := by
  cases items with
  | nil => simp [separated]
  | cons a items => simp [separated, hsep, hitems]

private theorem notMem_commaList {lexemes : α → List Lexeme} {items : List α}
    (hitems : ∀ a, .endOfInput ∉ lexemes a) : .endOfInput ∉ commaList lexemes items :=
  notMem_separated Lexeme.noConfusion hitems

private theorem notMem_inParens {ls : List Lexeme} (h : .endOfInput ∉ ls) :
    .endOfInput ∉ inParens ls := by
  simp [inParens, h]

private theorem notMem_clause {lexemes : α → List Lexeme} {a : Option α}
    (h : ∀ a, .endOfInput ∉ lexemes a) :
    .endOfInput ∉ clause lexemes a := by
  cases a with
  | none => simp [clause]
  | some a => exact h a

private theorem Value.lexeme_ne_endOfInput (v : Value) : v.lexeme ≠ .endOfInput := by
  cases v with
  | bool b => cases b <;> exact Lexeme.noConfusion
  | _ => exact Lexeme.noConfusion

private theorem notMem_nameList (names : List String) : .endOfInput ∉ nameList names :=
  notMem_commaList fun _ => by simp

private theorem notMem_filterLexemes (f : Option Filter) :
    .endOfInput ∉ clause Filter.lexemes f := by
  refine notMem_clause fun f => ?_
  have hconditions : .endOfInput ∉ separated f.connective.lexeme Condition.lexemes f.conditions :=
    notMem_separated Lexeme.noConfusion fun c => by
      simp [Condition.lexemes, c.literal.lexeme_ne_endOfInput.symm]
  simp [Filter.lexemes, hconditions]

theorem Statement.endOfInput_notMem_lexemes (statement : Statement) :
    .endOfInput ∉ statement.lexemes := by
  cases statement with
  | createTable s =>
    have hcolumns : .endOfInput ∉ inParens (commaList ColumnDecl.lexemes s.columns) :=
      notMem_inParens (notMem_commaList fun decl => by
        cases h : decl.type <;>
          simp [ColumnDecl.lexemes, h, DataType.lexemes, inParens, numberLexeme])
    simp [Statement.lexemes, CreateTable.lexemes, hcolumns]
  | insert s =>
    have hcolumns : .endOfInput ∉ clause (fun names => inParens (nameList names)) s.columns :=
      notMem_clause fun names => notMem_inParens (notMem_nameList names)
    have htuples : .endOfInput ∉ commaList (fun tuple => inParens (literalList tuple)) s.tuples :=
      notMem_commaList fun tuple => notMem_inParens (notMem_commaList fun v => by
        simp [v.lexeme_ne_endOfInput.symm])
    simp [Statement.lexemes, Insert.lexemes, hcolumns, htuples]
  | select s =>
    have hprojection : .endOfInput ∉ s.projection.lexemes := by
      cases s.projection with
      | all => simp [Projection.lexemes]
      | columns names => exact notMem_nameList names
    have horder : .endOfInput ∉ clause orderByLexemes s.orderBy :=
      notMem_clause fun column => by simp [orderByLexemes]
    have hlimit : .endOfInput ∉ clause limitLexemes s.limit :=
      notMem_clause fun n => by simp [limitLexemes, numberLexeme]
    simp [Statement.lexemes, Select.lexemes, hprojection, notMem_filterLexemes, horder, hlimit]
  | update s =>
    have hassignments : .endOfInput ∉ commaList assignmentLexemes s.assignments :=
      notMem_commaList fun assignment => by
        simp [assignmentLexemes, assignment.2.lexeme_ne_endOfInput.symm]
    simp [Statement.lexemes, Update.lexemes, hassignments, notMem_filterLexemes]
  | delete s => simp [Statement.lexemes, Delete.lexemes, notMem_filterLexemes]

/-! ### What can be written -/

/-- The numbers from a least one on that a literal can spell: they are below two to the 63rd. -/
def IsLiteralFrom (least n : Nat) : Prop := least ≤ n ∧ n < 9223372036854775808

def DataType.WellFormed : DataType → Prop
  | .varchar limit => IsLiteralFrom 1 limit
  | _              => True

structure Filter.WellFormed (f : Filter) : Prop where
  conditions_ne_nil : f.conditions ≠ []
  connective_of_single : f.conditions.length = 1 → f.connective = .and

structure CreateTable.WellFormed (s : CreateTable) : Prop where
  columns_ne_nil : s.columns ≠ []
  types : ∀ decl ∈ s.columns, decl.type.WellFormed

structure Insert.WellFormed (s : Insert) : Prop where
  columns_ne_nil : s.columns ≠ some []
  tuples_ne_nil : s.tuples ≠ []
  tuple_ne_nil : ∀ tuple ∈ s.tuples, tuple ≠ []

structure Select.WellFormed (s : Select) : Prop where
  projection_ne_nil : s.projection ≠ .columns []
  filter : ∀ f ∈ s.filter, f.WellFormed
  limit : ∀ n ∈ s.limit, IsLiteralFrom 0 n

structure Update.WellFormed (s : Update) : Prop where
  assignments_ne_nil : s.assignments ≠ []
  columns_nodup : (s.assignments.map (·.1)).Nodup
  filter : ∀ f ∈ s.filter, f.WellFormed

structure Delete.WellFormed (s : Delete) : Prop where
  filter : ∀ f ∈ s.filter, f.WellFormed

def Statement.WellFormed : Statement → Prop
  | .createTable s => s.WellFormed
  | .insert s      => s.WellFormed
  | .select s      => s.WellFormed
  | .update s      => s.WellFormed
  | .delete s      => s.WellFormed

end SqlEngine
