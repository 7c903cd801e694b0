import SqlEngine.Sql.Lexer
import SqlEngine.Sql.TokenStream

/-!
# From tokens to statements

Each rule of the grammar is an action on the stream of tokens. A rule that fails leaves the stream
at the token that it reports, so that the error names what stands there; only a column assigned
twice is noticed after it has been read.
-/

namespace SqlEngine

abbrev Parser (α : Type) := Action TokenStream α

namespace Parser

open SqlEngine.Action

variable {α : Type}

def current : Parser Token := return (← get).current

def advance : Parser Unit := modify TokenStream.advance

def fail (expected : Expectation) : Parser α := do
  throw (.unexpectedToken expected (← current))

/-- Reads the token if it is the given one, and tells whether it was. -/
def accept (lexeme : Lexeme) : Parser Bool := do
  if (← current).lexeme = lexeme then
    advance
    return true
  else
    return false

def expect (lexeme : Lexeme) : Parser Unit := do
  unless ← accept lexeme do
    fail (.exactly lexeme)

/-- Reads a token that means something here. -/
def take (expected : Expectation) (meaning : Lexeme → Option α) : Parser α := do
  match meaning (← current).lexeme with
  | some a => do
    advance
    return a
  | none   => fail expected

theorem outcome_current (s : TokenStream) : current.outcome s = (.ok s.current, s) := rfl

theorem outcome_fail (expected : Expectation) (s : TokenStream) :
    (fail expected : Parser α).outcome s = (.error (.unexpectedToken expected s.current), s) := rfl

theorem outcome_accept (lexeme : Lexeme) (s : TokenStream) :
    (accept lexeme).outcome s =
      if s.current.lexeme = lexeme then (.ok true, s.advance) else (.ok false, s) := by
  rw [accept, outcome_bind, outcome_current]
  by_cases h : s.current.lexeme = lexeme <;> simp only [h, if_true, if_false] <;> rfl

theorem outcome_expect (lexeme : Lexeme) (s : TokenStream) :
    (expect lexeme).outcome s =
      if s.current.lexeme = lexeme then (.ok (), s.advance)
      else (.error (.unexpectedToken (.exactly lexeme) s.current), s) := by
  rw [expect, outcome_bind, outcome_accept]
  by_cases h : s.current.lexeme = lexeme <;> simp only [h, if_true, if_false] <;> rfl

theorem outcome_take (expected : Expectation) (meaning : Lexeme → Option α) (s : TokenStream) :
    (take expected meaning).outcome s =
      match meaning s.current.lexeme with
      | some a => (.ok a, s.advance)
      | none   => (.error (.unexpectedToken expected s.current), s) := by
  rw [take, outcome_bind, outcome_current]
  cases h : meaning s.current.lexeme <;> simp only [h] <;> rfl

/-! ### Lists -/

/-- Goes on with a list of which some items are read: each further item follows a separator, and is
read with those before it in view. Every round takes a separator, so there are no more rounds than
pending tokens. -/
def more (separator : Lexeme) (item : List α → Parser α) : Nat → List α → Parser (List α)
  | 0,     items => return items
  | n + 1, items => do
    if ← accept separator then
      more separator item n (items ++ [← item items])
    else
      return items

/-- One or more items with separators between them. -/
def separatedBy (separator : Lexeme) (item : List α → Parser α) : Parser (List α) := do
  let first ← item []
  more separator item (← get).pending.length [first]

def commaSeparated (item : Parser α) : Parser (List α) :=
  separatedBy (.symbol .comma) fun _ => item

def closeParen : Parser Unit := expect (.symbol .rightParen)

def parenthesized (body : Parser α) : Parser α := do
  expect (.symbol .leftParen)
  let a ← body
  closeParen
  return a

/-! ### Words and literals -/

def identifier : Parser String :=
  take .identifier fun
    | .identifier name => some name
    | _                => none

/-- The value that a lexeme spells. -/
def literalOf : Lexeme → Option Value
  | .number n       => some (.int n)
  | .text s         => some (.text s)
  | .keyword .TRUE  => some (.bool true)
  | .keyword .FALSE => some (.bool false)
  | _               => none

def literal : Parser Value := take .literal literalOf

def comparison : Parser Comparison :=
  take .comparison fun
    | .comparison c => some c
    | _             => none

/-- A number that is at least the given one. -/
def numberFrom (least : Int) : Lexeme → Option Nat
  | .number n => if least ≤ n.toInt then some n.toInt.toNat else none
  | _         => none

/-- The kind that a type's first word names. -/
def kindOf : Lexeme → Option Kind
  | .keyword .INT     => some .int
  | .keyword .VARCHAR => some .text
  | .keyword .BOOLEAN => some .bool
  | _                 => none

def columnType : Parser DataType := do
  match ← take .columnType kindOf with
  | .int  => return .int
  | .bool => return .bool
  | .text => return .varchar (← parenthesized (take .varcharLimit (numberFrom 1)))

/-! ### Clauses -/

def columnDecl : Parser ColumnDecl := do
  let name ← identifier
  let type ← columnType
  return ⟨name, type⟩

def connectiveOf : Lexeme → Option Connective
  | .keyword .AND => some .and
  | .keyword .OR  => some .or
  | _             => none

def connectiveKeyword : Connective → Keyword
  | .and => .AND
  | .or  => .OR

def condition : Parser Condition := do
  let column ← identifier
  let comparison ← comparison
  let value ← literal
  return ⟨column, comparison, value⟩

/-- An optional `WHERE`. Its first connective is the one for the whole clause; a single condition
counts as joined by `AND`. -/
def filter : Parser (Option Filter) := do
  if ← accept (.keyword .WHERE) then
    let first ← condition
    let connective := (connectiveOf (← current).lexeme).getD .and
    let conditions ← more (.keyword (connectiveKeyword connective)) (fun _ => condition)
      (← get).pending.length [first]
    let next ← current
    if (connectiveOf next.lexeme).isSome then
      throw (.mixedConnectives next.position)
    return some ⟨connective, conditions⟩
  else
    return none

def orderBy : Parser (Option String) := do
  if ← accept (.keyword .ORDER) then
    expect (.keyword .BY)
    return some (← identifier)
  else
    return none

def limit : Parser (Option Nat) := do
  if ← accept (.keyword .LIMIT) then
    return some (← take .limit (numberFrom 0))
  else
    return none

def projection : Parser Projection := do
  if ← accept (.symbol .star) then
    return .all
  else
    return .columns (← commaSeparated identifier)

/-- An assignment to a column that none of the earlier ones assigns. -/
def assignment (earlier : List (String × Value)) : Parser (String × Value) := do
  let target ← current
  let column ← identifier
  if earlier.any (·.1 = column) then
    throw (.unexpectedToken .freshColumn target)
  expect (.comparison .eq)
  return (column, ← literal)

/-! ### Statements -/

def createTable : Parser CreateTable := do
  expect (.keyword .CREATE)
  expect (.keyword .TABLE)
  let table ← identifier
  expect (.symbol .leftParen)
  let columns ← commaSeparated columnDecl
  unless ← accept (.symbol .rightParen) do
    fail .columnOrClose
  return ⟨table, columns⟩

/-- The optional column list of an `INSERT`. -/
def insertColumns : Parser (Option (List String)) := do
  if ← accept (.symbol .leftParen) then
    let columns ← commaSeparated identifier
    closeParen
    return some columns
  else
    return none

def insert : Parser Insert := do
  expect (.keyword .INSERT)
  expect (.keyword .INTO)
  let table ← identifier
  let columns ← insertColumns
  expect (.keyword .VALUES)
  let tuples ← commaSeparated (parenthesized (commaSeparated literal))
  return ⟨table, columns, tuples⟩

/-- The clauses come in one fixed order. -/
def select : Parser Select := do
  expect (.keyword .SELECT)
  let projection ← projection
  expect (.keyword .FROM)
  let table ← identifier
  let filter ← filter
  let orderBy ← orderBy
  let limit ← limit
  return ⟨projection, table, filter, orderBy, limit⟩

def update : Parser Update := do
  expect (.keyword .UPDATE)
  let table ← identifier
  expect (.keyword .SET)
  let assignments ← separatedBy (.symbol .comma) assignment
  let filter ← filter
  return ⟨table, assignments, filter⟩

def delete : Parser Delete := do
  expect (.keyword .DELETE)
  expect (.keyword .FROM)
  let table ← identifier
  let filter ← filter
  return ⟨table, filter⟩

def statement : Parser Statement := do
  match (← current).lexeme with
  | .keyword .CREATE => return .createTable (← createTable)
  | .keyword .INSERT => return .insert (← insert)
  | .keyword .SELECT => return .select (← select)
  | .keyword .UPDATE => return .update (← update)
  | .keyword .DELETE => return .delete (← delete)
  | _                => fail .statement

/-- One statement, a semicolon or none, and the end of input. -/
def script : Parser Statement := do
  let parsed ← statement
  let _ ← accept (.symbol .semicolon)
  unless (← get).atEnd do
    fail .endOfInput
  return parsed

end Parser

/-- The statement that a text holds. -/
def Statement.parse (sql : String) : Except Error Statement := do
  Parser.script.answer (.ofTokens (← Lexer.tokensOf sql))

end SqlEngine
