import SqlEngine.Data.Coercion
import SqlEngine.Sql.Statement
import SqlEngine.Sql.Token

/-!
# Errors

Every failure is a value that names its cause; its wording is given once, by `Error.message`.
-/

namespace SqlEngine

/-- What is wrong with a literal of which the first character is in order. -/
inductive LiteralFault
  | unterminatedText
  | integer (literal : String) (overflow : Text.Decimal.Overflow)
  deriving DecidableEq, Repr

def LiteralFault.describe : LiteralFault → String
  | .unterminatedText          => "unterminated string"
  | .integer literal .tooLarge =>
    "integer literal " ++ literal ++ ": number too large to fit in target type"
  | .integer literal .tooSmall =>
    "integer literal " ++ literal ++ ": number too small to fit in target type"

/-- What the grammar asks for at a place. -/
inductive Expectation
  | statement
  | identifier
  | literal
  | columnType
  | varcharLimit
  | columnOrClose
  | freshColumn
  | comparison
  | limit
  | endOfInput
  | exactly (lexeme : Lexeme)
  deriving DecidableEq, Repr

def Expectation.describe : Expectation → String
  | .statement      => "CREATE, INSERT, SELECT, UPDATE or DELETE"
  | .identifier     => "identifier"
  | .literal        => "literal"
  | .columnType     => "column type"
  | .varcharLimit   => "positive VARCHAR length"
  | .columnOrClose  => "',' or ')'"
  | .freshColumn    => "column assigned once"
  | .comparison     => "comparison operator"
  | .limit          => "non-negative LIMIT"
  | .endOfInput     => "end of input"
  | .exactly lexeme => lexeme.describe

inductive Error
  | unexpectedCharacter (c : Char) (position : Nat)
  | malformedLiteral (fault : LiteralFault) (position : Nat)
  | unexpectedToken (expected : Expectation) (found : Token)
  | notAQuery (form : StatementForm)
  | mixedConnectives (position : Nat)
  | unknownTable (table : String)
  | duplicateTable (table : String)
  | unknownColumn (table column : String)
  | duplicateColumn (table column : String)
  | columnCountMismatch (expected found : Nat)
  | typeMismatch (column : String) (expected : DataType) (found : Misfit)
  | columnOutOfRange (table : String) (position : Nat)
  | keyMismatch (expected found : Kind)
  | unknownRow (id : Nat)
  | textTooLong (column : String) (limit length : Nat)
  deriving DecidableEq, Repr

/-- The part of the work in which an error arises. -/
inductive Stage | lexing | parsing | running
  deriving DecidableEq, Repr

namespace Error

def stage : Error → Stage
  | .unexpectedCharacter .. | .malformedLiteral ..               => .lexing
  | .unexpectedToken .. | .notAQuery .. | .mixedConnectives ..   => .parsing
  | _                                                            => .running

open Text (quoteChar quoteString) in
def message : Error → String
  | .unexpectedCharacter c position =>
    "lex error: unexpected character " ++ quoteChar c ++ " at position " ++ toString position
  | .malformedLiteral fault position =>
    "lex error: " ++ fault.describe ++ " at position " ++ toString position
  | .unexpectedToken expected found =>
    "parse error: expected " ++ expected.describe ++ ", found " ++ found.lexeme.describe
      ++ " at position " ++ toString found.position
  | .notAQuery form =>
    "parse error: expected SELECT, found " ++ form.name ++ " at position 0"
  | .mixedConnectives position =>
    "parse error: AND and OR cannot be mixed in one WHERE clause (position "
      ++ toString position ++ ")"
  | .unknownTable table =>
    "table " ++ quoteString table ++ " does not exist"
  | .duplicateTable table =>
    "table " ++ quoteString table ++ " already exists"
  | .unknownColumn table column =>
    "column " ++ quoteString column ++ " does not exist in table " ++ quoteString table
  | .duplicateColumn table column =>
    "column " ++ quoteString column ++ " appears more than once for table " ++ quoteString table
  | .columnCountMismatch expected found =>
    "expected " ++ toString expected ++ " values, found " ++ toString found
  | .typeMismatch column expected found =>
    "type mismatch on column " ++ quoteString column ++ ": expected " ++ expected.render
      ++ ", found " ++ found.describe
  | .columnOutOfRange table position =>
    "table " ++ quoteString table ++ " has no column at position " ++ toString position
  | .keyMismatch expected found =>
    "index key type mismatch: expected " ++ expected.name ++ ", found " ++ found.name
  | .unknownRow id =>
    "row " ++ toString id ++ " does not exist"
  | .textTooLong column limit length =>
    "value for column " ++ quoteString column ++ " is " ++ toString length
      ++ " characters long, limit is " ++ toString limit

end Error

end SqlEngine
