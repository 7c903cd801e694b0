import SqlEngine.Data.Comparison
import SqlEngine.Text.Decimal
import SqlEngine.Text.Quoted

/-! # The lexical units of SQL -/

namespace SqlEngine

/-- The reserved words, as SQL writes them. `NULL` is reserved, though no statement has it. -/
inductive Keyword
  | CREATE | TABLE | INSERT | INTO | VALUES | SELECT | FROM | WHERE | AND | OR | ORDER | BY | LIMIT
  | UPDATE | SET | DELETE | NULL | INT | VARCHAR | BOOLEAN | TRUE | FALSE
  deriving DecidableEq, Repr

namespace Keyword

def all : List Keyword :=
  [.CREATE, .TABLE, .INSERT, .INTO, .VALUES, .SELECT, .FROM, .WHERE, .AND, .OR, .ORDER, .BY, .LIMIT,
    .UPDATE, .SET, .DELETE, .NULL, .INT, .VARCHAR, .BOOLEAN, .TRUE, .FALSE]

def spelling : Keyword → String
  | .CREATE  => "CREATE"
  | .TABLE   => "TABLE"
  | .INSERT  => "INSERT"
  | .INTO    => "INTO"
  | .VALUES  => "VALUES"
  | .SELECT  => "SELECT"
  | .FROM    => "FROM"
  | .WHERE   => "WHERE"
  | .AND     => "AND"
  | .OR      => "OR"
  | .ORDER   => "ORDER"
  | .BY      => "BY"
  | .LIMIT   => "LIMIT"
  | .UPDATE  => "UPDATE"
  | .SET     => "SET"
  | .DELETE  => "DELETE"
  | .NULL    => "NULL"
  | .INT     => "INT"
  | .VARCHAR => "VARCHAR"
  | .BOOLEAN => "BOOLEAN"
  | .TRUE    => "TRUE"
  | .FALSE   => "FALSE"

/-- Keywords are read in any ASCII case. -/
def ofWord? (word : List Char) : Option Keyword :=
  all.find? fun k => k.spelling.toList = word.map Char.toUpper

private theorem mem_all (k : Keyword) : k ∈ all := by cases k <;> simp [all]

private theorem spelling_injective {a b : Keyword} (h : a.spelling = b.spelling) : a = b := by
  cases a <;> cases b <;> simp_all [spelling]

theorem ofWord?_eq_some_iff {word : List Char} {k : Keyword} :
    ofWord? word = some k ↔ word.map Char.toUpper = k.spelling.toList := by
  constructor
  · intro h
    simpa [eq_comm] using List.find?_some h
  · intro h
    cases hf : ofWord? word with
    | none =>
      have := List.find?_eq_none.mp hf k (mem_all k)
      simp [h] at this
    | some j =>
      have hj : j.spelling.toList = word.map Char.toUpper := by simpa using List.find?_some hf
      rw [spelling_injective (String.toList_inj.mp (hj.trans h))]

end Keyword

/-- Punctuation, the star of `SELECT *` included. -/
inductive Symbol | leftParen | rightParen | comma | semicolon | star
  deriving DecidableEq, Repr

namespace Symbol

def char : Symbol → Char
  | .leftParen  => '('
  | .rightParen => ')'
  | .comma      => ','
  | .semicolon  => ';'
  | .star       => '*'

def ofChar? : Char → Option Symbol
  | '(' => some .leftParen
  | ')' => some .rightParen
  | ',' => some .comma
  | ';' => some .semicolon
  | '*' => some .star
  | _   => none

@[simp] theorem ofChar?_char (s : Symbol) : ofChar? s.char = some s := by cases s <;> rfl

theorem eq_char_of_ofChar? {c : Char} {s : Symbol} (h : ofChar? c = some s) : c = s.char := by
  unfold ofChar? at h
  split at h <;> cases h <;> rfl

end Symbol

/-- What a token is, wherever it stands. Names keep their case. -/
inductive Lexeme
  | keyword (k : Keyword)
  | identifier (name : String)
  | number (n : Int64)
  | text (s : String)
  | comparison (c : Comparison)
  | symbol (s : Symbol)
  | endOfInput
  deriving DecidableEq, Repr

/-- The lexeme as messages name it. -/
def Lexeme.describe : Lexeme → String
  | .keyword k       => k.spelling
  | .identifier name => "identifier " ++ Text.quoteString name
  | .number n        => "number " ++ Text.Decimal.render n
  | .text s          => "string '" ++ s ++ "'"
  | .comparison c    => "'" ++ c.sign ++ "'"
  | .symbol s        => "'" ++ String.singleton s.char ++ "'"
  | .endOfInput      => "end of input"

/-- A lexeme and the number of characters before it. -/
structure Token where
  lexeme : Lexeme
  position : Nat
  deriving DecidableEq, Repr

end SqlEngine
