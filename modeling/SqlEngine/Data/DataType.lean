/-! # Kinds of values and declared column types -/

namespace SqlEngine

/-- What a value is, whatever column it is stored in. -/
inductive Kind | int | text | bool
  deriving DecidableEq, Repr

namespace Kind

def name : Kind → String
  | .int  => "INT"
  | .text => "VARCHAR"
  | .bool => "BOOLEAN"

/-- Values of different kinds are ordered by their kinds' ranks. -/
def rank : Kind → Nat
  | .int  => 0
  | .text => 1
  | .bool => 2

theorem rank_injective {a b : Kind} (h : a.rank = b.rank) : a = b := by
  cases a <;> cases b <;> simp_all [rank]

end Kind

/-- The declared type of a column. A `varchar` bounds the number of characters, zero included. -/
inductive DataType
  | int
  | varchar (limit : Nat)
  | bool
  deriving DecidableEq, Repr

namespace DataType

def kind : DataType → Kind
  | .int       => .int
  | .varchar _ => .text
  | .bool      => .bool

/-- The type as SQL writes it. -/
def render : DataType → String
  | .int           => "INT"
  | .varchar limit => "VARCHAR(" ++ toString limit ++ ")"
  | .bool          => "BOOLEAN"

end DataType

end SqlEngine
