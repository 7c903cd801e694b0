import SqlEngine.Data.Value

/-!
# Coercion of literals

A literal fits a column of its own kind as it is. Quoted text also fits an integer column when it is
a decimal numeral, and a boolean column when it spells `true` or `false` in any ASCII case.
-/

namespace SqlEngine

/-- What stands where a column's type asks for something else: a value of another kind, or text
that the type could have read but for what it says. -/
inductive Misfit
  | kind (k : Kind)
  | unreadableText
  deriving DecidableEq, Repr

def Misfit.describe : Misfit → String
  | .kind k         => k.name
  | .unreadableText => "non-convertible VARCHAR"

namespace Value

/-- The boolean that a text spells. -/
def readBool? (s : String) : Option Bool :=
  let folded := s.toList.map Char.toLower
  if folded = "true".toList then some true
  else if folded = "false".toList then some false
  else none

def coerce (type : DataType) (v : Value) : Except Misfit Value :=
  match type, v with
  | .int,       .int n  => .ok (.int n)
  | .int,       .text s =>
    match Text.Decimal.read? s.toList with
    | some n => .ok (.int n)
    | none   => .error .unreadableText
  | .bool,      .bool b => .ok (.bool b)
  | .bool,      .text s =>
    match readBool? s with
    | some b => .ok (.bool b)
    | none   => .error (.kind .text)
  | .varchar _, .text s => .ok (.text s)
  | _,          v       => .error (.kind v.kind)

theorem coerce_of_isOf {type : DataType} {v : Value} (h : v.isOf type) : v.coerce type = .ok v := by
  cases type <;> cases v <;> first | rfl | simp [isOf, kind, DataType.kind] at h

theorem isOf_of_coerce {type : DataType} {v w : Value} (h : v.coerce type = .ok w) :
    w.isOf type := by
  cases type <;> cases v <;> simp only [coerce] at h <;> (try split at h) <;>
    cases h <;> rfl

end Value

end SqlEngine
