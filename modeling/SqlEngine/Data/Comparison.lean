/-! # The six comparisons of a condition -/

namespace SqlEngine

inductive Comparison | eq | ne | lt | le | gt | ge
  deriving DecidableEq, Repr

namespace Comparison

def all : List Comparison := [.eq, .ne, .lt, .le, .gt, .ge]

/-- The comparison as SQL writes it. -/
def sign : Comparison → String
  | .eq => "="
  | .ne => "!="
  | .lt => "<"
  | .le => "<="
  | .gt => ">"
  | .ge => ">="

/-- The comparison as a test on how two things are ordered. -/
def accepts : Comparison → Ordering → Bool
  | .eq, o => o.isEq
  | .ne, o => o.isNe
  | .lt, o => o.isLT
  | .le, o => o.isLE
  | .gt, o => o.isGT
  | .ge, o => o.isGE

def holds {α : Type} [Ord α] (c : Comparison) (left right : α) : Bool :=
  c.accepts (compare left right)

theorem mem_all (c : Comparison) : c ∈ all := by cases c <;> simp [all]

theorem sign_injective {a b : Comparison} (h : a.sign = b.sign) : a = b := by
  cases a <;> cases b <;> simp_all [sign]

end Comparison

end SqlEngine
