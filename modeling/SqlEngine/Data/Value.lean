import SqlEngine.Data.DataType
import SqlEngine.Text.Decimal

/-!
# Values

Every cell holds exactly one of these; there is no null. Values are linearly ordered: integers by
size, texts by code points, false before true, and values of different kinds by kind.
-/

namespace SqlEngine

inductive Value
  | int (n : Int64)
  | text (s : String)
  | bool (b : Bool)
  deriving DecidableEq, Inhabited, Repr

namespace Value

def kind : Value → Kind
  | .int _  => .int
  | .text _ => .text
  | .bool _ => .bool

def asInt? : Value → Option Int64
  | .int n => some n
  | _      => none

def asText? : Value → Option String
  | .text s => some s
  | _       => none

def asBool? : Value → Option Bool
  | .bool b => some b
  | _       => none

/-- The bare value, texts without quotes. -/
def display : Value → String
  | .int n      => Text.Decimal.render n
  | .text s     => s
  | .bool true  => "TRUE"
  | .bool false => "FALSE"

/-- Whether a column of the type can store the value as it is. -/
def isOf (type : DataType) (v : Value) : Bool := v.kind = type.kind

instance : Ord Value where
  compare
    | .int a,  .int b  => compare a b
    | .text a, .text b => compare a b
    | .bool a, .bool b => compare a b
    | a,       b       => compare a.kind.rank b.kind.rank

@[simp] theorem compare_int (a b : Int64) : compare (int a) (int b) = compare a b := rfl

@[simp] theorem compare_text (a b : String) : compare (text a) (text b) = compare a b := rfl

@[simp] theorem compare_bool (a b : Bool) : compare (bool a) (bool b) = compare a b := rfl

private theorem compare_of_kind_ne {a b : Value} (h : a.kind ≠ b.kind) :
    compare a b = compare a.kind.rank b.kind.rank := by
  cases a <;> cases b <;> first | rfl | exact absurd rfl h

private theorem compare_eq_lt_of_kind_lt {a b : Value} (h : a.kind.rank < b.kind.rank) :
    compare a b = .lt := by
  rw [compare_of_kind_ne fun hk => by simp [hk] at h]
  exact Nat.compare_eq_lt.mpr h

private theorem kind_rank_le_of_isLE {a b : Value} (h : (compare a b).isLE) :
    a.kind.rank ≤ b.kind.rank := by
  by_cases hk : a.kind = b.kind
  · simp [hk]
  · rw [compare_of_kind_ne hk] at h
    exact Nat.isLE_compare.mp h

instance : Std.TransOrd Value where
  eq_swap {a b} := by
    cases a <;> cases b <;> first
      | rfl
      | (simp only [compare_int, compare_text, compare_bool]; exact Std.OrientedOrd.eq_swap)
  isLE_trans {a b c} hab hbc := by
    rcases Nat.lt_or_eq_of_le
      (Nat.le_trans (kind_rank_le_of_isLE hab) (kind_rank_le_of_isLE hbc)) with h | h
    · simp [compare_eq_lt_of_kind_lt h]
    · have hb : a.kind = b.kind := Kind.rank_injective
        (Nat.le_antisymm (kind_rank_le_of_isLE hab) (h ▸ kind_rank_le_of_isLE hbc))
      have hc : a.kind = c.kind := Kind.rank_injective h
      cases a <;> cases b <;> simp only [kind, reduceCtorEq] at hb <;>
        cases c <;> simp only [kind, reduceCtorEq] at hc <;>
        simp only [compare_int, compare_text, compare_bool] at hab hbc ⊢ <;>
        exact Std.TransOrd.isLE_trans hab hbc

instance : Std.LawfulEqOrd Value where
  eq_of_compare {a b} h := by
    have hk : a.kind = b.kind := Decidable.byContradiction fun hne => by
      rw [compare_of_kind_ne hne, Nat.compare_eq_eq] at h
      exact hne (Kind.rank_injective h)
    cases a <;> cases b <;> simp_all [kind]

end Value

end SqlEngine
