import SqlEngine.Action
import SqlEngine.Storage.RowIds
import SqlEngine.Storage.SortedMap

/-!
# Value indexes

An index maps each value of a column to the rows that hold it. Its keys are in order, so that every
comparison is answered by a run of entries, or by two for `!=`. A value without rows has no entry.
-/

namespace SqlEngine

structure ValueIndex where
  kind : Kind
  entries : SortedMap Value RowIds
  deriving DecidableEq, Repr

namespace ValueIndex

def ofKind (kind : Kind) : ValueIndex := ⟨kind, .empty⟩

/-- The error of a value that is not of the indexed kind. -/
def mismatch (index : ValueIndex) (v : Value) : Error := .keyMismatch index.kind v.kind

/-- Fails on a value that is not of the indexed kind. -/
def guardKind {α : Type} (index : ValueIndex) (v : Value) (a : α) : Except Error α :=
  if v.kind = index.kind then .ok a else .error (index.mismatch v)

/-- Notes that a row holds a value. -/
def insert (index : ValueIndex) (v : Value) (id : RowId) : Except Error ValueIndex :=
  index.guardKind v
    { index with entries := index.entries.alter v fun rows => (rows.getD .empty).insert id }

/-- The rows without one of them, unless it was the last. -/
def withoutRow (id : RowId) (rows : RowIds) : Option RowIds :=
  if (rows.erase id).isEmpty then none else some (rows.erase id)

/-- Notes that a row no longer holds a value. -/
def remove (index : ValueIndex) (v : Value) (id : RowId) : Except Error ValueIndex :=
  index.guardKind v { index with entries := index.entries.alter v (·.bind (withoutRow id)) }

/-- The entries with keys that compare to a value as asked. -/
def run (index : ValueIndex) (c : Comparison) (v : Value) : List (Value × RowIds) :=
  match c with
  | .eq => SortedMap.entryOf v (index.entries.get? v)
  | .ne => index.entries.below v ++ index.entries.above v
  | .lt => index.entries.below v
  | .le => index.entries.upTo v
  | .gt => index.entries.above v
  | .ge => index.entries.onward v

/-- The rows that hold a value which compares to the given one as asked. -/
def lookup (index : ValueIndex) (c : Comparison) (v : Value) : Except Error RowIds :=
  index.guardKind v (.unions ((index.run c v).map (·.2)))

/-- Every row in the index. -/
def all (index : ValueIndex) : RowIds := .unions index.entries.values

/-- The number of values that some row holds. -/
def keyCount (index : ValueIndex) : Nat := index.entries.size

theorem mem_run {index : ValueIndex} {c : Comparison} {v : Value} {e : Value × RowIds} :
    e ∈ index.run c v ↔ e ∈ index.entries.entries ∧ c.holds e.1 v := by
  cases c with
  | eq =>
    rw [run, SortedMap.mem_entryOf, SortedMap.get?_eq_some_iff_mem, Comparison.holds]
    simp only [Comparison.accepts, Ordering.isEq_iff_eq_eq, Std.LawfulEqOrd.compare_eq_iff_eq]
    constructor
    · rintro ⟨rfl, h⟩
      exact ⟨h, rfl⟩
    · rintro ⟨h, rfl⟩
      exact ⟨rfl, h⟩
  | ne =>
    rw [run, List.mem_append, SortedMap.mem_below, SortedMap.mem_above, ← and_or_left,
      Comparison.holds]
    cases compare e.1 v <;> simp [Comparison.accepts]
  | lt => rw [run, SortedMap.mem_below]; rfl
  | le => rw [run, SortedMap.mem_upTo]; rfl
  | gt =>
    rw [run, SortedMap.mem_above, Comparison.holds]
    cases compare e.1 v <;> simp [Comparison.accepts]
  | ge =>
    rw [run, SortedMap.mem_onward, Comparison.holds]
    cases compare e.1 v <;> simp [Comparison.accepts]

end ValueIndex

end SqlEngine
