import SqlEngine.Proofs.FieldRecords

/-!
# Columns as lists

All that the calls on a column amount to: a list of values of its type that grows at the end, is
changed in place, and loses the slots that a mask does not keep. The three layouts of the cells
cannot be told apart.
-/

namespace SqlEngine

/-- A call on a column. -/
inductive Column.Call
  | push (v : Value)
  | set (slot : Nat) (v : Value)
  | retain (keep : List Bool)

namespace Column.Call

def act : Column.Call → Action Column Unit
  | .push v      => Action.change (·.push v)
  | .set slot v  => Action.change (·.set slot v)
  | .retain keep => modify (·.keepFlagged keep)

end Column.Call

/-! ### The reference -/

namespace ValueList

/-- The slots of a list of the given length that a mask keeps, in order. A slot past the end of the
mask is not kept. -/
def keptSlots (keep : List Bool) (length : Nat) : List Nat :=
  (List.range length).filter fun slot => keep[slot]?.getD false

/-- Fails on a value that is not of the declared type, and else goes on to another list. -/
def ifOfType (decl : ColumnDecl) (v : Value) (next l : List Value) :
    Except Error Unit × List Value :=
  if v.kind = decl.type.kind then (.ok (), next)
  else (.error (.typeMismatch decl.name decl.type (.kind v.kind)), l)

/-- What a call on a column declared like this answers, and the list after it. -/
def respond (decl : ColumnDecl) (call : Column.Call) (l : List Value) :
    Except Error Unit × List Value :=
  match call with
  | .push v      => ifOfType decl v (l ++ [v]) l
  | .set slot v  =>
    if l.length ≤ slot then (.error (.unknownRow slot), l) else ifOfType decl v (l.set slot v) l
  | .retain keep => (.ok (), (keptSlots keep l.length).filterMap (l[·]?))

private theorem keptSlots_succ (keep : List Bool) (length : Nat) :
    keptSlots keep (length + 1) =
      (if keep.head?.getD false then [0] else []) ++
        (keptSlots keep.tail length).map Nat.succ := by
  rw [keptSlots, List.range_succ_eq_map, List.filter_cons, List.filter_map, keptSlots]
  cases keep with
  | nil => simp
  | cons kept keep => cases kept <;> simp [Function.comp_def]

/-- Pairing the values off with the mask keeps those in the slots that the mask keeps. -/
private theorem filterMap_zip_eq (keep : List Bool) (l : List Value) :
    ((l.zip keep).filterMap fun (v, kept) => if kept then some v else none) =
      (keptSlots keep l.length).filterMap (l[·]?) := by
  induction l generalizing keep with
  | nil => rfl
  | cons v l ih =>
    rw [List.length_cons, keptSlots_succ, List.filterMap_append, List.filterMap_map]
    cases keep with
    | nil => simp [keptSlots]
    | cons kept keep => cases kept <;> simp [ih]

end ValueList

namespace Column

variable {column : Column} {decl : ColumnDecl} {l : List Value}

/-- The column is declared like this and has the values of the list, in its own layout. -/
structure Holds (column : Column) (decl : ColumnDecl) (l : List Value) : Prop where
  decl_eq : column.decl = decl
  kind_eq : column.cells.kind = decl.type.kind
  toList_eq : column.toList = l

/-- Every reading of a column is that of a list of values of its type. -/
structure ReadsAs (column : Column) (decl : ColumnDecl) (l : List Value) : Prop where
  decl_eq : column.decl = decl
  kind_of_mem : ∀ v ∈ l, v.kind = decl.type.kind
  toList_eq : column.toList = l
  size_eq : column.size = l.length
  isEmpty_eq : column.isEmpty = l.isEmpty
  get?_eq : ∀ slot, column.get? slot = l[slot]?

private theorem kind_keepFlagged (keep : List Bool) (cells : Cells) :
    (cells.keepFlagged keep).kind = cells.kind := by
  cases cells <;> rfl

private theorem push_of_kind_ne {v : Value} (h : v.kind ≠ column.cells.kind) :
    column.push v = .error (column.mismatch v) := by
  have hnone : column.cells.push? v = none := by
    rwa [← Option.not_isSome_iff_eq_none, Cells.isSome_push?_iff]
  rw [push, hnone]

private theorem set_of_kind_ne {slot : Nat} {v : Value} (hslot : slot < column.size)
    (h : v.kind ≠ column.cells.kind) : column.set slot v = .error (column.mismatch v) := by
  have hnone : column.cells.set? slot v = none := by
    rwa [← Option.not_isSome_iff_eq_none, Cells.isSome_set?_iff]
  rw [set, if_neg (Nat.not_le.mpr hslot), hnone]

namespace Holds

private theorem size_eq (h : column.Holds decl l) : column.size = l.length := by
  rw [← h.toList_eq, toList, Cells.length_toList, size]

private theorem readsAs (h : column.Holds decl l) : column.ReadsAs decl l where
  decl_eq := h.decl_eq
  kind_of_mem v hv := by
    rw [← h.toList_eq] at hv
    exact (Cells.kind_eq_of_mem hv).trans h.kind_eq
  toList_eq := h.toList_eq
  size_eq := h.size_eq
  isEmpty_eq := by rw [isEmpty, h.size_eq]; cases l <;> rfl
  get?_eq slot := by rw [get?, Cells.get?_eq_getElem?, ← h.toList_eq, toList]

private theorem mismatch_eq (h : column.Holds decl l) (v : Value) :
    column.mismatch v = .typeMismatch decl.name decl.type (.kind v.kind) := by
  rw [mismatch, ColumnDecl.mismatch, h.decl_eq]

/-- A change that takes the values of the column's type and refuses the others. -/
private theorem outcome_change (h : column.Holds decl l) {next : Column → Except Error Column}
    {v : Value} {l' : List Value}
    (hok : v.kind = column.cells.kind → ∃ column', next column = .ok column' ∧
      column'.decl = column.decl ∧ column'.cells.kind = column.cells.kind ∧ column'.toList = l')
    (hmismatch : v.kind ≠ column.cells.kind → next column = .error (column.mismatch v)) :
    ((Action.change next).outcome column).1 = (ValueList.ifOfType decl v l' l).1 ∧
      ((Action.change next).outcome column).2.Holds decl (ValueList.ifOfType decl v l' l).2 := by
  rw [Action.outcome_change, ValueList.ifOfType, ← h.kind_eq]
  by_cases hkind : v.kind = column.cells.kind
  · obtain ⟨column', hnext, hdecl, hk, hlist⟩ := hok hkind
    rw [hnext, if_pos hkind]
    exact ⟨rfl, hdecl.trans h.decl_eq, hk.trans h.kind_eq, hlist⟩
  · rw [hmismatch hkind, if_neg hkind]
    exact ⟨congrArg _ (h.mismatch_eq v), h⟩

private theorem push (h : column.Holds decl l) (v : Value) :
    ((Action.change (·.push v)).outcome column).1 = (ValueList.respond decl (.push v) l).1 ∧
      ((Action.change (·.push v)).outcome column).2.Holds decl
        (ValueList.respond decl (.push v) l).2 := by
  refine h.outcome_change (fun hkind => ?_) push_of_kind_ne
  rw [← h.toList_eq]
  exact push_ok hkind

private theorem set (h : column.Holds decl l) (slot : Nat) (v : Value) :
    ((Action.change (·.set slot v)).outcome column).1 = (ValueList.respond decl (.set slot v) l).1 ∧
      ((Action.change (·.set slot v)).outcome column).2.Holds decl
        (ValueList.respond decl (.set slot v) l).2 := by
  rw [ValueList.respond, ← h.size_eq]
  by_cases hslot : column.size ≤ slot
  · rw [Action.outcome_change, Column.set, if_pos hslot, if_pos hslot]
    exact ⟨rfl, h⟩
  · rw [if_neg hslot]
    have hlt := Nat.not_le.mp hslot
    refine h.outcome_change (fun hkind => ?_) (set_of_kind_ne hlt)
    rw [← h.toList_eq]
    exact set_ok hlt hkind

private theorem retain (h : column.Holds decl l) (keep : List Bool) :
    (column.keepFlagged keep).Holds decl
      ((ValueList.keptSlots keep l.length).filterMap (l[·]?)) where
  decl_eq := h.decl_eq
  kind_eq := (kind_keepFlagged keep column.cells).trans h.kind_eq
  toList_eq := by
    rw [← ValueList.filterMap_zip_eq, ← h.toList_eq]
    exact Cells.toList_keepFlagged keep column.cells

/-- A call gets the answer that the list gives, and leaves what the list then is. -/
private theorem respond (h : column.Holds decl l) (call : Call) :
    (call.act.outcome column).1 = (ValueList.respond decl call l).1 ∧
      (call.act.outcome column).2.Holds decl (ValueList.respond decl call l).2 := by
  cases call with
  | push v => exact h.push v
  | set slot v => exact h.set slot v
  | retain keep => exact ⟨rfl, h.retain keep⟩

end Holds

private theorem holds_ofDecl (decl : ColumnDecl) : (ofDecl decl).Holds decl [] where
  decl_eq := rfl
  kind_eq := Cells.kind_ofKind _
  toList_eq := Cells.toList_ofKind _

/-- Over every run of calls on a new column, of whatever type, the answers and all readings of the
column are those of a list. -/
theorem trace_refines_list (decl : ColumnDecl) (calls : List Call) :
    List.Forall₂ (fun a b => a.1 = b.1 ∧ a.2.ReadsAs decl b.2)
      (trace (fun call => call.act.outcome) calls (ofDecl decl))
      (trace (ValueList.respond decl) calls []) := by
  have hruns := forall₂_trace (R := fun column l => Holds column decl l)
    (fun call _ _ h => h.respond call) calls (holds_ofDecl decl)
  exact hruns.imp fun a b hab => ⟨hab.1, hab.2.readsAs⟩

end Column

end SqlEngine
