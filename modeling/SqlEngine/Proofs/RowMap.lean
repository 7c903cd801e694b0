import SqlEngine.Proofs.RowStore
import SqlEngine.Proofs.TableTransactions

/-!
# Tables as maps from ids to rows

All that the calls on a table amount to: a counter of the rows inserted so far, and a finite map
from the ids of the rows that are left to their values. There are no slots, no columns and nothing
to reclaim.
-/

namespace SqlEngine

/-- The id of the next row, and the rows by id. -/
structure RowMap where
  nextId : RowId
  rows : SortedMap RowId (List Value)
  deriving DecidableEq, Repr

namespace RowMap

def empty : RowMap := ⟨0, .empty⟩

def contains (m : RowMap) (id : RowId) : Bool := (m.rows.get? id).isSome

/-- The rows after a change to each of those listed. -/
def changeRows (change : Option (List Value) → Option (List Value)) (ids : List RowId)
    (rows : SortedMap RowId (List Value)) : SortedMap RowId (List Value) :=
  ids.foldl (fun rows id => rows.alter id change) rows

/-- Stores a row that fits the columns under the next id. -/
def insert (decls : List ColumnDecl) (row : List Value) (m : RowMap) :
    Except Error Nat × RowMap :=
  match rowFault? decls row with
  | some e => (.error e, m)
  | none   => (.ok m.nextId, { nextId := m.nextId + 1, rows := m.rows.insert m.nextId row })

/-- Makes the assignments, in order, to each of the rows. -/
def update (table : String) (decls : List ColumnDecl) (ids : RowIds)
    (assignments : List (Nat × Value)) (m : RowMap) : Except Error Nat × RowMap :=
  match updateFault? table decls m.contains ids assignments with
  | some e => (.error e, m)
  | none   =>
    (.ok ids.size, { m with rows := changeRows (·.map (assignAll assignments)) ids.toList m.rows })

/-- Removes each of the rows. -/
def delete (ids : RowIds) (m : RowMap) : Except Error Nat × RowMap :=
  match missingFault? m.contains ids with
  | some e => (.error e, m)
  | none   => (.ok ids.size, { m with rows := changeRows (fun _ => none) ids.toList m.rows })

/-- What a call on a table of the given name and columns answers, and the map after it. -/
def respond (table : String) (decls : List ColumnDecl) :
    Table.Call → RowMap → Except Error Nat × RowMap
  | .insert row             => insert decls row
  | .update ids assignments => update table decls ids assignments
  | .delete ids             => delete ids

variable {m : RowMap} {change : Option (List Value) → Option (List Value)} {id : RowId}
  {row : List Value}

theorem get?_changeRows {ids : List RowId} (hnodup : ids.Nodup)
    (rows : SortedMap RowId (List Value)) :
    (changeRows change ids rows).get? id =
      if id ∈ ids then change (rows.get? id) else rows.get? id := by
  induction ids generalizing rows with
  | nil => simp [changeRows]
  | cons first rest ih =>
    obtain ⟨hfirst, hrest⟩ := List.nodup_cons.mp hnodup
    have hstep : changeRows change (first :: rest) rows =
        changeRows change rest (rows.alter first change) := rfl
    rw [hstep, ih hrest, SortedMap.get?_alter]
    by_cases hid : id = first
    · subst hid
      simp [hfirst]
    · simp [hid]

end RowMap

/-! ### The ids of new rows -/

/-- The ids that calls which insert were answered with. -/
def insertedIds (calls : List Table.Call) (answers : List (Except Error Nat)) : List RowId :=
  (calls.zip answers).filterMap fun
    | (.insert _, .ok id) => some id
    | _                   => none

namespace RowMap

/-- The counter gives out the ids one after the other, and only for rows that fit. -/
theorem insertedIds_trace (table : String) (decls : List ColumnDecl) (calls : List Table.Call)
    (m : RowMap) :
    ∃ count, insertedIds calls ((trace (respond table decls) calls m).map (·.1)) =
      List.range' m.nextId count := by
  induction calls generalizing m with
  | nil => exact ⟨0, rfl⟩
  | cons call later ih =>
    obtain ⟨count, hcount⟩ := ih (respond table decls call m).2
    rw [trace, List.map_cons, insertedIds, List.zip_cons_cons, List.filterMap_cons]
    rw [insertedIds] at hcount
    cases call with
    | insert row =>
      simp only [respond, insert] at hcount ⊢
      cases hfault : rowFault? decls row with
      | some e =>
        rw [hfault] at hcount
        exact ⟨count, hcount⟩
      | none =>
        rw [hfault] at hcount
        refine ⟨count + 1, ?_⟩
        rw [List.range'_succ]
        exact congrArg _ hcount
    | update ids assignments =>
      refine ⟨count, hcount.trans ?_⟩
      rw [respond, update]
      split <;> rfl
    | delete ids =>
      refine ⟨count, hcount.trans ?_⟩
      rw [respond, delete]
      split <;> rfl

end RowMap

end SqlEngine
