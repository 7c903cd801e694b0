import Mathlib.Data.List.Sort
import SqlEngine.Proofs.RowMap

/-!
# Tables answer as their row maps do

A table and a row map that have the same live rows and the same counter answer every call alike and
stay that way. Dead slots and the renumbering of slots have no counterpart in the map, so no answer
shows them.
-/

namespace SqlEngine

namespace RowStore

variable {s : RowStore} {id : RowId} {ids : RowIds} {row : List Value}
  {assignments : List (Nat × Value)}

private theorem live_mem_insert (new : List Value) :
    ⟨⟨id, true⟩, row⟩ ∈ (s.insert new).records ↔
      ⟨⟨id, true⟩, row⟩ ∈ s.records ∨ (id = s.nextId ∧ row = new) := by
  simp [insert]

theorem live_mem_update :
    ⟨⟨id, true⟩, row⟩ ∈ (s.update ids assignments).records ↔
      ∃ old, ⟨⟨id, true⟩, old⟩ ∈ s.records ∧
        row = if id ∈ ids then assignAll assignments old else old := by
  have hwhich : Slot.isAmong ids.toList ⟨id, true⟩ = decide (id ∈ ids) := by
    simp [Slot.isAmong]
  constructor
  · intro hmem
    obtain ⟨⟨slot, old⟩, hr, heq⟩ := Record.mem_edit.mp hmem
    have hslot : slot = ⟨id, true⟩ := by
      have hslots := congrArg Record.slot heq
      split at hslots <;> exact hslots
    subst hslot
    refine ⟨old, hr, ?_⟩
    have hrow := congrArg Record.row heq
    rw [hwhich] at hrow
    by_cases hid : id ∈ ids
    · simpa [hid, Record.assign] using hrow.symm
    · simpa [hid] using hrow.symm
  · intro hold
    obtain ⟨old, hr, hrow⟩ := hold
    refine Record.mem_edit.mpr ⟨_, hr, ?_⟩
    rw [hwhich, hrow]
    by_cases hid : id ∈ ids
    · simp [hid, Record.assign]
    · simp [hid]

private theorem live_mem_reclaim :
    ⟨⟨id, true⟩, row⟩ ∈ s.reclaim.records ↔ ⟨⟨id, true⟩, row⟩ ∈ s.records := by
  rw [reclaim]
  split
  · simp [compact]
  · rfl

theorem live_mem_delete :
    ⟨⟨id, true⟩, row⟩ ∈ (s.delete ids).records ↔ ⟨⟨id, true⟩, row⟩ ∈ s.records ∧ id ∉ ids := by
  rw [delete, live_mem_reclaim]
  constructor
  · intro hmem
    obtain ⟨r, hr, heq⟩ := Record.mem_edit.mp hmem
    by_cases hamong : Slot.isAmong ids.toList r.slot
    · rw [if_pos hamong] at heq
      have hlive := congrArg (·.slot.live) heq
      simp [Record.kill] at hlive
    · rw [if_neg hamong] at heq
      subst heq
      refine ⟨hr, ?_⟩
      simpa [Slot.isAmong] using hamong
  · intro hmem
    refine Record.mem_edit.mpr ⟨_, hmem.1, ?_⟩
    rw [if_neg]
    simpa [Slot.isAmong] using hmem.2

end RowStore

namespace RowMap

/-- The map has the live rows of the store and its counter. -/
structure Represents (m : RowMap) (s : RowStore) : Prop where
  nextId : m.nextId = s.nextId
  get?_eq_some_iff : ∀ id row, m.rows.get? id = some row ↔ ⟨⟨id, true⟩, row⟩ ∈ s.records

variable {m : RowMap} {s : RowStore}

private theorem represents_empty (name : String) (decls : List ColumnDecl) :
    empty.Represents ⟨name, decls, [], 0⟩ where
  nextId := rfl
  get?_eq_some_iff id row := by simp [empty]

namespace Represents

private theorem insert (h : m.Represents s) (hvalid : s.Valid) (row : List Value) :
    Represents { nextId := m.nextId + 1, rows := m.rows.insert m.nextId row } (s.insert row) where
  nextId := congrArg (· + 1) h.nextId
  get?_eq_some_iff id row' := by
    rw [SortedMap.get?_insert, h.nextId, RowStore.live_mem_insert]
    by_cases hid : id = s.nextId
    · subst hid
      have hnew : ⟨⟨s.nextId, true⟩, row'⟩ ∉ s.records := fun hmem =>
        Nat.lt_irrefl _ (hvalid.id_lt _ hmem)
      simp [hnew, eq_comm]
    · simp [hid, h.get?_eq_some_iff]

private theorem update (h : m.Represents s) (ids : RowIds) (assignments : List (Nat × Value)) :
    Represents { m with rows := changeRows (·.map (assignAll assignments)) ids.toList m.rows }
      (s.update ids assignments) where
  nextId := h.nextId
  get?_eq_some_iff id row := by
    rw [get?_changeRows ids.nodup_toList, RowStore.live_mem_update]
    by_cases hid : id ∈ ids
    · rw [if_pos (RowIds.mem_toList.mpr hid), Option.map_eq_some_iff]
      simp only [h.get?_eq_some_iff, if_pos hid]
      exact exists_congr fun old => and_congr_right fun _ => eq_comm
    · simp [hid, h.get?_eq_some_iff]

private theorem delete (h : m.Represents s) (ids : RowIds) :
    Represents { m with rows := changeRows (fun _ => none) ids.toList m.rows } (s.delete ids) where
  nextId := by
    rw [RowStore.delete, RowStore.reclaim]
    split <;> exact h.nextId
  get?_eq_some_iff id row := by
    rw [get?_changeRows ids.nodup_toList, RowStore.live_mem_delete]
    by_cases hid : id ∈ ids
    · simp [hid]
    · simp [hid, h.get?_eq_some_iff]

/-- Both list their rows in the order of the ids. -/
private theorem entries_eq (h : m.Represents s) (hvalid : s.Valid) :
    m.rows.entries = s.liveRows := by
  have hmem : ∀ e, e ∈ m.rows.entries ↔ e ∈ s.liveRows := by
    intro ⟨id, row⟩
    rw [← SortedMap.get?_eq_some_iff_mem, h.get?_eq_some_iff, RowStore.mem_liveRows]
  have hasc : m.rows.entries.Pairwise fun a b => a.1 < b.1 :=
    m.rows.ascending.imp fun hlt => Nat.compare_eq_lt.mp hlt
  have hirrefl : Std.Irrefl fun a b : RowId × List Value => a.1 < b.1 :=
    ⟨fun a => Nat.lt_irrefl a.1⟩
  have hantisymm : Std.Antisymm fun a b : RowId × List Value => a.1 < b.1 :=
    ⟨fun a b hab hba => absurd hab (Nat.lt_asymm hba)⟩
  exact hasc.eq_of_mem_iff hvalid.liveRows_ascending hmem

end Represents

end RowMap

/-! ### Reading -/

namespace Table

/-- Every way of reading the rows of the table gives what the map has. -/
structure ReadsAs (t : Table) (m : RowMap) : Prop where
  row?_eq : ∀ id, t.row? id = m.rows.get? id
  contains_eq : ∀ id, t.contains id = m.contains id
  rowIds_eq : t.rowIds.toList = m.rows.keys
  scan_eq : t.scan = m.rows.entries
  rowCount_eq : t.rowCount = m.rows.size
  nextId_eq : t.nextId = m.nextId

variable {t : Table} {s : RowStore} {m : RowMap}

private theorem Holds.readsAs (h : t.Holds s) (hm : m.Represents s) : t.ReadsAs m where
  row?_eq id := by
    apply Option.ext
    intro row
    rw [h.row?_eq_some_iff, hm.get?_eq_some_iff]
  contains_eq id := by
    rw [Bool.eq_iff_iff, h.contains_iff, RowMap.contains, Option.isSome_iff_exists]
    simp only [hm.get?_eq_some_iff]
  rowIds_eq := by rw [h.rowIds_eq, SortedMap.keys, hm.entries_eq h.valid]
  scan_eq := by rw [h.scan_eq, hm.entries_eq h.valid]
  rowCount_eq := by
    rw [h.rowCount, SortedMap.size, hm.entries_eq h.valid, RowStore.length_liveRows]
  nextId_eq := h.nextId.trans hm.nextId.symm

/-! ### Calls -/

/-- The table has the name and the columns, and the rows that the map has. -/
def Refines (name : String) (decls : List ColumnDecl) (t : Table) (m : RowMap) : Prop :=
  ∃ s : RowStore, s.name = name ∧ s.decls = decls ∧ t.Holds s ∧ m.Represents s

variable {name : String} {decls : List ColumnDecl}

private theorem Refines.readsAs (h : Refines name decls t m) : t.ReadsAs m := by
  obtain ⟨s, _, _, hs, hm⟩ := h
  exact hs.readsAs hm

/-- One call is answered alike and leaves a table and a map with the same rows. -/
private theorem Refines.respond (h : Refines name decls t m) (call : Call) :
    (call.act.outcome t).1 = (RowMap.respond name decls call m).1 ∧
      Refines name decls (call.act.outcome t).2 (RowMap.respond name decls call m).2 := by
  have hreads := h.readsAs
  have hsame := h
  obtain ⟨s, rfl, rfl, hs, hm⟩ := h
  have hcontains : t.contains = m.contains := funext hreads.contains_eq
  cases call with
  | insert row =>
    simp only [Call.act, RowMap.respond, RowMap.insert]
    cases hfault : rowFault? s.decls row with
    | some e =>
      rw [insert_of_fault hs hfault]
      exact ⟨rfl, hsame⟩
    | none =>
      obtain ⟨t', hout, ht'⟩ := insert_ok hs (rowFault?_eq_none_iff.mp hfault)
      rw [hout]
      exact ⟨congrArg _ hm.nextId.symm, s.insert row, rfl, rfl, ht', hm.insert hs.valid row⟩
  | update ids assignments =>
    simp only [Call.act, RowMap.respond, RowMap.update]
    have hfaults : updateFault? t.name t.decls t.contains ids assignments =
        updateFault? s.name s.decls m.contains ids assignments := by
      rw [hs.name, hs.decls, hcontains]
    cases hfault : updateFault? s.name s.decls m.contains ids assignments with
    | some e =>
      rw [update_of_fault (hfaults.trans hfault)]
      exact ⟨rfl, hsame⟩
    | none =>
      obtain ⟨t', hout, ht'⟩ := update_ok hs (hfaults.trans hfault)
      rw [hout]
      exact ⟨rfl, s.update ids assignments, rfl, rfl, ht', hm.update ids assignments⟩
  | delete ids =>
    simp only [Call.act, RowMap.respond, RowMap.delete]
    have hfaults : missingFault? t.contains ids = missingFault? m.contains ids := by
      rw [hcontains]
    cases hfault : missingFault? m.contains ids with
    | some e =>
      rw [delete_of_fault (hfaults.trans hfault)]
      exact ⟨rfl, hsame⟩
    | none =>
      obtain ⟨t', hout, ht'⟩ := delete_ok hs (hfaults.trans hfault)
      rw [hout]
      exact ⟨rfl, _, RowStore.name_delete ids s, RowStore.decls_delete ids s, ht', hm.delete ids⟩

private theorem refines_create (h : create name decls = .ok t) : Refines name decls t .empty :=
  ⟨_, rfl, rfl, holds_create h, RowMap.represents_empty name decls⟩

/-- Over every run of calls on a new table the answers and all readings of the table are those of a
row map, and the rows are numbered in the order in which they are inserted. -/
theorem trace_refines_rowMap (h : create name decls = .ok t) (calls : List Call) :
    List.Forall₂ (fun a b => a.1 = b.1 ∧ a.2.ReadsAs b.2)
        (trace (fun call => call.act.outcome) calls t)
        (trace (RowMap.respond name decls) calls .empty) ∧
      ∃ count, insertedIds calls ((trace (fun call => call.act.outcome) calls t).map (·.1)) =
        List.range count := by
  have hruns := forall₂_trace (R := Refines name decls)
    (fun call _ _ hcall => hcall.respond call) calls (refines_create h)
  refine ⟨hruns.imp fun a b hab => ⟨hab.1, hab.2.readsAs⟩, ?_⟩
  have hanswers : (trace (fun call => call.act.outcome) calls t).map (·.1) =
      (trace (RowMap.respond name decls) calls .empty).map (·.1) := by
    rw [← List.forall₂_eq_eq_eq, List.forall₂_map_left_iff, List.forall₂_map_right_iff]
    exact hruns.imp fun a b hab => hab.1
  obtain ⟨count, hcount⟩ := RowMap.insertedIds_trace name decls calls .empty
  exact ⟨count, by rw [hanswers, hcount, List.range_eq_range']; rfl⟩

/-- Of three rows the first and the last are removed, after which the slots are renumbered; the
second is still found under its id, and a fourth row gets the next one. -/
theorem trace_refines_rowMap_of_renumbered :
    ∃ t calls, create "t" [⟨"a", .int⟩] = .ok t ∧
      calls = [.insert [.int 4], .insert [.bool true], .insert [.int 5], .insert [.int 6],
        .delete (.ofList [0, 2]), .update (.ofList [1]) [(0, .int 8), (0, .int 7)],
        .insert [.int 9]] ∧
      List.Forall₂ (fun a b => a.1 = b.1 ∧ a.2.ReadsAs b.2)
        (trace (fun call => call.act.outcome) calls t)
        (trace (RowMap.respond "t" [⟨"a", .int⟩]) calls .empty) ∧
      ∃ count, insertedIds calls ((trace (fun call => call.act.outcome) calls t).map (·.1)) =
        List.range count :=
  ⟨.empty "t" [⟨"a", .int⟩], _, rfl, rfl, trace_refines_rowMap rfl _⟩

end Table

end SqlEngine
