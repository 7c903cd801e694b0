import Mathlib.Data.Finset.Card
import Mathlib.Data.Finset.Dedup
import SqlEngine.Proofs.ActionRuns
import SqlEngine.Proofs.IndexContents

/-!
# Indexes as sets of pairs

All that the calls on an index amount to: a finite set of pairs of a value and a row, to which a
call adds one pair or from which it takes one away. A row may stand under several values.
-/

namespace SqlEngine

/-- A call on an index. -/
inductive ValueIndex.Call
  | insert (v : Value) (id : RowId)
  | remove (v : Value) (id : RowId)

namespace ValueIndex.Call

def act : Call → Action ValueIndex Unit
  | .insert v id => Action.change (·.insert v id)
  | .remove v id => Action.change (·.remove v id)

end ValueIndex.Call

/-! ### The reference -/

namespace IndexPairs

variable {kind : Kind} {v w : Value} {id : RowId} {calls : List ValueIndex.Call}
  {call : ValueIndex.Call}

/-- Fails on a value that is not of the indexed kind, and else goes on to another set. -/
def ifOfKind (kind : Kind) (v : Value) (next pairs : Finset (Value × RowId)) :
    Except Error Unit × Finset (Value × RowId) :=
  if v.kind = kind then (.ok (), next) else (.error (.keyMismatch kind v.kind), pairs)

/-- What a call on an index of the kind answers, and the set after it. -/
def respond (kind : Kind) (call : ValueIndex.Call) (pairs : Finset (Value × RowId)) :
    Except Error Unit × Finset (Value × RowId) :=
  match call with
  | .insert v id => ifOfKind kind v (insert (v, id) pairs) pairs
  | .remove v id => ifOfKind kind v (pairs.erase (v, id)) pairs

/-- The set that calls on a new index of the kind leave. -/
def left (kind : Kind) (calls : List ValueIndex.Call) : Finset (Value × RowId) :=
  calls.foldl (fun pairs call => (respond kind call pairs).2) ∅

/-- Some call inserts the pair, and no later one removes it. -/
def Stands (calls : List ValueIndex.Call) (v : Value) (id : RowId) : Prop :=
  ∃ before after, calls = before ++ .insert v id :: after ∧ .remove v id ∉ after

private theorem left_concat (kind : Kind) (calls : List ValueIndex.Call) (call : ValueIndex.Call) :
    left kind (calls ++ [call]) = (respond kind call (left kind calls)).2 := by
  rw [left, List.foldl_append, List.foldl_cons, List.foldl_nil, left]

private theorem stands_concat :
    Stands (calls ++ [call]) v id ↔
      call = .insert v id ∨ Stands calls v id ∧ call ≠ .remove v id := by
  constructor
  · rintro ⟨before, after, hcalls, hremove⟩
    rcases List.eq_nil_or_concat after with rfl | ⟨after, last, rfl⟩
    · exact .inl (List.singleton_inj.mp (List.append_inj' hcalls rfl).2)
    · rw [List.concat_eq_append] at hcalls hremove
      rw [← List.cons_append, ← List.append_assoc] at hcalls
      obtain ⟨rfl, hlast⟩ := List.append_inj' hcalls rfl
      obtain rfl := List.singleton_inj.mp hlast
      rw [List.mem_append, not_or] at hremove
      exact .inr ⟨⟨before, after, rfl, hremove.1⟩, fun heq => hremove.2 (by simp [heq])⟩
  · rintro (rfl | ⟨⟨before, after, rfl, hremove⟩, hcall⟩)
    · exact ⟨calls, [], rfl, List.not_mem_nil⟩
    · refine ⟨before, after ++ [call], by simp, ?_⟩
      rw [List.mem_append, List.mem_singleton, not_or]
      exact ⟨hremove, hcall.symm⟩

private theorem mem_respond_iff {pairs : Finset (Value × RowId)} :
    (v, id) ∈ (respond kind call pairs).2 ↔
      call = .insert v id ∧ v.kind = kind ∨
        (v, id) ∈ pairs ∧ ¬ (call = .remove v id ∧ v.kind = kind) := by
  cases call with
  | insert w a =>
    rw [respond, ifOfKind]
    by_cases hw : w.kind = kind
    · rw [if_pos hw, Finset.mem_insert]
      grind
    · rw [if_neg hw]
      grind
  | remove w a =>
    rw [respond, ifOfKind]
    by_cases hw : w.kind = kind
    · rw [if_pos hw, Finset.mem_erase]
      grind
    · rw [if_neg hw]
      grind

/-- The set has the pairs of the kind that some call inserted and none has removed since. -/
private theorem mem_left_iff : (v, id) ∈ left kind calls ↔ v.kind = kind ∧ Stands calls v id := by
  induction calls using List.reverseRecOn with
  | nil => simp [left, Stands]
  | append_singleton calls call ih =>
    rw [left_concat, mem_respond_iff, ih, stands_concat]
    tauto

end IndexPairs

namespace ValueIndex

variable {index : ValueIndex} {kind : Kind} {pairs : Finset (Value × RowId)}
  {holds : Value → RowId → Prop}

/-- Every reading of an index is that of a set of pairs. -/
structure ReadsAs (index : ValueIndex) (kind : Kind) (pairs : Finset (Value × RowId)) : Prop where
  lookup_ok : ∀ c v, v.kind = kind → ∃ rows, index.lookup c v = .ok rows ∧
    ∀ id, id ∈ rows ↔ ∃ k, (k, id) ∈ pairs ∧ c.holds k v
  lookup_mismatch : ∀ c v, v.kind ≠ kind →
    index.lookup c v = .error (.keyMismatch kind v.kind)
  mem_all : ∀ id, id ∈ index.all ↔ ∃ k, (k, id) ∈ pairs
  mem_keys : ∀ v, v ∈ index.entries.keys ↔ ∃ id, (v, id) ∈ pairs
  keyCount_eq : index.keyCount = (pairs.image Prod.fst).card

private theorem mem_all_iff (h : index.Records holds) {id : RowId} :
    id ∈ index.all ↔ ∃ v, holds v id := by
  rw [all, RowIds.mem_unions]
  constructor
  · rintro ⟨rows, hrows, hid⟩
    obtain ⟨⟨v, _⟩, hmem, rfl⟩ := List.mem_map.mp hrows
    exact ⟨v, (h.mem_rowsOf v id).mp (mem_rowsOf_iff.mpr ⟨_, hmem, hid⟩)⟩
  · rintro ⟨v, hv⟩
    obtain ⟨rows, hmem, hid⟩ := mem_rowsOf_iff.mp ((h.mem_rowsOf v id).mpr hv)
    exact ⟨rows, List.mem_map.mpr ⟨(v, rows), hmem, rfl⟩, hid⟩

/-- The index is of the kind and has the pairs of the set. -/
structure Holds (index : ValueIndex) (kind : Kind) (pairs : Finset (Value × RowId)) : Prop where
  kind_eq : index.kind = kind
  records : index.Records fun v id => (v, id) ∈ pairs

private theorem holds_ofKind (kind : Kind) : (ofKind kind).Holds kind ∅ where
  kind_eq := rfl
  records := (records_ofKind kind).congr fun v id => by simp

private theorem guardKind_of_ne {α : Type} {v : Value} (h : v.kind ≠ index.kind) (a : α) :
    index.guardKind v a = .error (.keyMismatch index.kind v.kind) := if_neg h

namespace Holds

private theorem readsAs (h : index.Holds kind pairs) : index.ReadsAs kind pairs where
  lookup_ok c v hv := by
    obtain ⟨rows, hrows, hmem⟩ := ValueIndex.lookup_ok (hv.trans h.kind_eq.symm) h.records c
    refine ⟨rows, hrows, fun id => (hmem id).trans ?_⟩
    simp only [and_comm]
  lookup_mismatch c v hv := by
    rw [lookup, guardKind_of_ne (h.kind_eq.symm ▸ hv), h.kind_eq]
  mem_all _ := mem_all_iff h.records
  mem_keys _ := mem_keys_iff h.records
  keyCount_eq := by
    have hvalues : ∀ v, v ∈ (pairs.image Prod.fst).toList ↔ ∃ id, (v, id) ∈ pairs := by simp
    rw [ValueIndex.keyCount_eq h.records hvalues, (Finset.nodup_toList _).dedup,
      Finset.length_toList]

/-- A change that takes the values of the index's kind and refuses the others. -/
private theorem outcome_change (h : index.Holds kind pairs)
    {next : ValueIndex → Except Error ValueIndex} {v : Value} {pairs' : Finset (Value × RowId)}
    (hok : v.kind = index.kind → ∃ index', next index = .ok index' ∧ index'.kind = index.kind ∧
      index'.Records fun w id => (w, id) ∈ pairs')
    (hmismatch : v.kind ≠ index.kind → next index = .error (.keyMismatch index.kind v.kind)) :
    ((Action.change next).outcome index).1 = (IndexPairs.ifOfKind kind v pairs' pairs).1 ∧
      ((Action.change next).outcome index).2.Holds kind
        (IndexPairs.ifOfKind kind v pairs' pairs).2 := by
  rw [Action.outcome_change, IndexPairs.ifOfKind, ← h.kind_eq]
  by_cases hv : v.kind = index.kind
  · obtain ⟨index', hnext, hk, hrecords⟩ := hok hv
    rw [hnext, if_pos hv]
    exact ⟨rfl, hk, hrecords⟩
  · rw [hmismatch hv, if_neg hv]
    exact ⟨rfl, rfl, h.records⟩

/-- A call gets the answer that the set gives, and leaves what the set then is. -/
private theorem respond (h : index.Holds kind pairs) (call : Call) :
    (call.act.outcome index).1 = (IndexPairs.respond kind call pairs).1 ∧
      (call.act.outcome index).2.Holds kind (IndexPairs.respond kind call pairs).2 := by
  cases call with
  | insert v id =>
    refine h.outcome_change (fun hv => ?_) fun hv => guardKind_of_ne hv _
    obtain ⟨index', hinsert, hk, hrecords⟩ := insert_ok hv h.records id
    exact ⟨index', hinsert, hk, hrecords.congr fun w a => by simp⟩
  | remove v id =>
    refine h.outcome_change (fun hv => ?_) fun hv => guardKind_of_ne hv _
    obtain ⟨index', hremove, hk, hrecords⟩ := remove_ok hv h.records id
    exact ⟨index', hremove, hk, hrecords.congr fun w a => by simp [and_comm]⟩

end Holds

/-- Over every run of calls on a new index, of whatever type, the answers and all readings of the
index are those of a set of pairs, and that set has the pairs inserted and not since removed. -/
theorem trace_refines_pairs (type : DataType) (calls : List Call) :
    List.Forall₂ (fun a b => a.1 = b.1 ∧ a.2.ReadsAs type.kind b.2)
        (trace (fun call => call.act.outcome) calls (ofKind type.kind))
        (trace (IndexPairs.respond type.kind) calls ∅) ∧
      ∀ v id, (v, id) ∈ IndexPairs.left type.kind calls ↔
        v.kind = type.kind ∧ IndexPairs.Stands calls v id := by
  refine ⟨?_, fun v id => IndexPairs.mem_left_iff⟩
  have hruns := forall₂_trace (R := fun index pairs => Holds index type.kind pairs)
    (fun call _ _ h => h.respond call) calls (holds_ofKind type.kind)
  exact hruns.imp fun a b hab => ⟨hab.1, hab.2.readsAs⟩

end ValueIndex

end SqlEngine
