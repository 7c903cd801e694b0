import Mathlib.Data.List.Dedup
import SqlEngine.Storage.ValueIndex

/-!
# What an index records

An index stands for a relation between values and rows. Inserting and removing change the relation
by one pair, and a lookup gives the rows related to any value that compares as asked.
-/

namespace SqlEngine.ValueIndex

/-- The rows that an index has under a value. -/
def rowsOf (index : ValueIndex) (v : Value) : RowIds := (index.entries.get? v).getD .empty

/-- The index has exactly the rows that hold a value under that value, and no entry without rows. -/
structure Records (index : ValueIndex) (holds : Value → RowId → Prop) : Prop where
  mem_rowsOf : ∀ v id, id ∈ index.rowsOf v ↔ holds v id
  pruned : ∀ v, index.entries.get? v ≠ some .empty

variable {index : ValueIndex} {holds : Value → RowId → Prop} {c : Comparison} {v w : Value}
  {id a : RowId}

private theorem guardKind_of_eq {α : Type} (h : v.kind = index.kind) (x : α) :
    index.guardKind v x = .ok x := if_pos h

private theorem rowsOf_of_mem {rows : RowIds} (h : (v, rows) ∈ index.entries.entries) :
    index.rowsOf v = rows := by
  rw [rowsOf, SortedMap.get?_eq_some_iff_mem.mpr h]
  rfl

theorem mem_rowsOf_iff :
    id ∈ index.rowsOf v ↔ ∃ rows, (v, rows) ∈ index.entries.entries ∧ id ∈ rows := by
  constructor
  · intro h
    cases hv : index.entries.get? v with
    | none => simp [rowsOf, hv] at h
    | some rows =>
      have hmem := SortedMap.get?_eq_some_iff_mem.mp hv
      exact ⟨rows, hmem, rowsOf_of_mem hmem ▸ h⟩
  · intro hrows
    obtain ⟨rows, hrows, h⟩ := hrows
    exact (rowsOf_of_mem hrows).symm ▸ h

theorem records_ofKind (kind : Kind) : (ofKind kind).Records fun _ _ => False where
  mem_rowsOf v id := by simp [rowsOf, ofKind]
  pruned v := by simp [ofKind]

theorem Records.congr {holds' : Value → RowId → Prop} (h : index.Records holds)
    (heq : ∀ v id, holds v id ↔ holds' v id) : index.Records holds' :=
  ⟨fun v id => (h.mem_rowsOf v id).trans (heq v id), h.pruned⟩

/-! ### Changes -/

theorem insert_ok (hkind : v.kind = index.kind) (h : index.Records holds) (id : RowId) :
    ∃ index', index.insert v id = .ok index' ∧ index'.kind = index.kind ∧
      index'.Records fun w a => (w = v ∧ a = id) ∨ holds w a := by
  refine ⟨_, guardKind_of_eq hkind _, rfl, ?_, ?_⟩
  · intro w a
    rw [← h.mem_rowsOf, rowsOf, SortedMap.get?_alter]
    by_cases hw : w = v
    · simp [hw, rowsOf]
    · simp [hw, rowsOf]
  · intro w hw
    rw [SortedMap.get?_alter] at hw
    by_cases hwv : w = v
    · rw [if_pos hwv, Option.some.injEq] at hw
      have hid : id ∈ RowIds.empty := hw ▸ RowIds.mem_insert.mpr (.inl rfl)
      exact RowIds.not_mem_empty hid
    · rw [if_neg hwv] at hw
      exact h.pruned w hw

private theorem withoutRow_ne_some_empty (id : RowId) (rows : RowIds) :
    withoutRow id rows ≠ some .empty := by
  unfold withoutRow
  split
  · simp
  · rename_i hne
    intro he
    exact hne (RowIds.isEmpty_iff.mpr (Option.some.inj he))

private theorem mem_getD_withoutRow {rows : RowIds} :
    a ∈ (withoutRow id rows).getD .empty ↔ a ∈ rows ∧ a ≠ id := by
  rw [← RowIds.mem_erase]
  unfold withoutRow
  split
  · rename_i he
    rw [RowIds.isEmpty_iff.mp he]
    rfl
  · rfl

theorem remove_ok (hkind : v.kind = index.kind) (h : index.Records holds) (id : RowId) :
    ∃ index', index.remove v id = .ok index' ∧ index'.kind = index.kind ∧
      index'.Records fun w a => holds w a ∧ ¬ (w = v ∧ a = id) := by
  refine ⟨_, guardKind_of_eq hkind _, rfl, ?_, ?_⟩
  · intro w a
    rw [← h.mem_rowsOf, rowsOf, SortedMap.get?_alter]
    by_cases hw : w = v
    · subst hw
      cases hm : index.entries.get? w with
      | none => simp [rowsOf, hm]
      | some rows => simp [rowsOf, hm, mem_getD_withoutRow]
    · simp [hw, rowsOf]
  · intro w hw
    rw [SortedMap.get?_alter] at hw
    by_cases hwv : w = v
    · rw [if_pos hwv] at hw
      obtain ⟨rows, _, hrows⟩ := Option.bind_eq_some_iff.mp hw
      exact withoutRow_ne_some_empty id rows hrows
    · rw [if_neg hwv] at hw
      exact h.pruned w hw

/-! ### Answers -/

theorem lookup_ok (hkind : v.kind = index.kind) (h : index.Records holds) (c : Comparison) :
    ∃ rows, index.lookup c v = .ok rows ∧ ∀ id, id ∈ rows ↔ ∃ w, c.holds w v ∧ holds w id := by
  refine ⟨_, guardKind_of_eq hkind _, fun id => ?_⟩
  rw [RowIds.mem_unions]
  constructor
  · intro hfound
    obtain ⟨rows, hrows, hid⟩ := hfound
    obtain ⟨⟨w, _⟩, he, rfl⟩ := List.mem_map.mp hrows
    obtain ⟨hmem, hw⟩ := mem_run.mp he
    exact ⟨w, hw, (h.mem_rowsOf w id).mp (mem_rowsOf_iff.mpr ⟨_, hmem, hid⟩)⟩
  · intro hheld
    obtain ⟨w, hw, hid⟩ := hheld
    obtain ⟨rows, hmem, hid⟩ := mem_rowsOf_iff.mp ((h.mem_rowsOf w id).mpr hid)
    exact ⟨rows, List.mem_map.mpr ⟨(w, rows), mem_run.mpr ⟨hmem, hw⟩, rfl⟩, hid⟩

theorem mem_keys_iff (h : index.Records holds) : v ∈ index.entries.keys ↔ ∃ id, holds v id := by
  constructor
  · intro hv
    obtain ⟨⟨_, rows⟩, hmem, rfl⟩ := List.mem_map.mp hv
    have hne : rows ≠ .empty := by
      intro he
      exact h.pruned _ (SortedMap.get?_eq_some_iff_mem.mpr (he ▸ hmem))
    obtain ⟨id, hid⟩ := RowIds.exists_mem_of_ne_empty hne
    exact ⟨id, (h.mem_rowsOf _ id).mp (mem_rowsOf_iff.mpr ⟨rows, hmem, hid⟩)⟩
  · intro hheld
    obtain ⟨id, hid⟩ := hheld
    obtain ⟨rows, hmem, _⟩ := mem_rowsOf_iff.mp ((h.mem_rowsOf v id).mpr hid)
    exact List.mem_map_of_mem hmem

private theorem nodup_keys (index : ValueIndex) : index.entries.keys.Nodup := by
  apply List.pairwise_map.mpr
  exact index.entries.ascending.imp fun hlt heq => by simp [heq] at hlt

/-- As many keys as there are different values held. -/
theorem keyCount_eq (h : index.Records holds) {values : List Value}
    (hvalues : ∀ v, v ∈ values ↔ ∃ id, holds v id) : index.keyCount = values.dedup.length := by
  have hperm : index.entries.keys.Perm values.dedup := by
    apply (List.perm_ext_iff_of_nodup (nodup_keys index) (List.nodup_dedup values)).mpr
    intro v
    rw [mem_keys_iff h, List.mem_dedup, hvalues]
  have hlength := hperm.length_eq
  rwa [SortedMap.keys, List.length_map] at hlength

end SqlEngine.ValueIndex
