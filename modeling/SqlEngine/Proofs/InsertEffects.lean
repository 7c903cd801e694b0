import SqlEngine.Proofs.Bindings

/-!
# What insertions do

An insertion binds all of its tuples before it stores the first one. Then it stores the rows one after
the other, behind those that are there, so a list of tuples amounts to its tuples inserted one by one.
-/

namespace SqlEngine

/-! ### Several rows in a row store -/

namespace RowStore

private theorem nextId_foldl_insert (rows : List (List Value)) (s : RowStore) :
    (rows.foldl (fun s row => s.insert row) s).nextId = s.nextId + rows.length := by
  induction rows generalizing s with
  | nil => rfl
  | cons row rest ih =>
    rw [List.foldl_cons, ih, List.length_cons, ← Nat.add_assoc, Nat.add_right_comm]
    rfl

private theorem records_foldl_insert (rows : List (List Value)) (s : RowStore) :
    (rows.foldl (fun s row => s.insert row) s).records =
      s.records ++ ((List.range' s.nextId rows.length).zip rows).map
        fun (id, row) => ⟨⟨id, true⟩, row⟩ := by
  induction rows generalizing s with
  | nil => simp
  | cons row rest ih =>
    rw [List.foldl_cons, ih, insert, List.length_cons, List.range'_succ, List.zip_cons_cons,
      List.map_cons, List.append_assoc]
    rfl

private theorem slots_foldl_insert (rows : List (List Value)) (s : RowStore) :
    (rows.foldl (fun s row => s.insert row) s).slots =
      s.slots ++ (List.range' s.nextId rows.length).map (⟨·, true⟩) := by
  have hids : ((List.range' s.nextId rows.length).zip rows).map (·.1) =
      List.range' s.nextId rows.length := List.map_fst_zip (Nat.le_of_eq List.length_range')
  rw [slots, records_foldl_insert, List.map_append, List.map_map]
  conv_rhs => rw [← hids, List.map_map]
  rfl

private theorem liveRows_foldl_insert (rows : List (List Value)) (s : RowStore) :
    (rows.foldl (fun s row => s.insert row) s).liveRows =
      s.liveRows ++ (List.range' s.nextId rows.length).zip rows := by
  rw [liveRows, records_foldl_insert, List.filterMap_append, List.filterMap_map]
  congr 1
  exact List.filterMap_some

end RowStore

namespace Table

variable {t t' : Table} {s : RowStore} {columns : Option (List String)}
  {tuples rows : List (List Value)} {enforce : Bool} {ids : List RowId}

/-! ### Rows that are added -/

/-- What an insertion makes of a table. Each tuple is a new row, with the next id, and what was there
stays. -/
structure InsertedInto (t : Table) (columns : Option (List String)) (tuples : List (List Value))
    (ids : List RowId) (t' : Table) : Prop where
  name_eq : t'.name = t.name
  decls_eq : t'.decls = t.decls
  ids_eq : ids = List.range' t.nextId tuples.length
  nextId_eq : t'.nextId = t.nextId + tuples.length
  rowCount_eq : t'.rowCount = t.rowCount + tuples.length
  slotIds_eq : t'.slotIds.toList = t.slotIds.toList ++ ids
  live_eq : t'.live.toList = t.live.toList ++ List.replicate ids.length true
  rowAt?_eq : ∀ slot < t.slotCount, t'.rowAt? slot = t.rowAt? slot
  scan_eq : ∃ rows, t'.scan = t.scan ++ ids.zip rows ∧
    List.Forall₂ (Binding.BoundRow t.decls (t.namesFor columns)) tuples rows
  indexed : t'.Indexed

/-- Whether tuples are accepted is a matter of each of them. -/
private theorem accepts_iff_forall_singleton (hne : tuples ≠ []) :
    t.Accepts columns tuples enforce ↔ ∀ tuple ∈ tuples, t.Accepts columns [tuple] enforce := by
  constructor
  · intro h tuple htuple
    refine ⟨h.names, ?_, ?_⟩
    · simpa using h.widths tuple htuple
    · simpa using h.values tuple htuple
  · intro h
    obtain ⟨first, hfirst⟩ := List.exists_mem_of_ne_nil tuples hne
    refine ⟨(h first hfirst).names, fun tuple htuple => ?_, fun tuple htuple => ?_⟩
    · exact (h tuple htuple).widths tuple List.mem_cons_self
    · exact (h tuple htuple).values tuple List.mem_cons_self

namespace Holds

/-- An insertion that succeeds has bound its tuples. -/
private theorem outcome_insertTuples_eq_ok_iff (h : t.Holds s) :
    (insertTuples columns tuples enforce).outcome t = (.ok ids, t') ↔
      ∃ rows, t.relation.bind columns tuples enforce = .ok rows ∧
        ids = List.range' s.nextId rows.length ∧
        t'.Holds (rows.foldl (fun s row => s.insert row) s) := by
  simp only [bind_relation]
  constructor
  · intro hrun
    obtain ⟨rows, hrows, _⟩ := Action.outcome_observe_bind_eq_ok_iff.mp hrun
    obtain ⟨t'', hout, h''⟩ := insertTuples_ok h hrows
    cases hout.symm.trans hrun
    exact ⟨rows, hrows, rfl, h''⟩
  · rintro ⟨rows, hrows, rfl, h'⟩
    obtain ⟨t'', hout, h''⟩ := insertTuples_ok h hrows
    cases h''.unique h'
    exact hout

theorem succeeds_insertTuples_iff (h : t.Holds s) :
    (insertTuples columns tuples enforce).Succeeds t ↔ t.Accepts columns tuples enforce := by
  rw [← exists_bind_iff h.columnNames_nodup]
  constructor
  · rintro ⟨ids, t', hrun⟩
    obtain ⟨rows, hrows, _⟩ := h.outcome_insertTuples_eq_ok_iff.mp hrun
    exact ⟨rows, hrows⟩
  · rintro ⟨rows, hrows⟩
    rw [bind_relation] at hrows
    obtain ⟨t', hout, _⟩ := insertTuples_ok h hrows
    exact ⟨_, t', hout⟩

private theorem insertedInto (h : t.Holds s)
    (hrun : (insertTuples columns tuples enforce).outcome t = (.ok ids, t')) :
    t.InsertedInto columns tuples ids t' := by
  obtain ⟨rows, hrows, hids, h'⟩ := h.outcome_insertTuples_eq_ok_iff.mp hrun
  have hbound := boundRows_of_bind h.columnNames_nodup hrows
  rw [← hbound.length_eq, ← h.nextId] at hids
  have hslots : (rows.foldl (fun s row => s.insert row) s).slots =
      s.slots ++ ids.map (⟨·, true⟩) := by
    rw [RowStore.slots_foldl_insert, hids, h.nextId, hbound.length_eq]
  have hscan : t'.scan = t.scan ++ ids.zip rows := by
    rw [h'.scan_eq, RowStore.liveRows_foldl_insert, h.scan_eq, hids, h.nextId, hbound.length_eq]
  refine ⟨h'.name.trans ((RowStore.name_foldl_insert rows s).trans h.name.symm),
    h'.decls.trans ((RowStore.decls_foldl_insert rows s).trans h.decls.symm), hids, ?_, ?_, ?_, ?_,
    ?_, ⟨rows, hscan, hbound⟩, h'.indexed⟩
  · rw [h'.nextId, RowStore.nextId_foldl_insert, h.nextId, hbound.length_eq]
  · rw [h'.rowCount, h.rowCount, ← RowStore.length_liveRows, ← RowStore.length_liveRows,
      RowStore.liveRows_foldl_insert, List.length_append, List.length_zip, List.length_range',
      Nat.min_self, hbound.length_eq]
  · rw [h'.slotIds, hslots, h.slotIds, List.map_append, List.map_map]
    exact congrArg _ (List.map_id' ids)
  · rw [h'.live, hslots, h.live, List.map_append, List.map_map]
    exact congrArg _ List.map_const'
  · intro slot hslot
    have hlt : slot < s.records.length := by rwa [← h.slotCount_eq]
    have hr := List.getElem?_eq_getElem hlt
    rw [h.rowAt?_eq hr]
    apply h'.rowAt?_eq
    rw [RowStore.records_foldl_insert, List.getElem?_append_left hlt, hr]

/-- Columns and values that are rearranged alike are inserted as in declared order. -/
private theorem outcome_insertTuples_rearranged (h : t.Holds s) {names : List String}
    {tuples' : List (List Value)} (hnames : names.Perm t.columnNames)
    (hpairs : List.Forall₂ (fun tuple' tuple => tuple'.length = tuple.length ∧
      (names.zip tuple').Perm (t.columnNames.zip tuple)) tuples' tuples) :
    (insertTuples (some names) tuples' enforce).outcome t =
      (insertTuples none tuples enforce).outcome t := by
  have hdeclared : ∀ names ∈ (none : Option (List String)), names.Perm t.columnNames := by simp
  have hlisted : ∀ names' ∈ some names, names'.Perm t.columnNames := by simpa using hnames
  apply Action.outcome_observe_bind_congr
  have hbind := bind_congr enforce h.columnNames_nodup hdeclared hlisted hpairs
  rw [bind_relation, bind_relation] at hbind
  exact hbind

/-- To insert tuples one by one is to insert them all. -/
private theorem outcome_mapM_insertTuples (h : t.Holds s)
    (hrun : (insertTuples columns tuples enforce).outcome t = (.ok ids, t')) :
    (tuples.mapM fun tuple => insertTuples columns [tuple] enforce).outcome t =
      (.ok (ids.map ([·])), t') := by
  obtain ⟨rows, hbind, rfl, h'⟩ := h.outcome_insertTuples_eq_ok_iff.mp hrun
  obtain ⟨binding, hbinding, hrows⟩ := bind_eq_ok_iff.mp hbind
  rw [mapM_eq_ok_iff] at hrows
  clear hrun hbind
  generalize hheading : t.relation.heading = heading at hbinding hrows
  -- The table changes from tuple to tuple, but neither its heading nor the binding.
  induction hrows generalizing t s with
  | nil =>
    cases h.unique h'
    rfl
  | @cons tuple row tuples rows hrow _ ih =>
    have hbound : t.relation.bind columns [tuple] enforce = .ok [row] := by
      rw [Relation.bind, hheading]
      exact bind_eq_ok_iff.mpr ⟨binding, hbinding, mapM_eq_ok_iff.mpr (.cons hrow .nil)⟩
    rw [bind_relation] at hbound
    obtain ⟨t₁, hfirst, h₁⟩ := insertTuples_ok h hbound
    have hheading₁ : t₁.relation.heading = heading := by
      rw [← hheading, h.relation_of_rows h₁ rfl rfl]
      rfl
    have hlater := ih h₁ h' hheading₁
    rw [Action.outcome_mapM_cons, hfirst]
    dsimp only
    rw [hlater]
    rfl

end Holds

end Table

/-- Where tuples are accepted they become rows, one for each, and nothing else changes. Their values
may stand in any order that the column list tells; and tuples that are accepted one by one are accepted
together, and amount to the same. -/
theorem Catalog.Reachable.insert_effects {c : Catalog} (h : c.Reachable) (name : String)
    (enforce : Bool) :
    let insert (columns : Option (List String)) (tuples : List (List Value)) :
        Action Catalog (List RowId) := onTable name (Table.insertTuples columns tuples enforce)
    (∀ columns tuples, (insert columns tuples).Succeeds c ↔
      ∃ t, c.table? name = some t ∧ t.Accepts columns tuples enforce) ∧
    (∀ columns tuples ids c', (insert columns tuples).outcome c = (.ok ids, c') →
      ∃ t t', c.table? name = some t ∧ c' = c.put name t' ∧
        t.InsertedInto columns tuples ids t') ∧
    (∀ t names tuples' tuples, c.table? name = some t → names.Perm t.columnNames →
      List.Forall₂ (fun tuple' tuple => tuple'.length = tuple.length ∧
        (names.zip tuple').Perm (t.columnNames.zip tuple)) tuples' tuples →
      (insert (some names) tuples').outcome c = (insert none tuples).outcome c) ∧
    (∀ columns tuples, tuples ≠ [] →
      ((insert columns tuples).Succeeds c ↔
        ∀ tuple ∈ tuples, (insert columns [tuple]).Succeeds c)) ∧
    ∀ columns tuples ids c', (insert columns tuples).outcome c = (.ok ids, c') →
      (tuples.mapM fun tuple => insert columns [tuple]).outcome c = (.ok (ids.map ([·])), c') := by
  intro insert
  have hsucceeds : ∀ columns tuples, (insert columns tuples).Succeeds c ↔
      ∃ t, c.table? name = some t ∧ t.Accepts columns tuples enforce := by
    intro columns tuples
    rw [succeeds_onTable_iff]
    refine exists_congr fun t => and_congr_right fun ht => ?_
    obtain ⟨s, _, hs⟩ := h.sound name t ht
    exact hs.succeeds_insertTuples_iff
  refine ⟨hsucceeds, ?_, ?_, ?_, ?_⟩
  · intro columns tuples ids c' hrun
    obtain ⟨t, t', ht, hinsert, rfl⟩ := outcome_onTable_eq_ok_iff.mp hrun
    obtain ⟨s, _, hs⟩ := h.sound name t ht
    exact ⟨t, t', ht, rfl, hs.insertedInto hinsert⟩
  · intro t names tuples' tuples ht hnames hpairs
    obtain ⟨s, _, hs⟩ := h.sound name t ht
    apply Action.outcome_within_congr
    intro t' ht'
    cases ht.symm.trans (table_eq_ok_iff.mp ht')
    exact hs.outcome_insertTuples_rearranged hnames hpairs
  · intro columns tuples hne
    simp only [hsucceeds]
    cases c.table? name with
    | none =>
      obtain ⟨first, hfirst⟩ := List.exists_mem_of_ne_nil tuples hne
      simpa using ⟨first, hfirst⟩
    | some t => simpa using Table.accepts_iff_forall_singleton hne
  · intro columns tuples ids c' hrun
    obtain ⟨t, t', ht, hinsert, rfl⟩ := outcome_onTable_eq_ok_iff.mp hrun
    obtain ⟨s, _, hs⟩ := h.sound name t ht
    exact outcome_mapM_onTable ht (hs.outcome_mapM_insertTuples hinsert)

/-- The column list is a cycle of three columns, so it is not its own inverse. A literal is taken as a
number and one as a truth value, and the ids go on after a dead row. -/
theorem Catalog.Reachable.insert_effects_of_cycle :
    ∃ (c c' : Catalog) (t t' : Table) (names : List String) (tuples : List (List Value)),
      c.Reachable ∧ c.table? "t" = some t ∧ c' = c.put "t" t' ∧
      t.slotIds = #[0, 1] ∧ t.live = #[false, true] ∧ names = ["c", "a", "b"] ∧
      tuples = [[.text "true", .text "7", .text "x"], [.bool false, .int 8, .text "yz"]] ∧
      (onTable "t" (Table.insertTuples (some names) tuples true)).outcome c = (.ok [2, 3], c') ∧
      t'.scan = [(1, [.int 2, .text "q", .bool true]), (2, [.int 7, .text "x", .bool true]),
        (3, [.int 8, .text "yz", .bool false])] ∧
      t.InsertedInto (some names) tuples [2, 3] t' ∧
      (onTable "t" (Table.insertTuples none
        [[.text "7", .text "x", .text "true"], [.int 8, .text "yz", .bool false]] true)).outcome c =
          (.ok [2, 3], c') ∧
      (tuples.mapM fun tuple =>
        onTable "t" (Table.insertTuples (some names) [tuple] true)).outcome c =
          (.ok [[2], [3]], c') := by
  let c : Catalog := afterCalls [
    .createTable "t" [⟨"a", .int⟩, ⟨"b", .varchar 3⟩, ⟨"c", .bool⟩],
    .insert "t" none [[.int 1, .text "p", .bool false], [.int 2, .text "q", .bool true]] true,
    .onTable "t" (.delete (.ofList [0]))] .empty
  let names : List String := ["c", "a", "b"]
  let tuples : List (List Value) :=
    [[.text "true", .text "7", .text "x"], [.bool false, .int 8, .text "yz"]]
  let declared : List (List Value) :=
    [[.text "7", .text "x", .text "true"], [.int 8, .text "yz", .bool false]]
  let insertion : Action Catalog (List RowId) :=
    onTable "t" (Table.insertTuples (some names) tuples true)
  let c' : Catalog := insertion.after c
  let t : Table := (c.table? "t").get (by decide +kernel)
  let t' : Table := (c'.table? "t").get (by decide +kernel)
  have hc : c.Reachable := reachable_afterCalls .empty _
  have ht : c.table? "t" = some t := (Option.some_get _).symm
  have ht' : c'.table? "t" = some t' := (Option.some_get _).symm
  have hrun : insertion.outcome c = (.ok [2, 3], c') := by decide +kernel
  have hnames : names.Perm t.columnNames := by decide +kernel
  have hpairs : List.Forall₂ (fun tuple' tuple => tuple'.length = tuple.length ∧
      (names.zip tuple').Perm (t.columnNames.zip tuple)) tuples declared :=
    .cons ⟨rfl, by decide +kernel⟩ (.cons ⟨rfl, by decide +kernel⟩ .nil)
  obtain ⟨_, heffect, hrearranged, _, hsingly⟩ := hc.insert_effects "t" true
  obtain ⟨t₀, t₀', ht₀, hc', hinserted⟩ := heffect _ _ _ _ hrun
  have hbefore : t₀ = t := Option.some.inj (ht₀.symm.trans ht)
  have hafter : t₀' = t' := eq_of_put hc' ht'
  rw [hbefore, hafter] at hinserted
  rw [hafter] at hc'
  exact ⟨c, c', t, t', names, tuples, hc, ht, hc', by decide +kernel, by decide +kernel, rfl,
    rfl, hrun, by decide +kernel, hinserted,
    (hrearranged t names tuples declared ht hnames hpairs).symm.trans hrun, hsingly _ _ _ _ hrun⟩

end SqlEngine
