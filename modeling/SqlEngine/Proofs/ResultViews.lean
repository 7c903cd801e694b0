import SqlEngine.Proofs.HistoryIndependence
import SqlEngine.Proofs.JsonReading
import SqlEngine.Proofs.QueryPipeline

/-!
# The views of a result

A result is read row by row as pairs of column and value, by row and column name, or as JSON. What a
database returns has a value for each column in every row and no column twice, so the three views
agree, and none of them loses anything.
-/

namespace SqlEngine

open Text

/-- The value that a document stands for, if it stands for one. -/
def Json.asValue? : Json → Option Value
  | .int n    => (Decimal.toInt64 n).toOption.map .int
  | .string s => some (.text s)
  | .bool b   => some (.bool b)
  | _         => none

@[simp] theorem Value.asValue?_toJson (v : Value) : v.toJson.asValue? = some v := by
  cases v with
  | int n => rw [toJson, Json.asValue?, Decimal.toInt64_toInt]; rfl
  | text s => rfl
  | bool b => rfl

private theorem Value.toJson_injective : Function.Injective Value.toJson := by
  intro v w hvw
  have hvalues := congrArg Json.asValue? hvw
  rw [asValue?_toJson, asValue?_toJson] at hvalues
  exact Option.some.inj hvalues

namespace ResultSet

variable {r r' : ResultSet} {record : List (String × Value)} {row : Nat} {column : String}
  {v : Value} {write : Json → String}

/-- No column is named twice, every row has one value for each, and the number is that of the
rows. -/
structure Regular (r : ResultSet) : Prop where
  columns_nodup : r.columns.Nodup
  length_of_mem : ∀ values ∈ r.rows, values.length = r.columns.length
  count_eq : r.count = r.rows.length

/-- The fields of the object that a record is written as. -/
def fieldsOf (record : List (String × Value)) : List (String × Json) :=
  record.map fun (column, v) => (column, v.toJson)

private theorem toJson_eq (r : ResultSet) :
    r.toJson = .object [("rows", .array ((r.records.map fieldsOf).map .object)),
      ("count", .int r.count)] := by
  rw [List.map_map]
  rfl

private theorem fieldsOf_injective : Function.Injective fieldsOf := by
  refine List.map_injective_iff.mpr fun pair pair' hpairs => ?_
  obtain ⟨hcolumn, hvalue⟩ := Prod.mk.inj hpairs
  exact Prod.ext hcolumn (Value.toJson_injective hvalue)

/-- The object has the pairs of the record in their order, and no key twice. -/
structure IsObjectOf (fields : List (String × Json)) (record : List (String × Value)) : Prop where
  keys_nodup : (fields.map (·.1)).Nodup
  pairs : List.Forall₂ (fun field pair => field.1 = pair.1 ∧ field.2.asValue? = some pair.2) fields
    record

/-- All views of a result give the same rows: its records pair each column with a value of the row,
looking up a name finds what the record pairs with it, and the text that is written is that of an
object with the records as objects and their number. -/
structure Faithful (write : Json → String) (r : ResultSet) : Prop extends r.Regular where
  records : List.Forall₂ (fun record values =>
    record.map (·.1) = r.columns ∧ record.map (·.2) = values) r.records r.rows
  get?_eq_some_iff : ∀ row column v, r.get? row column = some v ↔
    ∃ record, r.records[row]? = some record ∧ (column, v) ∈ record
  get?_eq_none_iff : ∀ row column, r.get? row column = none ↔
    r.count ≤ row ∨ column ∉ r.columns
  json : ∃ objects, Json.decode (write r.toJson) =
      some (.object [("rows", .array (objects.map .object)), ("count", .int r.count)]) ∧
    List.Forall₂ IsObjectOf objects r.records

namespace Regular

private theorem records (h : r.Regular) :
    List.Forall₂ (fun record values => record.map (·.1) = r.columns ∧ record.map (·.2) = values)
      r.records r.rows := by
  rw [ResultSet.records, List.forall₂_map_left_iff, List.forall₂_same]
  intro values hvalues
  have hlength := h.length_of_mem values hvalues
  exact ⟨List.map_fst_zip hlength.ge, List.map_snd_zip hlength.le⟩

private theorem map_fst_of_mem (h : r.Regular) (hrecord : record ∈ r.records) :
    record.map (·.1) = r.columns := by
  obtain ⟨values, hvalues, rfl⟩ := List.mem_map.mp hrecord
  exact List.map_fst_zip (h.length_of_mem values hvalues).ge

/-- Since no name is repeated, the first place where a name stands is every place. -/
private theorem idxOf?_columns (h : r.Regular) {position : Nat}
    (hposition : r.columns[position]? = some column) : r.columns.idxOf? column = some position := by
  obtain ⟨hlt, rfl⟩ := List.getElem?_eq_some_iff.mp hposition
  refine List.idxOf?_eq_some_iff.mpr ⟨hlt, rfl, fun other hother heq => ?_⟩
  have hsame := (h.columns_nodup.getElem_inj_iff).mp heq
  exact Nat.ne_of_lt hother hsame

private theorem get?_eq_some_iff (h : r.Regular) (row : Nat) (column : String) (v : Value) :
    r.get? row column = some v ↔
      ∃ record, r.records[row]? = some record ∧ (column, v) ∈ record := by
  simp only [ResultSet.get?, Option.bind_eq_bind, Option.bind_eq_some_iff, ResultSet.records,
    List.getElem?_map, Option.map_eq_some_iff]
  constructor
  · rintro ⟨position, hposition, values, hvalues, hv⟩
    obtain ⟨hlt, hcolumn, -⟩ := List.idxOf?_eq_some_iff.mp hposition
    refine ⟨_, ⟨values, hvalues, rfl⟩, List.mem_of_getElem? (i := position) ?_⟩
    exact List.getElem?_zip_eq_some.mpr ⟨List.getElem?_eq_some_iff.mpr ⟨hlt, hcolumn⟩, hv⟩
  · rintro ⟨_, ⟨values, hvalues, rfl⟩, hmem⟩
    obtain ⟨position, hpair⟩ := List.mem_iff_getElem?.mp hmem
    obtain ⟨hcolumn, hv⟩ := List.getElem?_zip_eq_some.mp hpair
    exact ⟨position, h.idxOf?_columns hcolumn, values, hvalues, hv⟩

private theorem get?_eq_none_iff (h : r.Regular) (row : Nat) (column : String) :
    r.get? row column = none ↔ r.count ≤ row ∨ column ∉ r.columns := by
  rw [h.count_eq, ← not_iff_not, not_or, not_not, not_le, ← ne_eq, Option.ne_none_iff_exists']
  constructor
  · rintro ⟨v, hv⟩
    obtain ⟨record, hrecord, hmem⟩ := (h.get?_eq_some_iff row column v).mp hv
    refine ⟨?_, ?_⟩
    · have hlt := (List.getElem?_eq_some_iff.mp hrecord).1
      rwa [ResultSet.records, List.length_map] at hlt
    · rw [← h.map_fst_of_mem (List.mem_of_getElem? hrecord)]
      exact List.mem_map_of_mem hmem
  · rintro ⟨hrow, hcolumn⟩
    have hrecord : r.records[row]? = some (r.columns.zip r.rows[row]) := by
      rw [ResultSet.records, List.getElem?_map, List.getElem?_eq_getElem hrow, Option.map_some]
    rw [← h.map_fst_of_mem (List.mem_of_getElem? hrecord)] at hcolumn
    obtain ⟨⟨_, v⟩, hmem, rfl⟩ := List.mem_map.mp hcolumn
    exact ⟨v, (h.get?_eq_some_iff row _ v).mpr ⟨_, hrecord, hmem⟩⟩

private theorem json (h : r.Regular) (hwrite : Json.IsCompactWriter write) :
    ∃ objects, Json.decode (write r.toJson) =
        some (.object [("rows", .array (objects.map .object)), ("count", .int r.count)]) ∧
      List.Forall₂ IsObjectOf objects r.records := by
  refine ⟨r.records.map fieldsOf, by rw [hwrite.decode_eq, toJson_eq], ?_⟩
  rw [List.forall₂_map_left_iff, List.forall₂_same]
  intro record hrecord
  refine ⟨?_, ?_⟩
  · rw [fieldsOf, List.map_map]
    exact (h.map_fst_of_mem hrecord).symm ▸ h.columns_nodup
  · rw [fieldsOf, List.forall₂_map_left_iff, List.forall₂_same]
    exact fun pair _ => ⟨rfl, pair.2.asValue?_toJson⟩

private theorem faithful (h : r.Regular) (hwrite : Json.IsCompactWriter write) :
    r.Faithful write where
  toRegular := h
  records := h.records
  get?_eq_some_iff := h.get?_eq_some_iff
  get?_eq_none_iff := h.get?_eq_none_iff
  json := h.json hwrite

end Regular

/-- The text determines the records, whatever characters their names and texts have. -/
private theorem records_of_write_eq (hwrite : Json.IsCompactWriter write)
    (h : write r.toJson = write r'.toJson) : r.records = r'.records := by
  have hdocuments := congrArg Json.decode h
  rw [hwrite.decode_eq, hwrite.decode_eq, toJson_eq, toJson_eq, Option.some.injEq] at hdocuments
  injection hdocuments with hfields
  injection hfields with hrows
  injection (Prod.mk.inj hrows).2 with hobjects
  have hsame := List.map_injective_iff.mpr (fun _ _ => Json.object.inj) hobjects
  exact List.map_injective_iff.mpr fieldsOf_injective hsame

end ResultSet

/-! ### What databases return -/

/-- Only a query answers with rows. -/
private theorem Statement.eq_select_of_run {statement : Statement} {settings : Settings}
    {c c' : Catalog} {r : ResultSet}
    (h : (statement.run settings).outcome c = (.ok (.rows r), c')) :
    ∃ q, statement = .select q ∧ c.query settings q = .ok r := by
  cases statement with
  | createTable s =>
    obtain ⟨_, _, _, hanswer⟩ := Action.outcome_bind_eq_ok_iff.mp h
    cases hanswer
  | insert s =>
    obtain ⟨_, _, _, hanswer⟩ := Action.outcome_bind_eq_ok_iff.mp h
    cases hanswer
  | select q =>
    obtain ⟨r', hquery, hanswer⟩ := Action.outcome_observe_bind_eq_ok_iff.mp h
    cases hanswer
    exact ⟨q, rfl, hquery⟩
  | update s =>
    obtain ⟨_, _, _, hact, _⟩ := Catalog.outcome_onTable_eq_ok_iff.mp h
    obtain ⟨_, _, hact⟩ := Action.outcome_observe_bind_eq_ok_iff.mp hact
    obtain ⟨_, _, _, hanswer⟩ := Action.outcome_bind_eq_ok_iff.mp hact
    cases hanswer
  | delete s =>
    obtain ⟨_, _, _, hact, _⟩ := Catalog.outcome_onTable_eq_ok_iff.mp h
    obtain ⟨_, _, hact⟩ := Action.outcome_observe_bind_eq_ok_iff.mp hact
    obtain ⟨_, _, _, hanswer⟩ := Action.outcome_bind_eq_ok_iff.mp hact
    cases hanswer

private theorem Table.Holds.regular_of_query {t : Table} {s : RowStore} {q : Select}
    {useIndexes : Bool} {r : ResultSet} (h : t.Holds s) (hquery : t.query q useIndexes = .ok r) :
    r.columns = t.requested q.projection ∧ r.Regular := by
  rw [h.query_eq] at hquery
  obtain ⟨columns, hcolumns, hquery⟩ := bind_eq_ok_iff.mp hquery
  obtain ⟨positions, hpositions, hquery⟩ := bind_eq_ok_iff.mp hquery
  obtain ⟨key, -, hquery⟩ := bind_eq_ok_iff.mp hquery
  obtain ⟨selects, -, hquery⟩ := bind_eq_ok_iff.mp hquery
  cases hquery
  obtain ⟨rfl, hnodup⟩ := projectedNames_eq_ok_iff.mp hcolumns
  refine ⟨rfl, hnodup, fun values hvalues => ?_, rfl⟩
  obtain ⟨row, hrow, rfl⟩ := List.mem_map.mp hvalues
  have hmem := List.mem_of_mem_filter (Relation.mem_of_mem_arrange hrow)
  have hvalues := congrArg List.length (h.map_valueOf? hpositions hmem)
  rwa [List.length_map, List.length_map] at hvalues

namespace Database

variable {db db' : Database} {sql sql' : String} {r r' : ResultSet}

/-- Answering the text as a query, or running it as a statement, gives the result. -/
def Returns (db : Database) (sql : String) (r : ResultSet) : Prop :=
  db.query sql = .ok r ∨ (execute sql).answer db = .ok (.rows r)

private theorem Returns.exists_select (h : db.Returns sql r) :
    ∃ q t, Statement.parse sql = .ok (.select q) ∧ db.table? q.table = some t ∧
      t.query q db.settings.useIndexes = .ok r := by
  have hselect : ∃ q, Statement.parse sql = .ok (.select q) ∧
      db.catalog.query db.settings q = .ok r := by
    rcases h with hquery | hanswer
    · obtain ⟨statement, hparse, hquery⟩ := bind_eq_ok_iff.mp hquery
      cases statement with
      | select q => exact ⟨q, hparse, hquery⟩
      | createTable _ | insert _ | update _ | delete _ => cases hquery
    · have houtcome := Action.outcome_of_answer hanswer
      rw [outcome_execute] at houtcome
      cases hparse : Statement.parse sql with
      | error e =>
        rw [hparse] at houtcome
        cases houtcome
      | ok statement =>
        rw [hparse] at houtcome
        dsimp only at houtcome
        rw [outcome_onCatalog] at houtcome
        obtain ⟨q, rfl, hquery⟩ := Statement.eq_select_of_run
          (Prod.ext (Prod.ext_iff.mp houtcome).1 rfl)
        exact ⟨q, rfl, hquery⟩
  obtain ⟨q, hparse, hquery⟩ := hselect
  obtain ⟨t, ht, hquery⟩ := bind_eq_ok_iff.mp hquery
  exact ⟨q, t, hparse, Catalog.table_eq_ok_iff.mp ht, hquery⟩

/-- What a database returns names the columns that the query asks for and is the same in all views,
whatever compact writer writes it; and results with the same text have the same records. -/
theorem Reachable.faithful_of_returns {write : Json → String} (hwrite : Json.IsCompactWriter write)
    (h : db.Reachable) (hreturns : db.Returns sql r) :
    (∃ q t, Statement.parse sql = .ok (.select q) ∧ db.table? q.table = some t ∧
      r.columns = t.requested q.projection) ∧ r.Faithful write ∧
    ∀ (db' : Database) sql' r', db'.Reachable → db'.Returns sql' r' →
      write r.toJson = write r'.toJson → r.records = r'.records := by
  obtain ⟨q, t, hparse, ht, hquery⟩ := hreturns.exists_select
  obtain ⟨s, _, hs⟩ := h.sound q.table t ht
  obtain ⟨hcolumns, hregular⟩ := hs.regular_of_query hquery
  refine ⟨⟨q, t, hparse, ht, hcolumns⟩, hregular.faithful hwrite, ?_⟩
  exact fun _ _ _ _ _ htexts => ResultSet.records_of_write_eq hwrite htexts

/-- A number that is also a text, a text with a quote, a backslash and a control character, and a
limit. -/
theorem Reachable.faithful_of_returns_escapes :
    ∃ (db : Database) (sql : String) (r : ResultSet), db.Reachable ∧ db.Returns sql r ∧
      r = ⟨["s", "n"], [[.text "1", .int 1], [.text "\"\\\x01", .int (-2)]], 2⟩ ∧
      r.toJson.render =
        "\x7b\"rows\":[\x7b\"s\":\"1\",\"n\":1\x7d,\x7b\"s\":\"\\\"\\\\\\u0001\",\"n\":-2\x7d]," ++
          "\"count\":2\x7d" ∧
      ((∃ q t, Statement.parse sql = .ok (.select q) ∧ db.table? q.table = some t ∧
        r.columns = t.requested q.projection) ∧ r.Faithful Json.render ∧
      ∀ (db' : Database) sql' r', db'.Reachable → db'.Returns sql' r' →
        r.toJson.render = r'.toJson.render → r.records = r'.records) := by
  let db := afterCalls [
    .createTable "t" [⟨"n", .int⟩, ⟨"b", .bool⟩, ⟨"s", .varchar 9⟩],
    .execute "INSERT INTO t VALUES (1, TRUE, '1'), (-2, FALSE, '\"\\\x01'), (3, TRUE, '')"]
    (create {})
  have hreachable : db.Reachable := ⟨_, _, rfl⟩
  have hreturns : db.Returns "SELECT s, n FROM t LIMIT 2"
      ⟨["s", "n"], [[.text "1", .int 1], [.text "\"\\\x01", .int (-2)]], 2⟩ :=
    .inl (by decide +kernel)
  exact ⟨db, _, _, hreachable, hreturns, rfl, by decide +kernel,
    Reachable.faithful_of_returns Json.isCompactWriter_render hreachable hreturns⟩

end Database

end SqlEngine
