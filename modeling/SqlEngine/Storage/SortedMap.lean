/-!
# Maps kept in the order of their keys

The entries stand in strictly ascending order of key, so a map has one representation only: two maps
that answer every key alike are equal (`ext_get?`). A search stops where the key would stand, and
the entries on one side of a key are a run at one end of the list (`mem_below`, `mem_onward`).
-/

namespace SqlEngine

/-! ### Runs of a list on which a test holds first and fails later -/

section Runs

variable {α : Type} {r : α → α → Prop} {p : α → Bool} {l : List α} {a : α}

private theorem mem_takeWhile_of_pairwise (h : l.Pairwise r) (hp : ∀ a b, r a b → p b → p a) :
    a ∈ l.takeWhile p ↔ a ∈ l ∧ p a := by
  induction l with
  | nil => simp
  | cons b l ih =>
    obtain ⟨hb, hl⟩ := List.pairwise_cons.mp h
    by_cases hpb : p b
    · simp only [List.takeWhile_cons, hpb, if_true, List.mem_cons, ih hl]
      constructor
      · rintro (rfl | ⟨hm, ha⟩)
        · exact ⟨.inl rfl, hpb⟩
        · exact ⟨.inr hm, ha⟩
      · rintro ⟨rfl | hm, ha⟩
        · exact .inl rfl
        · exact .inr ⟨hm, ha⟩
    · simp only [List.takeWhile_cons, hpb, Bool.false_eq_true, if_false, List.not_mem_nil,
        List.mem_cons, false_iff]
      rintro ⟨rfl | hm, ha⟩
      · exact hpb ha
      · exact hpb (hp b a (hb a hm) ha)

private theorem mem_dropWhile_of_pairwise (h : l.Pairwise r) (hp : ∀ a b, r a b → p b → p a) :
    a ∈ l.dropWhile p ↔ a ∈ l ∧ p a = false := by
  induction l with
  | nil => simp
  | cons b l ih =>
    obtain ⟨hb, hl⟩ := List.pairwise_cons.mp h
    by_cases hpb : p b
    · simp only [List.dropWhile_cons, hpb, if_true, List.mem_cons, ih hl]
      constructor
      · rintro ⟨hm, ha⟩
        exact ⟨.inr hm, ha⟩
      · rintro ⟨rfl | hm, ha⟩
        · simp [hpb] at ha
        · exact ⟨hm, ha⟩
    · simp only [List.dropWhile_cons, hpb, Bool.false_eq_true, if_false, List.mem_cons]
      refine ⟨fun hm => ⟨hm, ?_⟩, fun hm => hm.1⟩
      rcases hm with rfl | hm
      · simpa using hpb
      · exact Bool.eq_false_iff.mpr fun ha => hpb (hp b a (hb a hm) ha)

end Runs

structure SortedMap (κ α : Type) [Ord κ] where
  entries : List (κ × α)
  ascending : entries.Pairwise fun a b => compare a.1 b.1 = .lt

namespace SortedMap

section Entries

variable {κ α : Type}

/-- The entry of a key, where there is a value for it. -/
def entryOf (k : κ) (a : Option α) : List (κ × α) := (a.map (k, ·)).toList

theorem mem_entryOf {k : κ} {a : Option α} {e : κ × α} :
    e ∈ entryOf k a ↔ e.1 = k ∧ a = some e.2 := by
  cases a <;> simp [entryOf, Prod.ext_iff, eq_comm]

private theorem pairwise_entryOf {r : κ × α → κ × α → Prop} (k : κ) (a : Option α) :
    (entryOf k a).Pairwise r := by
  cases a <;> simp [entryOf]

variable [Ord κ]

/-- The value at a key in ascending entries. -/
def find? (k : κ) : List (κ × α) → Option α
  | []               => none
  | (key, a) :: rest =>
    match compare k key with
    | .lt => none
    | .eq => some a
    | .gt => find? k rest

/-- Replaces what ascending entries have at a key. -/
def alterEntries (k : κ) (f : Option α → Option α) : List (κ × α) → List (κ × α)
  | []               => entryOf k (f none)
  | (key, a) :: rest =>
    match compare k key with
    | .lt => entryOf k (f none) ++ (key, a) :: rest
    | .eq => entryOf key (f (some a)) ++ rest
    | .gt => (key, a) :: alterEntries k f rest

/-- An altered entry has the given key or one that was there before. -/
private theorem fst_mem_alterEntries {k : κ} {f : Option α → Option α} {l : List (κ × α)}
    {e : κ × α} (h : e ∈ alterEntries k f l) : e.1 = k ∨ e.1 ∈ l.map (·.1) := by
  induction l with
  | nil => exact .inl (mem_entryOf.mp h).1
  | cons hd rest ih =>
    simp only [alterEntries] at h
    split at h
    · rcases List.mem_append.mp h with h | h
      · exact .inl (mem_entryOf.mp h).1
      · exact .inr (List.mem_map_of_mem h)
    · rcases List.mem_append.mp h with h | h
      · exact .inr (by simp [(mem_entryOf.mp h).1])
      · exact .inr (List.mem_map_of_mem (List.mem_cons_of_mem _ h))
    · rcases List.mem_cons.mp h with rfl | h
      · exact .inr (by simp)
      · exact (ih h).imp_right fun h => by simp_all

private theorem ascending_alterEntries [Std.TransOrd κ] {k : κ} {f : Option α → Option α}
    {l : List (κ × α)} (h : l.Pairwise fun a b => compare a.1 b.1 = .lt) :
    (alterEntries k f l).Pairwise fun a b => compare a.1 b.1 = .lt := by
  induction l with
  | nil => exact pairwise_entryOf ..
  | cons hd rest ih =>
    obtain ⟨hlt, hrest⟩ := List.pairwise_cons.mp h
    simp only [alterEntries]
    split
    · rename_i hk
      refine List.pairwise_append.mpr ⟨pairwise_entryOf .., h, fun a ha b hb => ?_⟩
      rw [(mem_entryOf.mp ha).1]
      rcases List.mem_cons.mp hb with rfl | hb
      · exact hk
      · exact Std.TransCmp.lt_trans hk (hlt b hb)
    · refine List.pairwise_append.mpr ⟨pairwise_entryOf .., hrest, fun a ha b hb => ?_⟩
      rw [(mem_entryOf.mp ha).1]
      exact hlt b hb
    · rename_i hk
      refine List.pairwise_cons.mpr ⟨fun e he => ?_, ih hrest⟩
      rcases fst_mem_alterEntries he with h | h
      · rw [h]
        exact Std.OrientedCmp.lt_of_gt hk
      · obtain ⟨b, hb, hbe⟩ := List.mem_map.mp h
        exact hbe ▸ hlt b hb

private theorem find?_eq_none_of_lt [Std.TransOrd κ] {k : κ} {l : List (κ × α)}
    (h : ∀ e ∈ l, compare k e.1 = .lt) : find? k l = none := by
  cases l with
  | nil => rfl
  | cons hd rest => simp [find?, h hd (by simp)]

private theorem find?_append_entryOf [DecidableEq κ] [Std.TransOrd κ] [Std.LawfulEqOrd κ]
    {k key : κ} {a : Option α} {l : List (κ × α)} (h : ∀ e ∈ l, compare key e.1 = .lt) :
    find? k (entryOf key a ++ l) = if k = key then a else find? k l := by
  cases a with
  | none =>
    split
    · rename_i hk
      subst hk
      exact find?_eq_none_of_lt (l := l) h
    · rfl
  | some a =>
    simp only [entryOf, Option.map_some, Option.toList_some, List.cons_append, List.nil_append,
      find?]
    split
    · rename_i hlt
      rw [if_neg fun hk => by simp [hk] at hlt]
      exact (find?_eq_none_of_lt fun e he => Std.TransCmp.lt_trans hlt (h e he)).symm
    · rename_i heq
      rw [if_pos (Std.LawfulEqOrd.eq_of_compare heq)]
    · rename_i hgt
      rw [if_neg fun hk => by simp [hk] at hgt]

private theorem find?_alterEntries [DecidableEq κ] [Std.TransOrd κ] [Std.LawfulEqOrd κ] {j k : κ}
    {f : Option α → Option α} {l : List (κ × α)}
    (h : l.Pairwise fun a b => compare a.1 b.1 = .lt) :
    find? j (alterEntries k f l) = if j = k then f (find? k l) else find? j l := by
  induction l with
  | nil =>
    have hnil : ∀ e ∈ ([] : List (κ × α)), compare k e.1 = .lt := by simp
    simpa [alterEntries, find?] using find?_append_entryOf (k := j) (a := f none) hnil
  | cons hd rest ih =>
    obtain ⟨hlt, hrest⟩ := List.pairwise_cons.mp h
    simp only [alterEntries]
    split
    · rename_i hk
      rw [find?_append_entryOf fun e he => ?_]
      · simp [find?, hk]
      · rcases List.mem_cons.mp he with rfl | he
        · exact hk
        · exact Std.TransCmp.lt_trans hk (hlt e he)
    · rename_i hk
      obtain rfl := Std.LawfulEqOrd.eq_of_compare hk
      rw [find?_append_entryOf hlt]
      split
      · rename_i hj
        simp [find?]
      · rename_i hj
        simp only [find?]
        split
        · rename_i hjk
          exact find?_eq_none_of_lt fun e he => Std.TransCmp.lt_trans hjk (hlt e he)
        · rename_i hjk
          exact absurd (Std.LawfulEqOrd.eq_of_compare hjk) hj
        · rfl
    · rename_i hk
      simp only [find?, ih hrest, hk]
      split
      · rename_i hjk
        rw [if_neg]
        rintro rfl
        rw [hk] at hjk
        simp at hjk
      · rename_i hjk
        rw [if_neg]
        rintro rfl
        rw [hk] at hjk
        simp at hjk
      · rfl

private theorem find?_eq_some_iff_mem [Std.TransOrd κ] [Std.LawfulEqOrd κ] {k : κ} {a : α}
    {l : List (κ × α)} (h : l.Pairwise fun a b => compare a.1 b.1 = .lt) :
    find? k l = some a ↔ (k, a) ∈ l := by
  induction l with
  | nil => simp [find?]
  | cons hd rest ih =>
    obtain ⟨key, b⟩ := hd
    obtain ⟨hlt, hrest⟩ := List.pairwise_cons.mp h
    simp only [find?, List.mem_cons, Prod.mk.injEq]
    split
    · rename_i hk
      simp only [reduceCtorEq, false_iff]
      rintro (⟨rfl, rfl⟩ | hm)
      · simp at hk
      · have := Std.TransCmp.lt_trans hk (hlt _ hm)
        simp at this
    · rename_i hk
      obtain rfl := Std.LawfulEqOrd.eq_of_compare hk
      simp only [Option.some.injEq, true_and]
      constructor
      · rintro rfl
        exact .inl rfl
      · rintro (rfl | hm)
        · rfl
        · have := hlt _ hm
          simp at this
    · rename_i hk
      rw [ih hrest]
      constructor
      · exact .inr
      · rintro (⟨rfl, rfl⟩ | hm)
        · simp at hk
        · exact hm

end Entries

variable {κ α : Type} [Ord κ]

instance [DecidableEq κ] [DecidableEq α] : DecidableEq (SortedMap κ α) := fun a b =>
  decidable_of_iff (a.entries = b.entries) (by cases a; cases b; simp)

instance [Repr κ] [Repr α] : Repr (SortedMap κ α) := ⟨fun m => reprPrec m.entries⟩

def empty : SortedMap κ α := ⟨[], .nil⟩

def size (m : SortedMap κ α) : Nat := m.entries.length

def keys (m : SortedMap κ α) : List κ := m.entries.map (·.1)

def values (m : SortedMap κ α) : List α := m.entries.map (·.2)

def get? (m : SortedMap κ α) (k : κ) : Option α := find? k m.entries

/-- Puts, replaces or removes the value at a key, as `f` makes of the value that is there. -/
def alter [Std.TransOrd κ] (m : SortedMap κ α) (k : κ) (f : Option α → Option α) : SortedMap κ α :=
  ⟨alterEntries k f m.entries, ascending_alterEntries m.ascending⟩

def insert [Std.TransOrd κ] (m : SortedMap κ α) (k : κ) (a : α) : SortedMap κ α :=
  m.alter k fun _ => some a

def erase [Std.TransOrd κ] (m : SortedMap κ α) (k : κ) : SortedMap κ α := m.alter k fun _ => none

/-- The entries with keys below the given one. -/
def below (m : SortedMap κ α) (k : κ) : List (κ × α) :=
  m.entries.takeWhile fun e => (compare e.1 k).isLT

/-- The entries with keys up to the given one and including it. -/
def upTo (m : SortedMap κ α) (k : κ) : List (κ × α) :=
  m.entries.takeWhile fun e => (compare e.1 k).isLE

/-- The entries with keys above the given one. -/
def above (m : SortedMap κ α) (k : κ) : List (κ × α) :=
  m.entries.dropWhile fun e => (compare e.1 k).isLE

/-- The entries with keys from the given one on and including it. -/
def onward (m : SortedMap κ α) (k : κ) : List (κ × α) :=
  m.entries.dropWhile fun e => (compare e.1 k).isLT

variable {m : SortedMap κ α} {j k : κ} {a : α} {e : κ × α}

@[simp] theorem get?_empty (k : κ) : (empty : SortedMap κ α).get? k = none := rfl

section Laws

variable [Std.TransOrd κ]

theorem get?_alter [DecidableEq κ] [Std.LawfulEqOrd κ] (m : SortedMap κ α) (j k : κ)
    (f : Option α → Option α) :
    (m.alter k f).get? j = if j = k then f (m.get? k) else m.get? j :=
  find?_alterEntries m.ascending

theorem get?_insert [DecidableEq κ] [Std.LawfulEqOrd κ] (m : SortedMap κ α) (j k : κ) (a : α) :
    (m.insert k a).get? j = if j = k then some a else m.get? j :=
  get?_alter ..

theorem get?_erase [DecidableEq κ] [Std.LawfulEqOrd κ] (m : SortedMap κ α) (j k : κ) :
    (m.erase k).get? j = if j = k then none else m.get? j :=
  get?_alter ..

theorem get?_eq_some_iff_mem [Std.LawfulEqOrd κ] : m.get? k = some a ↔ (k, a) ∈ m.entries :=
  find?_eq_some_iff_mem m.ascending

/-- A map is no more than the answers that it gives. -/
theorem ext_get? [Std.LawfulEqOrd κ] {m n : SortedMap κ α} (h : ∀ k, m.get? k = n.get? k) :
    m = n := by
  have hmem : ∀ e, e ∈ m.entries ↔ e ∈ n.entries := fun e => by
    rw [← get?_eq_some_iff_mem, ← get?_eq_some_iff_mem, h]
  have nodup : ∀ m : SortedMap κ α, m.entries.Nodup := fun m =>
    m.ascending.imp fun hlt he => by simp [he] at hlt
  have hperm := (List.perm_ext_iff_of_nodup (nodup m) (nodup n)).mpr hmem
  have hentries : m.entries = n.entries :=
    hperm.eq_of_pairwise (fun a b _ _ hab hba => by
      have hself := Std.TransCmp.lt_trans hab hba
      simp at hself) m.ascending n.ascending
  cases m
  cases n
  simpa using hentries

private theorem isLT_of_lt (a b : κ × α) (hab : compare a.1 b.1 = .lt) (hb : (compare b.1 k).isLT) :
    (compare a.1 k).isLT := by
  rw [Ordering.isLT_iff_eq_lt] at *
  exact Std.TransCmp.lt_trans hab hb

private theorem isLE_of_lt (a b : κ × α) (hab : compare a.1 b.1 = .lt) (hb : (compare b.1 k).isLE) :
    (compare a.1 k).isLE :=
  Std.TransCmp.isLE_trans (by simp [hab]) hb

theorem mem_below : e ∈ m.below k ↔ e ∈ m.entries ∧ (compare e.1 k).isLT :=
  mem_takeWhile_of_pairwise m.ascending isLT_of_lt

theorem mem_upTo : e ∈ m.upTo k ↔ e ∈ m.entries ∧ (compare e.1 k).isLE :=
  mem_takeWhile_of_pairwise m.ascending isLE_of_lt

theorem mem_above : e ∈ m.above k ↔ e ∈ m.entries ∧ (compare e.1 k).isLE = false :=
  mem_dropWhile_of_pairwise m.ascending isLE_of_lt

theorem mem_onward : e ∈ m.onward k ↔ e ∈ m.entries ∧ (compare e.1 k).isLT = false :=
  mem_dropWhile_of_pairwise m.ascending isLT_of_lt

end Laws

end SortedMap

end SqlEngine
