/-!
# Sets of row ids

A set of row ids is the strictly ascending list of its members, so that a set has one representation
only: sets with the same members are equal (`RowIds.ext`).
-/

namespace SqlEngine

/-- A row's place in the order of insertion into its table. It stays with the row and is given to no
other. -/
abbrev RowId := Nat

structure RowIds where
  toList : List RowId
  ascending : toList.Pairwise (· < ·)
  deriving DecidableEq

namespace RowIds

instance : Repr RowIds := ⟨fun s => reprPrec s.toList⟩

instance : Membership RowId RowIds := ⟨fun s id => id ∈ s.toList⟩

instance (id : RowId) (s : RowIds) : Decidable (id ∈ s) :=
  inferInstanceAs (Decidable (id ∈ s.toList))

@[simp] theorem mem_toList {s : RowIds} {id : RowId} : id ∈ s.toList ↔ id ∈ s := .rfl

theorem nodup_toList (s : RowIds) : s.toList.Nodup := s.ascending.imp Nat.ne_of_lt

@[ext] theorem ext {s t : RowIds} (h : ∀ id, id ∈ s ↔ id ∈ t) : s = t := by
  have hlist : s.toList = t.toList :=
    ((List.perm_ext_iff_of_nodup s.nodup_toList t.nodup_toList).mpr h).eq_of_pairwise
      (fun _ _ _ _ hab hba => absurd hab (Nat.lt_asymm hba)) s.ascending t.ascending
  cases s
  cases t
  simpa using hlist

def empty : RowIds := ⟨[], .nil⟩

def size (s : RowIds) : Nat := s.toList.length

def isEmpty (s : RowIds) : Bool := s.toList.isEmpty

/-- Puts an id at its place in an ascending list. -/
def insertInto (id : RowId) : List RowId → List RowId
  | []          => [id]
  | hd :: rest  =>
    if id < hd then id :: hd :: rest
    else if id = hd then hd :: rest
    else hd :: insertInto id rest

private theorem mem_insertInto {id a : RowId} {l : List RowId} :
    a ∈ insertInto id l ↔ a = id ∨ a ∈ l := by
  induction l with
  | nil => simp [insertInto]
  | cons hd rest ih =>
    unfold insertInto
    split
    · simp
    · split
      · rename_i _ h
        subst h
        simp
      · simp only [List.mem_cons, ih]
        exact or_left_comm

private theorem ascending_insertInto {id : RowId} {l : List RowId} (h : l.Pairwise (· < ·)) :
    (insertInto id l).Pairwise (· < ·) := by
  induction l with
  | nil => simp [insertInto]
  | cons hd rest ih =>
    obtain ⟨hhd, hrest⟩ := List.pairwise_cons.mp h
    unfold insertInto
    split
    · rename_i hlt
      refine List.pairwise_cons.mpr ⟨fun a ha => ?_, h⟩
      rcases List.mem_cons.mp ha with rfl | ha
      · exact hlt
      · exact Nat.lt_trans hlt (hhd a ha)
    · rename_i hge
      split
      · exact h
      · rename_i hne
        refine List.pairwise_cons.mpr ⟨fun a ha => ?_, ih hrest⟩
        rcases mem_insertInto.mp ha with rfl | ha
        · exact Nat.lt_of_le_of_ne (Nat.le_of_not_lt hge) (Ne.symm hne)
        · exact hhd a ha

def insert (s : RowIds) (id : RowId) : RowIds :=
  ⟨insertInto id s.toList, ascending_insertInto s.ascending⟩

def erase (s : RowIds) (id : RowId) : RowIds :=
  ⟨s.toList.filter (· ≠ id), s.ascending.filter _⟩

def union (s t : RowIds) : RowIds := s.toList.foldr (fun id u => u.insert id) t

def inter (s t : RowIds) : RowIds := ⟨s.toList.filter (· ∈ t), s.ascending.filter _⟩

/-- The set of the listed ids, which may be in any order and repeat. -/
def ofList (ids : List RowId) : RowIds := ids.foldr (fun id s => s.insert id) empty

/-- The union of a list of sets. -/
def unions (sets : List RowIds) : RowIds := sets.foldr union empty

@[simp] theorem not_mem_empty {id : RowId} : ¬ id ∈ empty := List.not_mem_nil

@[simp] theorem mem_insert {s : RowIds} {id a : RowId} : a ∈ s.insert id ↔ a = id ∨ a ∈ s :=
  mem_insertInto

@[simp] theorem mem_erase {s : RowIds} {id a : RowId} : a ∈ s.erase id ↔ a ∈ s ∧ a ≠ id := by
  simp [← mem_toList, erase]

@[simp] theorem mem_inter {s t : RowIds} {a : RowId} : a ∈ s.inter t ↔ a ∈ s ∧ a ∈ t := by
  simp [← mem_toList, inter]

private theorem mem_foldr_insert {ids : List RowId} {t : RowIds} {a : RowId} :
    a ∈ ids.foldr (fun id u => u.insert id) t ↔ a ∈ ids ∨ a ∈ t := by
  induction ids with
  | nil => simp
  | cons id rest ih => simp [ih, or_assoc]

@[simp] theorem mem_union {s t : RowIds} {a : RowId} : a ∈ s.union t ↔ a ∈ s ∨ a ∈ t :=
  mem_foldr_insert

@[simp] theorem mem_ofList {ids : List RowId} {a : RowId} : a ∈ ofList ids ↔ a ∈ ids := by
  simp [ofList, mem_foldr_insert]

/-- An ascending list is its own set. -/
theorem toList_ofList {ids : List RowId} (h : ids.Pairwise (· < ·)) : (ofList ids).toList = ids := by
  have heq : ofList ids = ⟨ids, h⟩ := by
    ext id
    rw [mem_ofList]
    rfl
  rw [heq]

@[simp] theorem mem_unions {sets : List RowIds} {a : RowId} :
    a ∈ unions sets ↔ ∃ s ∈ sets, a ∈ s := by
  induction sets with
  | nil => simp [unions]
  | cons s rest ih => simp_all [unions]

theorem isEmpty_iff {s : RowIds} : s.isEmpty ↔ s = empty := by
  constructor
  · intro h
    have hnil : s.toList = [] := List.isEmpty_iff.mp h
    ext id
    simp [← mem_toList, hnil, empty]
  · rintro rfl
    rfl

theorem exists_mem_of_ne_empty {s : RowIds} (h : s ≠ empty) : ∃ id, id ∈ s := by
  apply List.exists_mem_of_ne_nil s.toList
  intro hnil
  exact h (isEmpty_iff.mp (List.isEmpty_iff.mpr hnil))

end RowIds

end SqlEngine
