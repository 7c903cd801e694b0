import SqlEngine.Storage.RowIds

/-!
# Slots

A table's rows live in slots, in ascending order of their ids. A row's slot is therefore found by
halving the slots that can still hold it.
-/

namespace SqlEngine.Slot

/-- The slot of an id among those from `first` up to `last` and excluding it. -/
def search (ids : Array RowId) (id : RowId) (first last : Nat) (h : last ≤ ids.size) :
    Option Nat :=
  if hlt : first < last then
    let middle := (first + last) / 2
    have hmiddle : middle < last := by omega
    match compare id ids[middle] with
    | .lt => search ids id first middle (by omega)
    | .eq => some middle
    | .gt => search ids id (middle + 1) last h
  else none
termination_by last - first

/-- The slot that has an id. -/
def find? (ids : Array RowId) (id : RowId) : Option Nat :=
  search ids id 0 ids.size (Nat.le_refl _)

variable {ids : Array RowId} {id : RowId} {first last slot : Nat}

private theorem search_eq_some {h : last ≤ ids.size} (hs : search ids id first last h = some slot) :
    ids[slot]? = some id := by
  fun_induction search ids id first last h with
  | case1 first last h hlt middle hmiddle hcmp ih => exact ih hs
  | case2 first last h hlt middle hmiddle hcmp =>
    have hslot : middle = slot := Option.some.inj hs
    have hbound : middle < ids.size := by omega
    rw [← hslot, Array.getElem?_eq_getElem hbound, Nat.compare_eq_eq.mp hcmp]
  | case3 first last h hlt middle hmiddle hcmp ih => exact ih hs
  | case4 => simp at hs

private theorem search_eq_none {h : last ≤ ids.size} (hasc : ids.toList.Pairwise (· < ·))
    (hs : search ids id first last h = none) (hf : first ≤ slot) (hl : slot < last) :
    ids[slot] ≠ id := by
  have hlt_of_lt : ∀ {i j : Nat} (hij : i < j) (hj : j < ids.size), ids[i] < ids[j] :=
    fun {i j} hij hj => List.pairwise_iff_getElem.mp hasc i j (by simp; omega) (by simpa) hij
  fun_induction search ids id first last h with
  | case1 first last h hlt middle hmiddle hcmp ih =>
    by_cases hm : slot < middle
    · exact ih hs hf hm hlt_of_lt
    · have hid := Nat.compare_eq_lt.mp hcmp
      rcases Nat.eq_or_lt_of_le (Nat.le_of_not_lt hm) with rfl | hm
      · exact Nat.ne_of_gt hid
      · exact Nat.ne_of_gt (Nat.lt_trans hid (hlt_of_lt hm (by omega)))
  | case2 => simp at hs
  | case3 first last h hlt middle hmiddle hcmp ih =>
    by_cases hm : middle + 1 ≤ slot
    · exact ih hs hm hl hlt_of_lt
    · have hid := Nat.compare_eq_gt.mp hcmp
      rcases Nat.eq_or_lt_of_le (Nat.le_of_lt_succ (Nat.lt_of_not_le hm)) with rfl | hm
      · exact Nat.ne_of_lt hid
      · exact Nat.ne_of_lt (Nat.lt_trans (hlt_of_lt hm (by omega)) hid)
  | case4 first last h hge => omega

theorem find?_eq_some_iff (hasc : ids.toList.Pairwise (· < ·)) :
    find? ids id = some slot ↔ ids[slot]? = some id := by
  constructor
  · exact search_eq_some
  · intro hslot
    obtain ⟨hlt, hid⟩ := Array.getElem?_eq_some_iff.mp hslot
    cases hs : find? ids id with
    | none => exact absurd hid (search_eq_none hasc hs (Nat.zero_le slot) hlt)
    | some other =>
      have hother : ids.toList[other]? = ids.toList[slot]? := by
        rw [Array.getElem?_toList, Array.getElem?_toList, search_eq_some hs, hslot]
      have hlt' : other < ids.toList.length := by
        rw [Array.length_toList]
        exact (Array.getElem?_eq_some_iff.mp (search_eq_some hs)).1
      rw [(List.getElem?_inj hlt' (hasc.imp Nat.ne_of_lt)).mp hother]

end SqlEngine.Slot
