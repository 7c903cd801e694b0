/-! # The first item of a list that was there before -/

namespace SqlEngine

/-- The first item that is among those seen or among the ones before it. -/
def firstSeen? {α : Type} [DecidableEq α] (seen : List α) : List α → Option α
  | []        => none
  | a :: rest => if a ∈ seen then some a else firstSeen? (a :: seen) rest

def firstRepeated? {α : Type} [DecidableEq α] (items : List α) : Option α := firstSeen? [] items

variable {α : Type} [DecidableEq α]

private theorem firstSeen?_eq_none_iff {seen items : List α} :
    firstSeen? seen items = none ↔ items.Nodup ∧ ∀ a ∈ items, a ∉ seen := by
  induction items generalizing seen with
  | nil => simp [firstSeen?]
  | cons a rest ih =>
    by_cases h : a ∈ seen
    · simp [firstSeen?, h]
    · simp only [firstSeen?, h, if_false, ih, List.nodup_cons, List.mem_cons, not_or,
        forall_eq_or_imp, not_false_eq_true, true_and]
      constructor
      · rintro ⟨hnodup, hrest⟩
        exact ⟨⟨fun ha => (hrest a ha).1 rfl, hnodup⟩, fun b hb => (hrest b hb).2⟩
      · rintro ⟨⟨ha, hnodup⟩, hrest⟩
        exact ⟨hnodup, fun b hb => ⟨fun hba => ha (hba ▸ hb), hrest b hb⟩⟩

private theorem firstSeen?_eq_some_iff {seen items : List α} {a : α} :
    firstSeen? seen items = some a ↔
      ∃ before after, items = before ++ a :: after ∧ before.Nodup ∧ (∀ b ∈ before, b ∉ seen) ∧
        (a ∈ before ∨ a ∈ seen) := by
  induction items generalizing seen with
  | nil => simp [firstSeen?]
  | cons first rest ih =>
    unfold firstSeen?
    split
    · rename_i hseen
      constructor
      · intro h
        cases h
        exact ⟨[], rest, rfl, .nil, by simp, .inr hseen⟩
      · rintro ⟨_ | ⟨b, before⟩, after, hitems, _, hfresh, _⟩
        · cases hitems
          rfl
        · cases hitems
          exact absurd hseen (hfresh first List.mem_cons_self)
    · rename_i hnew
      rw [ih]
      constructor
      · rintro ⟨before, after, rfl, hnodup, hfresh, ha⟩
        refine ⟨first :: before, after, rfl, ?_, ?_, ?_⟩
        · exact List.nodup_cons.mpr ⟨fun h => hfresh first h List.mem_cons_self, hnodup⟩
        · exact List.forall_mem_cons.mpr
            ⟨hnew, fun b hb h => hfresh b hb (List.mem_cons_of_mem first h)⟩
        · simpa [or_assoc, or_left_comm] using ha
      · rintro ⟨_ | ⟨b, before⟩, after, hitems, hnodup, hfresh, ha⟩
        · cases hitems
          exact absurd (ha.resolve_left List.not_mem_nil) hnew
        · cases hitems
          obtain ⟨hfirst, hnodup⟩ := List.nodup_cons.mp hnodup
          refine ⟨before, after, rfl, hnodup, ?_, ?_⟩
          · intro b hb hmem
            rcases List.mem_cons.mp hmem with rfl | hmem
            · exact hfirst hb
            · exact hfresh b (List.mem_cons_of_mem first hb) hmem
          · simpa [or_assoc, or_left_comm] using ha

/-- The first repeated item is the one that ends the longest part without repetitions. -/
theorem firstRepeated?_eq_some_iff {items : List α} {a : α} :
    firstRepeated? items = some a ↔
      ∃ before after, items = before ++ a :: after ∧ before.Nodup ∧ a ∈ before := by
  simp [firstRepeated?, firstSeen?_eq_some_iff]

@[simp] theorem firstRepeated?_eq_none_iff {items : List α} :
    firstRepeated? items = none ↔ items.Nodup := by
  simp [firstRepeated?, firstSeen?_eq_none_iff]

end SqlEngine
