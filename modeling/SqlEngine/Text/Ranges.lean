/-! # Sets of code points given by their runs -/

namespace SqlEngine.Text

/-- A set of code points: its maximal runs in ascending order, each by its first and last member. -/
abbrev Ranges := List (Nat × Nat)

namespace Ranges

/-- Stops at the first run that begins beyond the code point, since all later ones do too. -/
def contains : Ranges → Nat → Bool
  | [], _ => false
  | (first, last) :: runs, code =>
    if code < first then false else code ≤ last || contains runs code

/-- The runs are nonempty, ascending, and no two of them touch. -/
def Separated : Ranges → Prop
  | [] => True
  | (first, last) :: runs => first ≤ last ∧ (∀ run ∈ runs, last + 1 < run.1) ∧ Separated runs

@[simp] theorem contains_nil (code : Nat) : contains [] code = false := rfl

theorem contains_eq_true_iff {runs : Ranges} (h : runs.Separated) {code : Nat} :
    runs.contains code = true ↔ ∃ run ∈ runs, run.1 ≤ code ∧ code ≤ run.2 := by
  induction runs with
  | nil => simp
  | cons run runs ih =>
    obtain ⟨_, hgap, hruns⟩ := h
    by_cases hlt : code < run.1
    · have hnone : ∀ later ∈ runs, ¬ later.1 ≤ code := fun later hl => by
        have := hgap later hl
        omega
      simp only [contains, hlt, if_true, Bool.false_eq_true, List.mem_cons, false_iff]
      rintro ⟨later, rfl | hl, hle, -⟩
      · omega
      · exact hnone later hl hle
    · have hle : run.1 ≤ code := by omega
      simp [contains, hlt, ih hruns, hle]

end Ranges

end SqlEngine.Text
