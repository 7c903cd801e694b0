import SqlEngine.Error

/-!
# Actions on a state

An action reads and changes a state and may stop with an error. What it had changed by then stays
changed, so that leaving the state alone on an error is a property of an action and not of the type.
-/

namespace SqlEngine

abbrev Action (σ α : Type) := EStateM Error σ α

namespace Action

variable {σ τ α β : Type}

/-- The answer of an action, and the state that it leaves. -/
def outcome (act : Action σ α) (s : σ) : Except Error α × σ :=
  match act s with
  | .ok a s'    => (.ok a, s')
  | .error e s' => (.error e, s')

/-- The answer of an action whose final state is of no interest. -/
def answer (act : Action σ α) (s : σ) : Except Error α := (act.outcome s).1

/-- Looks at the state without changing it. -/
def observe (look : σ → Except Error α) : Action σ α := fun s =>
  match look s with
  | .ok a    => .ok a s
  | .error e => .error e s

/-- Changes the state in one step that fails before it changes anything. -/
def change (next : σ → Except Error σ) : Action σ Unit := fun s =>
  match next s with
  | .ok s'   => .ok () s'
  | .error e => .error e s

/-- Runs an action on a part of the state and puts the part back as the action leaves it, also when
the action fails. -/
def within (part : σ → Except Error τ) (put : σ → τ → σ) (act : Action τ α) : Action σ α := fun s =>
  match part s with
  | .error e => .error e s
  | .ok t    =>
    match act t with
    | .ok a t'    => .ok a (put s t')
    | .error e t' => .error e (put s t')

/-! ### What the actions answer and leave -/

theorem outcome_pure (a : α) (s : σ) : (pure a : Action σ α).outcome s = (.ok a, s) := rfl

theorem outcome_throw (e : Error) (s : σ) : (throw e : Action σ α).outcome s = (.error e, s) := rfl

theorem outcome_get (s : σ) : (get : Action σ σ).outcome s = (.ok s, s) := rfl

theorem outcome_set (s' s : σ) : (set s' : Action σ PUnit).outcome s = (.ok ⟨⟩, s') := rfl

theorem outcome_modify (f : σ → σ) (s : σ) :
    (modify f : Action σ PUnit).outcome s = (.ok ⟨⟩, f s) := rfl

theorem outcome_bind (act : Action σ α) (next : α → Action σ β) (s : σ) :
    (act >>= next).outcome s =
      match act.outcome s with
      | (.ok a, s')    => (next a).outcome s'
      | (.error e, s') => (.error e, s') := by
  simp only [outcome, bind, EStateM.bind]
  cases act s <;> rfl

/-- Two actions in a row answer where each of them does. -/
theorem outcome_bind_eq_ok_iff {act : Action σ α} {next : α → Action σ β} {b : β} {s s'' : σ} :
    (act >>= next).outcome s = (.ok b, s'') ↔
      ∃ a s', act.outcome s = (.ok a, s') ∧ (next a).outcome s' = (.ok b, s'') := by
  rw [outcome_bind]
  rcases h : act.outcome s with ⟨e | a, s'⟩
  · simp
  · constructor
    · exact fun hb => ⟨a, s', rfl, hb⟩
    · intro hboth
      obtain ⟨_, _, ⟨⟩, hb⟩ := hboth
      exact hb

theorem outcome_observe (look : σ → Except Error α) (s : σ) :
    (observe look).outcome s = (look s, s) := by
  simp only [outcome, observe]
  cases look s <;> rfl

theorem answer_observe (look : σ → Except Error α) (s : σ) : (observe look).answer s = look s := by
  rw [answer, outcome_observe]

theorem outcome_change (next : σ → Except Error σ) (s : σ) :
    (change next).outcome s =
      match next s with
      | .ok s'   => (.ok (), s')
      | .error e => (.error e, s) := by
  simp only [outcome, change]
  cases next s <;> rfl

theorem outcome_within (part : σ → Except Error τ) (put : σ → τ → σ) (act : Action τ α) (s : σ) :
    (within part put act).outcome s =
      match part s with
      | .ok t    => ((act.outcome t).1, put s (act.outcome t).2)
      | .error e => (.error e, s) := by
  simp only [outcome, within]
  cases part s with
  | error e => rfl
  | ok t =>
    dsimp only
    cases act t <;> rfl

end Action

end SqlEngine
