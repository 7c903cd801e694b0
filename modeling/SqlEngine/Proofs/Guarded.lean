import SqlEngine.Proofs.ActionRuns

/-!
# Guarded actions

Reading a list past its end or subtracting more than there is has a harmless meaning in a
definition, where a machine would stop. A guarded action has these accesses as steps of their own,
and stops at one that is out of range. This module has the rules by which a guarded action is shown
to go through and to do what an action does.
-/

namespace SqlEngine

/-- An action that may also stop at an access. -/
abbrev Guarded (σ α : Type) := ExceptT Error (StateT σ Option) α

namespace Guarded

variable {σ τ α β : Type} {s : σ}

/-- An action without accesses. -/
def act (act : Action σ α) : Guarded σ α := fun s => some (act.outcome s)

def look (look : σ → Except Error α) : Guarded σ α := act (Action.observe look)

/-- An access that stops unless something is found. -/
def reach (found : Option α) : Guarded σ α := fun s => found.map fun a => (.ok a, s)

/-- Runs an action on a part of the state and puts the part back. -/
def within (part : σ → Except Error τ) (put : σ → τ → σ) (g : Guarded τ α) : Guarded σ α := fun s =>
  match part s with
  | .ok t    => (g t).map fun (answer, t') => (answer, put s t')
  | .error e => some (.error e, s)

private theorem bind_apply (g : Guarded σ α) (next : α → Guarded σ β) (s : σ) :
    (g >>= next) s = (g s).bind fun (answer, s') =>
      match answer with
      | .ok a    => next a s'
      | .error e => some (.error e, s') := by
  show Option.bind (g s) _ = _
  congr 1
  funext e
  rcases e with ⟨_ | a, s'⟩ <;> rfl

/-! ### Readings -/

/-- The guarded action goes through, gives the answer and leaves the state alone. -/
def Gives (g : Guarded σ α) (s : σ) (answer : Except Error α) : Prop := g s = some (answer, s)

theorem gives_pure (a : α) (s : σ) : Gives (pure a) s (.ok a) := rfl

theorem gives_throw (e : Error) (s : σ) : Gives (throw e : Guarded σ α) s (.error e) := rfl

theorem gives_get (s : σ) : Gives get s (.ok s) := rfl

theorem gives_look (f : σ → Except Error α) (s : σ) : Gives (look f) s (f s) :=
  congrArg some (Action.outcome_observe f s)

theorem gives_reach {found : Option α} {a : α} (h : found = some a) (s : σ) :
    Gives (reach found) s (.ok a) := by
  rw [h]
  rfl

theorem Gives.bind {g : Guarded σ α} {next : α → Guarded σ β} {x : Except Error α}
    {f : α → Except Error β} (hg : Gives g s x) (hnext : ∀ a, x = .ok a → Gives (next a) s (f a)) :
    Gives (g >>= next) s (x >>= f) := by
  rw [Gives, bind_apply, hg]
  cases x with
  | error e => rfl
  | ok a => exact hnext a rfl

/-- After an answer that is known the rest is what gives the answer. -/
theorem Gives.then {g : Guarded σ α} {next : α → Guarded σ β} {a : α} {y : Except Error β}
    (hg : Gives g s (.ok a)) (hnext : Gives (next a) s y) : Gives (g >>= next) s y := by
  rw [Gives, bind_apply, hg]
  exact hnext

theorem gives_mapM {l : List α} {g : α → Guarded σ β} {f : α → Except Error β}
    (h : ∀ a ∈ l, Gives (g a) s (f a)) : Gives (l.mapM g) s (l.mapM f) := by
  induction l with
  | nil => exact gives_pure [] s
  | cons a l ih =>
    rw [List.mapM_cons, List.mapM_cons]
    refine (h a List.mem_cons_self).bind fun b _ => ?_
    exact (ih fun a' ha' => h a' (List.mem_cons_of_mem a ha')).bind fun bs _ => gives_pure _ s

theorem gives_mapM_of_ok {l : List α} {g : α → Guarded σ β} {f : α → β}
    (h : ∀ a ∈ l, Gives (g a) s (.ok (f a))) : Gives (l.mapM g) s (.ok (l.map f)) := by
  induction l with
  | nil => exact gives_pure [] s
  | cons a l ih =>
    rw [List.mapM_cons]
    refine (h a List.mem_cons_self).then ?_
    exact (ih fun a' ha' => h a' (List.mem_cons_of_mem a ha')).then (gives_pure _ s)

theorem gives_mapM_reach {l : List α} {find : α → Option β} {bs : List β}
    (h : l.mapM find = some bs) (s : σ) :
    Gives (l.mapM fun a => reach (find a)) s (.ok bs) := by
  induction l generalizing bs with
  | nil =>
    cases h
    exact gives_pure [] s
  | cons a l ih =>
    rw [List.mapM_cons] at h
    obtain ⟨b, hb, h⟩ := Option.bind_eq_some_iff.mp h
    obtain ⟨bs', hbs', h⟩ := Option.bind_eq_some_iff.mp h
    cases h
    rw [List.mapM_cons]
    exact (gives_reach hb s).then ((ih hbs').then (gives_pure _ s))

/-! ### Changes -/

/-- The guarded action goes through and does what the action does; where that answers, the answer
and the state are as said. -/
def Follows (g : Guarded σ α) (act : Action σ α) (s : σ) (Q : α → σ → Prop) : Prop :=
  g s = some (act.outcome s) ∧ ∀ a s', act.outcome s = (.ok a, s') → Q a s'

variable {Q : α → σ → Prop} {R : β → σ → Prop}

theorem follows_pure {a : α} (h : Q a s) : Follows (pure a) (pure a) s Q := by
  refine ⟨rfl, fun a' s' hout => ?_⟩
  cases hout
  exact h

theorem follows_act (action : Action σ α)
    (h : ∀ a s', action.outcome s = (.ok a, s') → Q a s') :
    Follows (act action) action s Q := ⟨rfl, h⟩

theorem Follows.bind {g : Guarded σ α} {action : Action σ α} {next : α → Guarded σ β}
    {next' : α → Action σ β} (h : Follows g action s Q)
    (hnext : ∀ a s', Q a s' → Follows (next a) (next' a) s' R) :
    Follows (g >>= next) (action >>= next') s R := by
  rw [Follows, bind_apply, Action.outcome_bind, h.1]
  rcases hout : action.outcome s with ⟨_ | a, s'⟩
  · refine ⟨rfl, fun b s'' herror => ?_⟩
    cases herror
  · exact hnext a s' (h.2 a s' hout)

theorem Follows.mono {g : Guarded σ α} {action : Action σ α} {R : α → σ → Prop}
    (h : Follows g action s Q) (hQ : ∀ a s', Q a s' → R a s') :
    Follows g action s R := ⟨h.1, fun a s' hout => hQ a s' (h.2 a s' hout)⟩

/-- What both read, before both go on in the same state. -/
theorem Gives.observed {g : Guarded σ α} {f : σ → Except Error α} {next : α → Guarded σ β}
    {next' : α → Action σ β} (hg : Gives g s (f s))
    (hnext : ∀ a, f s = .ok a → Follows (next a) (next' a) s R) :
    Follows (g >>= next) (Action.observe f >>= next') s R := by
  rw [Follows, bind_apply, Action.outcome_bind, hg, Action.outcome_observe]
  cases hf : f s with
  | error e =>
    refine ⟨rfl, fun b s' hout => ?_⟩
    cases hout
  | ok a => exact hnext a hf

theorem follows_get_bind {next : σ → Guarded σ β} {next' : σ → Action σ β}
    (h : Follows (next s) (next' s) s R) : Follows (get >>= next) (get >>= next') s R := by
  rw [Follows, bind_apply, Action.outcome_bind]
  exact h

/-- An access before what the action does. -/
theorem Gives.followed {g : Guarded σ α} {next : α → Guarded σ β} {action : Action σ β} {a : α}
    (hg : Gives g s (.ok a)) (h : Follows (next a) action s R) :
    Follows (g >>= next) action s R := by
  rw [Follows, bind_apply, hg]
  exact h

/-- A loop keeps what each round hands to the next. -/
theorem follows_forM {I : List α → σ → Prop} {g : α → Guarded σ PUnit} {action : α → Action σ PUnit}
    {l : List α} (hround : ∀ a rest s, I (a :: rest) s → Follows (g a) (action a) s fun _ => I rest)
    (h : I l s) : Follows (l.forM g) (l.forM action) s fun _ => I [] := by
  induction l generalizing s with
  | nil => exact follows_pure h
  | cons a l ih =>
    have hcons : (a :: l).forM g = g a >>= fun _ => l.forM g := rfl
    have hcons' : (a :: l).forM action = action a >>= fun _ => l.forM action := rfl
    rw [hcons, hcons']
    exact (hround a l s h).bind fun _ s' hrest => ih hrest

theorem follows_within {part : σ → Except Error τ} {put : σ → τ → σ} {g : Guarded τ α}
    {action : Action τ α} {P : α → τ → Prop}
    (h : ∀ t, part s = .ok t → Follows g action t P)
    (hput : ∀ t a t', part s = .ok t → P a t' → Q a (put s t')) :
    Follows (within part put g) (Action.within part put action) s Q := by
  rw [Follows, within, Action.outcome_within]
  cases hpart : part s with
  | error e =>
    refine ⟨rfl, fun a s' hout => ?_⟩
    cases hout
  | ok t =>
    obtain ⟨hrun, hQ⟩ := h t hpart
    dsimp only
    rw [hrun]
    refine ⟨rfl, fun a s' hout => ?_⟩
    cases hout' : action.outcome t with
    | mk answer t' =>
      rw [hout'] at hout
      cases hout
      exact hput t a t' hpart (hQ a t' hout')

end Guarded

end SqlEngine
