import Mathlib.Data.List.Forall2
import SqlEngine.Action

/-!
# Runs of actions

A run goes on after an error, from the state in which the failing action stopped. What a single
action may do to an invariant is said by `Transacts`: it either answers and keeps the invariant, or
fails and changes nothing. An action that checks everything before it writes has this property,
although its loops could stop halfway.
-/

namespace SqlEngine

/-- The replies of a machine to a list of inputs, each with the state after it. -/
def trace {ι ρ σ : Type} (step : ι → σ → ρ × σ) : List ι → σ → List (ρ × σ)
  | [],             _ => []
  | input :: later, s => step input s :: trace step later (step input s).2

/-- Machines that answer alike and stay related, as long as the replies of the first have a property,
do so over whole runs of which all replies have it. -/
theorem forall₂_trace_of_replies {ι ρ σ τ : Type} {P : ρ → Prop} {R : σ → τ → Prop}
    {step : ι → σ → ρ × σ} {step' : ι → τ → ρ × τ}
    (hstep : ∀ input s t, R s t → P (step input s).1 →
      (step input s).1 = (step' input t).1 ∧ R (step input s).2 (step' input t).2)
    (inputs : List ι) {s : σ} {t : τ} (h : R s t)
    (hreplies : ∀ reply ∈ trace step inputs s, P reply.1) :
    List.Forall₂ (fun a b => a.1 = b.1 ∧ R a.2 b.2) (trace step inputs s)
      (trace step' inputs t) := by
  induction inputs generalizing s t with
  | nil => exact .nil
  | cons input later ih =>
    obtain ⟨hfirst, hlater⟩ := List.forall_mem_cons.mp hreplies
    have hnext := hstep input s t h hfirst
    exact .cons hnext (ih hnext.2 hlater)

/-- Machines that step by step answer alike and stay related do so over whole runs. -/
theorem forall₂_trace {ι ρ σ τ : Type} {R : σ → τ → Prop} {step : ι → σ → ρ × σ}
    {step' : ι → τ → ρ × τ}
    (hstep : ∀ input s t, R s t →
      (step input s).1 = (step' input t).1 ∧ R (step input s).2 (step' input t).2)
    (inputs : List ι) {s : σ} {t : τ} (h : R s t) :
    List.Forall₂ (fun a b => a.1 = b.1 ∧ R a.2 b.2) (trace step inputs s)
      (trace step' inputs t) :=
  forall₂_trace_of_replies (P := fun _ => True) (fun input s t hst _ => hstep input s t hst) inputs h
    fun _ _ => trivial

namespace Action

variable {σ τ α β γ : Type} {I : σ → Prop} {s s' : σ}

/-- The state that an action leaves, whether it answers or fails. -/
def after (act : Action σ α) (s : σ) : σ := (act.outcome s).2

theorem after_of_outcome {act : Action σ α} {answer : Except Error α}
    (h : act.outcome s = (answer, s')) : act.after s = s' := by
  rw [after, h]

theorem outcome_of_answer {act : Action σ α} {answer : Except Error α}
    (h : act.answer s = answer) : act.outcome s = (answer, act.after s) := by
  rw [← h]
  rfl

theorem outcome_bind_of_ok {act : Action σ α} {next : α → Action σ β} {a : α}
    (h : act.outcome s = (.ok a, s')) : (act >>= next).outcome s = (next a).outcome s' := by
  rw [outcome_bind, h]

theorem outcome_observe_bind_of_ok (look : σ → Except Error α) {next : α → Action σ β} {a : α}
    (h : look s = .ok a) : (observe look >>= next).outcome s = (next a).outcome s := by
  rw [outcome_bind, outcome_observe, h]

theorem outcome_observe_bind_of_error (look : σ → Except Error α) {next : α → Action σ β}
    {e : Error} (h : look s = .error e) : (observe look >>= next).outcome s = (.error e, s) := by
  rw [outcome_bind, outcome_observe, h]

theorem outcome_observe_bind_eq_ok_iff {look : σ → Except Error α} {next : α → Action σ β} {b : β} :
    (observe look >>= next).outcome s = (.ok b, s') ↔
      ∃ a, look s = .ok a ∧ (next a).outcome s = (.ok b, s') := by
  rw [outcome_bind, outcome_observe]
  cases look s <;> simp

/-- What is made of the answer does not change what the action leaves. -/
theorem outcome_bind_pure (act : Action σ α) (f : α → β) (s : σ) :
    (act >>= fun a => pure (f a)).outcome s = (f <$> act.answer s, act.after s) := by
  rw [outcome_bind, answer, after]
  rcases act.outcome s with ⟨_ | _, _⟩ <;> rfl

theorem after_bind_pure (act : Action σ α) (f : α → β) (s : σ) :
    (act >>= fun a => pure (f a)).after s = act.after s :=
  after_of_outcome (outcome_bind_pure act f s)

theorem answer_bind_pure (act : Action σ α) (f : α → β) (s : σ) :
    (act >>= fun a => pure (f a)).answer s = f <$> act.answer s :=
  congrArg Prod.fst (outcome_bind_pure act f s)

/-- The action answers and does not fail. -/
def Succeeds (act : Action σ α) (s : σ) : Prop := ∃ a s', act.outcome s = (.ok a, s')

/-- A failing action leaves the state as it was. -/
def Atomic (act : Action σ α) (s : σ) : Prop := ∀ e, act.answer s = .error e → act.after s = s

/-- The action either fails and leaves the state as it was, or answers and leaves a state in which
the invariant holds. -/
def Transacts (I : σ → Prop) (act : Action σ α) (s : σ) : Prop :=
  (∃ e, act.outcome s = (.error e, s)) ∨ ∃ a s', act.outcome s = (.ok a, s') ∧ I s'

namespace Transacts

variable {act : Action σ α}

theorem atomic (h : act.Transacts I s) : act.Atomic s := by
  intro e he
  rcases h with ⟨e', h⟩ | ⟨a, s', h, _⟩
  · exact after_of_outcome h
  · rw [answer, h] at he
    cases he

theorem invariant (h : act.Transacts I s) (hs : I s) : I (act.after s) := by
  rcases h with ⟨e, h⟩ | ⟨a, s', h, hI⟩
  · rw [after_of_outcome h]
    exact hs
  · rw [after_of_outcome h]
    exact hI

end Transacts

theorem transacts_observe (look : σ → Except Error α) (hs : I s) :
    (observe look).Transacts I s := by
  rw [Transacts, outcome_observe]
  cases look s with
  | error e => exact .inl ⟨e, rfl⟩
  | ok a => exact .inr ⟨a, s, rfl, hs⟩

/-- Checks that come first may fail as they like. -/
theorem transacts_observe_bind {look : σ → Except Error α} {next : α → Action σ β}
    (h : ∀ a, look s = .ok a → (next a).Transacts I s) :
    (observe look >>= next).Transacts I s := by
  rw [Transacts, outcome_bind, outcome_observe]
  cases ha : look s with
  | error e => exact .inl ⟨e, rfl⟩
  | ok a => exact h a ha

/-- What is done with the answer afterwards does not matter. -/
theorem transacts_bind_pure {act : Action σ α} (f : α → β) (h : act.Transacts I s) :
    (act >>= fun a => pure (f a)).Transacts I s := by
  rw [Transacts, outcome_bind]
  rcases h with ⟨e, h⟩ | ⟨a, s', h, hI⟩
  · rw [h]
    exact .inl ⟨e, rfl⟩
  · rw [h]
    exact .inr ⟨f a, s', rfl, hI⟩

theorem transacts_change {next : σ → Except Error σ} (h : ∀ s', next s = .ok s' → I s') :
    (change next).Transacts I s := by
  rw [Transacts, outcome_change]
  cases hn : next s with
  | error e => exact .inl ⟨e, rfl⟩
  | ok s' => exact .inr ⟨(), s', rfl, h s' hn⟩

theorem transacts_within {J : τ → Prop} {part : σ → Except Error τ} {put : σ → τ → σ}
    {act : Action τ α} (hact : ∀ t, part s = .ok t → act.Transacts J t)
    (hself : ∀ t, part s = .ok t → put s t = s) (hput : ∀ t, J t → I (put s t)) :
    (within part put act).Transacts I s := by
  rw [Transacts, outcome_within]
  cases hp : part s with
  | error e => exact .inl ⟨e, rfl⟩
  | ok t =>
    dsimp only
    rcases hact t hp with ⟨e, h⟩ | ⟨a, t', h, hJ⟩
    · rw [h, hself t hp]
      exact .inl ⟨e, rfl⟩
    · rw [h]
      exact .inr ⟨a, put s t', rfl, hput t' hJ⟩

/-- What every transaction of a family keeps, every run of them keeps. -/
theorem invariant_foldl_after {ι : Type} {ρ : ι → Type} {act : (input : ι) → Action σ (ρ input)}
    (hact : ∀ input s, I s → (act input).Transacts I s) (inputs : List ι) (hs : I s) :
    I (inputs.foldl (fun s input => (act input).after s) s) := by
  induction inputs generalizing s with
  | nil => exact hs
  | cons input later ih => exact ih ((hact input s hs).invariant hs)

/-! ### Actions that differ in what they do not come to -/

theorem outcome_observe_bind_congr {look look' : σ → Except Error α} (next : α → Action σ β)
    (h : look s = look' s) :
    (observe look >>= next).outcome s = (observe look' >>= next).outcome s := by
  rw [outcome_bind, outcome_bind, outcome_observe, outcome_observe, h]

theorem outcome_bind_congr {act act' : Action σ α} (next : α → Action σ β)
    (h : act.outcome s = act'.outcome s) : (act >>= next).outcome s = (act' >>= next).outcome s := by
  rw [outcome_bind, outcome_bind, h]

theorem outcome_within_congr {part : σ → Except Error τ} {put : σ → τ → σ} {act act' : Action τ α}
    (h : ∀ t, part s = .ok t → act.outcome t = act'.outcome t) :
    (within part put act).outcome s = (within part put act').outcome s := by
  rw [outcome_within, outcome_within]
  cases hp : part s with
  | error e => rfl
  | ok t =>
    dsimp only
    rw [h t hp]

/-! ### Loops -/

theorem outcome_forM_nil (f : α → Action σ PUnit) (s : σ) :
    (List.forM [] f).outcome s = (.ok ⟨⟩, s) := rfl

theorem outcome_forM_cons (a : α) (l : List α) (f : α → Action σ PUnit) (s : σ) :
    (List.forM (a :: l) f).outcome s =
      match (f a).outcome s with
      | (.ok _, s')    => (l.forM f).outcome s'
      | (.error e, s') => (.error e, s') := by
  have hcons : List.forM (a :: l) f = f a >>= fun _ => l.forM f := rfl
  rw [hcons, outcome_bind]
  rcases (f a).outcome s with ⟨_ | _, s'⟩ <;> rfl

private theorem outcome_mapM_nil (f : α → Action σ β) (s : σ) :
    (List.mapM f []).outcome s = (.ok [], s) := rfl

theorem outcome_mapM_cons (a : α) (l : List α) (f : α → Action σ β) (s : σ) :
    (List.mapM f (a :: l)).outcome s =
      match (f a).outcome s with
      | (.ok b, s')    =>
        match (l.mapM f).outcome s' with
        | (.ok bs, s'')   => (.ok (b :: bs), s'')
        | (.error e, s'') => (.error e, s'')
      | (.error e, s') => (.error e, s') := by
  rw [List.mapM_cons, outcome_bind]
  rcases (f a).outcome s with ⟨_ | b, s'⟩
  · rfl
  · dsimp only
    rw [outcome_bind]
    rcases (l.mapM f).outcome s' with ⟨_ | _, s''⟩ <;> rfl

/-- What every round of a loop keeps, the loop keeps, also when it stops early. -/
theorem after_mapM {f : α → Action σ β} (hf : ∀ a s, I s → I ((f a).after s)) (l : List α)
    (hs : I s) : I ((l.mapM f).after s) := by
  induction l generalizing s with
  | nil => exact hs
  | cons a l ih =>
    have hfirst := hf a s hs
    rw [after, outcome_mapM_cons]
    rw [after] at hfirst
    rcases ha : (f a).outcome s with ⟨_ | b, s₁⟩
    · rwa [ha] at hfirst
    · rw [ha] at hfirst
      have hlater := ih hfirst
      rw [after] at hlater
      dsimp only
      rcases hl : (l.mapM f).outcome s₁ with ⟨_ | bs, s₂⟩ <;> rwa [hl] at hlater

/-- A loop of transactions that fails has done what stands before the failing one, and nothing
else. -/
theorem outcome_mapM_of_error {f : α → Action σ β} (hf : ∀ a s, I s → (f a).Transacts I s)
    {l : List α} {e : Error} (hs : I s) (h : (l.mapM f).outcome s = (.error e, s')) :
    ∃ i a bs, l[i]? = some a ∧ ((l.take i).mapM f).outcome s = (.ok bs, s') ∧
      (f a).outcome s' = (.error e, s') := by
  induction l generalizing s with
  | nil =>
    rw [outcome_mapM_nil] at h
    cases h
  | cons a l ih =>
    rw [outcome_mapM_cons] at h
    rcases hf a s hs with ⟨e', ha⟩ | ⟨b, s₁, ha, hs₁⟩
    · rw [ha] at h
      cases h
      exact ⟨0, a, [], rfl, outcome_mapM_nil f _, ha⟩
    · rw [ha] at h
      dsimp only at h
      rcases hl : (l.mapM f).outcome s₁ with ⟨_ | bs, s₂⟩
      · rw [hl] at h
        cases h
        obtain ⟨i, a', bs, hi, hbefore, hfail⟩ := ih hs₁ hl
        refine ⟨i + 1, a', b :: bs, hi, ?_, hfail⟩
        rw [List.take_succ_cons, outcome_mapM_cons, ha]
        dsimp only
        rw [hbefore]
      · rw [hl] at h
        cases h

end Action

end SqlEngine
