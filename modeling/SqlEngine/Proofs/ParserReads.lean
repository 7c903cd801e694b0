import SqlEngine.Proofs.StatementLexemes

/-!
# What parsers read

A parser that answers has read the tokens at the head of its stream. Each combinator gets one
equivalence: it answers with these values and stops there exactly if the tokens that it passes have
the lexemes of what it answers with. Soundness is the one direction and completeness the other.
-/

namespace SqlEngine

namespace TokenStream

/-- The second stream is what comes in the first after tokens with the given lexemes. -/
def Passes (s : TokenStream) (lexemes : List Lexeme) (s' : TokenStream) : Prop :=
  ∃ tokens : List Token, tokens.map (·.lexeme) = lexemes ∧ s = ⟨tokens ++ s'.pending, s'.finish⟩

/-- The lexemes before the first end of input. -/
def lexemes (s : TokenStream) : List Lexeme :=
  (s.pending.map (·.lexeme)).takeWhile (· ≠ .endOfInput)

variable {s s' s'' : TokenStream} {l : Lexeme} {ls ms : List Lexeme}

theorem lexemes_ofTokens (tokens : List Token) :
    (ofTokens tokens).lexemes = (tokens.map (·.lexeme)).takeWhile (· ≠ .endOfInput) := by
  rw [lexemes, ofTokens]
  cases hlast : tokens.getLast? with
  | none => rw [List.getLast?_eq_none_iff.mp hlast]
  | some last =>
    dsimp only
    split
    · rename_i hend
      obtain ⟨earlier, rfl⟩ := List.getLast?_eq_some_iff.mp hlast
      rw [List.dropLast_concat, List.map_append, List.takeWhile_append]
      split
      · rename_i hall
        rw [(List.takeWhile_prefix _).eq_of_length hall]
        simp [hend]
      · rfl
    · rfl

theorem passes_nil : s.Passes [] s' ↔ s = s' := by
  constructor
  · intro h
    obtain ⟨tokens, htokens, hs⟩ := h
    rw [hs, List.map_eq_nil_iff.mp htokens]
    rfl
  · rintro rfl
    exact ⟨[], rfl, rfl⟩

theorem passes_append :
    s.Passes (ls ++ ms) s'' ↔ ∃ s', s.Passes ls s' ∧ s'.Passes ms s'' := by
  constructor
  · intro h
    obtain ⟨tokens, htokens, hs⟩ := h
    obtain ⟨first, later, rfl, hfirst, hlater⟩ := List.map_eq_append_iff.mp htokens
    refine ⟨⟨later ++ s''.pending, s''.finish⟩, ⟨first, hfirst, ?_⟩, ⟨later, hlater, rfl⟩⟩
    rw [hs, List.append_assoc]
  · intro h
    obtain ⟨_, ⟨first, rfl, rfl⟩, ⟨later, rfl, rfl⟩⟩ := h
    exact ⟨first ++ later, List.map_append, by simp⟩

private theorem passes_cons : s.Passes (l :: ls) s'' ↔ ∃ s', s.Passes [l] s' ∧ s'.Passes ls s'' :=
  @passes_append s s'' [l] ls

/-- A list is taken apart down to single lexemes and no further. -/
theorem passes_cons_cons {m : Lexeme} :
    s.Passes (l :: m :: ls) s'' ↔ ∃ s', s.Passes [l] s' ∧ s'.Passes (m :: ls) s'' :=
  passes_cons

theorem Passes.append (h : s.Passes ls s') (h' : s'.Passes ms s'') : s.Passes (ls ++ ms) s'' :=
  passes_append.mpr ⟨s', h, h'⟩

/-- At its end a stream goes on answering with the end of input, which is nothing to pass. -/
theorem passes_singleton (hl : l ≠ .endOfInput) :
    s.Passes [l] s' ↔ s.current.lexeme = l ∧ s' = s.advance := by
  constructor
  · intro h
    obtain ⟨tokens, htokens, rfl⟩ := h
    obtain ⟨t, rfl, rfl⟩ := List.map_eq_singleton_iff.mp htokens
    exact ⟨rfl, rfl⟩
  · intro h
    obtain ⟨hcurrent, rfl⟩ := h
    obtain ⟨_ | ⟨t, pending⟩, finish⟩ := s
    · exact absurd hcurrent.symm hl
    · exact ⟨[t], congrArg (fun l => [l]) hcurrent, rfl⟩

theorem Passes.current_lexeme (h : s.Passes ls s') :
    s.current.lexeme = ls.headD s'.current.lexeme := by
  obtain ⟨tokens, rfl, rfl⟩ := h
  cases tokens with
  | nil => rfl
  | cons t tokens => rfl

theorem Passes.current_ne {m : Lexeme} (h : s.Passes (l :: ls) s') (hne : l ≠ m) :
    s.current.lexeme ≠ m := by
  rw [h.current_lexeme]
  exact hne

theorem Passes.length_eq (h : s.Passes ls s') :
    s.pending.length = ls.length + s'.pending.length := by
  obtain ⟨tokens, rfl, rfl⟩ := h
  simp

end TokenStream

namespace Parser

open TokenStream

variable {α β : Type} {s s' s'' : TokenStream} {a : α} {b : β} {l : Lexeme}

/-- The parser answers with a value and stops at the second stream. -/
def Reads (p : Parser α) (s : TokenStream) (a : α) (s' : TokenStream) : Prop :=
  p.outcome s = (.ok a, s')

/-! ### Single steps -/

theorem reads_pure {a' : α} : (pure a : Parser α).Reads s a' s' ↔ a = a' ∧ s = s' := by
  rw [Reads, Action.outcome_pure, Prod.mk.injEq, Except.ok.injEq]

theorem reads_bind {p : Parser α} {next : α → Parser β} :
    (p >>= next).Reads s b s'' ↔ ∃ a s', p.Reads s a s' ∧ (next a).Reads s' b s'' :=
  Action.outcome_bind_eq_ok_iff

theorem reads_current_bind {next : Token → Parser β} :
    (current >>= next).Reads s b s' ↔ (next s.current).Reads s b s' := Iff.rfl

theorem reads_get_bind {next : TokenStream → Parser β} :
    (get >>= next).Reads s b s' ↔ (next s).Reads s b s' := Iff.rfl

private theorem not_reads_throw {e : Error} : ¬ (throw e : Parser α).Reads s a s' := by
  rw [Reads, Action.outcome_throw]
  simp

theorem not_reads_fail {expected : Expectation} : ¬ (fail expected : Parser α).Reads s a s' := by
  rw [Reads, outcome_fail]
  simp

theorem not_reads_throw_bind {e : Error} {next : α → Parser β} :
    ¬ ((throw e : Parser α) >>= next).Reads s b s' := by
  rw [reads_bind]
  intro hread
  obtain ⟨_, _, h, _⟩ := hread
  exact not_reads_throw h

theorem not_reads_fail_bind {expected : Expectation} {next : α → Parser β} :
    ¬ ((fail expected : Parser α) >>= next).Reads s b s' := by
  rw [reads_bind]
  intro hread
  obtain ⟨_, _, h, _⟩ := hread
  exact not_reads_fail h

theorem reads_accept_true (hl : l ≠ .endOfInput) :
    (accept l).Reads s true s' ↔ s.Passes [l] s' := by
  rw [passes_singleton hl, Reads, outcome_accept]
  by_cases h : s.current.lexeme = l <;> simp [h, eq_comm]

private theorem reads_accept_false :
    (accept l).Reads s false s' ↔ s.current.lexeme ≠ l ∧ s = s' := by
  rw [Reads, outcome_accept]
  by_cases h : s.current.lexeme = l <;> simp [h]

/-- A lexeme that may be there decides how to go on. -/
theorem reads_accept_bind (hl : l ≠ .endOfInput) {next : Bool → Parser β} :
    (accept l >>= next).Reads s b s'' ↔
      (∃ s', s.Passes [l] s' ∧ (next true).Reads s' b s'') ∨
        s.current.lexeme ≠ l ∧ (next false).Reads s b s'' := by
  rw [reads_bind, Bool.exists_bool, or_comm]
  simp only [reads_accept_true hl, reads_accept_false]
  refine or_congr Iff.rfl ⟨?_, ?_⟩
  · intro hread
    obtain ⟨_, ⟨h, rfl⟩, hb⟩ := hread
    exact ⟨h, hb⟩
  · intro hboth
    obtain ⟨h, hb⟩ := hboth
    exact ⟨s, ⟨h, rfl⟩, hb⟩

theorem reads_expect (hl : l ≠ .endOfInput) : (expect l).Reads s () s' ↔ s.Passes [l] s' := by
  rw [passes_singleton hl, Reads, outcome_expect]
  by_cases h : s.current.lexeme = l <;> simp [h, eq_comm]

theorem reads_expect_bind (hl : l ≠ .endOfInput) {next : Unit → Parser β} :
    (expect l >>= next).Reads s b s'' ↔ ∃ s', s.Passes [l] s' ∧ (next ()).Reads s' b s'' := by
  rw [reads_bind]
  constructor
  · intro hread
    obtain ⟨_, s', hread, hb⟩ := hread
    exact ⟨s', (reads_expect hl).mp hread, hb⟩
  · intro hboth
    obtain ⟨s', hpass, hb⟩ := hboth
    exact ⟨(), s', (reads_expect hl).mpr hpass, hb⟩

theorem reads_take {expected : Expectation} {meaning : Lexeme → Option α}
    (hend : meaning .endOfInput = none) :
    (take expected meaning).Reads s a s' ↔ ∃ l, meaning l = some a ∧ s.Passes [l] s' := by
  rw [Reads, outcome_take]
  constructor
  · intro h
    cases hm : meaning s.current.lexeme with
    | none => simp [hm] at h
    | some a' =>
      simp only [hm, Prod.mk.injEq, Except.ok.injEq] at h
      obtain ⟨rfl, rfl⟩ := h
      have hl : s.current.lexeme ≠ .endOfInput := fun he => by simp [he, hend] at hm
      exact ⟨_, hm, (passes_singleton hl).mpr ⟨rfl, rfl⟩⟩
  · intro htaken
    obtain ⟨l, hm, hpass⟩ := htaken
    have hl : l ≠ .endOfInput := by
      rintro rfl
      simp [hend] at hm
    obtain ⟨rfl, rfl⟩ := (passes_singleton hl).mp hpass
    simp [hm]

/-- A parser of tokens of which each value has one lexeme. -/
theorem reads_take_of_lexeme {expected : Expectation} {meaning : Lexeme → Option α}
    {lexeme : α → Lexeme} (hm : ∀ l a, meaning l = some a ↔ l = lexeme a)
    (hend : meaning .endOfInput = none) :
    (take expected meaning).Reads s a s' ↔ s.Passes [lexeme a] s' := by
  simp only [reads_take hend, hm, exists_eq_left]

/-! ### Lists -/

/-- Every item is admitted after those before it. -/
def Admits (permitted : List α → α → Prop) : List α → List α → Prop
  | _,       []         => True
  | earlier, a :: later => permitted earlier a ∧ Admits permitted (earlier ++ [a]) later

theorem admits_const {permitted : α → Prop} {earlier items : List α} :
    Admits (fun _ => permitted) earlier items ↔ ∀ a ∈ items, permitted a := by
  induction items generalizing earlier with
  | nil => simp [Admits]
  | cons a items ih => simp [Admits, ih]

section Lists

variable {separator : Lexeme} {item : List α → Parser α} {permitted : List α → α → Prop}
  {lexemes : α → List Lexeme} {items : List α}

/-- The rounds suffice, because each of them takes a separator at least. -/
theorem reads_more (hsep : separator ≠ .endOfInput)
    (hitem : ∀ earlier s a s',
      (item earlier).Reads s a s' ↔ permitted earlier a ∧ s.Passes (lexemes a) s')
    {n : Nat} {earlier : List α} (hn : s.pending.length ≤ n) :
    (more separator item n earlier).Reads s items s' ↔
      ∃ later, items = earlier ++ later ∧ Admits permitted earlier later ∧
        s.Passes (later.flatMap fun a => separator :: lexemes a) s' ∧
        s'.current.lexeme ≠ separator := by
  induction n generalizing s earlier with
  | zero =>
    obtain ⟨pending, finish⟩ := s
    obtain rfl : pending = [] := List.length_eq_zero_iff.mp (Nat.le_zero.mp hn)
    rw [more, reads_pure]
    constructor
    · intro hread
      obtain ⟨rfl, rfl⟩ := hread
      exact ⟨[], (List.append_nil _).symm, trivial, passes_nil.mpr rfl, hsep.symm⟩
    · intro hwritten
      obtain ⟨later, rfl, -, hpass, -⟩ := hwritten
      have hlength := hpass.length_eq
      cases later with
      | nil => exact ⟨(List.append_nil _).symm, passes_nil.mp hpass⟩
      | cons a later =>
        simp only [List.flatMap_cons, List.length_append, List.length_cons,
          List.length_nil] at hlength
        omega
  | succ n ih =>
    rw [more, reads_accept_bind hsep]
    simp only [if_true, Bool.false_eq_true, if_false, reads_bind, reads_pure, hitem]
    have hshorter : ∀ {s₁ s₂ : TokenStream} {a : α}, s.Passes [separator] s₁ →
        s₁.Passes (lexemes a) s₂ → s₂.pending.length ≤ n := by
      intro s₁ s₂ a h₁ h₂
      have hlength₁ := h₁.length_eq
      have hlength₂ := h₂.length_eq
      rw [List.length_singleton] at hlength₁
      omega
    constructor
    · intro hread
      rcases hread with ⟨s₁, hpass₁, a, s₂, ⟨hpermitted, hpass₂⟩, hmore⟩ | ⟨hcurrent, rfl, rfl⟩
      · obtain ⟨later, rfl, hlater, hpass₃, hcurrent⟩ := (ih (hshorter hpass₁ hpass₂)).mp hmore
        refine ⟨a :: later, List.append_assoc .., ⟨hpermitted, hlater⟩, ?_, hcurrent⟩
        exact (hpass₁.append hpass₂).append hpass₃
      · exact ⟨[], (List.append_nil _).symm, trivial, passes_nil.mpr rfl, hcurrent⟩
    · intro hwritten
      obtain ⟨later, rfl, hlater, hpass, hcurrent⟩ := hwritten
      cases later with
      | nil =>
        obtain rfl := passes_nil.mp hpass
        exact .inr ⟨hcurrent, (List.append_nil _).symm, rfl⟩
      | cons a later =>
        obtain ⟨s₂, hhead, hpass₃⟩ := passes_append.mp hpass
        obtain ⟨s₁, hpass₁, hpass₂⟩ := passes_cons.mp hhead
        refine .inl ⟨s₁, hpass₁, a, s₂, ⟨hlater.1, hpass₂⟩, (ih (hshorter hpass₁ hpass₂)).mpr ?_⟩
        exact ⟨later, List.append_cons .., hlater.2, hpass₃, hcurrent⟩

theorem reads_separatedBy (hsep : separator ≠ .endOfInput)
    (hitem : ∀ earlier s a s',
      (item earlier).Reads s a s' ↔ permitted earlier a ∧ s.Passes (lexemes a) s') :
    (separatedBy separator item).Reads s items s' ↔
      (items ≠ [] ∧ Admits permitted [] items) ∧ s.Passes (separated separator lexemes items) s' ∧
        s'.current.lexeme ≠ separator := by
  rw [separatedBy, reads_bind]
  simp only [reads_get_bind, hitem, reads_more hsep hitem (Nat.le_refl _)]
  constructor
  · intro hread
    obtain ⟨a, s₁, ⟨hpermitted, hpass₁⟩, later, rfl, hlater, hpass₂, hcurrent⟩ := hread
    exact ⟨⟨List.cons_ne_nil a later, hpermitted, hlater⟩, hpass₁.append hpass₂, hcurrent⟩
  · intro hwritten
    obtain ⟨⟨hne, hadmits⟩, hpass, hcurrent⟩ := hwritten
    cases items with
    | nil => exact absurd rfl hne
    | cons a later =>
      obtain ⟨s₁, hpass₁, hpass₂⟩ := passes_append.mp hpass
      exact ⟨a, s₁, ⟨hadmits.1, hpass₁⟩, later, rfl, hadmits.2, hpass₂, hcurrent⟩

end Lists

section Combinators

variable {p : Parser α} {permitted : α → Prop} {lexemes : α → List Lexeme} {items : List α}

theorem reads_commaSeparated
    (hp : ∀ s a s', p.Reads s a s' ↔ permitted a ∧ s.Passes (lexemes a) s') :
    (commaSeparated p).Reads s items s' ↔
      (items ≠ [] ∧ ∀ a ∈ items, permitted a) ∧ s.Passes (commaList lexemes items) s' ∧
        s'.current.lexeme ≠ .symbol .comma := by
  have hitem : ∀ (earlier : List α) (s : TokenStream) (a : α) (s' : TokenStream),
      p.Reads s a s' ↔ permitted a ∧ s.Passes (lexemes a) s' := fun _ => hp
  rw [commaSeparated, reads_separatedBy (by simp) hitem, admits_const]
  rfl

theorem reads_closeParen_bind {next : Unit → Parser β} :
    (closeParen >>= next).Reads s b s'' ↔
      ∃ s', s.Passes [.symbol .rightParen] s' ∧ (next ()).Reads s' b s'' :=
  reads_expect_bind (by simp)

/-- A list between parentheses ends where the parenthesis closes. -/
theorem reads_parenthesized
    (hp : ∀ s a s', s'.current.lexeme = .symbol .rightParen →
      (p.Reads s a s' ↔ permitted a ∧ s.Passes (lexemes a) s')) :
    (parenthesized p).Reads s a s' ↔ permitted a ∧ s.Passes (inParens (lexemes a)) s' := by
  simp only [parenthesized, reads_expect_bind (l := .symbol .leftParen) (by simp),
    reads_bind (p := p), reads_closeParen_bind, reads_pure]
  simp only [inParens, List.append_assoc, passes_append]
  constructor
  · intro hread
    obtain ⟨s₁, hopen, a', s₂, hread, s₃, hclose, rfl, rfl⟩ := hread
    obtain ⟨hpermitted, hpass⟩ := (hp _ _ _ hclose.current_lexeme).mp hread
    exact ⟨hpermitted, s₁, hopen, s₂, hpass, hclose⟩
  · intro hwritten
    obtain ⟨hpermitted, s₁, hopen, s₂, hpass, hclose⟩ := hwritten
    have hread := (hp _ _ _ hclose.current_lexeme).mpr ⟨hpermitted, hpass⟩
    exact ⟨s₁, hopen, a, s₂, hread, s', hclose, rfl, rfl⟩

end Combinators

end Parser

end SqlEngine
