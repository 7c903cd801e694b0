import SqlEngine.Proofs.ActionRuns
import SqlEngine.Proofs.ParserReads

/-!
# Runs of parsers on every stream

A parser that answers or fails has read some tokens and looked at the one behind them. It does the
same wherever these tokens are followed by that one, whatever comes later. What it has read is all
that its answer writes, or else the beginning of something that can be written, and the error names
the token behind. These facts are proved of a rule from those of its parts, with the words in view
that the whole run has read before.
-/

namespace SqlEngine

namespace TokenStream

/-- The stream with more tokens before it. -/
def prepend (s : TokenStream) (tokens : List Token) : TokenStream :=
  ⟨tokens ++ s.pending, s.finish⟩

variable {s s' : TokenStream}

private theorem prepend_prepend (s : TokenStream) (first later : List Token) :
    (s.prepend later).prepend first = s.prepend (first ++ later) := by
  rw [prepend, prepend, prepend, List.append_assoc]

private theorem current_prepend_congr (tokens : List Token) (h : s.current = s'.current) :
    (s.prepend tokens).current = (s'.prepend tokens).current := by
  cases tokens with
  | nil => exact h
  | cons t tokens => rfl

private theorem length_advance_le (s : TokenStream) :
    s.advance.pending.length ≤ s.pending.length := by
  rw [advance, List.length_tail]
  exact Nat.sub_le _ _

private theorem length_le_prepend (s : TokenStream) (tokens : List Token) :
    s.pending.length ≤ (s.prepend tokens).pending.length := by
  rw [prepend, List.length_append]
  exact Nat.le_add_left _ _

end TokenStream

/-- The filter with which the statement ends, if it does. -/
def Statement.closingFilter : Statement → Option Filter
  | .select ⟨_, _, filter, none, none⟩ => filter
  | .update s                          => s.filter
  | .delete s                          => s.filter
  | _                                  => none

namespace Parser

open TokenStream

variable {α β : Type} {p : Parser α} {s s' : TokenStream} {w : List Lexeme}
  {W : α → List Lexeme → Prop} {e : Error}

/-! ### What a run has done -/

/-- The words are a statement that ends with a filter of at least two conditions, and the lexeme is
the connective that does not join these. -/
def MixesConnectives (ls : List Lexeme) (l : Lexeme) : Prop :=
  ∃ (statement : Statement) (f : Filter) (c : Connective), statement.WellFormed ∧
    ls = statement.lexemes ∧ statement.closingFilter = some f ∧ 2 ≤ f.conditions.length ∧
    c ≠ f.connective ∧ l = c.lexeme

/-- What the error says of the token behind the words that were read. -/
inductive Blames (ls : List Lexeme) (t : Token) : Error → Prop
  | unexpected {expected : Expectation} (h : expected ≠ .freshColumn) :
    Blames ls t (.unexpectedToken expected t)
  | repeated {table column : String} {earlier : List (String × Value)}
    (hread : ls = [.keyword .UPDATE, .identifier table, .keyword .SET] ++
      earlier.flatMap fun a => assignmentLexemes a ++ [.symbol .comma])
    (hcolumn : column ∈ earlier.map (·.1)) (ht : t.lexeme = .identifier column) :
    Blames ls t (.unexpectedToken .freshColumn t)
  | mixed (h : MixesConnectives ls t.lexeme) : Blames ls t (.mixedConnectives t.position)

/-- Where a failing run leaves the stream: at the token that it reports, or behind the column that
is assigned a second time. -/
def leftBy : Error → TokenStream → TokenStream
  | .unexpectedToken expected _, s => if expected = .freshColumn then s.advance else s
  | _,                           s => s

def left : Except Error α → TokenStream → TokenStream
  | .ok _,    s => s
  | .error e, s => leftBy e s

/-- The words are what the answer writes; or they are the beginning of what some answer writes, and
the error is due to the next token. -/
def Accounts (W : α → List Lexeme → Prop) (ls : List Lexeme) (next : Token) :
    Except Error α → Prop
  | .ok a    => W a ls
  | .error e => Blames ls next e ∧ ∃ a later, W a (ls ++ later)

/-- After some words, the parser reads further ones, looks at the next token and is done. -/
def Runs (p : Parser α) (W : α → List Lexeme → Prop) (w : List Lexeme) (s : TokenStream) : Prop :=
  ∃ (read : List Token) (rest : TokenStream) (answer : Except Error α), s = rest.prepend read ∧
    Accounts W (w ++ read.map (·.lexeme)) rest.current answer ∧
    ∀ rest' : TokenStream, rest'.current = rest.current →
      p.outcome (rest'.prepend read) = (answer, left answer rest')

/-- After the given words come those of a permitted value. -/
def Continues (w : List Lexeme) (permitted : α → Prop) (lexemes : α → List Lexeme) (a : α)
    (ls : List Lexeme) : Prop :=
  permitted a ∧ ls = w ++ lexemes a

/-- Wherever it is called, the parser reads the words of permitted values, as far as they go. -/
def Recognizes (p : Parser α) (permitted : α → Prop) (lexemes : α → List Lexeme) : Prop :=
  ∀ w s, Runs p (Continues w permitted lexemes) w s

private theorem Runs.viable (h : Runs p W w s) : ∃ a later, W a (w ++ later) := by
  obtain ⟨read, rest, answer, -, haccounts, -⟩ := h
  cases answer with
  | ok a => exact ⟨a, _, haccounts⟩
  | error e =>
    obtain ⟨-, a, later, ha⟩ := haccounts
    exact ⟨a, _, by rwa [← List.append_assoc]⟩

private theorem length_left_le (answer : Except Error α) (s : TokenStream) :
    (left answer s).pending.length ≤ s.pending.length := by
  cases answer with
  | ok a => exact Nat.le_refl _
  | error e =>
    rw [left]
    unfold leftBy
    split
    · split
      · exact length_advance_le s
      · exact Nat.le_refl _
    · exact Nat.le_refl _

private theorem Runs.length_after_le (h : Runs p W w s) :
    (p.after s).pending.length ≤ s.pending.length := by
  obtain ⟨read, rest, answer, rfl, -, houtcome⟩ := h
  rw [Action.after_of_outcome (houtcome rest rfl)]
  exact Nat.le_trans (length_left_le answer rest) (rest.length_le_prepend read)

theorem Runs.congr {q : Parser α} (h : ∀ s, p.outcome s = q.outcome s) (hq : Runs q W w s) :
    Runs p W w s := by
  obtain ⟨read, rest, answer, hs, haccounts, houtcome⟩ := hq
  exact ⟨read, rest, answer, hs, haccounts, fun rest' hrest => by rw [h, houtcome rest' hrest]⟩

/-! ### Single steps -/

theorem runs_pure {a : α} (h : W a w) : Runs (pure a) W w s :=
  ⟨[], s, .ok a, rfl, by rwa [List.map_nil, List.append_nil], fun _ _ => rfl⟩

theorem runs_fail {expected : Expectation} (hexpected : expected ≠ .freshColumn)
    (hviable : ∃ a later, W a (w ++ later)) : Runs (fail expected) W w s := by
  refine ⟨[], s, .error (.unexpectedToken expected s.current), rfl, ⟨.unexpected hexpected, ?_⟩, ?_⟩
  · rwa [List.map_nil, List.append_nil]
  · intro rest' hrest
    rw [left, leftBy, if_neg hexpected, ← hrest]
    rfl

theorem runs_current_bind {next : Token → Parser α} (h : Runs (next s.current) W w s) :
    Runs (current >>= next) W w s := by
  obtain ⟨read, rest, answer, rfl, haccounts, houtcome⟩ := h
  refine ⟨read, rest, answer, rfl, haccounts, fun rest' hrest => ?_⟩
  rw [Action.outcome_bind_of_ok (outcome_current _), current_prepend_congr read hrest]
  exact houtcome rest' hrest

/-- Of two parsers in a row, the second runs on what the first leaves, with more words read. -/
theorem runs_bind_of_reads {V : β → List Lexeme → Prop} {p : Parser β} {next : β → Parser α}
    (hp : Runs p V w s) (hviable : ∀ b ls, V b ls → ∃ a later, W a (ls ++ later))
    (hnext : ∀ b ls s', V b ls → p.Reads s b s' → Runs (next b) W ls s') :
    Runs (p >>= next) W w s := by
  obtain ⟨read, rest, answer, rfl, haccounts, houtcome⟩ := hp
  cases answer with
  | error e =>
    obtain ⟨hblames, b, later, hb⟩ := haccounts
    obtain ⟨a, more, ha⟩ := hviable b _ hb
    refine ⟨read, rest, .error e, rfl, ⟨hblames, a, later ++ more, ?_⟩, fun rest' hrest => ?_⟩
    · rwa [← List.append_assoc]
    · rw [Action.outcome_bind, houtcome rest' hrest]
      rfl
  | ok b =>
    obtain ⟨read', rest', answer, rfl, haccounts, houtcome'⟩ :=
      hnext b _ rest haccounts (houtcome rest rfl)
    refine ⟨read ++ read', rest', answer, prepend_prepend .., ?_, fun rest'' hrest => ?_⟩
    · rwa [List.map_append, ← List.append_assoc]
    · rw [← prepend_prepend, Action.outcome_bind_of_ok
        (houtcome _ (current_prepend_congr read' hrest))]
      exact houtcome' rest'' hrest

theorem runs_bind {permitted : β → Prop} {lexemes : β → List Lexeme} {p : Parser β}
    {next : β → Parser α} (hp : Runs p (Continues w permitted lexemes) w s)
    (hnext : ∀ b s', permitted b → Runs (next b) W (w ++ lexemes b) s') :
    Runs (p >>= next) W w s := by
  apply runs_bind_of_reads hp
  · intro b ls hb
    obtain ⟨hpermitted, rfl⟩ := hb
    exact (hnext b s hpermitted).viable
  · intro b ls s' hb _
    obtain ⟨hpermitted, rfl⟩ := hb
    exact hnext b s' hpermitted

theorem runs_advance_bind {l : Lexeme} {next : Unit → Parser α} (hl : s.current.lexeme = l)
    (hend : l ≠ .endOfInput) (h : Runs (next ()) W (w ++ [l]) s.advance) :
    Runs (advance >>= next) W w s := by
  obtain ⟨_ | ⟨t, pending⟩, finish⟩ := s
  · exact absurd hl.symm hend
  obtain ⟨read, rest, answer, hadvance, haccounts, houtcome⟩ := h
  rw [advance_cons, prepend, TokenStream.mk.injEq] at hadvance
  refine ⟨t :: read, rest, answer, ?_, ?_, houtcome⟩
  · rw [prepend, hadvance.1, hadvance.2, List.cons_append]
  · rw [List.map_cons, show t.lexeme = l from hl, List.append_cons]
    exact haccounts

private theorem outcome_accept_bind (l : Lexeme) (next : Bool → Parser α) (s : TokenStream) :
    (accept l >>= next).outcome s =
      if s.current.lexeme = l then (next true).outcome s.advance else (next false).outcome s := by
  rw [Action.outcome_bind, outcome_accept]
  by_cases h : s.current.lexeme = l
  · rw [if_pos h, if_pos h]
  · rw [if_neg h, if_neg h]

theorem runs_accept_bind {l : Lexeme} (hend : l ≠ .endOfInput) {next : Bool → Parser α}
    (htrue : ∀ s', s.Passes [l] s' → Runs (next true) W (w ++ [l]) s')
    (hfalse : s.current.lexeme ≠ l → Runs (next false) W w s) : Runs (accept l >>= next) W w s := by
  have hcases : ∀ s, (accept l >>= next).outcome s = (current >>= fun t =>
      if t.lexeme = l then advance >>= fun _ => next true else next false).outcome s := by
    intro s
    rw [outcome_accept_bind, Action.outcome_bind_of_ok (outcome_current s)]
    split <;> rfl
  refine .congr hcases (runs_current_bind ?_)
  split
  · rename_i hl
    exact runs_advance_bind hl hend (htrue _ ((passes_singleton hend).mpr ⟨hl, rfl⟩))
  · rename_i hl
    exact hfalse hl

private theorem recognizes_expect {l : Lexeme} (hend : l ≠ .endOfInput) :
    Recognizes (expect l) (fun _ => True) fun _ => [l] := by
  intro w s
  apply runs_accept_bind hend
  · intro s' _
    exact runs_pure ⟨trivial, rfl⟩
  · intro _
    exact runs_fail (by simp) ⟨(), [l], trivial, rfl⟩

theorem runs_expect_bind {l : Lexeme} (hend : l ≠ .endOfInput) {next : Unit → Parser α}
    (hnext : ∀ s', Runs (next ()) W (w ++ [l]) s') : Runs (expect l >>= next) W w s :=
  runs_bind (recognizes_expect hend w s) fun _ s' _ => hnext s'

theorem recognizes_take {expected : Expectation} {meaning : Lexeme → Option α}
    {permitted : α → Prop} {lexeme : α → Lexeme} (hexpected : expected ≠ .freshColumn)
    (hm : ∀ {l a}, meaning l = some a ↔ permitted a ∧ l = lexeme a)
    (hend : meaning .endOfInput = none) (hinhabited : ∃ a, permitted a) :
    Recognizes (take expected meaning) permitted fun a => [lexeme a] := by
  intro w s
  apply runs_current_bind
  split
  · rename_i a ha
    obtain ⟨hpermitted, hl⟩ := hm.mp ha
    refine runs_advance_bind hl (fun h => ?_) (runs_pure ⟨hpermitted, rfl⟩)
    rw [hl, h, hend] at ha
    cases ha
  · obtain ⟨a, ha⟩ := hinhabited
    exact runs_fail hexpected ⟨a, [lexeme a], ha, rfl⟩

/-! ### Lists -/

/-- The rest of a list, in as many rounds as it takes. -/
def moreOf (separator : Lexeme) (item : List α → Parser α) (items : List α) : Parser (List α) := do
  more separator item (← get).pending.length items

section Lists

variable {separator : Lexeme} {item : List α → Parser α} {permitted : List α → α → Prop}
  {lexemes : α → List Lexeme} {items : List α}

private theorem outcome_more_succ (n : Nat) (items : List α) (s : TokenStream) :
    (more separator item (n + 1) items).outcome s =
      if s.current.lexeme = separator then
        (item items >>= fun a => more separator item n (items ++ [a])).outcome s.advance
      else (.ok items, s) := by
  rw [more, outcome_accept_bind]
  rfl

/-- More rounds than there are pending tokens make no difference. -/
private theorem outcome_more_congr (hsep : separator ≠ .endOfInput)
    (hitem : ∀ earlier s, ((item earlier).after s).pending.length ≤ s.pending.length) {n m : Nat}
    (hn : s.pending.length ≤ n) (hm : s.pending.length ≤ m) (items : List α) :
    (more separator item n items).outcome s = (more separator item m items).outcome s := by
  induction n generalizing m s items with
  | zero =>
    obtain ⟨_ | ⟨t, pending⟩, finish⟩ := s
    · cases m with
      | zero => rfl
      | succ m =>
        rw [outcome_more_succ, current_nil, if_neg hsep.symm]
        rfl
    · simp at hn
  | succ n ih =>
    cases m with
    | zero =>
      obtain ⟨_ | ⟨t, pending⟩, finish⟩ := s
      · rw [outcome_more_succ, current_nil, if_neg hsep.symm]
        rfl
      · simp at hm
    | succ m =>
      rw [outcome_more_succ, outcome_more_succ]
      split
      · have hafter := hitem items s.advance
        rw [Action.outcome_bind, Action.outcome_bind]
        rcases ha : (item items).outcome s.advance with ⟨e | a, s'⟩
        · rfl
        · rw [Action.after_of_outcome ha, TokenStream.advance, List.length_tail] at hafter
          exact ih (by omega) (by omega) _
      · rfl

private theorem outcome_moreOf (hsep : separator ≠ .endOfInput)
    (hitem : ∀ earlier s, ((item earlier).after s).pending.length ≤ s.pending.length)
    (items : List α) (s : TokenStream) :
    (moreOf separator item items).outcome s = (accept separator >>= fun taken =>
      if taken then item items >>= fun a => moreOf separator item (items ++ [a])
      else pure items).outcome s := by
  have hround := outcome_more_congr hsep hitem (Nat.le_refl _) (Nat.le_succ _) items (s := s)
  rw [moreOf, Action.outcome_bind_of_ok (Action.outcome_get s), hround, outcome_more_succ,
    outcome_accept_bind]
  split
  · have hafter := hitem items s.advance
    rw [if_pos rfl, Action.outcome_bind, Action.outcome_bind]
    rcases ha : (item items).outcome s.advance with ⟨e | a, s'⟩
    · rfl
    · rw [Action.after_of_outcome ha] at hafter
      exact outcome_more_congr hsep hitem (Nat.le_trans hafter (length_advance_le s))
        (Nat.le_refl _) _
  · rfl

private theorem separated_append_singleton (items : List α) (a : α) :
    separated separator lexemes (items ++ [a]) =
      (items.flatMap fun b => lexemes b ++ [separator]) ++ lexemes a := by
  induction items with
  | nil => simp [separated]
  | cons b items ih =>
    rw [List.flatMap_cons, List.append_assoc, ← ih]
    cases items <;> simp [separated]

private theorem separated_append_separator (hne : items ≠ []) :
    separated separator lexemes items ++ [separator] =
      items.flatMap fun b => lexemes b ++ [separator] := by
  obtain ⟨earlier, a, rfl⟩ := (List.eq_nil_or_concat' items).resolve_left hne
  rw [separated_append_singleton, List.flatMap_append, List.flatMap_singleton, List.append_assoc]

private theorem admits_append_singleton {earlier : List α} {a : α} :
    Admits permitted earlier (items ++ [a]) ↔
      Admits permitted earlier items ∧ permitted (earlier ++ items) a := by
  induction items generalizing earlier with
  | nil => simp [Admits]
  | cons b items ih => simp [Admits, ih, and_assoc]

/-- What the call of an item for a list finds read before it. -/
def beforeItem (w : List Lexeme) (separator : Lexeme) (lexemes : α → List Lexeme)
    (earlier : List α) : List Lexeme :=
  w ++ earlier.flatMap fun a => lexemes a ++ [separator]

theorem runs_moreOf (hsep : separator ≠ .endOfInput)
    (hitem : ∀ earlier s, Runs (item earlier)
      (Continues (beforeItem w separator lexemes earlier) (permitted earlier) lexemes)
      (beforeItem w separator lexemes earlier) s)
    (hne : items ≠ []) (hadmits : Admits permitted [] items) :
    Runs (moreOf separator item items) (Continues w (fun items => items ≠ [] ∧
      Admits permitted [] items) (separated separator lexemes))
      (w ++ separated separator lexemes items) s := by
  -- every round takes a separator at least, so that the next one has fewer tokens before it
  induction hlength : s.pending.length using Nat.strongRecOn generalizing s items with
  | ind length ih =>
    have hafter := fun earlier s => (hitem earlier s).length_after_le
    refine .congr (outcome_moreOf hsep hafter items) ?_
    apply runs_accept_bind hsep
    · intro s' hpass
      have hbefore : w ++ separated separator lexemes items ++ [separator] =
          beforeItem w separator lexemes items := by
        rw [List.append_assoc, separated_append_separator hne, beforeItem]
      rw [hbefore, if_pos rfl]
      have hwords : ∀ a, beforeItem w separator lexemes items ++ lexemes a =
          w ++ separated separator lexemes (items ++ [a]) := by
        intro a
        rw [separated_append_singleton, beforeItem, List.append_assoc]
      have hmore : ∀ a, permitted items a → Admits permitted [] (items ++ [a]) :=
        fun a ha => admits_append_singleton.mpr ⟨hadmits, ha⟩
      apply runs_bind_of_reads (hitem items s')
      · intro a ls ha
        obtain ⟨ha, rfl⟩ := ha
        refine ⟨items ++ [a], [], ⟨by simp, hmore a ha⟩, ?_⟩
        rw [List.append_nil, hwords]
      · intro a ls s'' ha hread
        obtain ⟨ha, rfl⟩ := ha
        have hafter := hafter items s'
        rw [Action.after_of_outcome hread] at hafter
        have hshorter := hpass.length_eq
        rw [List.length_singleton] at hshorter
        rw [hwords]
        exact ih _ (by omega) (by simp) (hmore a ha) rfl
    · intro _
      exact runs_pure ⟨⟨hne, hadmits⟩, rfl⟩

theorem runs_separatedBy (hsep : separator ≠ .endOfInput)
    (hitem : ∀ earlier s, Runs (item earlier)
      (Continues (beforeItem w separator lexemes earlier) (permitted earlier) lexemes)
      (beforeItem w separator lexemes earlier) s) :
    Runs (separatedBy separator item) (Continues w (fun items => items ≠ [] ∧
      Admits permitted [] items) (separated separator lexemes)) w s := by
  have hfirst := hitem [] s
  rw [beforeItem, List.flatMap_nil, List.append_nil] at hfirst
  apply runs_bind hfirst
  intro a s' ha
  have hword : lexemes a = separated separator lexemes [a] := by simp [separated]
  rw [hword]
  exact runs_moreOf hsep hitem (List.cons_ne_nil _ _) ⟨ha, trivial⟩

end Lists

theorem recognizes_commaSeparated {permitted : α → Prop} {lexemes : α → List Lexeme}
    (hp : Recognizes p permitted lexemes) :
    Recognizes (commaSeparated p) (fun items => items ≠ [] ∧ ∀ a ∈ items, permitted a)
      (commaList lexemes) := by
  intro w s
  have hsep : Lexeme.symbol .comma ≠ .endOfInput := by simp
  have hlist := runs_separatedBy (w := w) (s := s) hsep fun _ s => hp _ s
  simp only [admits_const] at hlist
  exact hlist

theorem recognizes_parenthesized {permitted : α → Prop} {lexemes : α → List Lexeme}
    (hp : Recognizes p permitted lexemes) :
    Recognizes (parenthesized p) permitted fun a => inParens (lexemes a) := by
  intro w s
  apply runs_expect_bind (by simp)
  intro s₁
  apply runs_bind (hp _ s₁)
  intro a s₂ ha
  apply runs_expect_bind (by simp)
  intro s₃
  exact runs_pure ⟨ha, by simp [inParens]⟩

end Parser

end SqlEngine
