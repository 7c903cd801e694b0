import SqlEngine.Proofs.ScriptCalls
import SqlEngine.Proofs.StatementTexts

/-!
# Which token a parse error reports

The tokens before the reported one are the beginning of a statement. Together with it they are not,
or it is the end of input and they are no whole statement: what a run does is settled by the tokens
up to there, and if they could be completed, the completion would have been accepted. Connectives
are found to be mixed in exactly one situation, after a filter that is already joined by the other.
-/

namespace SqlEngine

namespace Parser

open TokenStream

variable {s s' s'' : TokenStream} {tokens : List Token} {f : Filter} {c : Connective} {e : Error}

/-! ### Mixed connectives -/

private theorem outcome_filter_of_mixed (hjoined : 2 ≤ f.conditions.length) (hc : c ≠ f.connective)
    (hpass : s.Passes f.lexemes s') (hnext : s'.current.lexeme = c.lexeme) :
    filter.outcome s = (.error (.mixedConnectives s'.current.position), s') := by
  obtain ⟨connective, _ | ⟨first, _ | ⟨second, later⟩⟩⟩ := f
  · simp at hjoined
  · simp at hjoined
  obtain ⟨s₁, hwhere, hconditions⟩ := passes_append.mp hpass
  obtain ⟨s₂, hfirst, hlater⟩ := passes_append.mp hconditions
  have hpresent : (accept (.keyword .WHERE)).Reads s true s₁ :=
    (reads_accept_true (by simp)).mpr hwhere
  have hconnective : s₂.current.lexeme = connective.lexeme := hlater.current_lexeme
  have hstop : s'.current.lexeme ≠ connective.lexeme := by
    intro hsame
    rw [hnext] at hsame
    have hsome := congrArg connectiveOf hsame
    rw [connectiveOf_lexeme, connectiveOf_lexeme] at hsome
    exact hc (Option.some.inj hsome)
  have hread : (moreOf connective.lexeme (fun _ => condition) [first]).Reads s₂
      (first :: second :: later) s' := reads_conditions.mpr ⟨_, rfl, hlater, hstop⟩
  rw [filter_eq, Action.outcome_bind_of_ok hpresent, if_pos rfl,
    Action.outcome_bind_of_ok (reads_condition.mpr hfirst),
    Action.outcome_bind_of_ok (outcome_current s₂), hconnective, connectiveOf_lexeme,
    Option.getD_some, filterFrom, Action.outcome_bind_of_ok hread, closeFilter,
    Action.outcome_bind_of_ok (outcome_current s'), hnext, connectiveOf_lexeme]
  rfl

/-- What a query is before its filter. -/
private theorem outcome_select_of_filter {q : Select} (hprojection : q.projection ≠ .columns [])
    (hpass : s.Passes ([.keyword .SELECT] ++ q.projection.lexemes ++
      [.keyword .FROM, .identifier q.table]) s')
    (hfilter : filter.outcome s' = (.error e, s'')) : select.outcome s = (.error e, s'') := by
  simp only [passes_append, passes_cons_cons] at hpass
  obtain ⟨s₂, ⟨s₁, hselect, hprojected⟩, s₃, hfrom, htable⟩ := hpass
  have hcomma : s₂.current.lexeme ≠ .symbol .comma := hfrom.current_ne (by simp)
  rw [select, Action.outcome_bind_of_ok ((reads_expect (by simp)).mpr hselect),
    Action.outcome_bind_of_ok ((reads_projection hcomma).mpr ⟨hprojection, hprojected⟩),
    Action.outcome_bind_of_ok ((reads_expect (by simp)).mpr hfrom),
    Action.outcome_bind_of_ok (reads_identifier.mpr htable), Action.outcome_bind, hfilter]

private theorem outcome_update_of_filter {u : Update} (hassignments : u.assignments ≠ [])
    (hnodup : (u.assignments.map (·.1)).Nodup)
    (hpass : s.Passes ([.keyword .UPDATE, .identifier u.table, .keyword .SET] ++
      commaList assignmentLexemes u.assignments) s')
    (hcomma : s'.current.lexeme ≠ .symbol .comma)
    (hfilter : filter.outcome s' = (.error e, s'')) : update.outcome s = (.error e, s'') := by
  simp only [passes_append, passes_cons_cons] at hpass
  obtain ⟨s₃, ⟨s₁, hupdate, s₂, htable, hset⟩, hlist⟩ := hpass
  rw [update, Action.outcome_bind_of_ok ((reads_expect (by simp)).mpr hupdate),
    Action.outcome_bind_of_ok (reads_identifier.mpr htable),
    Action.outcome_bind_of_ok ((reads_expect (by simp)).mpr hset),
    Action.outcome_bind_of_ok
      (reads_assignments.mpr ⟨⟨hassignments, hnodup⟩, hlist, hcomma⟩),
    Action.outcome_bind, hfilter]

private theorem outcome_delete_of_filter {d : Delete}
    (hpass : s.Passes [.keyword .DELETE, .keyword .FROM, .identifier d.table] s')
    (hfilter : filter.outcome s' = (.error e, s'')) : delete.outcome s = (.error e, s'') := by
  simp only [passes_cons_cons] at hpass
  obtain ⟨s₁, hdelete, s₂, hfrom, htable⟩ := hpass
  rw [delete, Action.outcome_bind_of_ok ((reads_expect (by simp)).mpr hdelete),
    Action.outcome_bind_of_ok ((reads_expect (by simp)).mpr hfrom),
    Action.outcome_bind_of_ok (reads_identifier.mpr htable), Action.outcome_bind, hfilter]

/-- Statements that end with a filter are read up to it. -/
private theorem outcome_statement_of_mixed {parsed : Statement} (hwell : parsed.WellFormed)
    (hclosing : parsed.closingFilter = some f) (hjoined : 2 ≤ f.conditions.length)
    (hc : c ≠ f.connective) (hpass : s.Passes parsed.lexemes s')
    (hnext : s'.current.lexeme = c.lexeme) :
    statement.outcome s = (.error (.mixedConnectives s'.current.position), s') := by
  have hword := hpass.current_lexeme
  rw [statement, Action.outcome_bind_of_ok (outcome_current s)]
  cases parsed with
  | createTable _ => cases hclosing
  | insert _ => cases hclosing
  | select q =>
    obtain ⟨projected, table, filter, _ | _, _ | _⟩ := q <;> cases hclosing
    have hlexemes : Statement.lexemes (.select ⟨projected, table, some f, none, none⟩) =
        [.keyword .SELECT] ++ projected.lexemes ++ [.keyword .FROM, .identifier table] ++
          f.lexemes := by
      simp [Statement.lexemes, Select.lexemes, clause]
    rw [hlexemes, passes_append] at hpass
    obtain ⟨s₁, hhead, hfilter⟩ := hpass
    have hselect := outcome_select_of_filter (q := ⟨projected, table, some f, none, none⟩)
      hwell.projection_ne_nil hhead (outcome_filter_of_mixed hjoined hc hfilter hnext)
    rw [show s.current.lexeme = .keyword .SELECT from hword]
    dsimp only
    rw [Action.outcome_bind, hselect]
  | update u =>
    obtain ⟨table, assignments, filter⟩ := u
    cases hclosing
    rw [Statement.lexemes, Update.lexemes, passes_append] at hpass
    obtain ⟨s₁, hhead, hfilter⟩ := hpass
    have hcomma : s₁.current.lexeme ≠ .symbol .comma := hfilter.current_ne (by simp)
    have hupdate := outcome_update_of_filter (u := ⟨table, assignments, some f⟩)
      hwell.assignments_ne_nil hwell.columns_nodup hhead hcomma
      (outcome_filter_of_mixed hjoined hc hfilter hnext)
    rw [show s.current.lexeme = .keyword .UPDATE from hword]
    dsimp only
    rw [Action.outcome_bind, hupdate]
  | delete d =>
    obtain ⟨table, filter⟩ := d
    cases hclosing
    rw [Statement.lexemes, Delete.lexemes, passes_append] at hpass
    obtain ⟨s₁, hhead, hfilter⟩ := hpass
    have hdelete := outcome_delete_of_filter (d := ⟨table, some f⟩) hhead
      (outcome_filter_of_mixed hjoined hc hfilter hnext)
    rw [show s.current.lexeme = .keyword .DELETE from hword]
    dsimp only
    rw [Action.outcome_bind, hdelete]

private theorem answer_script_of_mixed {ls : List Lexeme} (hpass : s.Passes ls s')
    (h : MixesConnectives ls s'.current.lexeme) :
    script.answer s = .error (.mixedConnectives s'.current.position) := by
  obtain ⟨parsed, f, c, hwell, rfl, hclosing, hjoined, hc, hnext⟩ := h
  rw [Action.answer, script, Action.outcome_bind,
    outcome_statement_of_mixed hwell hclosing hjoined hc hpass hnext]

/-! ### The first token that cannot stand where it does -/

/-- The lexemes write some statement, with a semicolon after it or without. -/
def InGrammar (ls : List Lexeme) : Prop := ∃ parsed, IsScript parsed ls

/-- What the parser makes of lexemes in the grammar, wherever they stand. -/
private theorem exists_answer_of_inGrammar (h : InGrammar s.lexemes) :
    ∃ parsed, script.answer s = .ok parsed := by
  obtain ⟨parsed, hscript⟩ := h
  exact ⟨parsed, answer_script_eq_ok_iff.mpr hscript⟩

private theorem endOfInput_notMem_of_inGrammar {ls : List Lexeme} (h : InGrammar ls) :
    .endOfInput ∉ ls := by
  obtain ⟨_, -, hls⟩ := h
  exact endOfInput_notMem_of_mem_scripts hls

/-- A run that fails at a token fails at it in every sentence, and so in none of the grammar. -/
private theorem not_inGrammar_of_error {read : List Token} {rest : TokenStream}
    (houtcome : ∀ rest' : TokenStream, rest'.current = rest.current →
      script.outcome (rest'.prepend read) = (.error e, leftBy e rest')) (later : List Lexeme) :
    ¬ InGrammar (read.map (·.lexeme) ++ rest.current.lexeme :: later) := by
  intro hgrammar
  obtain ⟨rest', hcurrent, hrest⟩ : ∃ rest' : TokenStream, rest'.current = rest.current ∧
      rest'.pending.map (·.lexeme) = rest.current.lexeme :: later :=
    ⟨⟨rest.current :: later.map (⟨·, 0⟩), 0⟩, rfl, by simp [Function.comp_def]⟩
  have hlexemes : (rest'.prepend read).lexemes =
      read.map (·.lexeme) ++ rest.current.lexeme :: later := by
    rw [TokenStream.lexemes, prepend, List.map_append, hrest, List.takeWhile_eq_self_iff]
    intro l hl
    exact decide_eq_true (ne_of_mem_of_not_mem hl (endOfInput_notMem_of_inGrammar hgrammar))
  rw [← hlexemes] at hgrammar
  obtain ⟨parsed, hok⟩ := exists_answer_of_inGrammar hgrammar
  rw [Action.answer, houtcome rest' hcurrent] at hok
  cases hok

/-- The error is about the token at a place: the tokens before it begin a sentence of the grammar,
and with it they do not. -/
structure OffendsAt (tokens : List Token) (place : Nat) (t : Token) (e : Error) : Prop where
  le_end : place ≤ endPlace tokens
  token : (completed tokens)[place]? = some t
  reported : (∃ expected, e = .unexpectedToken expected t) ∨ e = .mixedConnectives t.position
  viable : ∃ ls, InGrammar ls ∧ ((completed tokens).map (·.lexeme)).take place <+: ls
  offends : (place < endPlace tokens ∧
      ∀ ls, InGrammar ls → ¬ ((completed tokens).map (·.lexeme)).take (place + 1) <+: ls) ∨
    (place = endPlace tokens ∧ ¬ InGrammar (((completed tokens).map (·.lexeme)).take place))
  mixed_iff : e = .mixedConnectives t.position ↔
    MixesConnectives (((completed tokens).map (·.lexeme)).take place) t.lexeme

/-- Where a call that fails has come to. -/
private theorem exists_stop (h : script.answer (.ofTokens tokens) = .error e) :
    ∃ (read : List Token) (rest : TokenStream), ofTokens tokens = rest.prepend read ∧
      Blames (read.map (·.lexeme)) rest.current e ∧
      (∃ later, InGrammar (read.map (·.lexeme) ++ later)) ∧
      ∀ rest' : TokenStream, rest'.current = rest.current →
        script.outcome (rest'.prepend read) = (.error e, leftBy e rest') := by
  obtain ⟨read, rest, answer, hs, haccounts, houtcome⟩ := runs_script (ofTokens tokens)
  obtain rfl : answer = .error e := by
    have hall := houtcome rest rfl
    rw [← hs] at hall
    rw [← h, Action.answer, hall]
  obtain ⟨hblames, parsed, later, hscript⟩ := haccounts
  exact ⟨read, rest, hs, hblames, ⟨later, parsed, hscript⟩, houtcome⟩

/-- The tokens of a stream of which some are read, as they stand in the vector. -/
private theorem completed_of_prepend {read : List Token} {rest : TokenStream}
    (hs : ofTokens tokens = rest.prepend read) :
    (completed tokens)[read.length]? = some rest.current ∧
      ((completed tokens).map (·.lexeme)).take read.length = read.map (·.lexeme) := by
  have hpending : (ofTokens tokens).pending = read ++ rest.pending := by rw [hs, prepend]
  have hle : read.length ≤ (ofTokens tokens).pending.length := by
    rw [hpending, List.length_append]
    exact Nat.le_add_right ..
  constructor
  · rw [getElem?_completed hle, hs, prepend, List.drop_left]
  · rw [← List.map_take, take_completed hle, hpending, List.take_left]

/-- If no statement is read, the error is about the first token that cannot stand where it does. -/
theorem exists_offendsAt (h : script.answer (.ofTokens tokens) = .error e) :
    ∃ place t, OffendsAt tokens place t e := by
  obtain ⟨read, rest, hs, hblames, ⟨later, hviable⟩, houtcome⟩ := exists_stop h
  obtain ⟨htoken, hlexemes⟩ := completed_of_prepend hs
  have hle : read.length ≤ endPlace tokens := by
    apply le_endPlace_of_notMem (Nat.zero_le _)
    rw [List.drop_zero, hlexemes]
    exact fun hmem => endOfInput_notMem_of_inGrammar hviable (List.mem_append_left later hmem)
  refine ⟨read.length, rest.current, hle, htoken, ?_, ?_, ?_, ?_⟩
  · cases hblames with
    | unexpected => exact .inl ⟨_, rfl⟩
    | repeated => exact .inl ⟨_, rfl⟩
    | mixed => exact .inr rfl
  · rw [hlexemes]
    exact ⟨_, hviable, List.prefix_append ..⟩
  · rcases Nat.lt_or_eq_of_le hle with hlt | heq
    · refine .inl ⟨hlt, fun ls hls hbegins => ?_⟩
      obtain ⟨later, rfl⟩ := hbegins
      rw [List.take_add_one, hlexemes, List.getElem?_map, htoken, List.append_assoc] at hls
      exact not_inGrammar_of_error houtcome later hls
    · refine .inr ⟨heq, fun hgrammar => ?_⟩
      -- the tokens read are all that come before the end of input
      rw [heq, ← lexemes_ofTokens_eq_take] at hgrammar
      obtain ⟨parsed, hok⟩ := exists_answer_of_inGrammar hgrammar
      rw [h] at hok
      cases hok
  · rw [hlexemes]
    constructor
    · rintro rfl
      cases hblames with
      | mixed hmixes => exact hmixes
    · intro hmixes
      have hpass : (ofTokens tokens).Passes (read.map (·.lexeme)) rest := ⟨read, rfl, hs⟩
      rw [answer_script_of_mixed hpass hmixes] at h
      exact (Except.error.inj h).symm

theorem exists_offendsAt_of_or_behind_and :
    script.answer (.ofTokens [⟨.keyword .DELETE, 0⟩, ⟨.keyword .FROM, 7⟩, ⟨.identifier "t", 12⟩,
      ⟨.keyword .WHERE, 14⟩, ⟨.identifier "a", 20⟩, ⟨.comparison .eq, 22⟩, ⟨.keyword .TRUE, 24⟩,
      ⟨.keyword .AND, 29⟩, ⟨.identifier "b", 33⟩, ⟨.comparison .eq, 35⟩, ⟨.keyword .TRUE, 37⟩,
      ⟨.keyword .OR, 42⟩]) = .error (.mixedConnectives 42) ∧
    ∃ place t, OffendsAt [⟨.keyword .DELETE, 0⟩, ⟨.keyword .FROM, 7⟩, ⟨.identifier "t", 12⟩,
      ⟨.keyword .WHERE, 14⟩, ⟨.identifier "a", 20⟩, ⟨.comparison .eq, 22⟩, ⟨.keyword .TRUE, 24⟩,
      ⟨.keyword .AND, 29⟩, ⟨.identifier "b", 33⟩, ⟨.comparison .eq, 35⟩, ⟨.keyword .TRUE, 37⟩,
      ⟨.keyword .OR, 42⟩] place t (.mixedConnectives 42) :=
  ⟨rfl, exists_offendsAt rfl⟩

end Parser

end SqlEngine
