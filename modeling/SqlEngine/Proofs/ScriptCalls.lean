import Mathlib.Data.List.TakeWhile
import Mathlib.Logic.Function.Iterate
import SqlEngine.Proofs.GrammarRuns

/-!
# One call after the other

A parser keeps its place in the tokens from one call to the next. No call passes the first end of
input: what stands behind it in the vector of tokens never matters, nor how many rounds a loop might
take there, nor what would be found beyond the last token. From its place on each call does what a
first one does, and it takes the place to the token that it reports, or to the end.
-/

namespace SqlEngine

namespace TokenStream

variable {tokens : List Token}

/-! ### Vectors of tokens -/

/-- The tokens with an end of input behind them, if they do not end with one. -/
def completed (tokens : List Token) : List Token :=
  match tokens.getLast? with
  | none      => [⟨.endOfInput, 0⟩]
  | some last =>
    if last.lexeme = .endOfInput then tokens
    else tokens ++ [⟨.endOfInput, last.position + 1⟩]

/-- The place of the first end of input. -/
def endPlace (tokens : List Token) : Nat :=
  (completed tokens).findIdx fun t => t.lexeme = .endOfInput

private theorem completed_eq (tokens : List Token) :
    completed tokens = (ofTokens tokens).pending ++ [⟨.endOfInput, (ofTokens tokens).finish⟩] := by
  rw [completed, ofTokens]
  cases hlast : tokens.getLast? with
  | none => rfl
  | some last =>
    dsimp only
    split
    · rename_i hend
      obtain ⟨earlier, rfl⟩ := List.getLast?_eq_some_iff.mp hlast
      obtain ⟨_, position⟩ := last
      cases hend
      rw [List.dropLast_concat]
    · rfl

private theorem length_completed (tokens : List Token) :
    (completed tokens).length = (ofTokens tokens).pending.length + 1 := by
  rw [completed_eq, List.length_append, List.length_singleton]

/-- The last of the completed tokens is an end of input, and the first one is not behind it. -/
private theorem endPlace_le (tokens : List Token) :
    endPlace tokens ≤ (ofTokens tokens).pending.length := by
  have hlt : endPlace tokens < (completed tokens).length := by
    rw [endPlace, List.findIdx_lt_length, completed_eq]
    exact ⟨_, List.mem_append_right _ List.mem_cons_self, rfl⟩
  rw [length_completed] at hlt
  exact Nat.le_of_lt_succ hlt

/-- What a parser at a place in the tokens has before it. -/
theorem getElem?_completed {place : Nat} (h : place ≤ (ofTokens tokens).pending.length) :
    (completed tokens)[place]? =
      some (current ⟨(ofTokens tokens).pending.drop place, (ofTokens tokens).finish⟩) := by
  rw [← List.head?_drop, completed_eq, List.drop_append_of_le_length h]
  cases (ofTokens tokens).pending.drop place <;> rfl

/-- What a parser has before it that is made for the tokens from a place on. -/
private theorem ofTokens_drop_completed {place : Nat}
    (h : place ≤ (ofTokens tokens).pending.length) :
    ofTokens ((completed tokens).drop place) =
      ⟨(ofTokens tokens).pending.drop place, (ofTokens tokens).finish⟩ := by
  rw [completed_eq, List.drop_append_of_le_length h, ofTokens, List.getLast?_concat]
  simp

theorem take_completed {place : Nat} (h : place ≤ (ofTokens tokens).pending.length) :
    (completed tokens).take place = (ofTokens tokens).pending.take place := by
  rw [completed_eq, List.take_append_of_le_length h]

private theorem lexeme_endPlace {t : Token} (h : (completed tokens)[endPlace tokens]? = some t) :
    t.lexeme = .endOfInput := by
  obtain ⟨hlt, rfl⟩ := List.getElem?_eq_some_iff.mp h
  exact of_decide_eq_true (List.findIdx_getElem (w := hlt))

/-- Any end of input is at the first one or behind it. -/
private theorem endPlace_le_of_lexeme {place : Nat} {t : Token}
    (h : (completed tokens)[place]? = some t) (hend : t.lexeme = .endOfInput) :
    endPlace tokens ≤ place := by
  obtain ⟨hlt, rfl⟩ := List.getElem?_eq_some_iff.mp h
  by_contra hbefore
  have hother := List.not_of_lt_findIdx (Nat.lt_of_not_le hbefore)
  exact absurd hend (of_decide_eq_false hother)

theorem lexemes_ofTokens_eq_take (tokens : List Token) :
    (ofTokens tokens).lexemes = ((completed tokens).map (·.lexeme)).take (endPlace tokens) := by
  have hsame : (ofTokens tokens).lexemes =
      ((completed tokens).map (·.lexeme)).takeWhile (· ≠ .endOfInput) := by
    rw [← lexemes_ofTokens, ← List.drop_zero (l := completed tokens),
      ofTokens_drop_completed (Nat.zero_le _), List.drop_zero]
  rw [hsame, List.takeWhile_eq_take_findIdx_not, List.findIdx_map, endPlace]
  simp [Function.comp_def]

/-- Who has read no end of input is not behind the first one. -/
theorem le_endPlace_of_notMem {place i : Nat} (hplace : place ≤ endPlace tokens)
    (h : .endOfInput ∉ (((completed tokens).map (·.lexeme)).take i).drop place) :
    i ≤ endPlace tokens := by
  by_contra hbehind
  have hlt : endPlace tokens < i := Nat.lt_of_not_le hbehind
  have hlast := getElem?_completed (endPlace_le tokens)
  have hread : ((((completed tokens).map (·.lexeme)).take i).drop place)[endPlace tokens - place]? =
      some .endOfInput := by
    rw [List.getElem?_drop, Nat.add_sub_cancel' hplace, List.getElem?_take_of_lt hlt,
      List.getElem?_map, hlast, Option.map_some, lexeme_endPlace hlast]
  exact h (List.mem_of_getElem? hread)

/-- The tokens up to the first end of input, that one included. -/
def upToEnd (tokens : List Token) : List Token := (completed tokens).take (endPlace tokens + 1)

/-- A vector of tokens from a place on. Behind the first end of input come the given tokens, which
may be those of the completed vector or others, and beyond them an end of input elsewhere. -/
def streamFrom (tokens behind : List Token) (finish place : Nat) : TokenStream :=
  ⟨(upToEnd tokens ++ behind).drop place, finish⟩

end TokenStream

namespace Parser

open TokenStream

variable {s : TokenStream} {tokens : List Token} {e : Error}

/-! ### The end of a script -/

/-- The lexemes write the statement, with a semicolon after it or without. -/
def IsScript (parsed : Statement) (ls : List Lexeme) : Prop :=
  parsed.WellFormed ∧ ls ∈ scripts parsed

private theorem runs_atEnd {parsed : Statement} {ls : List Lexeme} (h : IsScript parsed ls)
    (s : TokenStream) :
    Runs (do
      unless (← get).atEnd do
        fail .endOfInput
      return parsed) IsScript ls s := by
  show Runs (do
    unless decide ((← current).lexeme = .endOfInput) do
      fail .endOfInput
    return parsed) IsScript ls s
  apply runs_current_bind
  split
  · exact runs_pure h
  · exact runs_fail_bind (runs_fail (by simp) ⟨parsed, [], by rwa [List.append_nil]⟩)

theorem runs_script (s : TokenStream) : Runs script IsScript [] s := by
  apply runs_bind (runs_statement s)
  intro parsed s₁ hparsed
  apply runs_accept_bind (by simp)
  · intro s₂ _
    exact runs_atEnd ⟨hparsed, List.mem_cons_of_mem _ List.mem_cons_self⟩ s₂
  · intro _
    exact runs_atEnd ⟨hparsed, List.mem_cons_self⟩ s₁

private theorem current_of_reads_script {parsed : Statement} {s' : TokenStream}
    (h : script.Reads s parsed s') : s'.current.lexeme = .endOfInput :=
  current_of_atEnd (reads_script.mp h).2.2

/-- At an end of input no statement begins. -/
private theorem outcome_script_of_end (h : s.current.lexeme = .endOfInput) :
    script.outcome s = (.error (.unexpectedToken .statement s.current), s) := by
  rw [script, Action.outcome_bind, statement, Action.outcome_bind_of_ok (outcome_current s), h]
  rfl

/-! ### One call -/

/-- What a call does that finds the parser at a place in the tokens. -/
structure ParsesTo (tokens : List Token) (place : Nat) (answer : Except Error Statement)
    (place' : Nat) : Prop where
  le : place ≤ place'
  le_end : place' ≤ endPlace tokens
  /-- It is what the first call does of a parser made for the tokens from there on. -/
  fresh : script.outcome (.ofTokens ((completed tokens).drop place)) =
    (answer, .ofTokens ((completed tokens).drop place'))
  /-- What stands behind the first end of input does not matter, nor what comes after it. -/
  bounded : ∀ behind finish, script.outcome (streamFrom tokens behind finish place) =
    (answer, streamFrom tokens behind finish place')
  finished : ∀ parsed, answer = .ok parsed → place' = endPlace tokens
  stopped : ∀ e, answer = .error e → ∃ i t, place ≤ i ∧ (completed tokens)[i]? = some t ∧
    Blames ((((completed tokens).map (·.lexeme)).take i).drop place) t e ∧
    place' = if e = .unexpectedToken .freshColumn t then i + 1 else i

/-- An error moves a stream past the token that it reports in one case only. -/
private theorem leftBy_eq {ls : List Lexeme} {t : Token} (h : Blames ls t e) (pending : List Token)
    (finish i : Nat) :
    leftBy e ⟨pending.drop i, finish⟩ =
      ⟨pending.drop (if e = .unexpectedToken .freshColumn t then i + 1 else i), finish⟩ := by
  cases h with
  | unexpected hexpected =>
    rw [leftBy, if_neg hexpected, if_neg fun heq => hexpected (Error.unexpectedToken.inj heq).1]
  | repeated => rw [leftBy, if_pos rfl, if_pos rfl, TokenStream.advance, List.tail_drop]
  | mixed => rfl

/-- A call from a place reads up to some token, and it does the same in all vectors of tokens that are
the same up to there. -/
private theorem exists_call {pending : List Token} {place : Nat}
    (hplace : place ≤ pending.length) (finish : Nat) :
    ∃ i answer, place ≤ i ∧ i ≤ pending.length ∧
      Accounts IsScript (((pending.map (·.lexeme)).take i).drop place)
        (TokenStream.current ⟨pending.drop i, finish⟩) answer ∧
      ∀ (pending' : List Token) (finish' : Nat), pending'.take i = pending.take i →
        TokenStream.current ⟨pending'.drop i, finish'⟩ =
          TokenStream.current ⟨pending.drop i, finish⟩ →
        script.outcome ⟨pending'.drop place, finish'⟩ =
          (answer, left answer ⟨pending'.drop i, finish'⟩) := by
  obtain ⟨read, ⟨rest, _⟩, answer, hs, haccounts, houtcome⟩ :=
    runs_script ⟨pending.drop place, finish⟩
  obtain ⟨hread, rfl⟩ := TokenStream.mk.inj hs
  have hread : pending.drop place = read ++ rest := hread
  obtain rfl : pending.drop (place + read.length) = rest := by
    rw [← List.drop_drop, hread, List.drop_left]
  have hlength : place + read.length ≤ pending.length := by
    have hlength := congrArg List.length hread
    rw [List.length_drop, List.length_append, List.length_drop] at hlength
    omega
  have hbetween : (pending.take (place + read.length)).drop place = read := by
    rw [List.drop_take, Nat.add_sub_cancel_left, hread, List.take_left]
  refine ⟨place + read.length, answer, Nat.le_add_right .., hlength, ?_, ?_⟩
  · rwa [← List.map_take, ← List.map_drop, hbetween]
  · intro pending' finish' hsame hcurrent
    have hread' : pending'.drop place = read ++ pending'.drop (place + read.length) := by
      conv_lhs => rw [← List.take_append_drop (place + read.length) pending', hsame]
      rw [List.drop_append_of_le_length (by rw [List.length_take]; omega), hbetween]
    rw [hread']
    exact houtcome ⟨pending'.drop (place + read.length), finish'⟩ hcurrent

/-- The words that a call reads begin something that can be written, so they are before the end. -/
private theorem endOfInput_notMem_of_accounts {ls : List Lexeme} {t : Token}
    {answer : Except Error Statement} (h : Accounts IsScript ls t answer) : .endOfInput ∉ ls := by
  cases answer with
  | ok parsed => exact endOfInput_notMem_of_mem_scripts h.2
  | error e =>
    obtain ⟨-, _, later, hscript⟩ := h
    exact fun hmem => endOfInput_notMem_of_mem_scripts hscript.2 (List.mem_append_left later hmem)

/-- Where an answer leaves a parser that has come to a token. -/
private theorem exists_place {i : Nat} {t : Token} {ls : List Lexeme}
    {answer : Except Error Statement} (ht : (completed tokens)[i]? = some t)
    (hi : i ≤ endPlace tokens) (h : Accounts IsScript ls t answer)
    (hok : ∀ parsed, answer = .ok parsed → t.lexeme = .endOfInput) :
    ∃ place', i ≤ place' ∧ place' ≤ endPlace tokens ∧
      (∀ (pending : List Token) (finish : Nat),
        left answer ⟨pending.drop i, finish⟩ = ⟨pending.drop place', finish⟩) ∧
      (∀ parsed, answer = .ok parsed → place' = endPlace tokens) ∧
      ∀ e, answer = .error e →
        place' = if e = .unexpectedToken .freshColumn t then i + 1 else i := by
  cases answer with
  | ok parsed =>
    have hend := Nat.le_antisymm hi (endPlace_le_of_lexeme ht (hok parsed rfl))
    exact ⟨i, Nat.le_refl i, hi, fun _ _ => rfl, fun _ _ => hend, nofun⟩
  | error e =>
    refine ⟨_, ?_, ?_, fun pending finish => leftBy_eq h.1 pending finish i, nofun, ?_⟩
    · split <;> omega
    · split
      · rename_i hfresh
        subst hfresh
        obtain ⟨hblames, -⟩ := h
        have hne : i ≠ endPlace tokens := by
          rintro rfl
          cases hblames with
          | unexpected hexpected => exact hexpected rfl
          | repeated _ _ hcolumn =>
            rw [lexeme_endPlace ht] at hcolumn
            cases hcolumn
        omega
      · exact hi
    · intro e' he
      cases he
      rfl

private theorem getElem?_upToEnd_append {i : Nat} (hi : i ≤ endPlace tokens)
    (behind : List Token) :
    (upToEnd tokens ++ behind)[i]? = (completed tokens)[i]? ∧
      (upToEnd tokens ++ behind).take i = (completed tokens).take i := by
  have hle := endPlace_le tokens
  have hlength : (upToEnd tokens).length = endPlace tokens + 1 := by
    rw [upToEnd, List.length_take, length_completed]
    omega
  constructor
  · rw [List.getElem?_append_left (by omega), upToEnd, List.getElem?_take_of_lt (by omega)]
  · rw [List.take_append_of_le_length (by omega), upToEnd, List.take_take,
      Nat.min_eq_left (by omega)]

private theorem current_of_getElem? {pending : List Token} {i : Nat} {t : Token}
    (h : pending[i]? = some t) (finish : Nat) :
    TokenStream.current ⟨pending.drop i, finish⟩ = t := by
  rw [TokenStream.current, List.head?_drop, h, Option.getD_some]

private theorem exists_parsesTo {place : Nat} (h : place ≤ endPlace tokens) :
    ∃ place', ParsesTo tokens place (script.answer (.ofTokens ((completed tokens).drop place)))
      place' := by
  have hplace := Nat.le_trans h (endPlace_le tokens)
  obtain ⟨i, answer, hi, hlength, haccounts, hcall⟩ :=
    exists_call hplace (ofTokens tokens).finish
  have ht := getElem?_completed hlength
  rw [← List.map_take, ← take_completed hlength, List.map_take] at haccounts
  have hend := le_endPlace_of_notMem h (endOfInput_notMem_of_accounts haccounts)
  have hfirst := hcall _ _ rfl rfl
  have hok : ∀ parsed, answer = .ok parsed → (TokenStream.current
      ⟨(ofTokens tokens).pending.drop i, (ofTokens tokens).finish⟩).lexeme = .endOfInput := by
    rintro parsed rfl
    exact current_of_reads_script hfirst
  obtain ⟨place', hplace', hend', hleft, hfinished, hstopped⟩ :=
    exists_place ht hend haccounts hok
  rw [hleft] at hfirst
  have hfresh : script.outcome (.ofTokens ((completed tokens).drop place)) =
      (answer, .ofTokens ((completed tokens).drop place')) := by
    rw [ofTokens_drop_completed hplace, hfirst,
      ofTokens_drop_completed (Nat.le_trans hend' (endPlace_le tokens))]
  have hanswer : script.answer (.ofTokens ((completed tokens).drop place)) = answer :=
    congrArg Prod.fst hfresh
  rw [hanswer]
  refine ⟨place', Nat.le_trans hi hplace', hend', hfresh, ?_, hfinished, ?_⟩
  · intro behind finish
    obtain ⟨hget, htake⟩ := getElem?_upToEnd_append hend behind
    rw [streamFrom, hcall _ finish (htake.trans (take_completed hlength))
      (current_of_getElem? (hget.trans ht) finish), hleft, streamFrom]
  · intro e he
    subst he
    exact ⟨i, _, hi, ht, haccounts.1, hstopped e rfl⟩

/-! ### Call after call -/

/-- The place of the parser after so many calls. -/
def placeAfter (tokens : List Token) (calls : Nat) : Nat :=
  (ofTokens tokens).pending.length - (script.after^[calls] (.ofTokens tokens)).pending.length

private theorem placeAfter_eq {place calls : Nat} (h : place ≤ endPlace tokens)
    (hafter : script.after^[calls] (.ofTokens tokens) = .ofTokens ((completed tokens).drop place)) :
    placeAfter tokens calls = place := by
  have hplace := Nat.le_trans h (endPlace_le tokens)
  rw [placeAfter, hafter, ofTokens_drop_completed hplace, List.length_drop, Nat.sub_sub_self hplace]

private theorem placeAfter_zero (tokens : List Token) : placeAfter tokens 0 = 0 := Nat.sub_self _

private theorem parsesTo_placeAfter_succ {calls : Nat}
    (hle : placeAfter tokens calls ≤ endPlace tokens)
    (hafter : script.after^[calls] (.ofTokens tokens) =
      .ofTokens ((completed tokens).drop (placeAfter tokens calls))) :
    ParsesTo tokens (placeAfter tokens calls)
        (script.answer (script.after^[calls] (.ofTokens tokens))) (placeAfter tokens (calls + 1)) ∧
      script.after^[calls + 1] (.ofTokens tokens) =
        .ofTokens ((completed tokens).drop (placeAfter tokens (calls + 1))) := by
  obtain ⟨place', h⟩ := exists_parsesTo hle
  have hnext : script.after^[calls + 1] (.ofTokens tokens) =
      .ofTokens ((completed tokens).drop place') := by
    rw [Function.iterate_succ_apply', hafter, Action.after_of_outcome h.fresh]
  rw [placeAfter_eq h.le_end hnext, hafter]
  exact ⟨h, hnext⟩

private theorem after_calls (tokens : List Token) (calls : Nat) :
    placeAfter tokens calls ≤ endPlace tokens ∧ script.after^[calls] (.ofTokens tokens) =
      .ofTokens ((completed tokens).drop (placeAfter tokens calls)) := by
  induction calls with
  | zero =>
    rw [placeAfter_zero, ofTokens_drop_completed (Nat.zero_le _)]
    exact ⟨Nat.zero_le _, rfl⟩
  | succ calls ih =>
    obtain ⟨hle, hafter⟩ := ih
    obtain ⟨hparses, hnext⟩ := parsesTo_placeAfter_succ hle hafter
    exact ⟨hparses.le_end, hnext⟩

private theorem parsesTo_placeAfter (tokens : List Token) (calls : Nat) :
    ParsesTo tokens (placeAfter tokens calls)
      (script.answer (script.after^[calls] (.ofTokens tokens)))
      (placeAfter tokens (calls + 1)) := by
  obtain ⟨hle, hafter⟩ := after_calls tokens calls
  exact (parsesTo_placeAfter_succ hle hafter).1

private theorem after_calls_streamFrom (tokens behind : List Token) (finish calls : Nat) :
    script.after^[calls] (streamFrom tokens behind finish 0) =
      streamFrom tokens behind finish (placeAfter tokens calls) := by
  induction calls with
  | zero => rw [placeAfter_zero, Function.iterate_zero_apply]
  | succ calls ih =>
    rw [Function.iterate_succ_apply', ih]
    exact Action.after_of_outcome ((parsesTo_placeAfter tokens calls).bounded behind finish)

/-- At the first end of input every further call fails there. -/
private theorem answer_of_finished {calls : Nat} {last : Token}
    (h : placeAfter tokens calls = endPlace tokens)
    (hlast : (completed tokens)[endPlace tokens]? = some last) (later : Nat)
    (hlater : calls ≤ later) :
    script.answer (script.after^[later] (.ofTokens tokens)) =
      .error (.unexpectedToken .statement last) := by
  have hafter := (after_calls tokens calls).2
  rw [h, ofTokens_drop_completed (endPlace_le tokens)] at hafter
  obtain rfl := Option.some.inj (hlast.symm.trans (getElem?_completed (endPlace_le tokens)))
  have hfails := outcome_script_of_end (lexeme_endPlace hlast)
  obtain ⟨more, rfl⟩ := Nat.exists_eq_add_of_le hlater
  rw [Nat.add_comm, Function.iterate_add_apply, hafter,
    Function.iterate_fixed (Action.after_of_outcome hfails), Action.answer, hfails]

/-- However often a parser was called, it is as one made for the tokens from its place on, also in a
vector that goes on behind the first end of input. The next call does from there what `ParsesTo`
says, and once a statement is read every call fails at the first end of input. -/
theorem answers_of_calls (tokens : List Token) :
    placeAfter tokens 0 = 0 ∧ endPlace tokens < (completed tokens).length ∧
    ∀ calls,
      script.after^[calls] (.ofTokens tokens) =
        .ofTokens ((completed tokens).drop (placeAfter tokens calls)) ∧
      (∀ behind finish, script.after^[calls] (streamFrom tokens behind finish 0) =
        streamFrom tokens behind finish (placeAfter tokens calls)) ∧
      ParsesTo tokens (placeAfter tokens calls)
        (script.answer (script.after^[calls] (.ofTokens tokens))) (placeAfter tokens (calls + 1)) ∧
      ∀ parsed, script.answer (script.after^[calls] (.ofTokens tokens)) = .ok parsed →
        ∃ last, (completed tokens)[endPlace tokens]? = some last ∧ last.lexeme = .endOfInput ∧
          ∀ later > calls, script.answer (script.after^[later] (.ofTokens tokens)) =
            .error (.unexpectedToken .statement last) := by
  have hlast := getElem?_completed (endPlace_le tokens)
  refine ⟨placeAfter_zero tokens, (List.getElem?_eq_some_iff.mp hlast).1, fun calls =>
    ⟨(after_calls tokens calls).2, ?_, parsesTo_placeAfter tokens calls, ?_⟩⟩
  · exact fun behind finish => after_calls_streamFrom tokens behind finish calls
  · intro parsed hparsed
    have hfinished := (parsesTo_placeAfter tokens calls).finished parsed hparsed
    exact ⟨_, hlast, lexeme_endPlace hlast, answer_of_finished hfinished hlast⟩

/-- Behind a column that is assigned twice, the next call reads what comes there. -/
example :
    let tokens : List Token := [⟨.keyword .UPDATE, 0⟩, ⟨.identifier "t", 7⟩, ⟨.keyword .SET, 9⟩,
      ⟨.identifier "a", 13⟩, ⟨.comparison .eq, 15⟩, ⟨.keyword .TRUE, 17⟩, ⟨.symbol .comma, 21⟩,
      ⟨.identifier "a", 23⟩, ⟨.keyword .DELETE, 25⟩, ⟨.keyword .FROM, 32⟩, ⟨.identifier "t", 37⟩]
    placeAfter tokens 1 = 8 ∧ placeAfter tokens 2 = endPlace tokens ∧
      script.answer (script.after (.ofTokens tokens)) = .ok (.delete ⟨"t", none⟩) :=
  ⟨rfl, rfl, rfl⟩

end Parser

end SqlEngine
