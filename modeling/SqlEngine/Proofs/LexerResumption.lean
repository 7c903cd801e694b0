import Mathlib.Logic.Function.Iterate
import SqlEngine.Proofs.TokenSplits

/-!
# Reading on after an error

The cursor stays where a reading stopped, and the next reading goes on from there as it would in the
rest of the text alone. Past a malformed literal there is more to read; a character that begins no
token is never passed. So repeated readings report malformed literals further and further on, and
from then on either one such character or, after the last tokens, the bare end of input.
-/

namespace SqlEngine

def Token.shift (offset : Nat) (t : Token) : Token := { t with position := t.position + offset }

/-- The error of the lexer as it is in a text with more characters before. -/
def Error.shift (offset : Nat) : Error → Error
  | .unexpectedCharacter c position  => .unexpectedCharacter c (position + offset)
  | .malformedLiteral fault position => .malformedLiteral fault (position + offset)
  | e                                => e

namespace Lexeme

open Lexer

variable {l : Lexeme} {text rest : List Char}

/-- A lexeme that does not go on in a text does not go on in a part of it. -/
private theorem EndsBefore.of_append (h : l.EndsBefore (text ++ rest)) : l.EndsBefore text := by
  cases text with
  | nil => exact endsBefore_nil l
  | cons c text =>
    cases l with
    | comparison c => cases c <;> exact h
    | _ => exact h

end Lexeme

namespace Lexer

open Text

def Cursor.shift (offset : Nat) (cursor : Cursor) : Cursor :=
  { cursor with position := cursor.position + offset }

/-- What a reading answers and leaves as it is in a text with more characters before. -/
def shiftOutcome {α : Type} (offset : Nat) (shift : α → α) :
    Except Error α × Cursor → Except Error α × Cursor
  | (.ok a, cursor)    => (.ok (shift a), cursor.shift offset)
  | (.error e, cursor) => (.error (e.shift offset), cursor.shift offset)

variable {c : Char} {l : Lexeme} {fault : LiteralFault} {width n : Nat} {text : List Char}
  {cursor cursor' : Cursor} {e : Error} {sql : String}

/-! ### Where reading stops -/

/-- At the head of the text is the beginning of a literal, which takes the given width and is none
because of the fault. -/
def Misspells : LiteralFault → Nat → List Char → Prop
  | .unterminatedText,          width, text =>
    ∃ body, text = '\'' :: body ∧ '\'' ∉ body ∧ width = text.length
  | .integer literal overflow, width, text =>
    ∃ negative digits rest, literal.toList = (if negative then '-' :: digits else digits) ∧
      text = literal.toList ++ rest ∧ digits ≠ [] ∧ (∀ c ∈ digits, c.isDigit) ∧
      (∀ c ∈ rest.head?, ¬ c.isDigit) ∧
      Decimal.toInt64 (Decimal.signed negative digits) = .error overflow ∧
      width = literal.toList.length

private theorem misspells_of_scanNumber {negative : Bool} (hdigit : text.head?.any Char.isDigit)
    (h : scanNumber negative text = .malformed fault width) :
    Misspells fault width (if negative then '-' :: text else text) := by
  have hne : text.takeWhile Char.isDigit ≠ [] := by
    cases text with
    | nil => simp at hdigit
    | cons first more =>
      have hfirst : first.isDigit := hdigit
      simp [hfirst]
  simp only [scanNumber] at h
  split at h
  · cases h
  · rename_i overflow hoverflow
    cases h
    refine ⟨negative, text.takeWhile Char.isDigit, text.dropWhile Char.isDigit,
      String.toList_ofList, ?_, hne, List.all_eq_true.mp List.all_takeWhile, stop_dropWhile _ _,
      hoverflow, by rw [String.toList_ofList]⟩
    cases negative <;> simp

private theorem misspells_of_scan (h : scan c text = .malformed fault width) :
    Misspells fault width (c :: text) := by
  unfold scan at h
  split at h
  · cases h
  split at h
  · cases h
  · unfold scanComparison at h
    split at h <;> cases h
  · unfold scanComparison at h
    split at h <;> cases h
  · split at h <;> cases h
  · split at h
    · rename_i hdigit
      exact misspells_of_scanNumber hdigit h
    · cases h
  · simp only [scanText] at h
    split at h
    · rename_i hlength
      cases h
      have hall : text.takeWhile (· ≠ '\'') = text :=
        (List.takeWhile_sublist _).eq_of_length hlength
      refine ⟨text, rfl, fun hquote => ?_, by rw [hlength, List.length_cons]⟩
      rw [← hall] at hquote
      simpa using List.all_eq_true.mp List.all_takeWhile _ hquote
    · cases h
  · split at h
    · rename_i hdigit
      have hhead : (c :: text).head?.any Char.isDigit := hdigit
      exact misspells_of_scanNumber hhead h
    split at h
    · cases h
    · cases h

private theorem Misspells.width_pos (h : Misspells fault width text) :
    0 < width ∧ width ≤ text.length := by
  cases fault with
  | unterminatedText =>
    obtain ⟨body, rfl, -, rfl⟩ := h
    simp
  | integer literal overflow =>
    obtain ⟨negative, digits, rest, hliteral, rfl, hne, -, -, -, rfl⟩ := h
    have hpos : 0 < digits.length := List.length_pos_iff.mpr hne
    rw [List.length_append]
    cases negative <;> simp_all

/-- No token is spelled at the head of the text. -/
def StartsNoToken (text : List Char) : Prop :=
  ∀ (l : Lexeme) (word rest : List Char), text = word ++ rest → ¬ l.SpelledBy word

private theorem scan_width_pos_of_begins {more rest : List Char} (h : l.SpelledBy (c :: more)) :
    0 < (scan c (more ++ rest)).width := by
  have hnumber : ∀ {c : Char} {text : List Char}, c.isDigit → 0 < (scan c text).width := by
    intro c text hdigit
    rw [scan_of_isWordPart (isWordPart_of_isDigit hdigit), if_pos hdigit, scanNumber_width]
    simp [hdigit]
  have hword : ∀ {c : Char} {text : List Char}, isWordStart c → 0 < (scan c text).width := by
    intro c text hstart
    have hdigit : ¬ c.isDigit := fun hdigit => not_isWordStart_of_isDigit hdigit hstart
    have hpart := isWordPart_of_isWordStart hstart
    rw [scan_of_isWordPart hpart, if_neg hdigit, if_pos hstart]
    simp [scanWord, Scan.width, hpart]
  cases l with
  | keyword k => exact hword (isWord_of_keyword h).start
  | identifier name => exact hword h.2.start
  | number n =>
    obtain ⟨negative, digits, hspelled, hne, hdigits, -⟩ := h
    cases negative with
    | true =>
      obtain ⟨rfl, rfl⟩ := List.cons_eq_cons.mp hspelled
      obtain ⟨digit, later, rfl⟩ := List.exists_cons_of_ne_nil hne
      have hdigit : digit.isDigit := hdigits digit List.mem_cons_self
      have hhead : (digit :: later ++ rest).head?.any Char.isDigit := hdigit
      have hscan : scan '-' (digit :: later ++ rest) = scanNumber true (digit :: later ++ rest) :=
        if_pos hhead
      rw [hscan, scanNumber_width]
      simp
    | false =>
      obtain rfl : c :: more = digits := hspelled
      exact hnumber (hdigits c List.mem_cons_self)
  | text s =>
    obtain ⟨rfl, -⟩ := List.cons_eq_cons.mp h.1
    exact scanText_width_pos _
  | comparison op =>
    have hsign : c :: more = op.sign.toList := h
    cases op <;> obtain ⟨rfl, rfl⟩ := List.cons_eq_cons.mp hsign
    all_goals first
      | exact scanComparison_width_pos ..
      | exact Nat.one_pos
      | exact Nat.two_pos
  | symbol s =>
    obtain ⟨rfl, rfl⟩ := List.cons_eq_cons.mp h
    simp [scan, Scan.width]
  | endOfInput => exact h.elim

private theorem startsNoToken_of_scan {c' : Char} (h : scan c text = .unexpected c') :
    c' = c ∧ StartsNoToken (c :: text) := by
  have hwidth : (scan c text).width = 0 := by rw [h, Scan.width]
  constructor
  · rcases scan_width_pos_or_unexpected c text with hpos | hc
    · omega
    · cases h.symm.trans hc
      rfl
  · intro l word rest hsplit hword
    obtain ⟨first, more, rfl, -⟩ := hword.begins
    obtain ⟨rfl, htext⟩ : c = first ∧ text = more ++ rest := List.cons_eq_cons.mp hsplit
    rw [htext] at hwidth
    exact Nat.ne_of_gt (scan_width_pos_of_begins hword) hwidth

/-! ### One reading -/

/-- How a reading that fails has come to its end: it has split a part of the text into tokens, and
fails at what stands behind it. -/
private theorem exists_splits_of_error {position : Nat} (hn : text.length ≤ n)
    (h : (tokensUpTo n).outcome ⟨text, position⟩ = (.error e, cursor')) :
    ∃ read c rest tokens, text = read ++ c :: rest ∧ Splits position read tokens ∧
      ¬ isWhiteSpace c ∧
      (token c rest).outcome ⟨c :: rest, position + read.length⟩ = (.error e, cursor') := by
  induction n generalizing text position with
  | zero => cases h
  | succ n ih =>
    obtain ⟨blank, rest, rfl, hblank, hstop⟩ := exists_blank text
    cases rest with
    | nil =>
      rw [List.append_nil, outcome_lastRound n position hblank] at h
      cases h
    | cons c text =>
      rw [outcome_round n position hblank (hstop c rfl)] at h
      rcases htoken : (token c text).outcome ⟨c :: text, position + blank.length⟩ with ⟨e' | t, s⟩
      · rw [Action.outcome_bind, htoken] at h
        cases h
        exact ⟨blank, c, text, _, rfl, .finish hblank, hstop c rfl, htoken⟩
      · rw [Action.outcome_bind_of_ok htoken] at h
        obtain ⟨l, word, rest, hsplit, hword, hrest, rfl, rfl⟩ := opens_of_outcome_token htoken
        have hlength : rest.length ≤ n := by
          obtain ⟨first, more, rfl, -⟩ := hword.begins
          rw [hsplit] at hn
          simp only [List.length_append, List.length_cons] at hn
          omega
        rcases hlater : (tokensUpTo n).outcome ⟨rest, position + blank.length + word.length⟩
          with ⟨e' | later, s'⟩
        · rw [Action.outcome_bind, hlater] at h
          cases h
          obtain ⟨read, c', rest', tokens, rfl, hsplits, hblank', hfail⟩ := ih hlength hlater
          refine ⟨blank ++ (word ++ read), c', rest', _, ?_,
            .token hblank hword hrest.of_append hsplits, hblank', ?_⟩
          · rw [hsplit]
            simp
          · rw [← hfail]
            simp only [List.length_append, Nat.add_assoc]
        · rw [Action.outcome_bind_of_ok hlater] at h
          cases h

/-! ### Readings in a longer text -/

private theorem outcome_bind_shift {α β : Type} {offset : Nat} {shift : α → α} {shift' : β → β}
    {act : Action Cursor α} {next next' : α → Action Cursor β}
    (hact : act.outcome (cursor.shift offset) = shiftOutcome offset shift (act.outcome cursor))
    (hnext : ∀ a s, (next' (shift a)).outcome (Cursor.shift offset s) =
      shiftOutcome offset shift' ((next a).outcome s)) :
    (act >>= next').outcome (cursor.shift offset) =
      shiftOutcome offset shift' ((act >>= next).outcome cursor) := by
  rw [Action.outcome_bind, Action.outcome_bind, hact]
  rcases act.outcome cursor with ⟨e | a, s⟩
  · rfl
  · exact hnext a s

private theorem outcome_token_shift (offset : Nat) (c : Char) (text : List Char) (cursor : Cursor) :
    (token c text).outcome (cursor.shift offset) =
      shiftOutcome offset (Token.shift offset) ((token c text).outcome cursor) := by
  have hadvance : ∀ width, (cursor.shift offset).advance width =
      (cursor.advance width).shift offset := by
    intro width
    simp only [Cursor.shift, Cursor.advance, Nat.add_right_comm]
  simp only [token, Action.outcome_bind, Action.outcome_get]
  cases scan c text with
  | lexeme l width =>
    simp only [Action.outcome_bind, Action.outcome_set, Action.outcome_pure, hadvance]
    rfl
  | malformed fault width =>
    simp only [Action.outcome_bind, Action.outcome_set, Action.outcome_throw, hadvance]
    rfl
  | unexpected c => rfl

/-- A reading does not depend on how many characters were read before it, but for the positions. -/
private theorem outcome_tokensUpTo_shift (offset n : Nat) (cursor : Cursor) :
    (tokensUpTo n).outcome (cursor.shift offset) =
      shiftOutcome offset (List.map (Token.shift offset)) ((tokensUpTo n).outcome cursor) := by
  induction n generalizing cursor with
  | zero => rfl
  | succ n ih =>
    obtain ⟨text, position⟩ := cursor
    obtain ⟨blank, rest, rfl, hblank, hstop⟩ := exists_blank text
    have hposition : position + offset + blank.length = position + blank.length + offset :=
      Nat.add_right_comm ..
    rw [Cursor.shift]
    cases rest with
    | nil =>
      rw [List.append_nil, outcome_lastRound n _ hblank, outcome_lastRound n _ hblank, hposition]
      rfl
    | cons c text =>
      rw [outcome_round n _ hblank (hstop c rfl), outcome_round n _ hblank (hstop c rfl), hposition]
      have hlater : ∀ t s,
          (tokensUpTo n >>= fun later => pure (Token.shift offset t :: later)).outcome
            (Cursor.shift offset s) = shiftOutcome offset (List.map (Token.shift offset))
              ((tokensUpTo n >>= fun later => pure (t :: later)).outcome s) :=
        fun _ s => outcome_bind_shift (ih s) fun _ _ => rfl
      exact outcome_bind_shift (outcome_token_shift offset c text ⟨c :: text, _⟩) hlater

/-! ### One reading of many -/

/-- The cursor at a place in a text. -/
def Cursor.ofPlace (sql : String) (place : Nat) : Cursor := ⟨sql.toList.drop place, place⟩

/-- The text between two places. -/
def textBetween (sql : String) (first last : Nat) : String :=
  String.ofList ((sql.toList.drop first).take (last - first))

/-- What a reading from one place in a text answers, and the place to which it takes the cursor. -/
inductive ReadsTo (sql : String) (place : Nat) : Except Error (List Token) → Nat → Prop
  | finish {found : List Token} : ReadsTo sql place (.ok found) sql.length
  | unexpected {c : Char} {position : Nat} {before : List Token} (hle : place ≤ position)
    (hbefore : tokensOf (textBetween sql place position) = .ok before)
    (hc : sql.toList[position]? = some c) (hnone : StartsNoToken (sql.toList.drop position)) :
    ReadsTo sql place (.error (.unexpectedCharacter c position)) position
  | malformed {fault : LiteralFault} {width position : Nat} {before : List Token}
    (hle : place ≤ position) (hbefore : tokensOf (textBetween sql place position) = .ok before)
    (hfault : Misspells fault width (sql.toList.drop position)) :
    ReadsTo sql place (.error (.malformedLiteral fault position)) (position + width)

private theorem tokensOf_of_splits_at {position : Nat} {found : List Token}
    (h : Splits position text found) : ∃ tokens, tokensOf (String.ofList text) = .ok tokens := by
  have hshift := outcome_tokensUpTo_shift position text.length ⟨text, 0⟩
  rw [Cursor.shift, Nat.zero_add, outcome_tokensUpTo h (Nat.le_refl _)] at hshift
  rcases hread : (tokensUpTo text.length).outcome ⟨text, 0⟩ with ⟨e | tokens, s⟩
  · rw [hread] at hshift
    cases hshift
  · refine ⟨tokens, tokensOf_of_splits ?_⟩
    rw [String.toList_ofList]
    exact splits_of_tokensUpTo (Nat.le_refl _) hread

/-- A character that begins no token stops every reading. -/
private theorem outcome_tokens_of_unexpected {position : Nat} (hblank : ¬ isWhiteSpace c)
    (hscan : scan c text = .unexpected c) :
    tokens.outcome ⟨c :: text, position⟩ =
      (.error (.unexpectedCharacter c position), ⟨c :: text, position⟩) := by
  have hnothing : IsBlank [] := fun _ hc => nomatch hc
  have hround : tokens.outcome ⟨c :: text, position⟩ = _ :=
    outcome_round text.length position hnothing hblank
  rw [hround, Action.outcome_bind, token, Action.outcome_bind, Action.outcome_get, hscan]
  rfl

private theorem readsTo_of_error {place : Nat}
    (h : tokens.outcome (.ofPlace sql place) = (.error e, cursor')) :
    ∃ place', cursor' = .ofPlace sql place' ∧ ReadsTo sql place (.error e) place' ∧
      ∀ c position, e = .unexpectedCharacter c position →
        tokens.outcome cursor' = (.error e, cursor') := by
  obtain ⟨read, c, rest, found, htext, hsplits, hblank, hfail⟩ :=
    exists_splits_of_error (Nat.le_refl _) h
  have htext : sql.toList.drop place = read ++ c :: rest := htext
  have hdrop : sql.toList.drop (place + read.length) = c :: rest := by
    rw [← List.drop_drop, htext, List.drop_left]
  have hbetween : textBetween sql place (place + read.length) = String.ofList read := by
    rw [textBetween, Nat.add_sub_cancel_left, htext, List.take_left]
  obtain ⟨before, hbefore⟩ := tokensOf_of_splits_at hsplits
  rw [← hbetween] at hbefore
  rw [token, Action.outcome_bind, Action.outcome_get] at hfail
  dsimp only at hfail
  cases hscan : scan c rest with
  | lexeme l width =>
    rw [hscan] at hfail
    cases hfail
  | malformed fault width =>
    rw [hscan] at hfail
    cases hfail
    have hmisspells := misspells_of_scan hscan
    rw [← hdrop] at hmisspells
    refine ⟨place + read.length + width, ?_, .malformed (Nat.le_add_right ..) hbefore hmisspells,
      ?_⟩
    · rw [Cursor.ofPlace, ← List.drop_drop, hdrop]
      rfl
    · intro c position herror
      cases herror
  | unexpected c' =>
    obtain ⟨rfl, hnone⟩ := startsNoToken_of_scan hscan
    rw [hscan] at hfail
    cases hfail
    have hc : sql.toList[place + read.length]? = some c' := by
      rw [← List.head?_drop, hdrop, List.head?_cons]
    rw [← hdrop] at hnone
    refine ⟨place + read.length, ?_, .unexpected (Nat.le_add_right ..) hbefore hc hnone, ?_⟩
    · rw [Cursor.ofPlace, hdrop]
    · intro _ _ _
      exact outcome_tokens_of_unexpected hblank hscan

private theorem Misspells.place_le {place : Nat}
    (h : Misspells fault width (sql.toList.drop place)) :
    0 < width ∧ place + width ≤ sql.length := by
  obtain ⟨hpos, hle⟩ := h.width_pos
  rw [List.length_drop, String.length_toList] at hle
  exact ⟨hpos, by omega⟩

private theorem ReadsTo.le_length {place place' : Nat} {answer : Except Error (List Token)}
    (h : ReadsTo sql place answer place') : place' ≤ sql.length := by
  cases h with
  | finish => exact Nat.le_refl _
  | unexpected _ _ hc _ =>
    obtain ⟨hlt, _⟩ := List.getElem?_eq_some_iff.mp hc
    rw [String.length_toList] at hlt
    exact Nat.le_of_lt hlt
  | malformed _ _ hfault => exact hfault.place_le.2

private theorem outcome_tokens_length (sql : String) :
    tokens.outcome (.ofPlace sql sql.length) =
      (.ok [⟨.endOfInput, sql.length⟩], .ofPlace sql sql.length) := by
  have hrest : sql.toList.drop sql.length = [] :=
    List.drop_of_length_le (Nat.le_of_eq String.length_toList)
  rw [Cursor.ofPlace, hrest]
  rfl

private theorem outcome_tokens_of_ok {place : Nat} {found : List Token}
    (hplace : place ≤ sql.length) (h : tokens.outcome (.ofPlace sql place) = (.ok found, cursor')) :
    cursor' = .ofPlace sql sql.length := by
  have hend := outcome_tokensUpTo (splits_of_tokensUpTo (Nat.le_refl _) h) (Nat.le_refl _)
  have hlength : place + (sql.toList.drop place).length = sql.length := by
    rw [List.length_drop, String.length_toList]
    omega
  rw [Cursor.ofPlace, List.drop_of_length_le (Nat.le_of_eq String.length_toList), ← hlength]
  exact (congrArg Prod.snd (h.symm.trans hend)).trans rfl

/-- A reading from within a text leaves the cursor within it. -/
private theorem exists_readsTo {place : Nat} (hplace : place ≤ sql.length) :
    ∃ place' ≤ sql.length, tokens.after (.ofPlace sql place) = .ofPlace sql place' ∧
      ReadsTo sql place (tokens.answer (.ofPlace sql place)) place' := by
  rcases hout : tokens.outcome (.ofPlace sql place) with ⟨e | found, cursor'⟩
  · obtain ⟨place', rfl, hreads, -⟩ := readsTo_of_error hout
    rw [Action.answer, Action.after, hout]
    exact ⟨place', hreads.le_length, rfl, hreads⟩
  · rw [Action.answer, Action.after, hout, outcome_tokens_of_ok hplace hout]
    exact ⟨sql.length, Nat.le_refl _, rfl, .finish⟩

/-! ### All readings of a text -/

/-- What the readings that follow one another from a cursor answer. -/
def readingsFrom (cursor : Cursor) (calls : Nat) : Except Error (List Token) :=
  tokens.answer (tokens.after^[calls] cursor)

private theorem readingsFrom_succ (cursor : Cursor) (calls : Nat) :
    readingsFrom cursor (calls + 1) = readingsFrom (tokens.after cursor) calls := rfl

/-- From some reading on all are alike: they report the same character, or they find the end of
input only, after a first that may find more. -/
def SettlesAt (sql : String) (answers : Nat → Except Error (List Token)) (first : Nat) : Prop :=
  (∃ c position, ∀ k ≥ first, answers k = .error (.unexpectedCharacter c position)) ∨
    ∃ found, answers first = .ok found ∧ ∀ k > first, answers k = .ok [⟨.endOfInput, sql.length⟩]

private theorem readingsFrom_of_fixed {answer : Except Error (List Token)}
    (h : tokens.outcome cursor = (answer, cursor)) (calls : Nat) :
    readingsFrom cursor calls = answer := by
  rw [readingsFrom, Function.iterate_fixed (Action.after_of_outcome h), Action.answer, h]

/-- One more answer before them does not change how answers settle. -/
private theorem SettlesAt.succ {answers later : Nat → Except Error (List Token)} {first : Nat}
    (h : SettlesAt sql later first) (hlater : ∀ k, answers (k + 1) = later k) :
    SettlesAt sql answers (first + 1) := by
  rcases h with ⟨c, stop, hall⟩ | ⟨found, hok, hall⟩
  · refine .inl ⟨c, stop, fun k hk => ?_⟩
    obtain ⟨k, rfl⟩ := Nat.exists_eq_add_of_lt hk
    rw [hlater]
    exact hall _ (Nat.le_add_right ..)
  · refine .inr ⟨found, (hlater first).trans hok, fun k hk => ?_⟩
    obtain ⟨k, rfl⟩ := Nat.exists_eq_add_of_lt hk
    rw [hlater]
    exact hall _ (by omega)

/-- The malformed literals that readings report, each further on than those before, and what comes
when there are no more of them. -/
private theorem exists_malformed {place : Nat} (hplace : place ≤ sql.length) :
    ∃ malformed : List (LiteralFault × Nat),
      (∀ found ∈ malformed, place ≤ found.2) ∧ malformed.Pairwise (fun a b => a.2 < b.2) ∧
      (∀ (k : Nat) found, malformed[k]? = some found →
        readingsFrom (.ofPlace sql place) k = .error (.malformedLiteral found.1 found.2)) ∧
      SettlesAt sql (readingsFrom (.ofPlace sql place)) malformed.length := by
  -- a malformed literal is passed, so that less of the text is left for the next reading
  induction hleft : sql.length - place using Nat.strongRecOn generalizing place with
  | ind left ih =>
    rcases hout : tokens.outcome (.ofPlace sql place) with ⟨e | found, cursor'⟩
    · have hfirst : readingsFrom (.ofPlace sql place) 0 = .error e := congrArg Prod.fst hout
      have hnext : ∀ k, readingsFrom (.ofPlace sql place) (k + 1) = readingsFrom cursor' k := by
        intro k
        rw [readingsFrom_succ, Action.after_of_outcome hout]
      obtain ⟨place', rfl, hreads, hfixed⟩ := readsTo_of_error hout
      cases hreads with
      | @unexpected c _ _ hle _ hc hnone =>
        refine ⟨[], nofun, .nil, nofun, .inl ⟨c, place', fun k _ => ?_⟩⟩
        cases k with
        | zero => exact hfirst
        | succ k =>
          rw [hnext]
          exact readingsFrom_of_fixed (hfixed c place' rfl) k
      | @malformed fault width position _ hle _ hfault =>
        obtain ⟨hpos, hlength⟩ := hfault.place_le
        obtain ⟨later, hlater, hasc, hanswers, hsettles⟩ := ih _ (by omega) hlength rfl
        refine ⟨(fault, position) :: later, ?_, ?_, ?_, hsettles.succ hnext⟩
        · intro found hfound
          rcases List.mem_cons.mp hfound with rfl | hfound
          · exact hle
          · exact Nat.le_trans (Nat.le_trans hle (Nat.le_add_right ..)) (hlater found hfound)
        · refine List.pairwise_cons.mpr ⟨fun found hfound => ?_, hasc⟩
          exact Nat.lt_of_lt_of_le (Nat.lt_add_of_pos_right hpos) (hlater found hfound)
        · intro k found hk
          cases k with
          | zero =>
            cases hk
            exact hfirst
          | succ k =>
            rw [hnext]
            exact hanswers k found hk
    · have hfirst : readingsFrom (.ofPlace sql place) 0 = .ok found := congrArg Prod.fst hout
      have hafter := Action.after_of_outcome hout
      rw [outcome_tokens_of_ok hplace hout] at hafter
      refine ⟨[], nofun, .nil, nofun, .inr ⟨found, hfirst, fun k hk => ?_⟩⟩
      obtain ⟨k, rfl⟩ := Nat.exists_eq_add_of_lt hk
      rw [readingsFrom_succ, hafter]
      exact readingsFrom_of_fixed (outcome_tokens_length sql) _

private theorem ofText_eq_ofPlace (sql : String) : Cursor.ofText sql = .ofPlace sql 0 := by
  rw [Cursor.ofPlace, List.drop_zero]
  rfl

/-- A reading from one place in a text is one of the rest of the text, but for the positions. -/
private theorem outcome_tokens_ofPlace (sql : String) (place : Nat) :
    tokens.outcome (.ofPlace sql place) = shiftOutcome place (List.map (Token.shift place))
      (tokens.outcome (.ofText (String.ofList (sql.toList.drop place)))) := by
  have hshift := outcome_tokensUpTo_shift place (sql.toList.drop place).length
    ⟨sql.toList.drop place, 0⟩
  rw [Cursor.shift, Nat.zero_add] at hshift
  rw [Cursor.ofText, String.toList_ofList]
  exact hshift

private theorem exists_place (sql : String) (calls : Nat) :
    ∃ place ≤ sql.length, tokens.after^[calls] (.ofText sql) = .ofPlace sql place := by
  induction calls with
  | zero => exact ⟨0, Nat.zero_le _, ofText_eq_ofPlace sql⟩
  | succ calls ih =>
    obtain ⟨place, hplace, hcursor⟩ := ih
    obtain ⟨place', hplace', hafter, -⟩ := exists_readsTo hplace
    exact ⟨place', hplace', by rw [Function.iterate_succ_apply', hcursor, hafter]⟩

/-- Every reading of a text, however many came before, answers as a first one would in what they
left of it. It takes the cursor to the end of the text, or to a character that begins no token,
where it stays for good, or behind a malformed literal. So the readings report finitely many such
literals, one after the other, before they settle. -/
theorem answers_of_readings (sql : String) :
    (∀ calls, ∃ place place', place ≤ sql.length ∧ place' ≤ sql.length ∧
      tokens.after^[calls] (.ofText sql) = .ofPlace sql place ∧
      tokens.after^[calls + 1] (.ofText sql) = .ofPlace sql place' ∧
      tokens.outcome (.ofPlace sql place) = shiftOutcome place (List.map (Token.shift place))
        (tokens.outcome (.ofText (String.ofList (sql.toList.drop place)))) ∧
      ReadsTo sql place (readingsFrom (.ofText sql) calls) place' ∧
      ∀ c position, readingsFrom (.ofText sql) calls = .error (.unexpectedCharacter c position) →
        ∀ k ≥ calls, readingsFrom (.ofText sql) k = .error (.unexpectedCharacter c position)) ∧
    ∃ malformed : List (LiteralFault × Nat), malformed.Pairwise (fun a b => a.2 < b.2) ∧
      (∀ (k : Nat) found, malformed[k]? = some found →
        readingsFrom (.ofText sql) k = .error (.malformedLiteral found.1 found.2)) ∧
      SettlesAt sql (readingsFrom (.ofText sql)) malformed.length := by
  constructor
  · intro calls
    obtain ⟨place, hplace, hcursor⟩ := exists_place sql calls
    obtain ⟨place', hplace', hafter, hreads⟩ := exists_readsTo hplace
    have hanswer : readingsFrom (.ofText sql) calls = tokens.answer (.ofPlace sql place) := by
      rw [readingsFrom, hcursor]
    refine ⟨place, place', hplace, hplace', hcursor, ?_, outcome_tokens_ofPlace sql place, ?_, ?_⟩
    · rw [Function.iterate_succ_apply', hcursor, hafter]
    · rw [hanswer]
      exact hreads
    · intro c position herror k hk
      have hout : tokens.outcome (.ofPlace sql place) =
          (.error (.unexpectedCharacter c position), tokens.after (.ofPlace sql place)) :=
        Prod.ext (hanswer.symm.trans herror) rfl
      obtain ⟨stop, hstop, -, hfixed⟩ := readsTo_of_error hout
      obtain ⟨more, rfl⟩ := Nat.exists_eq_add_of_le hk
      cases more with
      | zero => exact herror
      | succ more =>
        have hlater : tokens.after^[calls + (more + 1)] (.ofText sql) =
            tokens.after^[more] (tokens.after (.ofPlace sql place)) := by
          rw [Nat.add_comm, Function.iterate_add_apply, hcursor, Function.iterate_succ_apply]
        have hsame := readingsFrom_of_fixed (hfixed c position rfl) more
        rwa [readingsFrom, ← hlater] at hsame
  · obtain ⟨malformed, -, hasc, hanswers, hsettles⟩ := exists_malformed (Nat.zero_le sql.length)
    rw [← ofText_eq_ofPlace] at hanswers hsettles
    exact ⟨malformed, hasc, hanswers, hsettles⟩

end Lexer

end SqlEngine
