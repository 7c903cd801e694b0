import SqlEngine.Proofs.TokenSplits
import SqlEngine.Storage.Column

/-!
# Integers as texts

A column of integers takes quoted text that is a numeral, and the lexer takes numerals that are not
quoted. Both go by the integer that the numeral denotes, so that they agree on every numeral that
both can meet: they take it as the same value, or both refuse it.
-/

namespace SqlEngine

namespace Text

/-- A spelling of an integer: perhaps a minus sign, and one digit or more. -/
structure Numeral where
  negative : Bool
  digits : List Char
  digits_ne_nil : digits ≠ []
  isDigit_of_mem : ∀ c ∈ digits, c.isDigit

namespace Numeral

def chars (L : Numeral) : List Char := if L.negative then '-' :: L.digits else L.digits

def text (L : Numeral) : String := String.ofList L.chars

/-- The integer that the numeral denotes. -/
def value (L : Numeral) : Int := Decimal.signed L.negative L.digits

variable {L : Numeral} {n : Int64} {s : String}

private theorem split_digits (L : Numeral) : Decimal.split L.digits = (false, L.digits) := by
  have hdigits := L.isDigit_of_mem
  generalize L.digits = digits at hdigits
  unfold Decimal.split
  split
  · exact absurd (hdigits '-' List.mem_cons_self) (by decide)
  · exact absurd (hdigits '+' List.mem_cons_self) (by decide)
  · rfl

private theorem split_chars (L : Numeral) : Decimal.split L.chars = (L.negative, L.digits) := by
  unfold chars
  cases L.negative with
  | true => rfl
  | false => exact L.split_digits

private theorem read?_of_split {numeral : List Char}
    (h : Decimal.split numeral = (L.negative, L.digits)) :
    Decimal.read? numeral = some n ↔ L.value = n.toInt := by
  rw [Decimal.read?_eq_some_iff, h]
  exact and_iff_right ⟨L.digits_ne_nil, List.all_eq_true.mpr L.isDigit_of_mem⟩

/-- What is read is a numeral, or one without a sign after a plus sign. -/
private theorem read?_eq_some_iff :
    Decimal.read? s.toList = some n ↔
      ∃ L : Numeral, L.value = n.toInt ∧ (s = L.text ∨ L.negative = false ∧ s = "+" ++ L.text) := by
  constructor
  · intro hread
    obtain ⟨⟨hne, hdigits⟩, hvalue⟩ := Decimal.read?_eq_some_iff.mp hread
    rw [List.all_eq_true] at hdigits
    refine ⟨⟨_, _, hne, hdigits⟩, hvalue, ?_⟩
    simp only [text, chars, ← String.toList_inj, String.toList_ofList, String.toList_append]
    unfold Decimal.split
    split
    · rename_i hs
      exact .inl hs
    · rename_i hs
      exact .inr ⟨rfl, hs⟩
    · exact .inl rfl
  · rintro ⟨L, hvalue, rfl | ⟨hnegative, rfl⟩⟩
    · rw [text, String.toList_ofList]
      exact (read?_of_split L.split_chars).mpr hvalue
    · refine (read?_of_split (L := L) ?_).mpr hvalue
      have hs : ("+" ++ L.text).toList = '+' :: L.digits := by simp [text, chars, hnegative]
      rw [hs, hnegative]
      rfl

private theorem read?_text : Decimal.read? L.text.toList = some n ↔ L.value = n.toInt := by
  rw [text, String.toList_ofList]
  exact read?_of_split L.split_chars

/-- An integer's own text denotes it. -/
private theorem read?_render (n : Int64) : Decimal.read? (Decimal.render n).toList = some n := by
  obtain ⟨negative, digits, htext, hne, hdigits, hvalue, -⟩ := Decimal.renderInt_eq n.toInt
  refine read?_eq_some_iff.mpr ⟨⟨negative, digits, hne, hdigits⟩, hvalue, .inl ?_⟩
  rw [Decimal.render, htext]
  rfl

/-- A numeral denotes a 64-bit integer or one that is out of their range. -/
theorem value_cases (L : Numeral) :
    (∃ n : Int64, L.value = n.toInt) ∨ ∃ overflow, Decimal.toInt64 L.value = .error overflow := by
  cases h : Decimal.toInt64 L.value with
  | ok n => exact .inl ⟨n, (Decimal.toInt64_eq_ok_iff.mp h).symm⟩
  | error overflow => exact .inr ⟨overflow, rfl⟩

theorem value_ne_of_overflow {overflow : Decimal.Overflow}
    (h : Decimal.toInt64 L.value = .error overflow) (n : Int64) : L.value ≠ n.toInt := by
  intro hn
  rw [hn, Decimal.toInt64_toInt] at h
  cases h

private theorem exists_value_iff (L : Numeral) :
    (∃ n : Int64, L.value = n.toInt) ↔
      Int64.minValue.toInt ≤ L.value ∧ L.value ≤ Int64.maxValue.toInt := by
  constructor
  · rintro ⟨n, hn⟩
    rw [hn]
    exact ⟨n.minValue_le_toInt, n.toInt_le⟩
  · rintro ⟨hmin, hmax⟩
    exact ⟨Int64.ofIntLE L.value hmin hmax, Int64.toInt_ofIntLE.symm⟩

end Numeral

end Text

/-! ### Reading on behind a text -/

namespace Lexeme

/-- Where a lexeme ends is seen from the next character. -/
private theorem endsBefore_congr {l : Lexeme} {text text' : List Char}
    (h : text.head? = text'.head?) : l.EndsBefore text ↔ l.EndsBefore text' := by
  have hsame : ∀ P : Option Char → Prop, P text.head? ↔ P text'.head? := fun P => by rw [h]
  cases l with
  | keyword _ => exact hsame fun next => ∀ c ∈ next, ¬ Lexer.isWordPart c
  | identifier _ => exact hsame fun next => ∀ c ∈ next, ¬ Lexer.isWordPart c
  | number _ => exact hsame fun next => ∀ c ∈ next, ¬ c.isDigit
  | comparison c =>
    cases c with
    | lt => exact hsame (· ≠ some '=')
    | gt => exact hsame (· ≠ some '=')
    | _ => exact Iff.rfl
  | _ => exact Iff.rfl

end Lexeme

namespace Lexer

open Text

variable {position n : Nat} {text rest rest' : List Char} {l : Lexeme} {ls : List Lexeme}
  {tokens : List Token}

/-- In front of the rest, the text is blanks and the spellings of the lexemes, each as long as it
can be. -/
inductive ReadBefore (rest : List Char) : List Char → List Lexeme → Prop
  | nil {blank : List Char} (hblank : IsBlank blank) : ReadBefore rest blank []
  | cons {blank word later : List Char} {l : Lexeme} {ls : List Lexeme} (hblank : IsBlank blank)
    (hword : l.SpelledBy word) (hends : l.EndsBefore (later ++ rest))
    (hlater : ReadBefore rest later ls) : ReadBefore rest (blank ++ (word ++ later)) (l :: ls)

theorem readBefore_of_splits (h : Splits position text tokens)
    (hlexemes : tokens.map (·.lexeme) = ls ++ [.endOfInput]) : ReadBefore [] text ls := by
  induction h generalizing ls with
  | finish hblank =>
    obtain rfl : ls = [] := by simpa using congrArg List.length hlexemes
    exact .nil hblank
  | token hblank hword hrest hlater ih =>
    cases ls with
    | nil =>
      obtain ⟨rfl, -⟩ := List.cons.inj hlexemes
      exact hword.elim
    | cons l ls =>
      obtain ⟨rfl, hrest'⟩ := List.cons.inj hlexemes
      exact .cons hblank hword (by rwa [List.append_nil]) (ih hrest')

private theorem IsBlank.append {blank blank' : List Char} (h : IsBlank blank)
    (h' : IsBlank blank') : IsBlank (blank ++ blank') := by
  intro c hc
  rcases List.mem_append.mp hc with hc | hc
  · exact h c hc
  · exact h' c hc

private theorem Splits.append_blank {blank : List Char} (hblank : IsBlank blank)
    (h : Splits (position + blank.length) rest tokens) :
    Splits position (blank ++ rest) tokens := by
  cases h with
  | finish hblank' =>
    rw [Nat.add_assoc, ← List.length_append]
    exact .finish (hblank.append hblank')
  | token hblank' hword hrest hlater =>
    rw [Nat.add_assoc position, ← List.length_append] at hlater ⊢
    rw [← List.append_assoc]
    exact .token (hblank.append hblank') hword hrest hlater

namespace ReadBefore

private theorem eq_nil_of_nil (h : ReadBefore rest [] ls) : ls = [] := by
  generalize htext : [] = text at h
  cases h with
  | nil hblank => rfl
  | cons hblank hword =>
    obtain ⟨first, more, rfl, -⟩ := hword.begins
    simp at htext

/-- Something else may stand behind the text, if the last lexeme does not go on in it. -/
theorem change (h : ReadBefore rest text ls) (hlast : ∀ l ∈ ls.getLast?, l.EndsBefore rest') :
    ReadBefore rest' text ls := by
  induction h with
  | nil hblank => exact .nil hblank
  | @cons blank word later l ls hblank hword hends hlater ih =>
    have hlater' : ReadBefore rest' later ls := by
      refine ih fun last hmem => hlast last ?_
      cases ls with
      | nil => exact nomatch hmem
      | cons next ls => rwa [List.getLast?_cons_cons]
    refine .cons hblank hword ?_ hlater'
    cases later with
    | cons c later => exact (Lexeme.endsBefore_congr (by rfl)).mp hends
    | nil =>
      obtain rfl := hlater.eq_nil_of_nil
      exact hlast l rfl

theorem splits (h : ReadBefore rest text ls)
    (hrest : Splits (position + text.length) rest tokens) :
    ∃ all, Splits position (text ++ rest) all ∧
      all.map (·.lexeme) = ls ++ tokens.map (·.lexeme) := by
  induction h generalizing position with
  | nil hblank => exact ⟨tokens, hrest.append_blank hblank, rfl⟩
  | cons hblank hword hends hlater ih =>
    simp only [List.length_append, ← Nat.add_assoc] at hrest
    obtain ⟨all, hall, hlexemes⟩ := ih hrest
    rw [List.append_assoc, List.append_assoc]
    exact ⟨_, .token hblank hword hends hall, by rw [List.map_cons, hlexemes, List.cons_append]⟩

/-- Behind the text a literal is malformed, and the reading fails there. -/
private theorem outcome_of_malformed (position : Nat) {c : Char} {fault : LiteralFault}
    {width : Nat} (h : ReadBefore (c :: rest) text ls) (hc : ¬ isWhiteSpace c)
    (hscan : scan c rest = .malformed fault width) (hn : (text ++ c :: rest).length ≤ n) :
    ∃ cursor, (tokensUpTo n).outcome ⟨text ++ c :: rest, position⟩ =
      (.error (.malformedLiteral fault (position + text.length)), cursor) := by
  induction h generalizing n position with
  | @nil blank hblank =>
    cases n with
    | zero => simp at hn
    | succ n =>
      rw [outcome_round n position hblank hc, Action.outcome_bind]
      simp only [token, Action.outcome_bind, Action.outcome_get, hscan, Action.outcome_set,
        Action.outcome_throw]
      exact ⟨_, rfl⟩
  | @cons blank word later l ls hblank hword hends hlater ih =>
    obtain ⟨first, more, rfl, hfirst⟩ := hword.begins
    have htoken := outcome_token (position + blank.length) hword hends
    cases n with
    | zero => simp at hn
    | succ n =>
      have hlength : (later ++ c :: rest).length ≤ n := by
        simp only [List.length_append, List.length_cons] at hn ⊢
        omega
      obtain ⟨cursor, hfail⟩ := ih (position + blank.length + (first :: more).length) hlength
      refine ⟨cursor, ?_⟩
      rw [List.cons_append] at htoken
      rw [List.append_assoc, List.append_assoc, List.cons_append,
        outcome_round n position hblank hfirst.not_isWhiteSpace,
        Action.outcome_bind_of_ok htoken, Action.outcome_bind, hfail]
      simp only [List.length_append, Nat.add_assoc]

end ReadBefore

/-! ### Numerals without quotes -/

variable {L : Numeral} {m : Int64}

private theorem exists_chars (L : Numeral) :
    ∃ first more, L.chars = first :: more ∧ ¬ isWhiteSpace first ∧
      ∀ rest, scan first (more ++ rest) = scanNumber L.negative (L.digits ++ rest) := by
  obtain ⟨digit, later, hdigits⟩ := List.exists_cons_of_ne_nil L.digits_ne_nil
  have hdigit : digit.isDigit := L.isDigit_of_mem digit (hdigits ▸ List.mem_cons_self)
  have hpart := isWordPart_of_isDigit hdigit
  rw [Numeral.chars, hdigits]
  cases L.negative with
  | true =>
    refine ⟨'-', digit :: later, rfl, by decide, fun rest => ?_⟩
    have hhead : (digit :: later ++ rest).head?.any Char.isDigit := hdigit
    exact if_pos hhead
  | false =>
    refine ⟨digit, later, rfl, fun hblank => not_isWordPart_of_isWhiteSpace hblank hpart, ?_⟩
    intro rest
    rw [scan_of_isWordPart hpart, if_pos hdigit, List.cons_append]

theorem spelledBy_chars (h : L.value = m.toInt) : (Lexeme.number m).SpelledBy L.chars :=
  ⟨L.negative, L.digits, rfl, L.digits_ne_nil, L.isDigit_of_mem, h⟩

private theorem scanNumber_of_overflow {overflow : Decimal.Overflow}
    (h : Decimal.toInt64 L.value = .error overflow) (hrest : ∀ c ∈ rest.head?, ¬ c.isDigit) :
    scanNumber L.negative (L.digits ++ rest) =
      .malformed (.integer L.text overflow) L.chars.length := by
  simp only [scanNumber, takeWhile_append_of_stop L.isDigit_of_mem hrest]
  rw [Numeral.value] at h
  rw [h]
  rfl

/-- Behind a text a numeral is read if it denotes a 64-bit integer, and else reported. -/
theorem tokensOf_of_overflow {overflow : Decimal.Overflow} {sql : String}
    (hsql : sql.toList = text ++ (L.chars ++ rest)) (h : ReadBefore (L.chars ++ rest) text ls)
    (hrest : ∀ c ∈ rest.head?, ¬ c.isDigit) (hvalue : Decimal.toInt64 L.value = .error overflow) :
    tokensOf sql = .error (.malformedLiteral (.integer L.text overflow) text.length) := by
  obtain ⟨first, more, hchars, hfirst, hscan⟩ := exists_chars L
  rw [hchars, List.cons_append] at h hsql
  obtain ⟨cursor, hfail⟩ := h.outcome_of_malformed 0 hfirst
    ((hscan rest).trans (scanNumber_of_overflow hvalue hrest)) (Nat.le_refl _)
  rw [Nat.zero_add] at hfail
  simp only [tokensOf, Lexer.tokens, Action.answer, Action.outcome_bind, Action.outcome_get,
    Cursor.ofText, hsql, hfail]

private theorem tokensOf_text_of_overflow {overflow : Decimal.Overflow}
    (h : Decimal.toInt64 L.value = .error overflow) :
    tokensOf L.text = .error (.malformedLiteral (.integer L.text overflow) 0) := by
  have hblank : IsBlank [] := fun _ hc => nomatch hc
  have hsql : L.text.toList = [] ++ (L.chars ++ []) := by simp [Numeral.text]
  exact tokensOf_of_overflow hsql (.nil hblank) (fun _ hc => nomatch hc) h

private theorem tokensOf_text (h : L.value = m.toInt) :
    tokensOf L.text = .ok [⟨.number m, 0⟩, ⟨.endOfInput, L.text.length⟩] := by
  have hblank : IsBlank [] := fun _ hc => nomatch hc
  have hsplits : Splits 0 ([] ++ (L.chars ++ [])) _ :=
    .token hblank (spelledBy_chars h) (Lexeme.endsBefore_nil _) (.finish hblank)
  refine tokensOf_of_splits ?_
  simpa [Numeral.text] using hsplits

end Lexer

/-! ### What columns of integers take -/

open Text

namespace ColumnDecl

/-- How a column of integers takes texts, and how the lexer takes the same numerals. -/
structure ReadsIntegers (decl : ColumnDecl) : Prop where
  convert_eq_ok_iff : ∀ s v, decl.convert (.text s) = .ok v ↔
    ∃ (n : Int64) (L : Numeral), v = .int n ∧ L.value = n.toInt ∧
      (s = L.text ∨ L.negative = false ∧ s = "+" ++ L.text)
  exists_convert_iff : ∀ L : Numeral,
    (∃ v, decl.convert (.text L.text) = .ok v) ↔
      Int64.minValue.toInt ≤ L.value ∧ L.value ≤ Int64.maxValue.toInt
  convert_eq_error : ∀ s e, decl.convert (.text s) = .error e →
    e = .typeMismatch decl.name .int .unreadableText
  convert_display : ∀ n, decl.convert (.text (Value.int n).display) = .ok (.int n)
  tokensOf_eq_ok_iff : ∀ (L : Numeral) n,
    Lexer.tokensOf L.text = .ok [⟨.number n, 0⟩, ⟨.endOfInput, L.text.length⟩] ↔
      decl.convert (.text L.text) = .ok (.int n)
  tokensOf_eq_error_iff : ∀ L : Numeral,
    (∃ fault, Lexer.tokensOf L.text = .error (.malformedLiteral fault 0)) ↔
      ∃ misfit, decl.convert (.text L.text) = .error (.typeMismatch decl.name .int misfit)

variable {decl : ColumnDecl}

private theorem convert_text (h : decl.type = .int) (s : String) :
    decl.convert (.text s) =
      match Decimal.read? s.toList with
      | some n => .ok (.int n)
      | none   => .error (.typeMismatch decl.name .int .unreadableText) := by
  rw [convert, h, Value.coerce]
  cases Decimal.read? s.toList <;> rfl

theorem convert_int (h : decl.type = .int) (n : Int64) : decl.convert (.int n) = .ok (.int n) := by
  rw [convert, h]
  rfl

theorem convert_numeral (h : decl.type = .int) {L : Numeral} {n : Int64} (hn : L.value = n.toInt) :
    decl.convert (.text L.text) = .ok (.int n) := by
  rw [decl.convert_text h, Numeral.read?_text.mpr hn]

theorem convert_numeral_of_overflow (h : decl.type = .int) {L : Numeral}
    {overflow : Decimal.Overflow} (hvalue : Decimal.toInt64 L.value = .error overflow) :
    decl.convert (.text L.text) = .error (.typeMismatch decl.name .int .unreadableText) := by
  rw [decl.convert_text h]
  cases hread : Decimal.read? L.text.toList with
  | none => rfl
  | some n => exact absurd (Numeral.read?_text.mp hread) (Numeral.value_ne_of_overflow hvalue n)

theorem readsIntegers (h : decl.type = .int) : decl.ReadsIntegers where
  convert_eq_ok_iff s v := by
    rw [decl.convert_text h]
    cases hread : Decimal.read? s.toList with
    | none =>
      simp only [reduceCtorEq, false_iff]
      rintro ⟨n, L, -, hvalue, hs⟩
      rw [Numeral.read?_eq_some_iff.mpr ⟨L, hvalue, hs⟩] at hread
      cases hread
    | some n =>
      constructor
      · rintro ⟨⟩
        obtain ⟨L, hvalue, hs⟩ := Numeral.read?_eq_some_iff.mp hread
        exact ⟨n, L, rfl, hvalue, hs⟩
      · rintro ⟨m, L, rfl, hvalue, hs⟩
        cases hread.symm.trans (Numeral.read?_eq_some_iff.mpr ⟨L, hvalue, hs⟩)
        rfl
  exists_convert_iff L := by
    rw [← L.exists_value_iff]
    obtain ⟨m, hm⟩ | ⟨overflow, hvalue⟩ := L.value_cases
    · exact iff_of_true ⟨_, convert_numeral h hm⟩ ⟨m, hm⟩
    · simp [convert_numeral_of_overflow h hvalue, Numeral.value_ne_of_overflow hvalue]
  convert_eq_error s e he := by
    rw [decl.convert_text h] at he
    split at he <;> cases he
    rfl
  convert_display n := by
    rw [Value.display, decl.convert_text h, Numeral.read?_render]
  tokensOf_eq_ok_iff L n := by
    obtain ⟨m, hm⟩ | ⟨overflow, hvalue⟩ := L.value_cases
    · rw [Lexer.tokensOf_text hm, convert_numeral h hm]
      simp
    · rw [Lexer.tokensOf_text_of_overflow hvalue, convert_numeral_of_overflow h hvalue]
      simp
  tokensOf_eq_error_iff L := by
    obtain ⟨m, hm⟩ | ⟨overflow, hvalue⟩ := L.value_cases
    · rw [Lexer.tokensOf_text hm, convert_numeral h hm]
      simp
    · exact iff_of_true ⟨_, Lexer.tokensOf_text_of_overflow hvalue⟩
        ⟨_, convert_numeral_of_overflow h hvalue⟩

end ColumnDecl

end SqlEngine
