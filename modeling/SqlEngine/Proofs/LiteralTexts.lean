import SqlEngine.Proofs.IntegerTexts
import SqlEngine.Proofs.LiteralPlaces

/-!
# Integers in quotes

The texts around a literal are read the same whatever stands between them. So a numeral that is
written for a column of integers makes the same statement with quotes as without, if it denotes a
64-bit integer. If it does not, the text without quotes cannot be read and the statement with quotes
fails, and neither changes anything.
-/

namespace SqlEngine

open Text

namespace Lexer

variable {text rest : List Char} {ls : List Lexeme} {sql : String}

private theorem readBefore_of_tokensOf
    (h : (·.map (·.lexeme)) <$> tokensOf sql = .ok (ls ++ [.endOfInput])) :
    ReadBefore [] sql.toList ls := by
  obtain ⟨tokens, htokens, hlexemes⟩ := map_eq_ok_iff.mp h
  rw [tokensOf, Action.answer, Lexer.tokens, Action.outcome_bind, Action.outcome_get] at htokens
  exact readBefore_of_splits (splits_of_tokensUpTo (Nat.le_refl _) (Prod.ext htokens rfl)) hlexemes

private theorem not_isDigit_of_isWhiteSpace {c : Char} (h : isWhiteSpace c) : ¬ c.isDigit :=
  fun hdigit => not_isWordPart_of_isWhiteSpace h (isWordPart_of_isDigit hdigit)

/-- Neither symbols nor keywords go on with the digits of a number. -/
private theorem ReadBefore.not_isDigit (h : ReadBefore rest text ls)
    (hls : ∀ l ∈ ls.head?, (∃ s, l = .symbol s) ∨ ∃ k, l = .keyword k) :
    ∀ c ∈ text.head?, ¬ c.isDigit := by
  intro c hc
  cases h with
  | nil hblank => exact not_isDigit_of_isWhiteSpace (hblank c (List.mem_of_mem_head? hc))
  | @cons blank word later l ls hblank hword hends hlater =>
    cases blank with
    | cons b blank =>
      obtain rfl : b = c := Option.some.inj hc
      exact not_isDigit_of_isWhiteSpace (hblank b List.mem_cons_self)
    | nil =>
      obtain ⟨first, more, rfl, hfirst⟩ := hword.begins
      obtain rfl : first = c := Option.some.inj hc
      obtain ⟨s, rfl⟩ | ⟨k, rfl⟩ := hls l rfl
      · obtain rfl : first = s.char := hfirst
        cases s <;> decide
      · exact fun hdigit => not_isWordStart_of_isDigit hdigit hfirst

end Lexer

private theorem Value.lexeme_ne_eq (v : Value) : v.lexeme ≠ .comparison .eq := by
  cases v with
  | bool b => cases b <;> exact Lexeme.noConfusion
  | _ => exact Lexeme.noConfusion

namespace LiteralPlace

open Lexer

variable {p : LiteralPlace} {head tail : String} {v : Value} {word : List Char}

/-- Texts that write what stands before the literal and what stands behind it, with a semicolon at
the end or without. -/
structure WrittenAround (p : LiteralPlace) (head tail : String) : Prop where
  head_reads : (·.map (·.lexeme)) <$> tokensOf head = .ok (p.before ++ [.endOfInput])
  tail_reads : ∃ ending ∈ [[], [.symbol .semicolon]],
    (·.map (·.lexeme)) <$> tokensOf tail = .ok (p.after ++ ending ++ [.endOfInput])

namespace WrittenAround

/-- The head is read in front of all that does not begin with the sign of a comparison. -/
private theorem readBefore {rest : List Char} (h : p.WrittenAround head tail)
    (hrest : rest.head? ≠ some '=') : ReadBefore rest head.toList p.before := by
  refine (readBefore_of_tokensOf h.head_reads).change fun last hlast => ?_
  refine Lexeme.endsBefore_of_head? (fun hword => ?_) fun _ => hrest
  obtain ⟨s, rfl⟩ | ⟨c, rfl⟩ := last_before hlast <;> exact absurd hword Bool.false_ne_true

private theorem exists_readBefore_tail (h : p.WrittenAround head tail) :
    ∃ ending, p.before ++ v.lexeme :: p.after ++ ending ∈ Parser.scripts (p.fill v) ∧
      ReadBefore [] tail.toList (p.after ++ ending) := by
  obtain ⟨ending, hending, htail⟩ := h.tail_reads
  refine ⟨ending, ?_, readBefore_of_tokensOf htail⟩
  rw [← p.lexemes_fill]
  simpa [Parser.scripts] using hending

private theorem not_isDigit (h : p.WrittenAround head tail) :
    ∀ c ∈ tail.toList.head?, ¬ c.isDigit := by
  obtain ⟨ending, hending, htail⟩ := h.tail_reads
  refine (readBefore_of_tokensOf htail).not_isDigit fun l hl => ?_
  cases hafter : p.after with
  | cons first more =>
    have hfirst : l ∈ p.after.head? := by
      rw [hafter] at hl ⊢
      exact hl
    exact head_after hfirst
  | nil =>
    rw [hafter, List.nil_append] at hl
    simp only [List.mem_cons, List.not_mem_nil, or_false] at hending
    obtain rfl | rfl := hending
    · cases hl
    · exact .inl ⟨_, (Option.some.inj hl).symm⟩

/-- With a spelling of a literal between the texts, the statement is the one with the literal. -/
private theorem parse_eq (h : p.WrittenAround head tail) (hwell : p.WellFormed)
    (hword : v.lexeme.SpelledBy word) (hends : v.lexeme.EndsBefore tail.toList) {sql : String}
    (hsql : sql.toList = head.toList ++ (word ++ tail.toList)) :
    Statement.parse sql = .ok (p.fill v) := by
  have hblank : IsBlank [] := fun _ hc => nomatch hc
  have hrest : (word ++ tail.toList).head? ≠ some '=' := by
    obtain ⟨first, more, rfl, hfirst⟩ := hword.begins
    exact fun hhead => hfirst.ne_equals v.lexeme_ne_eq (Option.some.inj hhead)
  obtain ⟨ending, hscript, htail⟩ := h.exists_readBefore_tail (v := v)
  obtain ⟨behind, hbehind, hlexemes⟩ := htail.splits (.finish hblank)
  rw [List.append_nil] at hbehind
  obtain ⟨tokens, htokens, hlexemes'⟩ :=
    (h.readBefore hrest).splits (.token hblank hword hends hbehind)
  refine Statement.parse_of_tokens (hwell v) (tokensOf_of_splits (hsql ▸ htokens)) hscript ?_
  rw [hlexemes', List.map_cons, hlexemes]
  simp

end WrittenAround

/-- The column that the literal is for is one of integers, if there are the table and the column. -/
def ForIntegers (p : LiteralPlace) (c : Catalog) : Prop :=
  p.AtColumn c fun t column => ∀ decl ∈ t.decls, decl.name = column → decl.type = .int

namespace ForIntegers

variable {c : Catalog} {L : Numeral} {n : Int64}

private theorem takesAlike (h : p.ForIntegers c) (hn : L.value = n.toInt) :
    p.AtColumn c fun t column => t.TakesAlike column (.int n) (.text L.text) := by
  intro t ht column hcolumn decl hdecl hname
  have hint := h t ht column hcolumn decl hdecl hname
  rw [ColumnDecl.convert_int hint, ColumnDecl.convert_numeral hint hn]

private theorem refuses (h : p.ForIntegers c) {overflow : Decimal.Overflow}
    (hvalue : Decimal.toInt64 L.value = .error overflow) :
    p.AtColumn c fun t column => t.Refuses column (.text L.text) := by
  intro t ht column hcolumn decl hdecl hname v hv
  rw [ColumnDecl.convert_numeral_of_overflow (h t ht column hcolumn decl hdecl hname) hvalue] at hv
  cases hv

end ForIntegers

end LiteralPlace

/-! ### Numerals with quotes and without -/

namespace Text.Numeral

/-- The numeral as a text literal. -/
def quoted (L : Numeral) : String := "'" ++ L.text ++ "'"

variable {L : Numeral} {p : LiteralPlace} {head tail : String} {n : Int64}

private theorem not_mem_chars (L : Numeral) : '\'' ∉ L.chars := by
  have hdigits : '\'' ∉ L.digits := fun hquote => absurd (L.isDigit_of_mem _ hquote) (by decide)
  unfold chars
  cases L.negative with
  | true => exact List.not_mem_cons_of_ne_of_not_mem (by decide) hdigits
  | false => exact hdigits

private theorem head?_chars_append (L : Numeral) (rest : List Char) :
    (L.chars ++ rest).head? ≠ some '=' := by
  obtain ⟨digit, later, hdigits⟩ := List.exists_cons_of_ne_nil L.digits_ne_nil
  have hdigit : digit.isDigit := L.isDigit_of_mem digit (hdigits ▸ List.mem_cons_self)
  rw [chars, hdigits]
  cases L.negative with
  | true => exact fun h => absurd (Option.some.inj h) (by decide)
  | false =>
    intro h
    obtain rfl : digit = '=' := Option.some.inj h
    exact absurd hdigit (by decide)

private theorem spelledBy_quoted (L : Numeral) :
    (Value.text L.text).lexeme.SpelledBy ('\'' :: L.chars ++ ['\'']) := by
  refine ⟨?_, ?_⟩
  · rw [text, String.toList_ofList]
  · rw [text, String.toList_ofList]
    exact L.not_mem_chars

private theorem parse_quoted (h : p.WrittenAround head tail) (hwell : p.WellFormed) (L : Numeral) :
    Statement.parse (head ++ L.quoted ++ tail) = .ok (p.fill (.text L.text)) :=
  h.parse_eq hwell L.spelledBy_quoted trivial (by simp [quoted, text])

private theorem parse_bare (h : p.WrittenAround head tail) (hwell : p.WellFormed)
    (hn : L.value = n.toInt) :
    Statement.parse (head ++ L.text ++ tail) = .ok (p.fill (.int n)) := by
  have hword : (Value.int n).lexeme.SpelledBy L.chars := Lexer.spelledBy_chars hn
  exact h.parse_eq hwell hword h.not_isDigit (by simp [text])

private theorem parse_bare_of_overflow (h : p.WrittenAround head tail) {overflow : Decimal.Overflow}
    (hvalue : Decimal.toInt64 L.value = .error overflow) :
    Statement.parse (head ++ L.text ++ tail) =
      .error (.malformedLiteral (.integer L.text overflow) head.length) := by
  have hsql : (head ++ L.text ++ tail).toList = head.toList ++ (L.chars ++ tail.toList) := by
    simp [text]
  have hrest : (L.chars ++ tail.toList).head? ≠ some '=' := L.head?_chars_append _
  rw [Statement.parse, Lexer.tokensOf_of_overflow hsql (h.readBefore hrest) h.not_isDigit hvalue,
    String.length_toList]
  rfl

end Text.Numeral

namespace Database

open LiteralPlace

variable {db : Database}

/-- Columns of integers and the lexer read the same numerals as the same integers, so that a numeral
for such a column does the same with quotes as without, or neither changes anything. -/
theorem Reachable.integers_read_alike (h : db.Reachable) :
    (∀ column, (⟨column, .int⟩ : ColumnDecl).ReadsIntegers) ∧
    ∀ (p : LiteralPlace) (head tail : String) (L : Text.Numeral), p.WellFormed →
      p.WrittenAround head tail → p.ForIntegers db.catalog →
      (∀ n : Int64, L.value = n.toInt →
        (execute (head ++ L.text ++ tail)).outcome db =
          (execute (head ++ L.quoted ++ tail)).outcome db) ∧
      ((∀ n : Int64, L.value ≠ n.toInt) →
        (∃ fault, (execute (head ++ L.text ++ tail)).outcome db =
          (.error (.malformedLiteral fault head.length), db)) ∧
        ∃ e, (execute (head ++ L.quoted ++ tail)).outcome db = (.error e, db)) := by
  refine ⟨fun column => ColumnDecl.readsIntegers rfl, ?_⟩
  intro p head tail L hwell haround hcolumn
  have hquoted := L.parse_quoted haround hwell
  constructor
  · intro n hn
    have hbare := Text.Numeral.parse_bare haround hwell hn
    rw [outcome_execute, outcome_execute, hbare, hquoted]
    dsimp only
    rw [outcome_onCatalog, outcome_onCatalog, outcome_run_fill_congr h.sound (hcolumn.takesAlike hn)]
  · intro hn
    obtain ⟨n, hvalue⟩ | ⟨overflow, hvalue⟩ := L.value_cases
    · exact absurd hvalue (hn n)
    have hbare := Text.Numeral.parse_bare_of_overflow haround hvalue
    refine ⟨⟨_, by rw [outcome_execute, hbare]⟩, ?_⟩
    obtain ⟨e, hrun⟩ : ∃ e, ((p.fill (.text L.text)).run db.settings).outcome db.catalog =
        (.error e, db.catalog) := outcome_run_fill_of_refuses h.sound (hcolumn.refuses hvalue)
    refine ⟨e, ?_⟩
    rw [outcome_execute, hquoted]
    dsimp only
    rw [outcome_onCatalog, hrun]

/-- The least integer with zeros to spare, and one beyond the greatest, in the condition of an
update. -/
theorem Reachable.integers_read_alike_at_bounds :
    ∃ (db : Database) (p : LiteralPlace) (head tail : String) (L L' : Text.Numeral),
      db.Reachable ∧ p.WellFormed ∧ p.WrittenAround head tail ∧ p.ForIntegers db.catalog ∧
      head ++ L.text ++ tail =
        "UPDATE t SET n = 7 WHERE n <=-009223372036854775808AND s > 'a';" ∧
      head ++ L'.quoted ++ tail =
        "UPDATE t SET n = 7 WHERE n <='9223372036854775808'AND s > 'a';" ∧
      (execute (head ++ L.text ++ tail)).answer db = .ok (.affected 1) ∧
      (execute (head ++ L.text ++ tail)).outcome db =
        (execute (head ++ L.quoted ++ tail)).outcome db ∧
      (∃ fault, (execute (head ++ L'.text ++ tail)).outcome db =
        (.error (.malformedLiteral fault head.length), db)) ∧
      ∃ e, (execute (head ++ L'.quoted ++ tail)).outcome db = (.error e, db) := by
  let db := afterCalls [
    .createTable "t" [⟨"n", .int⟩, ⟨"s", .varchar 3⟩],
    .execute "INSERT INTO t VALUES (-9223372036854775808, 'b'), (5, 'c')"] (create {})
  let p : LiteralPlace :=
    .condition (.update "t" [("n", .int 7)]) .and [] "n" .le [⟨"s", .gt, .text "a"⟩]
  let L : Text.Numeral :=
    ⟨true, "009223372036854775808".toList, by decide, List.all_eq_true.mp (by decide +kernel)⟩
  let L' : Text.Numeral :=
    ⟨false, "9223372036854775808".toList, by decide, List.all_eq_true.mp (by decide +kernel)⟩
  have hwell : p.WellFormed := by
    refine fun v => ⟨List.cons_ne_nil _ _, List.nodup_singleton _, fun f hf => ?_⟩
    obtain rfl := Option.some.inj hf
    exact ⟨List.cons_ne_nil _ _, fun _ => rfl⟩
  have haround : p.WrittenAround "UPDATE t SET n = 7 WHERE n <=" "AND s > 'a';" :=
    ⟨by decide +kernel, [.symbol .semicolon], by decide, by decide +kernel⟩
  have hcolumn : p.ForIntegers db.catalog := by
    intro t ht column hcolumn decl hdecl hname
    have hdecls : (db.catalog.table? "t").map Table.decls =
        some [⟨"n", .int⟩, ⟨"s", .varchar 3⟩] := by
      decide +kernel
    rw [show db.catalog.table? "t" = some t from ht] at hdecls
    rw [Option.some.inj hdecls] at hdecl
    simp only [List.mem_cons, List.not_mem_nil, or_false] at hdecl
    obtain rfl | rfl := hdecl
    · rfl
    · have hsame : "n" = "s" := (Option.some.inj hcolumn).trans hname.symm
      exact absurd hsame (by decide)
  have hvalue : L.value = (Int64.minValue).toInt := by decide +kernel
  have hoverflow : Text.Decimal.toInt64 L'.value = .error .tooLarge := by decide +kernel
  have hvalue' := Text.Numeral.value_ne_of_overflow hoverflow
  have hdb : db.Reachable := ⟨_, _, rfl⟩
  have halike := fun L => hdb.integers_read_alike.2 p _ _ L hwell haround hcolumn
  exact ⟨db, p, _, _, L, L', hdb, hwell, haround, hcolumn, by decide +kernel, by decide +kernel,
    by decide +kernel, (halike L).1 _ hvalue, (halike L').2 hvalue'⟩

end Database

end SqlEngine
