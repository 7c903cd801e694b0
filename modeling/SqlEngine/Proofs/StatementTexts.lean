import SqlEngine.Proofs.ParsedStatements
import SqlEngine.Proofs.TokenSplits

/-!
# Statements as texts

A text splits into spellings and the blanks around them. Any text that lays out a statement's
lexemes, with blanks wherever two of them would run together, is read back as the statement.
-/

namespace SqlEngine

namespace Lexer

open Text

/-! ### Laying out lexemes -/

/-- A text that writes the lexemes in order, each with blanks after it. -/
inductive Layout : List Lexeme → List Char → Prop
  | nil : Layout [] []
  | cons {l : Lexeme} {ls : List Lexeme} {word gap rest : List Char} (hword : l.SpelledBy word)
    (hgap : IsBlank gap) (hneeds : ∀ next ∈ ls.head?, l.NeedsBlank next → gap ≠ [])
    (hrest : Layout ls rest) : Layout (l :: ls) (word ++ (gap ++ rest))

private theorem Layout.endsBefore {l : Lexeme} {ls : List Lexeme} {gap rest : List Char}
    (hgap : IsBlank gap) (hneeds : ∀ next ∈ ls.head?, l.NeedsBlank next → gap ≠ [])
    (hrest : Layout ls rest) : l.EndsBefore (gap ++ rest) := by
  cases gap with
  | cons c gap => exact Lexeme.endsBefore_of_blank (hgap c List.mem_cons_self)
  | nil =>
    cases hrest with
    | nil => exact l.endsBefore_nil
    | @cons next _ word gap rest hword _ _ _ =>
      obtain ⟨first, more, rfl, hfirst⟩ := hword.begins
      exact Lexeme.endsBefore_of_begins hfirst fun hblank => hneeds next rfl hblank rfl

private theorem Layout.splits {ls : List Lexeme} {text blank : List Char} (h : Layout ls text)
    (hblank : IsBlank blank) (position : Nat) :
    ∃ tokens, Splits position (blank ++ text) tokens ∧
      tokens.map (·.lexeme) = ls ++ [.endOfInput] := by
  induction h generalizing blank position with
  | nil =>
    rw [List.append_nil]
    exact ⟨_, Splits.finish hblank, rfl⟩
  | cons hword hgap hneeds hrest ih =>
    obtain ⟨later, hlater, hlexemes⟩ := ih hgap _
    refine ⟨_, .token hblank hword (hrest.endsBefore hgap hneeds) hlater, ?_⟩
    rw [List.map_cons, hlexemes]
    rfl

end Lexer

/-! ### One text of each statement -/

namespace Lexeme

open Lexer Text

/-- The plainest spelling: keywords in capitals, numbers without zeros to spare. -/
def spelling : Lexeme → List Char
  | .keyword k       => k.spelling.toList
  | .identifier name => name.toList
  | .number n        => Decimal.renderInt n.toInt
  | .text s          => '\'' :: s.toList ++ ['\'']
  | .comparison c    => c.sign.toList
  | .symbol s        => [s.char]
  | .endOfInput      => []

private theorem isNumeral_renderInt (n : Int64) : IsNumeral n (Decimal.renderInt n.toInt) := by
  obtain ⟨negative, digits, htext, hne, hdigits, hvalue, -⟩ := Decimal.renderInt_eq n.toInt
  exact ⟨negative, digits, htext, hne, hdigits, hvalue⟩

private theorem spelledBy_spelling {l : Lexeme}
    (hname : ∀ name, l = .identifier name → IsName name.toList)
    (htext : ∀ s, l = .text s → '\'' ∉ s.toList) (hend : l ≠ .endOfInput) :
    l.SpelledBy l.spelling := by
  cases l with
  | keyword k =>
    have hcapitals : k.spelling.toList.map Char.toUpper = k.spelling.toList := by
      cases k <;> decide
    exact hcapitals
  | identifier name => exact ⟨rfl, hname name rfl⟩
  | number n => exact isNumeral_renderInt n
  | text s => exact ⟨rfl, htext s rfl⟩
  | comparison c => exact rfl
  | symbol s => exact rfl
  | endOfInput => exact absurd rfl hend

end Lexeme

namespace Lexer

/-- One space between neighbours keeps any two lexemes apart. -/
private theorem layout_intercalate {ls : List Lexeme} (h : ∀ l ∈ ls, l.SpelledBy l.spelling) :
    Layout ls ([' '].intercalate (ls.map Lexeme.spelling)) := by
  induction ls with
  | nil => exact .nil
  | cons l ls ih =>
    obtain ⟨hl, hls⟩ := List.forall_mem_cons.mp h
    cases ls with
    | nil =>
      have hblank : IsBlank [] := fun _ hc => nomatch hc
      have hlayout := Layout.cons hl hblank (by simp) (ih hls)
      simpa [List.intercalate] using hlayout
    | cons next ls =>
      have hblank : IsBlank [' '] := List.forall_mem_singleton.mpr (by decide)
      have hlayout := Layout.cons hl hblank (fun _ _ _ => List.cons_ne_nil _ _) (ih hls)
      simpa [List.intercalate] using hlayout

end Lexer

namespace Statement

variable {statement : Statement}

/-- The statement in one line, a space between its lexemes. -/
def sql (statement : Statement) : String :=
  String.ofList ([' '].intercalate (statement.lexemes.map Lexeme.spelling))

/-- The text lays out the statement's lexemes, with a semicolon after them or without. -/
def WrittenAs (statement : Statement) (text : String) : Prop :=
  ∃ blank body, text.toList = blank ++ body ∧ Lexer.IsBlank blank ∧
    ∃ ls ∈ Parser.scripts statement, Lexer.Layout ls body

/-- What the grammar has, with names and texts that can be spelled. -/
structure Writable (statement : Statement) : Prop where
  wellFormed : statement.WellFormed
  names : ∀ name, .identifier name ∈ statement.lexemes → Lexer.IsName name.toList
  texts : ∀ s, .text s ∈ statement.lexemes → '\'' ∉ s.toList

private theorem Writable.writtenAs_sql (h : statement.Writable) :
    statement.WrittenAs statement.sql := by
  have hblank : Lexer.IsBlank [] := fun _ hc => nomatch hc
  refine ⟨[], _, String.toList_ofList, hblank, _, List.mem_cons_self, Lexer.layout_intercalate ?_⟩
  intro l hl
  refine Lexeme.spelledBy_spelling ?_ ?_ ?_
  · intro name hname
    exact h.names name (hname ▸ hl)
  · intro s hs
    exact h.texts s (hs ▸ hl)
  · intro hend
    exact statement.endOfInput_notMem_lexemes (hend ▸ hl)

/-! ### Reading the texts of a statement -/

/-- A text with the lexemes of a statement, as a script has them, is read as the statement. -/
theorem parse_of_tokens {text : String} {tokens : List Token} {ls : List Lexeme}
    (h : statement.WellFormed) (htokens : Lexer.tokensOf text = .ok tokens)
    (hls : ls ∈ Parser.scripts statement)
    (hlexemes : tokens.map (·.lexeme) = ls ++ [.endOfInput]) : parse text = .ok statement := by
  have hend := Parser.endOfInput_notMem_of_mem_scripts hls
  have hpending : (TokenStream.ofTokens tokens).lexemes = ls := by
    have hne : ∀ l ∈ ls, l ≠ .endOfInput := fun l hl => ne_of_mem_of_not_mem hl hend
    rw [TokenStream.lexemes_ofTokens, hlexemes, List.takeWhile_append_of_pos (by simpa using hne)]
    simp
  rw [parse, htokens]
  exact Parser.answer_script_eq_ok_iff.mpr ⟨h, hpending ▸ hls⟩

private theorem parse_of_writtenAs {text : String} (h : statement.WellFormed)
    (htext : statement.WrittenAs text) : parse text = .ok statement := by
  obtain ⟨blank, body, hbody, hblank, ls, hls, hlayout⟩ := htext
  obtain ⟨tokens, hsplits, hlexemes⟩ := hlayout.splits hblank 0
  exact parse_of_tokens h (Lexer.tokensOf_of_splits (hbody ▸ hsplits)) hls hlexemes

/-- Parsing undoes printing, in whatever case, with whatever zeros and in whatever layout a
statement is printed. -/
theorem parse_writtenAs (statement : Statement) (h : statement.Writable) :
    statement.WrittenAs statement.sql ∧
      ∀ text, statement.WrittenAs text → parse text = .ok statement :=
  ⟨h.writtenAs_sql, fun _ htext => parse_of_writtenAs h.wellFormed htext⟩

theorem parse_writtenAs_of_delete :
    parse "DELETE FROM größe WHERE n <= -9223372036854775808" =
      .ok (.delete ⟨"größe", some ⟨.and, [⟨"n", .le, .int Int64.minValue⟩]⟩⟩) := by
  have hlexemes : lexemes (.delete ⟨"größe", some ⟨.and, [⟨"n", .le, .int Int64.minValue⟩]⟩⟩) =
      [.keyword .DELETE, .keyword .FROM, .identifier "größe", .keyword .WHERE, .identifier "n",
        .comparison .le, .number Int64.minValue] := rfl
  have hwritable :
      Writable (.delete ⟨"größe", some ⟨.and, [⟨"n", .le, .int Int64.minValue⟩]⟩⟩) := by
    refine ⟨⟨?_⟩, ?_, ?_⟩
    · intro f hf
      obtain rfl := Option.some.inj hf
      exact ⟨List.cons_ne_nil _ _, fun _ => rfl⟩
    · rw [hlexemes]
      intro name hname
      have hcases : name = "größe" ∨ name = "n" := by simpa using hname
      obtain rfl | rfl := hcases
      · exact ⟨⟨by decide, List.all_eq_true.mp (by decide)⟩, by decide⟩
      · exact ⟨⟨by decide, List.all_eq_true.mp (by decide)⟩, by decide⟩
    · simp [hlexemes]
  have hround := parse_writtenAs _ hwritable
  have hparse := hround.2 _ hround.1
  rw [← hparse]
  exact congrArg parse (by decide)

end Statement

end SqlEngine
