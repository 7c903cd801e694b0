import SqlEngine.Proofs.ActionRuns
import SqlEngine.Proofs.LexemeSpellings

/-!
# How a text splits into tokens

A text splits into blanks and spellings, each spelling as long as it can be. Reading a text gives
the tokens of such a split and fails where there is none.
-/

namespace SqlEngine

namespace Lexeme

open Lexer

/-- The text begins with a spelling of the lexeme, of the given width, and the lexeme does not go on
after it. -/
def Opens (l : Lexeme) (width : Nat) (text : List Char) : Prop :=
  ∃ word rest, text = word ++ rest ∧ word.length = width ∧ l.SpelledBy word ∧ l.EndsBefore rest

end Lexeme

namespace Lexer

open Text

/-! ### What scans find -/

variable {l : Lexeme} {width : Nat} {text : List Char}

/-- What stands after the characters that pass a test does not pass it. -/
theorem stop_dropWhile (p : Char → Bool) (text : List Char) :
    ∀ c ∈ (text.dropWhile p).head?, ¬ p c := by
  intro c hc
  have hstop := List.head?_dropWhile_not p text
  rw [Option.mem_def.mp hc] at hstop
  simpa using hstop

private theorem spelledBy_wordLexeme {word : List Char} (h : IsWord word) :
    (wordLexeme word).SpelledBy word := by
  unfold wordLexeme
  split
  · rename_i k hk
    exact Keyword.ofWord?_eq_some_iff.mp hk
  · rename_i hk
    exact ⟨String.toList_ofList.symm, h, hk⟩

private theorem wordLexeme_endsBefore {word rest : List Char}
    (h : ∀ c ∈ rest.head?, ¬ isWordPart c) : (wordLexeme word).EndsBefore rest := by
  unfold wordLexeme
  split <;> exact h

private theorem opens_of_scanWord (hstart : text.head?.any isWordStart)
    (h : scanWord text = .lexeme l width) : l.Opens width text := by
  cases h
  have hword : IsWord (text.takeWhile isWordPart) := by
    refine ⟨?_, List.all_eq_true.mp List.all_takeWhile⟩
    cases text with
    | nil => exact hstart
    | cons first more =>
      have hpart : isWordPart first := isWordPart_of_isWordStart hstart
      rw [List.takeWhile_cons_of_pos hpart]
      exact hstart
  exact ⟨_, text.dropWhile isWordPart, List.takeWhile_append_dropWhile.symm, rfl,
    spelledBy_wordLexeme hword, wordLexeme_endsBefore (stop_dropWhile _ _)⟩

private theorem opens_of_scanNumber (negative : Bool) (hdigit : text.head?.any Char.isDigit)
    (h : scanNumber negative text = .lexeme l width) :
    l.Opens width (if negative then '-' :: text else text) := by
  have hne : text.takeWhile Char.isDigit ≠ [] := by
    cases text with
    | nil => simp at hdigit
    | cons first more =>
      have hfirst : first.isDigit := hdigit
      simp [hfirst]
  simp only [scanNumber] at h
  split at h
  · rename_i n hn
    cases h
    refine ⟨_, text.dropWhile Char.isDigit, ?_, rfl,
      ⟨negative, _, rfl, hne, List.all_eq_true.mp List.all_takeWhile,
        (Decimal.toInt64_eq_ok_iff.mp hn).symm⟩, stop_dropWhile _ _⟩
    cases negative <;> simp
  · cases h

private theorem opens_of_scanText (h : scanText text = .lexeme l width) :
    l.Opens width ('\'' :: text) := by
  simp only [scanText] at h
  split at h
  · cases h
  rename_i hlength
  cases h
  have hsplit : text.takeWhile (· ≠ '\'') ++ text.dropWhile (· ≠ '\'') = text :=
    List.takeWhile_append_dropWhile
  have hstop := stop_dropWhile (· ≠ '\'') text
  cases hrest : text.dropWhile (· ≠ '\'') with
  | nil =>
    rw [hrest, List.append_nil] at hsplit
    exact absurd (congrArg List.length hsplit) hlength
  | cons quote rest =>
    rw [hrest] at hsplit hstop
    obtain rfl : quote = '\'' := by simpa using hstop quote rfl
    have hbody : '\'' ∉ text.takeWhile (· ≠ '\'') := by
      intro hquote
      simpa using List.all_eq_true.mp List.all_takeWhile _ hquote
    refine ⟨'\'' :: text.takeWhile (· ≠ '\'') ++ ['\''], rest, ?_, by simp, ?_, trivial⟩
    · simpa using hsplit.symm
    · exact ⟨by rw [String.toList_ofList], by rwa [String.toList_ofList]⟩

private theorem opens_of_scanComparison (short long : Comparison) {first : Char}
    (hshort : short.sign.toList = [first]) (hlong : long.sign.toList = [first, '='])
    (hends : ∀ rest : List Char, rest.head? ≠ some '=' → (Lexeme.comparison short).EndsBefore rest)
    (hends' : ∀ rest, (Lexeme.comparison long).EndsBefore rest)
    (h : scanComparison short long text = .lexeme l width) : l.Opens width (first :: text) := by
  unfold scanComparison at h
  split at h
  · cases h
    exact ⟨[first, '='], _, rfl, rfl, hlong.symm, hends' _⟩
  · rename_i hne
    cases h
    refine ⟨[first], text, rfl, rfl, hshort.symm, hends text ?_⟩
    intro hhead
    obtain ⟨rest, rfl⟩ := List.head?_eq_some_iff.mp hhead
    exact hne rest rfl

/-- A lexeme that is found stands at the head of the text. -/
private theorem opens_of_scan {c : Char} (h : scan c text = .lexeme l width) :
    l.Opens width (c :: text) := by
  unfold scan at h
  split at h
  · rename_i s hs
    cases h
    exact ⟨[c], text, rfl, rfl, congrArg (fun c => [c]) (Symbol.eq_char_of_ofChar? hs), trivial⟩
  split at h
  · cases h
    exact ⟨['='], text, rfl, rfl, rfl, trivial⟩
  · exact opens_of_scanComparison .lt .le rfl rfl (fun _ hne => hne) (fun _ => trivial) h
  · exact opens_of_scanComparison .gt .ge rfl rfl (fun _ hne => hne) (fun _ => trivial) h
  · split at h
    · rename_i hhead
      cases h
      obtain ⟨rest, rfl⟩ := List.head?_eq_some_iff.mp hhead
      exact ⟨['!', '='], rest, rfl, rfl, rfl, trivial⟩
    · cases h
  · split at h
    · rename_i hdigit
      exact opens_of_scanNumber true hdigit h
    · cases h
  · exact opens_of_scanText h
  · split at h
    · rename_i hdigit
      exact opens_of_scanNumber false hdigit h
    split at h
    · rename_i hstart
      exact opens_of_scanWord hstart h
    · cases h

/-! ### Reading a text that splits into spellings -/

def IsBlank (run : List Char) : Prop := ∀ c ∈ run, isWhiteSpace c

/-- The text from a position on is blanks and the spellings of the tokens, each at its position and
as long as it can be, and the end of input. -/
inductive Splits : Nat → List Char → List Token → Prop
  | finish {position : Nat} {blank : List Char} (hblank : IsBlank blank) :
    Splits position blank [⟨.endOfInput, position + blank.length⟩]
  | token {position : Nat} {blank word rest : List Char} {l : Lexeme} {later : List Token}
    (hblank : IsBlank blank) (hword : l.SpelledBy word) (hrest : l.EndsBefore rest)
    (hlater : Splits (position + blank.length + word.length) rest later) :
    Splits position (blank ++ (word ++ rest)) (⟨l, position + blank.length⟩ :: later)

private theorem skipBlank_append {blank text : List Char} (position : Nat) (hblank : IsBlank blank)
    (htext : ∀ c ∈ text.head?, ¬ isWhiteSpace c) :
    Cursor.skipBlank ⟨blank ++ text, position⟩ = ⟨text, position + blank.length⟩ := by
  simp only [Cursor.skipBlank, Cursor.advance, takeWhile_append_of_stop hblank htext,
    List.drop_left]

theorem outcome_token {l : Lexeme} {first : Char} {more rest : List Char} (position : Nat)
    (hword : l.SpelledBy (first :: more)) (hrest : l.EndsBefore rest) :
    (token first (more ++ rest)).outcome ⟨first :: more ++ rest, position⟩ =
      (.ok ⟨l, position⟩, ⟨rest, position + (first :: more).length⟩) := by
  have hscan := scan_of_spelledBy hword hrest
  simp only [token, Action.outcome_bind, Action.outcome_get, hscan, Action.outcome_set,
    Action.outcome_pure, Cursor.advance, List.drop_left]

/-- A round that finds only blanks is the last. -/
theorem outcome_lastRound {blank : List Char} (n position : Nat) (hblank : IsBlank blank) :
    (tokensUpTo (n + 1)).outcome ⟨blank, position⟩ =
      (.ok [⟨.endOfInput, position + blank.length⟩], ⟨[], position + blank.length⟩) := by
  have hend : ∀ c ∈ ([] : List Char).head?, ¬ isWhiteSpace c := fun _ hc => nomatch hc
  have hskip := skipBlank_append position hblank hend
  rw [List.append_nil] at hskip
  rw [tokensUpTo, Action.outcome_bind, Action.outcome_modify, hskip]
  rfl

/-- A round that finds more than blanks reads a token. -/
theorem outcome_round {blank : List Char} {c : Char} (n position : Nat) (hblank : IsBlank blank)
    (hc : ¬ isWhiteSpace c) :
    (tokensUpTo (n + 1)).outcome ⟨blank ++ c :: text, position⟩ =
      (token c text >>= fun first => tokensUpTo n >>= fun later => pure (first :: later)).outcome
        ⟨c :: text, position + blank.length⟩ := by
  have hhead : ∀ d ∈ (c :: text).head?, ¬ isWhiteSpace d := fun d hd => Option.some.inj hd ▸ hc
  have hskip := skipBlank_append position hblank hhead
  rw [tokensUpTo, Action.outcome_bind, Action.outcome_modify, hskip]
  rfl

theorem outcome_tokensUpTo {n position : Nat} {text : List Char} {tokens : List Token}
    (h : Splits position text tokens) (hn : text.length ≤ n) :
    (tokensUpTo n).outcome ⟨text, position⟩ = (.ok tokens, ⟨[], position + text.length⟩) := by
  induction h generalizing n with
  | @finish position blank hblank =>
    cases n with
    | zero =>
      obtain rfl := List.length_eq_zero_iff.mp (Nat.le_zero.mp hn)
      rfl
    | succ n => exact outcome_lastRound n position hblank
  | @token position blank word rest l later hblank hword hrest hlater ih =>
    obtain ⟨first, more, rfl, hfirst⟩ := hword.begins
    have htoken := outcome_token (position + blank.length) hword hrest
    cases n with
    | zero => simp at hn
    | succ n =>
      have hlength : rest.length ≤ n := by
        simp only [List.length_append, List.length_cons] at hn
        omega
      rw [List.cons_append] at htoken
      rw [List.cons_append, outcome_round n position hblank hfirst.not_isWhiteSpace,
        Action.outcome_bind_of_ok htoken, Action.outcome_bind_of_ok (ih hlength),
        Action.outcome_pure]
      simp only [List.length_append, List.length_cons, Nat.add_assoc, Nat.add_comm 1]

theorem tokensOf_of_splits {sql : String} {tokens : List Token} (h : Splits 0 sql.toList tokens) :
    tokensOf sql = .ok tokens := by
  simp only [tokensOf, Lexer.tokens, Action.answer, Action.outcome_bind, Action.outcome_get,
    Cursor.ofText, outcome_tokensUpTo h (Nat.le_refl _)]

/-! ### Every reading is a split -/

/-- A text begins with all the blanks that stand at its head. -/
theorem exists_blank (text : List Char) :
    ∃ blank rest, text = blank ++ rest ∧ IsBlank blank ∧ ∀ c ∈ rest.head?, ¬ isWhiteSpace c :=
  ⟨_, _, List.takeWhile_append_dropWhile.symm, List.all_eq_true.mp List.all_takeWhile,
    stop_dropWhile isWhiteSpace text⟩

theorem opens_of_outcome_token {c : Char} {t : Token} {position : Nat} {cursor : Cursor}
    (h : (token c text).outcome ⟨c :: text, position⟩ = (.ok t, cursor)) :
    ∃ l word rest, c :: text = word ++ rest ∧ l.SpelledBy word ∧ l.EndsBefore rest ∧
      t = ⟨l, position⟩ ∧ cursor = ⟨rest, position + word.length⟩ := by
  rw [token, Action.outcome_bind, Action.outcome_get] at h
  dsimp only at h
  cases hscan : scan c text with
  | lexeme l width =>
    obtain ⟨word, rest, hsplit, rfl, hword, hrest⟩ := opens_of_scan hscan
    rw [hscan] at h
    cases h
    refine ⟨l, word, rest, hsplit, hword, hrest, rfl, ?_⟩
    simp only [Cursor.advance, hsplit, List.drop_left]
  | malformed fault width =>
    rw [hscan] at h
    cases h
  | unexpected c =>
    rw [hscan] at h
    cases h

theorem splits_of_tokensUpTo {n position : Nat} {tokens : List Token} {cursor : Cursor}
    (hn : text.length ≤ n)
    (h : (tokensUpTo n).outcome ⟨text, position⟩ = (.ok tokens, cursor)) :
    Splits position text tokens := by
  induction n generalizing text position tokens with
  | zero =>
    obtain rfl := List.length_eq_zero_iff.mp (Nat.le_zero.mp hn)
    cases h
    exact .finish fun _ hc => nomatch hc
  | succ n ih =>
    obtain ⟨blank, rest, rfl, hblank, hstop⟩ := exists_blank text
    cases rest with
    | nil =>
      rw [List.append_nil] at h ⊢
      rw [outcome_lastRound n position hblank] at h
      cases h
      exact .finish hblank
    | cons c text =>
      rw [outcome_round n position hblank (hstop c rfl)] at h
      obtain ⟨t, s, htoken, h⟩ := Action.outcome_bind_eq_ok_iff.mp h
      obtain ⟨later, s', hlater, h⟩ := Action.outcome_bind_eq_ok_iff.mp h
      cases h
      obtain ⟨l, word, rest, hsplit, hword, hrest, rfl, rfl⟩ := opens_of_outcome_token htoken
      have hlength : rest.length ≤ n := by
        obtain ⟨first, more, rfl, -⟩ := hword.begins
        rw [hsplit] at hn
        simp only [List.length_append, List.length_cons] at hn
        omega
      rw [hsplit]
      exact .token hblank hword hrest (ih hlength hlater)

/-- The tokens of a text are those of its splits into blanks and spellings, each spelling as long as
it can be. -/
theorem tokensOf_eq_ok_iff_splits (sql : String) (tokens : List Token) :
    tokensOf sql = .ok tokens ↔ Splits 0 sql.toList tokens := by
  constructor
  · intro h
    rw [tokensOf, Action.answer, Lexer.tokens, Action.outcome_bind, Action.outcome_get] at h
    exact splits_of_tokensUpTo (Nat.le_refl _) (Prod.ext h rfl)
  · exact tokensOf_of_splits

/-- Words, numbers and texts run into one another without a blank. -/
example : tokensOf "1and<=a-5'x''y'" = .ok [
    ⟨.number 1, 0⟩, ⟨.keyword .AND, 1⟩, ⟨.comparison .le, 4⟩, ⟨.identifier "a", 6⟩, ⟨.number (-5), 7⟩,
    ⟨.text "x", 9⟩, ⟨.text "y", 12⟩, ⟨.endOfInput, 15⟩] := by
  decide +kernel

end Lexer

end SqlEngine
