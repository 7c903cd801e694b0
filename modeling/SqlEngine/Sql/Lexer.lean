import SqlEngine.Action
import SqlEngine.Text.Alphabetic
import SqlEngine.Text.Numeric
import SqlEngine.Text.WhiteSpace

/-!
# From text to tokens

`scan` decides what stands at the head of a nonblank text, by the longest match: words, numbers and
the comparisons take as many characters as they can. `tokens` repeats it to the end of the text. Its
cursor stays where it stopped, so that after an error the rest of the text can still be read.
-/

namespace SqlEngine.Lexer

/-- A letter of any script or an underscore. -/
def isWordStart (c : Char) : Bool := Text.isAlphabetic c || c == '_'

def isWordPart (c : Char) : Bool := isWordStart c || Text.isNumeric c

/-- What stands at the head of a text and how many characters it takes. -/
inductive Scan
  | lexeme (l : Lexeme) (width : Nat)
  | malformed (fault : LiteralFault) (width : Nat)
  | unexpected (c : Char)
  deriving DecidableEq, Repr

/-- A keyword in any case or else a name as it is written. -/
def wordLexeme (word : List Char) : Lexeme :=
  match Keyword.ofWord? word with
  | some k => .keyword k
  | none   => .identifier (String.ofList word)

def scanWord (text : List Char) : Scan :=
  let word := text.takeWhile isWordPart
  .lexeme (wordLexeme word) word.length

/-- A number without a sign of its own, after a minus sign or not. -/
def scanNumber (negative : Bool) (text : List Char) : Scan :=
  let digits := text.takeWhile Char.isDigit
  let literal := if negative then '-' :: digits else digits
  match Text.Decimal.toInt64 (Text.Decimal.signed negative digits) with
  | .ok n           => .lexeme (.number n) literal.length
  | .error overflow => .malformed (.integer (String.ofList literal) overflow) literal.length

/-- Quoted text from the character after its opening quote. It has no escapes, so it ends at the
next quote. -/
def scanText (text : List Char) : Scan :=
  let body := text.takeWhile (· ≠ '\'')
  if body.length = text.length then .malformed .unterminatedText (body.length + 1)
  else .lexeme (.text (String.ofList body)) (body.length + 2)

/-- One of two comparisons that begin alike, the longer one ending in an equals sign. -/
def scanComparison (short long : Comparison) : List Char → Scan
  | '=' :: _ => .lexeme (.comparison long) 2
  | _        => .lexeme (.comparison short) 1

/-- What stands at the head of the text `c :: text`, where `c` is not blank. -/
def scan (c : Char) (text : List Char) : Scan :=
  match Symbol.ofChar? c with
  | some s => .lexeme (.symbol s) 1
  | none   =>
    match c with
    | '='  => .lexeme (.comparison .eq) 1
    | '<'  => scanComparison .lt .le text
    | '>'  => scanComparison .gt .ge text
    | '!'  => if text.head? = some '=' then .lexeme (.comparison .ne) 2 else .unexpected c
    | '-'  => if text.head?.any Char.isDigit then scanNumber true text else .unexpected c
    | '\'' => scanText text
    | c    =>
      if c.isDigit then scanNumber false (c :: text)
      else if isWordStart c then scanWord (c :: text)
      else .unexpected c

/-- The text that is still to be read, and the number of characters read before it. -/
structure Cursor where
  rest : List Char
  position : Nat
  deriving DecidableEq, Repr

namespace Cursor

def ofText (sql : String) : Cursor := ⟨sql.toList, 0⟩

def advance (cursor : Cursor) (width : Nat) : Cursor :=
  ⟨cursor.rest.drop width, cursor.position + width⟩

/-- The cursor at the next character that is not blank. -/
def skipBlank (cursor : Cursor) : Cursor :=
  cursor.advance (cursor.rest.takeWhile Text.isWhiteSpace).length

end Cursor

/-- Reads the token at the head of `c :: text`, the rest of the text at the cursor. A malformed
literal is passed over; a character that begins no token is not. -/
def token (c : Char) (text : List Char) : Action Cursor Token := do
  let cursor ← get
  match scan c text with
  | .lexeme lexeme width =>
    set (cursor.advance width)
    return ⟨lexeme, cursor.position⟩
  | .malformed fault width =>
    set (cursor.advance width)
    throw (.malformedLiteral fault cursor.position)
  | .unexpected c => throw (.unexpectedCharacter c cursor.position)

/-- At most the given number of tokens, and the end of input after them. -/
def tokensUpTo : Nat → Action Cursor (List Token)
  | 0     => return [⟨.endOfInput, (← get).position⟩]
  | n + 1 => do
    modify Cursor.skipBlank
    match (← get).rest with
    | []        => return [⟨.endOfInput, (← get).position⟩]
    | c :: text =>
      let first ← token c text
      let later ← tokensUpTo n
      return first :: later

/-- All tokens from the cursor on. Each takes a character, so there are no more of them than
characters. -/
def tokens : Action Cursor (List Token) := do
  tokensUpTo (← get).rest.length

/-- The tokens of a whole text. -/
def tokensOf (sql : String) : Except Error (List Token) :=
  tokens.answer (.ofText sql)

/-! ### Every token takes a character -/

/-- The number of characters that a scan passes over. -/
def Scan.width : Scan → Nat
  | .lexeme _ width    => width
  | .malformed _ width => width
  | .unexpected _      => 0

theorem scanNumber_width (negative : Bool) (text : List Char) :
    (scanNumber negative text).width =
      (text.takeWhile Char.isDigit).length + if negative then 1 else 0 := by
  dsimp only [scanNumber]
  cases Text.Decimal.toInt64 (Text.Decimal.signed negative (text.takeWhile Char.isDigit)) <;>
    cases negative <;> rfl

theorem scanText_width_pos (text : List Char) : 0 < (scanText text).width := by
  dsimp only [scanText]
  split <;> simp [Scan.width]

theorem scanComparison_width_pos (short long : Comparison) (text : List Char) :
    0 < (scanComparison short long text).width := by
  unfold scanComparison
  split <;> simp [Scan.width]

theorem scan_width_pos_or_unexpected (c : Char) (text : List Char) :
    0 < (scan c text).width ∨ scan c text = .unexpected c := by
  unfold scan
  split
  · exact .inl Nat.one_pos
  split
  · exact .inl Nat.one_pos
  · exact .inl (scanComparison_width_pos ..)
  · exact .inl (scanComparison_width_pos ..)
  · split
    · exact .inl Nat.two_pos
    · exact .inr rfl
  · split
    · exact .inl (by simp [scanNumber_width])
    · exact .inr rfl
  · exact .inl (scanText_width_pos ..)
  · split
    · rename_i hdigit
      exact .inl (by simp [scanNumber_width, hdigit])
    split
    · rename_i hword
      exact .inl (by simp [scanWord, Scan.width, isWordPart, hword])
    · exact .inr rfl

end SqlEngine.Lexer
