import SqlEngine.Sql.Lexer

/-!
# How lexemes are spelled

A keyword is spelled in either case of its letters and a number with zeros in front or not; any
other lexeme has one spelling. A text that begins with a spelling is scanned as its lexeme, unless
the text goes on with a character that the lexeme would take too.
-/

namespace SqlEngine

namespace Text

/-! ### Classes of characters -/

private theorem isAlphabetic_of_toUpper {c : Char} (h : c.toUpper.isUpper) : isAlphabetic c := by
  have hcode : 0x41 ≤ c.toNat ∧ c.toNat ≤ 0x5A ∨ 0x61 ≤ c.toNat ∧ c.toNat ≤ 0x7A := by
    unfold Char.toUpper at h
    split at h
    · rename_i hlower
      obtain ⟨hfirst, hlast⟩ := hlower
      exact .inr ⟨UInt32.le_iff_toNat_le.mp hfirst, UInt32.le_iff_toNat_le.mp hlast⟩
    · obtain ⟨hfirst, hlast⟩ : 0x41 ≤ c.val ∧ c.val ≤ 0x5A := of_decide_eq_true h
      exact .inl ⟨UInt32.le_iff_toNat_le.mp hfirst, UInt32.le_iff_toNat_le.mp hlast⟩
  have hruns : alphabeticRanges = (0x41, 0x5A) :: (0x61, 0x7A) :: alphabeticRanges.drop 2 := rfl
  rw [isAlphabetic, hruns]
  simp only [Ranges.contains]
  grind

private theorem isWhiteSpace_iff {c : Char} :
    isWhiteSpace c ↔ ∃ run ∈ whiteSpaceRanges, run.1 ≤ c.toNat ∧ c.toNat ≤ run.2 :=
  Ranges.contains_eq_true_iff (by simp [whiteSpaceRanges, Ranges.Separated])

end Text

namespace Lexer

open Text

/-- No blank belongs to a word. -/
theorem not_isWordPart_of_isWhiteSpace {c : Char} (h : isWhiteSpace c) : ¬ isWordPart c := by
  obtain ⟨run, hrun, hfirst, hlast⟩ := isWhiteSpace_iff.mp h
  have hnone : ∀ run ∈ whiteSpaceRanges, ∀ code ∈ List.range' run.1 (run.2 + 1 - run.1),
      alphabeticRanges.contains code = false ∧ numericRanges.contains code = false ∧
        code ≠ 0x5F := by
    decide +kernel
  have hcode : c.toNat ∈ List.range' run.1 (run.2 + 1 - run.1) :=
    List.mem_range'_1.mpr ⟨hfirst, by omega⟩
  obtain ⟨halphabetic, hnumeric, hunderscore⟩ := hnone run hrun _ hcode
  have hne : c ≠ '_' := fun heq => hunderscore (congrArg Char.toNat heq)
  simp [isWordPart, isWordStart, isAlphabetic, isNumeric, halphabetic, hnumeric, hne]

theorem isWordPart_of_isWordStart {c : Char} (h : isWordStart c) : isWordPart c := by
  simp [isWordPart, h]

theorem isWordPart_of_isDigit {c : Char} (h : c.isDigit) : isWordPart c := by
  have hcode : 0x30 ≤ c.toNat ∧ c.toNat ≤ 0x39 := by
    simp only [Char.isDigit, ge_iff_le, Bool.and_eq_true, decide_eq_true_eq] at h
    exact ⟨UInt32.le_iff_toNat_le.mp h.1, UInt32.le_iff_toNat_le.mp h.2⟩
  have hruns : numericRanges = (0x30, 0x39) :: numericRanges.drop 1 := rfl
  have hnumeric : isNumeric c := by
    rw [isNumeric, hruns]
    simp only [Ranges.contains]
    grind
  simp [isWordPart, hnumeric]

theorem not_isWordStart_of_isDigit {c : Char} (h : c.isDigit) : ¬ isWordStart c := by
  have hcode : c.toNat ≤ 0x39 := by
    simp only [Char.isDigit, ge_iff_le, Bool.and_eq_true, decide_eq_true_eq] at h
    exact UInt32.le_iff_toNat_le.mp h.2
  have hruns : alphabeticRanges = (0x41, 0x5A) :: alphabeticRanges.drop 1 := rfl
  have halphabetic : isAlphabetic c = false := by
    rw [isAlphabetic, hruns]
    simp only [Ranges.contains]
    grind
  have hne : c ≠ '_' := by
    intro heq
    subst heq
    exact absurd hcode (by decide)
  simp [isWordStart, halphabetic, hne]

/-- What is read as one word. -/
structure IsWord (word : List Char) : Prop where
  start : word.head?.any isWordStart
  parts : ∀ c ∈ word, isWordPart c

/-- A word that is no keyword in any case. -/
structure IsName (word : List Char) : Prop extends IsWord word where
  not_keyword : Keyword.ofWord? word = none

/-- Digits, after a minus sign or not, that denote the integer. -/
def IsNumeral (n : Int64) (word : List Char) : Prop :=
  ∃ negative digits, word = (if negative then '-' :: digits else digits) ∧
    digits ≠ [] ∧ (∀ c ∈ digits, c.isDigit) ∧ Decimal.signed negative digits = n.toInt

end Lexer

namespace Lexeme

open Lexer

/-- The ways in which a lexeme is written. -/
def SpelledBy : Lexeme → List Char → Prop
  | .keyword k,       word => word.map Char.toUpper = k.spelling.toList
  | .identifier name, word => word = name.toList ∧ IsName word
  | .number n,        word => IsNumeral n word
  | .text s,          word => word = '\'' :: s.toList ++ ['\''] ∧ '\'' ∉ s.toList
  | .comparison c,    word => word = c.sign.toList
  | .symbol s,        word => word = [s.char]
  | .endOfInput,      _    => False

/-- The lexeme does not go on in the text after it. -/
def EndsBefore : Lexeme → List Char → Prop
  | .keyword _,       rest => ∀ c ∈ rest.head?, ¬ isWordPart c
  | .identifier _,    rest => ∀ c ∈ rest.head?, ¬ isWordPart c
  | .number _,        rest => ∀ c ∈ rest.head?, ¬ c.isDigit
  | .comparison .lt,  rest => rest.head? ≠ some '='
  | .comparison .gt,  rest => rest.head? ≠ some '='
  | _,                _    => True

end Lexeme

namespace Lexer

open Text

/-! ### Scanning a spelling -/

theorem takeWhile_append_of_stop {p : Char → Bool} {word rest : List Char}
    (hword : ∀ c ∈ word, p c) (hrest : ∀ c ∈ rest.head?, ¬ p c) :
    (word ++ rest).takeWhile p = word := by
  rw [List.takeWhile_append_of_pos hword]
  cases rest with
  | nil => simp
  | cons c rest => simp [hrest c rfl]

/-- The characters of words are none of those that punctuate, compare, negate or quote. -/
theorem scan_of_isWordPart {c : Char} {text : List Char} (h : isWordPart c) :
    scan c text =
      if c.isDigit then scanNumber false (c :: text)
      else if isWordStart c then scanWord (c :: text)
      else .unexpected c := by
  have hsymbol : Symbol.ofChar? c = none := by
    cases hs : Symbol.ofChar? c with
    | none => rfl
    | some s =>
      obtain rfl := Symbol.eq_char_of_ofChar? hs
      exact absurd h (by cases s <;> decide)
  simp only [scan, hsymbol]
  split
  all_goals first
    | exact absurd h (by decide)
    | rfl

private theorem scanWord_of_isWord {word rest : List Char} (h : IsWord word)
    (hrest : ∀ c ∈ rest.head?, ¬ isWordPart c) :
    scanWord (word ++ rest) = .lexeme (wordLexeme word) word.length := by
  rw [scanWord, takeWhile_append_of_stop h.parts hrest]

private theorem scanNumber_of_digits {negative : Bool} {digits rest : List Char} {n : Int64}
    (hdigits : ∀ c ∈ digits, c.isDigit) (hrest : ∀ c ∈ rest.head?, ¬ c.isDigit)
    (hn : Decimal.signed negative digits = n.toInt) :
    scanNumber negative (digits ++ rest) =
      .lexeme (.number n) (if negative then '-' :: digits else digits).length := by
  simp only [scanNumber, takeWhile_append_of_stop hdigits hrest]
  rw [hn, Decimal.toInt64_toInt]

private theorem scanText_of_body {body rest : List Char} (h : '\'' ∉ body) :
    scanText (body ++ '\'' :: rest) = .lexeme (.text (String.ofList body)) (body.length + 2) := by
  have htake : (body ++ '\'' :: rest).takeWhile (· ≠ '\'') = body := by
    refine takeWhile_append_of_stop ?_ ?_
    · intro c hc
      exact decide_eq_true (ne_of_mem_of_not_mem hc h)
    · simp
  have hlength : body.length ≠ (body ++ '\'' :: rest).length := by simp
  simp only [scanText, htake, if_neg hlength]

theorem isWord_of_keyword {word : List Char} {k : Keyword}
    (h : word.map Char.toUpper = k.spelling.toList) : IsWord word := by
  have hletters : ∀ c ∈ k.spelling.toList, c.isUpper :=
    List.all_eq_true.mp (by cases k <;> decide)
  have halphabetic : ∀ c ∈ word, isWordStart c := by
    intro c hc
    have hupper : c.toUpper.isUpper := hletters _ (h ▸ List.mem_map_of_mem hc)
    simp [isWordStart, isAlphabetic_of_toUpper hupper]
  refine ⟨?_, ?_⟩
  · cases word with
    | nil => cases k <;> exact absurd h (by decide)
    | cons first more => exact halphabetic first List.mem_cons_self
  · intro c hc
    simp [isWordPart, halphabetic c hc]

private theorem scan_of_isWord {first : Char} {more rest : List Char} (h : IsWord (first :: more))
    (hrest : ∀ c ∈ rest.head?, ¬ isWordPart c) :
    scan first (more ++ rest) = .lexeme (wordLexeme (first :: more)) (first :: more).length := by
  have hstart : isWordStart first := h.start
  have hdigit : ¬ first.isDigit := fun hdigit => not_isWordStart_of_isDigit hdigit hstart
  rw [scan_of_isWordPart (h.parts first List.mem_cons_self), if_neg hdigit, if_pos hstart]
  exact scanWord_of_isWord h hrest

private theorem scan_of_isNumeral {first : Char} {more rest : List Char} {n : Int64}
    (h : IsNumeral n (first :: more)) (hrest : ∀ c ∈ rest.head?, ¬ c.isDigit) :
    scan first (more ++ rest) = .lexeme (.number n) (first :: more).length := by
  obtain ⟨negative, digits, hword, hne, hdigits, hn⟩ := h
  have hscan := scanNumber_of_digits hdigits hrest hn
  cases negative with
  | true =>
    obtain ⟨rfl, rfl⟩ := List.cons_eq_cons.mp hword
    obtain ⟨digit, later, rfl⟩ := List.exists_cons_of_ne_nil hne
    have hhead : (digit :: later ++ rest).head?.any Char.isDigit :=
      hdigits digit List.mem_cons_self
    simp only [scan, Symbol.ofChar?, if_pos hhead]
    exact hscan
  | false =>
    obtain rfl : first :: more = digits := hword
    have hdigit : first.isDigit := hdigits first List.mem_cons_self
    rw [scan_of_isWordPart (isWordPart_of_isDigit hdigit), if_pos hdigit]
    exact hscan

private theorem scan_of_sign {c : Comparison} {first : Char} {more rest : List Char}
    (h : first :: more = c.sign.toList) (hrest : (Lexeme.comparison c).EndsBefore rest) :
    scan first (more ++ rest) = .lexeme (.comparison c) (first :: more).length := by
  have hshort : ∀ {short long : Comparison}, rest.head? ≠ some '=' →
      scanComparison short long rest = .lexeme (.comparison short) 1 := by
    intro short long hne
    cases rest with
    | nil => rfl
    | cons next rest =>
      have : next ≠ '=' := fun heq => hne (congrArg some heq)
      simp [scanComparison, this]
  cases c <;> obtain ⟨rfl, rfl⟩ := List.cons_eq_cons.mp h
  all_goals first
    | rfl
    | exact hshort hrest

/-- The longest match at the head of a text is the spelling that the text begins with, where the
lexeme does not go on after it. -/
theorem scan_of_spelledBy {l : Lexeme} {first : Char} {more rest : List Char}
    (h : l.SpelledBy (first :: more)) (hrest : l.EndsBefore rest) :
    scan first (more ++ rest) = .lexeme l (first :: more).length := by
  cases l with
  | keyword k =>
    rw [scan_of_isWord (isWord_of_keyword h) hrest, wordLexeme, Keyword.ofWord?_eq_some_iff.mpr h]
  | identifier name =>
    obtain ⟨hname, hword⟩ := h
    rw [scan_of_isWord hword.toIsWord hrest, wordLexeme, hword.not_keyword, hname,
      String.ofList_toList]
  | number n => exact scan_of_isNumeral h hrest
  | text s =>
    obtain ⟨hword, hquote⟩ := h
    obtain ⟨rfl, rfl⟩ := List.cons_eq_cons.mp hword
    have hscan : scanText (s.toList ++ '\'' :: rest) = _ := scanText_of_body hquote
    simpa [scan, Symbol.ofChar?] using hscan
  | comparison c => exact scan_of_sign h hrest
  | symbol s =>
    obtain ⟨rfl, rfl⟩ := List.cons_eq_cons.mp h
    simp [scan]
  | endOfInput => exact h.elim

end Lexer

namespace Lexeme

open Lexer Text

/-! ### How a spelling begins -/

/-- The characters with which spellings of the lexeme begin. -/
def BeginsWith : Lexeme → Char → Prop
  | .keyword _,    first => isWordStart first
  | .identifier _, first => isWordStart first
  | .number _,     first => first = '-' ∨ first.isDigit
  | .text _,       first => first = '\''
  | .comparison c, first => c.sign.toList.head? = some first
  | .symbol s,     first => first = s.char
  | .endOfInput,   _     => False

theorem SpelledBy.begins {l : Lexeme} {word : List Char} (h : l.SpelledBy word) :
    ∃ first more, word = first :: more ∧ l.BeginsWith first := by
  have hbegin : ∀ {word : List Char}, IsWord word →
      ∃ first more, word = first :: more ∧ isWordStart first := by
    intro word hword
    cases word with
    | nil => exact absurd hword.start (by simp)
    | cons first more => exact ⟨first, more, rfl, hword.start⟩
  cases l with
  | keyword k => exact hbegin (isWord_of_keyword h)
  | identifier name => exact hbegin h.2.toIsWord
  | number n =>
    obtain ⟨negative, digits, rfl, hne, hdigits, -⟩ := h
    cases negative with
    | true => exact ⟨'-', digits, rfl, .inl rfl⟩
    | false =>
      obtain ⟨first, more, rfl⟩ := List.exists_cons_of_ne_nil hne
      exact ⟨first, more, rfl, .inr (hdigits first List.mem_cons_self)⟩
  | text s => exact ⟨'\'', _, h.1, rfl⟩
  | comparison c =>
    obtain rfl : word = c.sign.toList := h
    cases c <;> exact ⟨_, _, rfl, rfl⟩
  | symbol s => exact ⟨s.char, [], h, rfl⟩
  | endOfInput => exact h.elim

/-- The characters at the heads of signs. -/
private theorem mem_of_head?_sign {c : Comparison} {first : Char}
    (h : c.sign.toList.head? = some first) : first ∈ ['=', '!', '<', '>'] := by
  cases c <;> obtain rfl := Option.some.inj h <;> decide

theorem BeginsWith.not_isWhiteSpace {l : Lexeme} {first : Char} (h : l.BeginsWith first) :
    ¬ isWhiteSpace first := by
  have hpart : isWordPart first → ¬ isWhiteSpace first :=
    fun hpart hblank => not_isWordPart_of_isWhiteSpace hblank hpart
  cases l with
  | keyword k => exact hpart (isWordPart_of_isWordStart h)
  | identifier name => exact hpart (isWordPart_of_isWordStart h)
  | number n =>
    obtain rfl | hdigit := h
    · decide
    · exact hpart (isWordPart_of_isDigit hdigit)
  | text s =>
    obtain rfl : first = '\'' := h
    decide
  | comparison c =>
    have hnone : ['=', '!', '<', '>'].all (!isWhiteSpace ·) := by decide
    simpa using List.all_eq_true.mp hnone first (mem_of_head?_sign h)
  | symbol s =>
    obtain rfl : first = s.char := h
    cases s <;> decide
  | endOfInput => exact h.elim

/-! ### Where a spelling ends -/

def isWordOrNumber : Lexeme → Bool
  | .keyword _    => true
  | .identifier _ => true
  | .number _     => true
  | _             => false

/-- The two lexemes are written with a blank between them. -/
def NeedsBlank (l next : Lexeme) : Prop :=
  (l.isWordOrNumber ∧ next.isWordOrNumber) ∨
    ((l = .comparison .lt ∨ l = .comparison .gt) ∧ next = .comparison .eq)

theorem endsBefore_of_head? {l : Lexeme} {rest : List Char}
    (hpart : l.isWordOrNumber → ∀ c ∈ rest.head?, ¬ isWordPart c)
    (hequals : l = .comparison .lt ∨ l = .comparison .gt → rest.head? ≠ some '=') :
    l.EndsBefore rest := by
  cases l with
  | keyword k => exact hpart rfl
  | identifier name => exact hpart rfl
  | number n =>
    intro c hc hdigit
    exact hpart rfl c hc (isWordPart_of_isDigit hdigit)
  | comparison c =>
    cases c with
    | lt => exact hequals (.inl rfl)
    | gt => exact hequals (.inr rfl)
    | _ => trivial
  | _ => trivial

theorem endsBefore_nil (l : Lexeme) : l.EndsBefore [] :=
  endsBefore_of_head? (fun _ _ hc => nomatch hc) fun _ h => nomatch h

theorem endsBefore_of_blank {l : Lexeme} {c : Char} {rest : List Char} (h : isWhiteSpace c) :
    l.EndsBefore (c :: rest) := by
  refine endsBefore_of_head? (fun _ => ?_) fun _ => ?_
  · intro d hd
    obtain rfl : c = d := Option.some.inj hd
    exact not_isWordPart_of_isWhiteSpace h
  · intro hc
    obtain rfl : c = '=' := Option.some.inj hc
    exact absurd h (by decide)

private theorem BeginsWith.not_isWordPart {next : Lexeme} {first : Char} (h : next.BeginsWith first)
    (hnext : ¬ next.isWordOrNumber) : ¬ isWordPart first := by
  cases next with
  | keyword k => exact absurd rfl hnext
  | identifier name => exact absurd rfl hnext
  | number n => exact absurd rfl hnext
  | text s =>
    obtain rfl : first = '\'' := h
    decide
  | comparison c =>
    have hnone : ['=', '!', '<', '>'].all (!isWordPart ·) := by decide
    simpa using List.all_eq_true.mp hnone first (mem_of_head?_sign h)
  | symbol s =>
    obtain rfl : first = s.char := h
    cases s <;> decide
  | endOfInput => exact h.elim

theorem BeginsWith.ne_equals {next : Lexeme} {first : Char} (h : next.BeginsWith first)
    (hnext : next ≠ .comparison .eq) : first ≠ '=' := by
  intro heq
  subst heq
  have hstart : ¬ isWordStart '=' := by decide
  cases next with
  | keyword k => exact hstart h
  | identifier name => exact hstart h
  | number n =>
    have hnumber : '=' = '-' ∨ '='.isDigit := h
    exact absurd hnumber (by decide)
  | text s =>
    have hquote : '=' = '\'' := h
    exact absurd hquote (by decide)
  | comparison c =>
    have hsign : c.sign.toList.head? = some '=' := h
    cases c with
    | eq => exact hnext rfl
    | _ => exact absurd hsign (by decide)
  | symbol s =>
    have hchar : '=' = s.char := h
    cases s <;> exact absurd hchar (by decide)
  | endOfInput => exact h.elim

/-- Lexemes that need no blank between them are read apart without one. -/
theorem endsBefore_of_begins {l next : Lexeme} {first : Char} {rest : List Char}
    (h : next.BeginsWith first) (hblank : ¬ l.NeedsBlank next) : l.EndsBefore (first :: rest) := by
  refine endsBefore_of_head? ?_ ?_
  · intro hl c hc
    obtain rfl : first = c := Option.some.inj hc
    exact h.not_isWordPart fun hnext => hblank (.inl ⟨hl, hnext⟩)
  · intro hl hc
    have hne : next ≠ .comparison .eq := fun hnext => hblank (.inr ⟨hl, hnext⟩)
    exact h.ne_equals hne (Option.some.inj hc)

end Lexeme

end SqlEngine
