import SqlEngine.Json
import SqlEngine.Proofs.LexemeSpellings

/-!
# Reading JSON

A reader takes a document off the front of a text and leaves the rest. It takes blanks between the
parts, every escape that strings have and pairs of surrogates, and refuses what is not JSON; numbers
are read where they are integers. What a compact writer writes a document as is read as that
document.
-/

namespace SqlEngine.Json

open Text
open Lexer (takeWhile_append_of_stop)

/-! ### The reader -/

def isBlank (c : Char) : Bool := c = ' ' || c = '\n' || c = '\r' || c = '\t'

def skipBlanks (text : List Char) : List Char := text.dropWhile isBlank

/-- Digits without zeros to spare, under a sign. -/
def readDigits (negative : Bool) (text : List Char) : Option (Int × List Char) :=
  let digits := text.takeWhile Char.isDigit
  if digits = [] ∨ digits.head? = some '0' ∧ digits ≠ ['0'] then none
  else some (Decimal.signed negative digits, text.drop digits.length)

def readInt : List Char → Option (Int × List Char)
  | '-' :: text => readDigits true text
  | text        => readDigits false text

def hexDigit? (c : Char) : Option Nat :=
  if '0' ≤ c ∧ c ≤ '9' then some (c.toNat - '0'.toNat)
  else if 'a' ≤ c ∧ c ≤ 'f' then some (c.toNat - 'a'.toNat + 10)
  else if 'A' ≤ c ∧ c ≤ 'F' then some (c.toNat - 'A'.toNat + 10)
  else none

/-- A code unit of four hexadecimal digits. -/
def readUnit : List Char → Option (Nat × List Char)
  | a :: b :: c :: d :: text => do
    return (((← hexDigit? a) * 16 + (← hexDigit? b)) * 256 +
      (← hexDigit? c) * 16 + (← hexDigit? d), text)
  | _ => none

/-- The character that a code unit begins. A high surrogate is one half of a character, and its low
surrogate must follow as an escape of its own. -/
def readScalar (unit : Nat) (text : List Char) : Option (Char × List Char) :=
  if 0xD800 ≤ unit ∧ unit ≤ 0xDBFF then
    match text with
    | '\\' :: 'u' :: text => do
      let (low, text) ← readUnit text
      if 0xDC00 ≤ low ∧ low ≤ 0xDFFF then
        some (.ofNat (0x10000 + (unit - 0xD800) * 0x400 + (low - 0xDC00)), text)
      else none
    | _ => none
  else if 0xDC00 ≤ unit ∧ unit ≤ 0xDFFF then none
  else some (.ofNat unit, text)

/-- The character of an escape, after its backslash. -/
def readEscape : List Char → Option (Char × List Char)
  | '"'  :: text => some ('"', text)
  | '\\' :: text => some ('\\', text)
  | '/'  :: text => some ('/', text)
  | 'b'  :: text => some ('\x08', text)
  | 'f'  :: text => some ('\x0c', text)
  | 'n'  :: text => some ('\n', text)
  | 'r'  :: text => some ('\r', text)
  | 't'  :: text => some ('\t', text)
  | 'u'  :: text => do
    let (unit, text) ← readUnit text
    readScalar unit text
  | _            => none

/-- A string of fewer characters than given, after its opening quote. -/
def readBody : Nat → List Char → Option (List Char × List Char)
  | _ + 1, '"' :: text  => some ([], text)
  | n + 1, '\\' :: text => do
    let (c, text) ← readEscape text
    let (body, text) ← readBody n text
    return (c :: body, text)
  | n + 1, c :: text    =>
    if c.toNat < 0x20 then none
    else do
      let (body, text) ← readBody n text
      return (c :: body, text)
  | _,     _            => none

section Lists

variable {α : Type} (item : List Char → Option (α × List Char)) (close : Char)

/-- Up to a given number of items with commas between them, and what closes them. -/
def readItems : Nat → List Char → Option (List α × List Char)
  | 0,     _    => none
  | n + 1, text => do
    let (a, text) ← item text
    match skipBlanks text with
    | c :: text =>
      if c = ',' then do
        let (items, text) ← readItems n text
        return (a :: items, text)
      else if c = close then some ([a], text)
      else none
    | [] => none

/-- The same, or no items. -/
def readList (n : Nat) (text : List Char) : Option (List α × List Char) :=
  match skipBlanks text with
  | c :: rest => if c = close then some ([], rest) else readItems item close n text
  | []        => none

end Lists

/-- A name and the value after it. -/
def readField (value : List Char → Option (Json × List Char)) (n : Nat) (text : List Char) :
    Option ((String × Json) × List Char) :=
  match skipBlanks text with
  | '"' :: text => do
    let (name, text) ← readBody n text
    match skipBlanks text with
    | ':' :: text => do
      let (v, text) ← value text
      return ((String.ofList name, v), text)
    | _ => none
  | _ => none

/-- A document that is nested less deep than given, and has no longer strings, arrays or objects. -/
def readValue : Nat → List Char → Option (Json × List Char)
  | 0,     _    => none
  | n + 1, text =>
    match skipBlanks text with
    | 'n' :: 'u' :: 'l' :: 'l' :: text        => some (.null, text)
    | 't' :: 'r' :: 'u' :: 'e' :: text        => some (.bool true, text)
    | 'f' :: 'a' :: 'l' :: 's' :: 'e' :: text => some (.bool false, text)
    | '"' :: text => do
      let (body, text) ← readBody n text
      return (.string (.ofList body), text)
    | '[' :: text => do
      let (items, text) ← readList (readValue n) ']' n text
      return (.array items, text)
    | '\x7b' :: text => do
      let (fields, text) ← readList (readField (readValue n) n) '\x7d' n text
      return (.object fields, text)
    | text => do
      let (i, text) ← readInt text
      return (.int i, text)

/-- The document that a text is, with nothing but blanks around it. -/
def decode (text : String) : Option Json := do
  let (document, rest) ← readValue (text.length + 1) text.toList
  if skipBlanks rest = [] then some document else none

/-! ### Strings -/

variable {text rest : List Char} {c : Char} {n : Nat}

private theorem skipBlanks_cons (h : isBlank c = false) : skipBlanks (c :: text) = c :: text := by
  simp [skipBlanks, h]

private theorem hexDigit?_digitChar {d : Nat} (h : d < 16) :
    hexDigit? (Nat.digitChar d) = some d := by
  have hall : ∀ d < 16, hexDigit? (Nat.digitChar d) = some d := by decide
  exact hall d h

/-- A control character is written as a code unit whose first two digits are zeros. -/
private theorem readEscape_control (h : c.toNat < 0x20) (text : List Char) :
    readEscape ('u' :: '0' :: '0' :: Nat.digitChar (c.toNat / 16) ::
      Nat.digitChar (c.toNat % 16) :: text) = some (c, text) := by
  have hzero : hexDigit? '0' = some 0 := rfl
  have hhigh := hexDigit?_digitChar (show c.toNat / 16 < 16 by omega)
  have hlow := hexDigit?_digitChar (show c.toNat % 16 < 16 by omega)
  have hunit : c.toNat / 16 * 16 + c.toNat % 16 = c.toNat := by omega
  have hscalar : readScalar c.toNat text = some (c, text) := by
    unfold readScalar
    rw [if_neg (by omega), if_neg (by omega), Char.ofNat_toNat]
  simp [readEscape, readUnit, hzero, hhigh, hlow, hunit, hscalar]

private theorem readBody_of_readEscape {e : List Char} (h : readEscape e = some (c, text)) :
    readBody (n + 1) ('\\' :: e) = (readBody n text).map fun (body, rest) => (c :: body, rest) := by
  rw [readBody, h, Option.bind_eq_bind, Option.bind_some]
  dsimp only
  cases readBody n text <;> rfl

private theorem readBody_escape (c : Char) (text : List Char) (n : Nat) :
    readBody (n + 1) (escape c ++ text) =
      (readBody n text).map fun (body, rest) => (c :: body, rest) := by
  unfold escape
  split
  any_goals exact readBody_of_readEscape rfl
  rename_i hquote hbackslash _ _ _ _ _
  by_cases hcontrol : c.toNat < 0x20
  · rw [if_pos hcontrol]
    exact readBody_of_readEscape (readEscape_control hcontrol text)
  · rw [if_neg hcontrol, List.singleton_append, readBody, if_neg hcontrol]
    · cases readBody n text <;> rfl
    · exact hquote
    · exact hbackslash

private theorem readBody_flatMap_escape {body : List Char} (h : body.length < n) :
    readBody n (body.flatMap escape ++ '"' :: rest) = some (body, rest) := by
  induction body generalizing n with
  | nil =>
    obtain ⟨n, rfl⟩ := Nat.exists_eq_succ_of_ne_zero (Nat.ne_of_gt h)
    rfl
  | cons c body ih =>
    obtain ⟨n, rfl⟩ := Nat.exists_eq_succ_of_ne_zero (Nat.ne_of_gt (Nat.zero_lt_of_lt h))
    rw [List.flatMap_cons, List.append_assoc, readBody_escape,
      ih (Nat.lt_of_succ_lt_succ h)]
    rfl

/-! ### Integers -/

/-- Only a minus sign or a digit begins an integer. -/
private theorem renderInt_begins (i : Int) :
    ∃ c text, Decimal.renderInt i = c :: text ∧ (c = '-' ∨ c.isDigit) := by
  obtain ⟨negative, digits, hi, hne, hdigits, -, -⟩ := Decimal.renderInt_eq i
  cases negative with
  | true => exact ⟨'-', digits, hi, .inl rfl⟩
  | false =>
    obtain ⟨c, digits, rfl⟩ := List.exists_cons_of_ne_nil hne
    exact ⟨c, digits, hi, .inr (hdigits c List.mem_cons_self)⟩

private theorem isBlank_of_isDigit (h : c.isDigit) : isBlank c = false := by
  rw [Bool.eq_false_iff]
  intro hblank
  simp only [isBlank, Bool.or_eq_true, decide_eq_true_eq] at hblank
  obtain ((rfl | rfl) | rfl) | rfl := hblank <;> exact absurd h (by decide)

private theorem readInt_renderInt (i : Int) (hrest : ∀ c ∈ rest.head?, ¬ c.isDigit) :
    readInt (Decimal.renderInt i ++ rest) = some (i, rest) := by
  obtain ⟨negative, digits, hi, hne, hdigits, hvalue, hzero⟩ := Decimal.renderInt_eq i
  have htake : (digits ++ rest).takeWhile Char.isDigit = digits :=
    takeWhile_append_of_stop hdigits hrest
  have hplain : ¬ (digits = [] ∨ digits.head? = some '0' ∧ digits ≠ ['0']) := by
    rintro (hnil | ⟨hhead, hmore⟩)
    · exact hne hnil
    · exact hmore (hzero hhead)
  have hread : readDigits negative (digits ++ rest) = some (i, rest) := by
    simp only [readDigits, htake]
    rw [if_neg hplain, hvalue, List.drop_left]
  rw [hi]
  cases negative with
  | true => exact hread
  | false =>
    refine Eq.trans ?_ hread
    rw [if_neg Bool.false_ne_true, readInt]
    intro text htext
    obtain ⟨c, digits, rfl⟩ := List.exists_cons_of_ne_nil hne
    obtain ⟨rfl, -⟩ := List.cons.inj htext
    exact absurd (hdigits '-' List.mem_cons_self) (by decide)

/-! ### Lists -/

private theorem length_le_intercalate (texts : List (List Char)) :
    texts.length ≤ ([','].intercalate texts).length + 1 ∧
      ∀ text ∈ texts, text.length ≤ ([','].intercalate texts).length := by
  induction texts with
  | nil => simp
  | cons text texts ih =>
    cases texts with
    | nil => simp
    | cons next texts =>
      obtain ⟨hcount, htexts⟩ := ih
      rw [List.intercalate_cons_cons]
      simp only [List.length_append, List.length_cons, List.length_nil] at hcount ⊢
      refine ⟨by omega, List.forall_mem_cons.mpr ⟨by omega, fun other hother => ?_⟩⟩
      have := htexts other hother
      omega

section Lists

variable {α : Type} {item : List Char → Option (α × List Char)} {write : α → List Char}
  {close : Char} {items : List α}

private theorem readItems_intercalate (hcomma : close ≠ ',') (hblank : isBlank close = false)
    (hitem : ∀ a ∈ items, ∀ c rest, c = ',' ∨ c = close →
      item (write a ++ c :: rest) = some (a, c :: rest))
    (hne : items ≠ []) (hn : items.length ≤ n) :
    readItems item close n ([','].intercalate (items.map write) ++ close :: rest) =
      some (items, rest) := by
  induction items generalizing n with
  | nil => exact absurd rfl hne
  | cons a items ih =>
    obtain ⟨hfirst, hlater⟩ := List.forall_mem_cons.mp hitem
    obtain ⟨n, rfl⟩ := Nat.exists_eq_add_one_of_ne_zero (Nat.ne_of_gt (Nat.zero_lt_of_lt hn))
    cases items with
    | nil =>
      rw [List.map_singleton, List.intercalate_singleton, readItems, hfirst close rest (.inr rfl)]
      simp [skipBlanks_cons hblank, hcomma]
    | cons b items =>
      rw [List.map_cons, List.map_cons, List.intercalate_cons_cons, ← List.map_cons (f := write),
        List.append_assoc, List.append_assoc, List.singleton_append, readItems,
        hfirst ',' _ (.inl rfl)]
      have hrest := ih hlater (List.cons_ne_nil _ _) (Nat.le_of_succ_le_succ hn)
      simp only [skipBlanks_cons (show isBlank ',' = false from rfl), Option.bind_eq_bind,
        Option.bind_some, if_pos, hrest]
      rfl

/-- A list is read if the text of no item begins with a blank or with what closes the list. -/
private theorem readList_intercalate (hcomma : close ≠ ',') (hblank : isBlank close = false)
    (hitem : ∀ a ∈ items, ∀ c rest, c = ',' ∨ c = close →
      item (write a ++ c :: rest) = some (a, c :: rest))
    (hbegins : ∀ a ∈ items, ∃ c text, write a = c :: text ∧ isBlank c = false ∧ c ≠ close)
    (hn : items.length ≤ n) :
    readList item close n ([','].intercalate (items.map write) ++ close :: rest) =
      some (items, rest) := by
  cases items with
  | nil => simp [readList, skipBlanks_cons hblank]
  | cons a items =>
    obtain ⟨c, text, hwrite, hc, hclose⟩ := hbegins a List.mem_cons_self
    have hhead : ∃ text,
        [','].intercalate ((a :: items).map write) ++ close :: rest = c :: text := by
      cases items with
      | nil => exact ⟨_, by rw [List.map_singleton, List.intercalate_singleton, hwrite]; rfl⟩
      | cons b items =>
        exact ⟨_, by rw [List.map_cons, List.map_cons, List.intercalate_cons_cons, hwrite]; rfl⟩
    obtain ⟨text, htext⟩ := hhead
    have hitems : readItems item close n
        ([','].intercalate ((a :: items).map write) ++ close :: rest) = some (a :: items, rest) :=
      readItems_intercalate hcomma hblank hitem (List.cons_ne_nil _ _) hn
    rw [htext] at hitems ⊢
    rw [readList, skipBlanks_cons hc]
    simpa [hclose] using hitems

end Lists

/-! ### Documents -/

/-- The writer puts the parts of a document behind each other without blanks, with commas between
items, and escapes in strings what it has to. -/
structure IsCompactWriter (write : Json → String) : Prop where
  null : (write .null).toList = "null".toList
  bool : ∀ b, (write (.bool b)).toList = (if b then "true" else "false").toList
  int : ∀ n, (write (.int n)).toList = Decimal.renderInt n
  string : ∀ s, (write (.string s)).toList = '"' :: s.toList.flatMap escape ++ ['"']
  array : ∀ items, (write (.array items)).toList =
    '[' :: [','].intercalate (items.map fun item => (write item).toList) ++ [']']
  object : ∀ fields, (write (.object fields)).toList =
    '\x7b' :: [','].intercalate (fields.map fun (name, value) =>
      (write (.string name)).toList ++ ':' :: (write value).toList) ++ ['\x7d']

private theorem itemChars_eq (items : List Json) :
    itemChars items = [','].intercalate (items.map chars) := by
  induction items with
  | nil => rfl
  | cons item items ih =>
    cases items with
    | nil => simp [itemChars]
    | cons next items =>
      rw [itemChars, ih]
      simp [List.intercalate_cons_cons]

private theorem fieldChars_eq (fields : List (String × Json)) :
    fieldChars fields = [','].intercalate (fields.map fun (name, value) =>
      renderString name ++ ':' :: chars value) := by
  induction fields with
  | nil => rfl
  | cons field fields ih =>
    cases fields with
    | nil => simp [fieldChars]
    | cons next fields =>
      rw [fieldChars, ih]
      simp [List.intercalate_cons_cons]

theorem isCompactWriter_render : IsCompactWriter render where
  null := rfl
  bool b := by cases b <;> rfl
  int n := by rw [render, String.toList_ofList, chars]
  string s := by rw [render, String.toList_ofList, chars, renderString]
  array items := by
    simp only [render, String.toList_ofList, chars, itemChars_eq]
  object fields := by
    simp only [render, String.toList_ofList, chars, fieldChars_eq]

private theorem length_le_flatMap_escape (body : List Char) :
    body.length ≤ (body.flatMap escape).length := by
  induction body with
  | nil => exact Nat.le_refl 0
  | cons c body ih =>
    have hpos : 0 < (escape c).length := by
      unfold escape
      split
      all_goals first | exact Nat.zero_lt_succ _ | (split <;> exact Nat.zero_lt_succ _)
    rw [List.flatMap_cons, List.length_append, List.length_cons]
    omega

private theorem readValue_renderInt (i : Int) (hrest : ∀ c ∈ rest.head?, ¬ c.isDigit) :
    readValue (n + 1) (Decimal.renderInt i ++ rest) = some (.int i, rest) := by
  obtain ⟨c, text, htext, hc⟩ := renderInt_begins i
  have hread := readInt_renderInt i hrest
  rw [htext, List.cons_append] at hread ⊢
  have hblank : isBlank c = false := by
    rcases hc with rfl | hc
    · rfl
    · exact isBlank_of_isDigit hc
  have hother : ∀ other text', c :: (text ++ rest) = other :: text' →
      other ∉ ['n', 't', 'f', '"', '[', '\x7b'] := by
    rintro other text' heq hmem
    obtain ⟨rfl, -⟩ := List.cons.inj heq
    simp only [List.mem_cons, List.not_mem_nil, or_false] at hmem
    obtain rfl | rfl | rfl | rfl | rfl | rfl := hmem <;> exact absurd hc (by decide)
  rw [readValue, skipBlanks_cons hblank]
  split
  any_goals rename_i heq; exact absurd (by simp) (hother _ _ heq)
  rw [hread]
  rfl

/-- Documents with texts shorter than the fuel are read from them, if the text after them does not
go on with a digit. -/
def ReadsBack (write : Json → String) (n : Nat) : Prop :=
  ∀ document rest, (write document).length < n → (∀ c ∈ rest.head?, ¬ c.isDigit) →
    readValue n ((write document).toList ++ rest) = some (document, rest)

namespace IsCompactWriter

variable {write : Json → String}

private theorem begins (h : IsCompactWriter write) (document : Json) :
    ∃ c text, (write document).toList = c :: text ∧ isBlank c = false ∧ c ≠ ']' := by
  cases document with
  | null => exact ⟨'n', _, h.null, rfl, by decide⟩
  | bool b => cases b <;> exact ⟨_, _, h.bool _, rfl, by decide⟩
  | int i =>
    obtain ⟨c, text, htext, hc⟩ := renderInt_begins i
    refine ⟨c, text, (h.int i).trans htext, ?_, ?_⟩
    · rcases hc with rfl | hc
      · rfl
      · exact isBlank_of_isDigit hc
    · rintro rfl
      exact absurd hc (by decide)
  | string s => exact ⟨'"', _, h.string s, rfl, by decide⟩
  | array items => exact ⟨'[', _, h.array items, rfl, by decide⟩
  | object fields => exact ⟨'\x7b', _, h.object fields, rfl, by decide⟩

private theorem length_lt_length_string (h : IsCompactWriter write) (s : String) :
    s.toList.length + 1 < (write (.string s)).length := by
  have hle := length_le_flatMap_escape s.toList
  rw [← String.length_toList, h.string]
  simp only [List.length_append, List.length_cons]
  omega

private theorem readField_eq (h : IsCompactWriter write)
    {value : List Char → Option (Json × List Char)} {field : String × Json}
    (hvalue : value ((write field.2).toList ++ rest) = some (field.2, rest))
    (hn : field.1.toList.length < n) :
    readField value n ((write (.string field.1)).toList ++ ':' :: (write field.2).toList ++ rest) =
      some (field, rest) := by
  have hname : readBody n
      (field.1.toList.flatMap escape ++ '"' :: ':' :: ((write field.2).toList ++ rest)) =
        some (field.1.toList, ':' :: ((write field.2).toList ++ rest)) := readBody_flatMap_escape hn
  have hquote : isBlank '"' = false := rfl
  have hcolon : isBlank ':' = false := rfl
  have htext : (write (.string field.1)).toList ++ ':' :: (write field.2).toList ++ rest =
      '"' :: (field.1.toList.flatMap escape ++
        '"' :: ':' :: ((write field.2).toList ++ rest)) := by
    simp [h.string]
  rw [htext, readField, skipBlanks_cons hquote]
  simp [hname, skipBlanks_cons hcolon, hvalue]

private theorem readValue_string (h : IsCompactWriter write) (s : String)
    (hn : (write (.string s)).length ≤ n) :
    readValue (n + 1) ((write (.string s)).toList ++ rest) = some (.string s, rest) := by
  have hbody : s.toList.length < n := by
    have hlt := h.length_lt_length_string s
    omega
  have hread : readBody n (s.toList.flatMap escape ++ '"' :: rest) = some (s.toList, rest) :=
    readBody_flatMap_escape hbody
  have hquote : isBlank '"' = false := rfl
  rw [h.string, List.cons_append, List.cons_append, List.append_assoc, List.singleton_append,
    readValue, skipBlanks_cons hquote]
  simp [hread]

private theorem readValue_array (h : IsCompactWriter write) (hback : ReadsBack write n)
    (items : List Json) (hn : (write (.array items)).length ≤ n) :
    readValue (n + 1) ((write (.array items)).toList ++ rest) = some (.array items, rest) := by
  rw [← String.length_toList] at hn
  rw [h.array] at hn ⊢
  obtain ⟨hcount, htexts⟩ := length_le_intercalate (items.map fun item => (write item).toList)
  simp only [List.length_append, List.length_cons, List.length_nil, List.length_map] at hn hcount
  have hread : readList (readValue n) ']' n
      ([','].intercalate (items.map fun item => (write item).toList) ++ ']' :: rest) =
        some (items, rest) := by
    refine readList_intercalate (by decide) rfl ?_ (fun item _ => h.begins item) (by omega)
    intro item hitem c rest hc
    have hle := htexts _ (List.mem_map_of_mem hitem)
    rw [String.length_toList] at hle
    refine hback item (c :: rest) (by omega) ?_
    rintro _ ⟨⟩
    rcases hc with rfl | rfl <;> decide
  have hopen : isBlank '[' = false := rfl
  rw [List.cons_append, List.cons_append, List.append_assoc, List.singleton_append, readValue,
    skipBlanks_cons hopen]
  simp [hread]

private theorem readValue_object (h : IsCompactWriter write) (hback : ReadsBack write n)
    (fields : List (String × Json)) (hn : (write (.object fields)).length ≤ n) :
    readValue (n + 1) ((write (.object fields)).toList ++ rest) = some (.object fields, rest) := by
  let text (field : String × Json) : List Char :=
    (write (.string field.1)).toList ++ ':' :: (write field.2).toList
  have hobject : (write (.object fields)).toList =
      '\x7b' :: [','].intercalate (fields.map text) ++ ['\x7d'] := h.object fields
  rw [← String.length_toList] at hn
  rw [hobject] at hn ⊢
  obtain ⟨hcount, htexts⟩ := length_le_intercalate (fields.map text)
  simp only [List.length_append, List.length_cons, List.length_nil, List.length_map] at hn hcount
  have hbegins : ∀ field ∈ fields, ∃ c more,
      text field = c :: more ∧ isBlank c = false ∧ c ≠ '\x7d' := by
    intro field _
    exact ⟨'"', _, congrArg (· ++ ':' :: (write field.2).toList) (h.string field.1), rfl, by decide⟩
  have hread : readList (readField (readValue n) n) '\x7d' n
      ([','].intercalate (fields.map text) ++ '\x7d' :: rest) = some (fields, rest) := by
    refine readList_intercalate (by decide) rfl ?_ hbegins (by omega)
    intro field hfield c rest hc
    have hle := htexts _ (List.mem_map_of_mem hfield)
    have hname := h.length_lt_length_string field.1
    have hlength : (text field).length =
        (write (.string field.1)).length + ((write field.2).length + 1) := by
      simp only [text, List.length_append, List.length_cons, String.length_toList]
    rw [String.length_toList] at hname
    refine h.readField_eq (hback field.2 (c :: rest) (by omega) ?_)
      (by rw [String.length_toList]; omega)
    rintro _ ⟨⟩
    rcases hc with rfl | rfl <;> decide
  have hopen : isBlank '\x7b' = false := rfl
  rw [List.cons_append, List.cons_append, List.append_assoc, List.singleton_append, readValue,
    skipBlanks_cons hopen]
  simp [hread]

private theorem readsBack (h : IsCompactWriter write) (n : Nat) : ReadsBack write n := by
  induction n with
  | zero => exact fun _ _ hn => absurd hn (Nat.not_lt_zero _)
  | succ n ih =>
    intro document rest hn hrest
    have hle := Nat.le_of_lt_succ hn
    cases document with
    | null =>
      rw [h.null]
      rfl
    | bool b =>
      rw [h.bool]
      cases b <;> rfl
    | int i =>
      rw [h.int]
      exact readValue_renderInt i hrest
    | string s => exact h.readValue_string s hle
    | array items => exact h.readValue_array ih items hle
    | object fields => exact h.readValue_object ih fields hle

/-- What a compact writer writes is read as the document that was written. -/
theorem decode_eq (h : IsCompactWriter write) (document : Json) :
    decode (write document) = some document := by
  have hread := h.readsBack ((write document).length + 1) document [] (Nat.lt_succ_self _)
    (by simp)
  rw [List.append_nil] at hread
  rw [decode, hread]
  rfl

end IsCompactWriter

example : decode " \x7b\"a\" : [ -1 , true ],\n\"\\u00e9\": \"\\/\\ud83d\\ude00\"\x7d" =
    some (.object [("a", .array [.int (-1), .bool true]), ("é", .string "/😀")]) := by rfl

example : decode "[01]" = none ∧ decode "[1,]" = none ∧ decode "\"\\ude00\"" = none := by decide

end SqlEngine.Json
