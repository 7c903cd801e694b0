import SqlEngine.Text.DefaultIgnorable
import SqlEngine.Text.ExtendingMark
import SqlEngine.Text.Unprintable

/-! # Names and characters as messages quote them -/

namespace SqlEngine.Text

/-- The code point in braces, in lower-case hexadecimal without padding. -/
def codePointEscape (c : Char) : List Char :=
  ['\\', 'u', '\x7b'] ++ Nat.toDigits 16 c.toNat ++ ['\x7d']

/-- Whether a character would show as nothing, or as a part of the one before it. -/
def isHidden (c : Char) : Bool := isUnprintable c || isDefaultIgnorable c || isExtendingMark c

/-- A character between two of the given quotation marks. A hidden one is escaped wherever it
stands, so that quoted text always reads one character at a time. -/
def escapeWithin (mark c : Char) : List Char :=
  match c with
  | '\x00' => ['\\', '0']
  | '\t'   => ['\\', 't']
  | '\r'   => ['\\', 'r']
  | '\n'   => ['\\', 'n']
  | '\\'   => ['\\', '\\']
  | c      =>
    if c = mark then ['\\', c]
    else if isHidden c then codePointEscape c
    else [c]

/-- Text in double quotes. -/
def quoteString (text : String) : String :=
  String.ofList ('"' :: text.toList.flatMap (escapeWithin '"') ++ ['"'])

/-- One character in single quotes. -/
def quoteChar (c : Char) : String :=
  String.ofList ('\'' :: escapeWithin '\'' c ++ ['\''])

end SqlEngine.Text
