import SqlEngine.Text.Decimal

/-!
# JSON documents

Numbers are integers. The fields of an object are in order and are written in it. The text has no
blanks; strings escape quotes, backslashes and control characters and nothing else.
-/

namespace SqlEngine

inductive Json
  | null
  | bool (b : Bool)
  | int (n : Int)
  | string (s : String)
  | array (items : List Json)
  | object (fields : List (String × Json))
  deriving Repr

namespace Json

/-- A character inside a string. -/
def escape : Char → List Char
  | '"'    => ['\\', '"']
  | '\\'   => ['\\', '\\']
  | '\n'   => ['\\', 'n']
  | '\r'   => ['\\', 'r']
  | '\t'   => ['\\', 't']
  | '\x08' => ['\\', 'b']
  | '\x0c' => ['\\', 'f']
  | c      =>
    if c.toNat < 0x20 then
      ['\\', 'u', '0', '0', Nat.digitChar (c.toNat / 16), Nat.digitChar (c.toNat % 16)]
    else [c]

def renderString (s : String) : List Char := '"' :: s.toList.flatMap escape ++ ['"']

mutual

/-- The text of a document. -/
def chars : Json → List Char
  | .null          => "null".toList
  | .bool true     => "true".toList
  | .bool false    => "false".toList
  | .int n         => Text.Decimal.renderInt n
  | .string s      => renderString s
  | .array items   => '[' :: itemChars items ++ [']']
  | .object fields => '\x7b' :: fieldChars fields ++ ['\x7d']

/-- The items of an array with commas between them. -/
def itemChars : List Json → List Char
  | []                 => []
  | [item]             => chars item
  | item :: next :: rest => chars item ++ ',' :: itemChars (next :: rest)

/-- The fields of an object with commas between them. -/
def fieldChars : List (String × Json) → List Char
  | []                           => []
  | [(name, value)]              => renderString name ++ ':' :: chars value
  | (name, value) :: next :: rest =>
    renderString name ++ ':' :: chars value ++ ',' :: fieldChars (next :: rest)

end

def render (document : Json) : String := String.ofList (chars document)

end Json

end SqlEngine
