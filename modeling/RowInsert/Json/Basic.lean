import RowInsert.Text.Quoted

/-!
# JSON documents

* `Json` is a document; a number is kept as its token.
* `Json.render` writes it without any blanks, in printable ASCII alone: every other character of a
  text is an escape, those beyond the first plane a pair of escapes.
-/

namespace RowInsert

/-- A JSON document. -/
inductive Json where
  | null
  | bool (b : Bool)
  | number (token : String)
  | text (s : String)
  | array (items : List Json)
  | object (members : List (String × Json))
  deriving Repr, Inhabited

namespace Json

/-- The escape of one unit of sixteen bits. -/
def unitEscape (n : Nat) : List Char := '\\' :: 'u' :: Text.hex 4 n

/-- The units of sixteen bits of a code point. -/
def units (n : Nat) : List Nat :=
  if n < 0x10000 then [n]
  else [0xd800 + (n - 0x10000) / 0x400, 0xdc00 + (n - 0x10000) % 0x400]

/-- The form of a character inside a text. -/
def escape (c : Char) : List Char :=
  if c = '"' ∨ c = '\\' then ['\\', c]
  else if c = '\n' then ['\\', 'n']
  else if c = '\r' then ['\\', 'r']
  else if c = '\t' then ['\\', 't']
  else if c = '\x08' then ['\\', 'b']
  else if c = '\x0c' then ['\\', 'f']
  else if ' ' ≤ c ∧ c ≤ '~' then [c]
  else (units c.toNat).flatMap unitEscape

/-- A text in quotes. -/
def renderText (s : String) : List Char := '"' :: s.toList.flatMap escape ++ ['"']

mutual

/-- The written document. -/
def render : Json → List Char
  | .null => "null".toList
  | .bool b => if b then "true".toList else "false".toList
  | .number token => token.toList
  | .text s => renderText s
  | .array items => '[' :: renderItems items ++ [']']
  | .object members => '\x7b' :: renderMembers members ++ ['\x7d']

/-- Items separated by commas. -/
def renderItems : List Json → List Char
  | [] => []
  | [x] => render x
  | x :: y :: rest => render x ++ ',' :: renderItems (y :: rest)

/-- Members separated by commas. -/
def renderMembers : List (String × Json) → List Char
  | [] => []
  | [(name, x)] => renderText name ++ ':' :: render x
  | (name, x) :: m :: rest => renderText name ++ ':' :: render x ++ ',' :: renderMembers (m :: rest)

end

end Json

end RowInsert
