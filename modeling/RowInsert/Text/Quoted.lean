import RowInsert.Text.Printable

/-!
# Quoted text in listings

Text is shown between single quotes, or between double quotes when it holds a single one and no
double one; backslash, the quote and everything unprintable are written as escapes.

* `Text.quoted` shows text, `Text.quotedBytes` shows bytes.
* `Text.hex` is the fixed-width hexadecimal number inside an escape.
-/

namespace RowInsert.Text

/-- The last `width` hexadecimal digits of `n`, in lower case. -/
def hex (width n : Nat) : List Char :=
  (List.range width).reverse.map fun i => Nat.digitChar (n / Nat.pow 16 i % 16)

@[simp] theorem length_hex (width n : Nat) : (hex width n).length = width := by
  simp only [hex, List.length_map, List.length_reverse, List.length_range]

/-- The quote that text with these characters is shown between. -/
def quoteFor (hasSingle hasDouble : Bool) : Char := if hasSingle && !hasDouble then '"' else '\''

/-- The numeric escape of a code point: two, four or eight digits. -/
def numericEscape (n : Nat) : List Char :=
  if n < 0x100 then '\\' :: 'x' :: hex 2 n
  else if n < 0x10000 then '\\' :: 'u' :: hex 4 n
  else '\\' :: 'U' :: hex 8 n

/-- The form of one character between quotes `q`. -/
def escape (q c : Char) : List Char :=
  if c = q ∨ c = '\\' then ['\\', c]
  else if c = '\n' then ['\\', 'n']
  else if c = '\r' then ['\\', 'r']
  else if c = '\t' then ['\\', 't']
  else if isPrintable c then [c]
  else numericEscape c.toNat

/-- Text in quotes. -/
def quoted (s : String) : String :=
  let cs := s.toList
  let q := quoteFor (cs.contains '\'') (cs.contains '"')
  String.ofList (q :: cs.flatMap (escape q) ++ [q])

/-- The form of one byte between quotes `q`: everything but printable ASCII is an escape. -/
def escapeByte (q : Char) (b : UInt8) : List Char :=
  if b.toNat < 0x80 then escape q (Char.ofNat b.toNat) else numericEscape b.toNat

/-- The quote that bytes are shown between. -/
def quoteForBytes (bytes : List UInt8) : Char :=
  quoteFor (bytes.contains 0x27) (bytes.contains 0x22)

/-- Bytes in quotes, marked with a leading `b`; of the quotes inside, `escaped` is written as an
escape. -/
def quotedBytes (escaped : Char) (bytes : List UInt8) : String :=
  let q := quoteForBytes bytes
  String.ofList ('b' :: q :: bytes.flatMap (escapeByte escaped) ++ [q])

end RowInsert.Text
