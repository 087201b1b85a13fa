/-!
# Printable characters

A character is printable unless it is a control, a format character, a separator other than the
space, a private character, or no character at all.

* `isPrintable` decides it from the ranges of `unprintable`.
-/

namespace RowInsert.Text

/-- The ranges of code points that are not printable, in increasing order: controls, format
characters, separators, private use, and code points that never stand for a character. -/
def unprintable : List (Nat × Nat) :=
  [(0x00, 0x1f), (0x7f, 0xa0), (0xad, 0xad), (0x378, 0x379), (0x600, 0x605), (0x61c, 0x61c),
   (0x6dd, 0x6dd), (0x70f, 0x70f), (0x890, 0x891), (0x8e2, 0x8e2), (0x1680, 0x1680),
   (0x180e, 0x180e), (0x2000, 0x200f), (0x2028, 0x202f), (0x205f, 0x206f), (0x3000, 0x3000),
   (0xd7a4, 0xd7af), (0xd7c7, 0xd7ca), (0xd7fc, 0xf8ff), (0xfdd0, 0xfdef), (0xfeff, 0xfeff),
   (0xfff0, 0xfffb), (0xfffe, 0xffff), (0x110bd, 0x110bd), (0x110cd, 0x110cd),
   (0x13430, 0x1343f), (0x1bca0, 0x1bca3), (0x1d173, 0x1d17a), (0x1fffe, 0x1ffff),
   (0x2fffe, 0x2ffff), (0x3fffe, 0xe00ff), (0xe01f0, 0x10ffff)]

def isPrintable (c : Char) : Bool :=
  !unprintable.any fun range => range.1 ≤ c.toNat && c.toNat ≤ range.2

/-- Every printable character of ASCII stands from the space to the tilde. -/
example : (List.range 128).all fun n =>
    isPrintable (Char.ofNat n) == (0x20 ≤ n && n ≤ 0x7e) := by decide

end RowInsert.Text
