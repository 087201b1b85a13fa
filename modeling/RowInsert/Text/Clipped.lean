/-!
# Clipped texts

A name inside a message is clipped to so many bytes.

* `Text.clip` is the start of a text that fits; a character of which only a part would fit is shown
  as the replacement character.
-/

namespace RowInsert.Text

/-- The characters that fit into so many bytes. -/
def clipChars : Nat → List Char → List Char
  | _, [] => []
  | room, c :: rest =>
    if c.utf8Size ≤ room then c :: clipChars (room - c.utf8Size) rest
    else if room = 0 then []
    else ['\ufffd']

/-- The start of a text that fits into so many bytes. -/
def clip (room : Nat) (s : String) : String := String.ofList (clipChars room s.toList)

/-- What fits is left alone. -/
theorem clipChars_of_le {room : Nat} {cs : List Char}
    (h : cs.foldr (fun c bytes => c.utf8Size + bytes) 0 ≤ room) : clipChars room cs = cs := by
  induction cs generalizing room with
  | nil => rw [clipChars]
  | cons c rest ih =>
    simp only [List.foldr_cons] at h
    rw [clipChars, if_pos (Nat.le_trans (Nat.le_add_right _ _) h), ih (by omega)]

end RowInsert.Text
