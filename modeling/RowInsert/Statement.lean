import RowInsert.Query
import RowInsert.Value.Listing

/-!
# Insert statements

* `Statement.group` is the placeholders of one row, in brackets.
* `Statement.render` is the statement for a quoted table and quoted columns, with so many rows.
* `Statement.ofValues` is the same for what a quoter gave, which need not be texts.
-/

namespace RowInsert

namespace Statement

/-- As many placeholders as there are columns, in brackets. -/
def group (columns : Nat) : String :=
  "(" ++ commaSeparated (List.replicate columns (String.singleton placeholder)) ++ ")"

/-- The statement that inserts so many rows into the columns of a table. -/
def render (table : String) (columns : List String) (rows : Nat) : String :=
  "INSERT INTO " ++ table ++ " (" ++ commaSeparated columns ++ ") VALUES "
    ++ commaSeparated (List.replicate rows (group columns.length))

/-- Texts of which the first is at `position`. -/
def textsFrom (position : Nat) : List Value → Except Failure (List String)
  | [] => .ok []
  | v :: rest =>
    match v.text? with
    | some s => (textsFrom (position + 1) rest).map (s :: ·)
    | none => .error (.partNotText position v.qualifiedName)

/-- The statement for a table that is any value and columns that have to be texts. -/
def ofValues (table : Value) (columns : List Value) (rows : Nat) : Except Failure String := do
  let tableText ← table.plain
  let names ← textsFrom 0 columns
  return render tableText names rows

end Statement

end RowInsert
