import RowInsert.Value.Contents
import RowInsert.Value.Listing

/-!
# Columns of rows

* `Column` is the name of a column.  Of two keys with the same characters the one that comes first
  is the column.
* `Columns.add` adds a column to a list in strictly increasing order of names.
* `Columns.ofRows` is the sorted union of the keys of all rows, each of which has to be a mapping
  with texts as its keys.
* `cell` is the value that a row has in a column.
-/

namespace RowInsert

/-- The name of a column, with the form that it had as a key. -/
structure Column where
  name : String
  /-- The key itself, if it was of a class derived from that of texts. -/
  derived : Option Identity
  deriving DecidableEq, Repr

namespace Column

/-- The column of a key that is a text. -/
def ofKey? : Value → Option Column
  | .text s => some ⟨s, none⟩
  | .derivedText s i => some ⟨s, some i⟩
  | _ => none

/-- The key of a column. -/
def toValue (c : Column) : Value :=
  match c.derived with
  | some i => .derivedText c.name i
  | none => .text c.name

@[simp] theorem text?_toValue (c : Column) : c.toValue.text? = some c.name := by
  cases h : c.derived <;> simp [toValue, h, Value.text?]

end Column

namespace Columns

/-- Adds a column in its place; one of the same name that is there already stays. -/
def add (c : Column) : List Column → List Column
  | [] => [c]
  | d :: rest =>
    if c.name < d.name then c :: d :: rest
    else if c.name = d.name then d :: rest
    else d :: add c rest

/-- Adds the keys of a row, which has the given position. -/
def addKeys (position : Nat) : List Column → List Value → Except Failure (List Column)
  | columns, [] => .ok columns
  | columns, key :: rest =>
    match Column.ofKey? key with
    | some c => addKeys position (add c columns) rest
    | none => do throw (.columnNotText position (← key.listing))

/-- Adds the keys of rows of which the first has the given position. -/
def addRows (position : Nat) : List Column → List Value → Except Failure (List Column)
  | columns, [] => .ok columns
  | columns, row :: rest =>
    match row.mapping? with
    | some (_, entries) => do
      addRows (position + 1) (← addKeys position columns (entries.map Prod.fst)) rest
    | none => .error (.rowNotMapping position row.typeName)

/-- The columns of rows. -/
def ofRows (rows : List Value) : Except Failure (List Column) := addRows 0 [] rows

end Columns

/-- The value of a row in a column; null if the row has none. -/
def cell (row : Value) (c : Column) : Value :=
  match row.mapping? with
  | some (kind, entries) => (Entries.find? kind entries c.toValue).getD .null
  | none => .null

/-- The values of all rows, row by row, and within a row column by column. -/
def cells (rows : List Value) (columns : List Column) : List Value :=
  rows.flatMap fun row => columns.map (cell row)

theorem length_cells (rows : List Value) (columns : List Column) :
    (cells rows columns).length = rows.length * columns.length := by
  induction rows with
  | nil => simp [cells]
  | cons row rest ih =>
    simp only [cells, List.flatMap_cons, List.length_append, List.length_map] at ih ⊢
    rw [ih, List.length_cons, Nat.succ_mul, Nat.add_comm]

end RowInsert
