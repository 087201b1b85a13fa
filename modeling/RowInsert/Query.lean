import RowInsert.Value.Contents

/-!
# Compiled queries

* `Query` is a statement and the values bound to its placeholders, in order.
* `Query.placeholderCount?` counts the placeholders in the text of the statement.
-/

namespace RowInsert

/-- The mark that stands for a bound value in a statement. -/
def placeholder : Char := '?'

/-- The placeholders in a text, wherever they stand: one inside a quoted identifier counts. -/
def countPlaceholders (s : String) : Nat := s.toList.count placeholder

/-- A statement and its bound values.  The statement of a raw clause may be any value. -/
structure Query where
  sql : Value
  params : List Value
  deriving Repr, Inhabited

namespace Query

/-- The number of placeholders in the statement, if it is a text. -/
def placeholderCount? (q : Query) : Option Nat := q.sql.text?.map countPlaceholders

/-- The query of no clause at all. -/
def empty : Query := ⟨.text "", []⟩

end Query

/-- A query with the numbers of rows and columns that went into it, where there are any. -/
structure Compiled where
  query : Query
  rowCount : Option Nat
  columnCount : Option Nat
  deriving Repr, Inhabited

end RowInsert
