import RowInsert.Settings
import RowInsert.State

/-!
# Rows of a clause

* `Rows.read` gives the rows of a value: a mapping is one row, and anything else that can be
  walked gives its items, of which one more than the limit is read at most.
* `Rows.bounded` refuses no rows and too many, and `Rows.readBounded` gives the rows of a value that
  are neither.
-/

namespace RowInsert

namespace Value

/-- Whether a value is a text or constant bytes, whose items are no rows. -/
def isLiteral : Value → Bool
  | .text _ | .derivedText .. | .bytes .constant _ _ => true
  | _ => false

end Value

namespace Rows

/-- The rows of a value.  The settings are looked at only when rows are walked. -/
def read (settings : Except Failure Settings) (values : Value) : Run (List Value) :=
  if values.isMapping then pure [values]
  else if values.isLiteral || !values.isIterable then throw (.valuesNotRows values.typeName)
  else do
    let n ← Run.lift (settings.bind Settings.itemsToRead)
    Run.readUpTo n values

/-- The number of rows that is reported for too many: all of them if the value has a length, else
those that were read. -/
def reportedCount (values : Value) (rows : List Value) : Except Failure Nat :=
  if values.size?.isSome then values.length else .ok rows.length

/-- The rows that were read of a value, if there are any and not more than the limit. -/
def bounded (settings : Except Failure Settings) (values : Value) (rows : List Value) :
    Except Failure (List Value) := do
  if rows.isEmpty then throw .noRows
  let s ← settings
  if ← s.exceededBy rows.length then
    let count ← reportedCount values rows
    throw (.batchTooLarge count s.limit (← s.limit.plain))
  return rows

/-- The rows of a value, if there are any and not more than the limit. -/
def readBounded (settings : Except Failure Settings) (values : Value) : Run (List Value) := do
  Run.lift (bounded settings values (← read settings values))

end Rows

end RowInsert
