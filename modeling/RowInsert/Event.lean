import RowInsert.Value.Listing
import RowInsert.Value.Contents

/-!
# Events of compilations

* `Event` tells how one compilation ended.
* `Event.fields` are its fields by name, in the order of their declaration.
* `Event.labels` is what the metrics of an event are kept under.
-/

namespace RowInsert

/-- How a compilation ended.  Events can be made by hand too, so each field may be any value. -/
structure Event where
  timestamp : Value
  event : Value
  compiler : Value
  clauseKind : Value
  success : Value
  metadata : Value
  table : Value
  rowCount : Value
  columnCount : Value
  paramCount : Value
  duration : Value
  errorType : Value
  errorMessage : Value
  deriving Repr, Inhabited

namespace Event

/-- The name of the event that ends a compilation. -/
def compileEnd : String := "compile.end"

/-- The fields by name. -/
def fields (e : Event) : List (String × Value) :=
  [("timestamp", e.timestamp), ("event", e.event), ("compiler", e.compiler),
    ("clause_kind", e.clauseKind), ("success", e.success), ("metadata", e.metadata),
    ("table", e.table), ("row_count", e.rowCount), ("column_count", e.columnCount),
    ("param_count", e.paramCount), ("duration_ms", e.duration), ("error_type", e.errorType),
    ("error_message", e.errorMessage)]

/-- The event with these fields; a field that is not given is null. -/
def ofFields (fields : List (String × Value)) : Event :=
  let field name := (fields.lookup name).getD .null
  { timestamp := field "timestamp"
    event := field "event"
    compiler := field "compiler"
    clauseKind := field "clause_kind"
    success := field "success"
    metadata := field "metadata"
    table := field "table"
    rowCount := field "row_count"
    columnCount := field "column_count"
    paramCount := field "param_count"
    duration := field "duration_ms"
    errorType := field "error_type"
    errorMessage := field "error_message" }

@[simp] theorem ofFields_fields (e : Event) : ofFields e.fields = e := by
  simp [ofFields, fields, List.lookup_cons]

/-- Whether the event ends a compilation. -/
def endsCompilation (e : Event) : Bool := e.event.same (.text compileEnd)

/-- A value, or a stand-in for one that counts as false. -/
def labelValue (v : Value) (standIn : String) : Except Failure Value := do
  return if ← v.truthy then v else .text standIn

/-- The labels that an event's metrics are kept under. -/
def labels (e : Event) : Except Failure (List (String × String)) := do
  let compiler ← labelValue e.compiler "unknown"
  let clauseKind ← labelValue e.clauseKind "unknown"
  let errorType ← labelValue e.errorType "none"
  return [("compiler", ← compiler.plain), ("clause_kind", ← clauseKind.plain),
    ("error_type", ← errorType.plain)]

end Event

end RowInsert
