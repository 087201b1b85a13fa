import RowInsert.Identifier
import RowInsert.Settings

/-!
# Records of the library's own classes

* `Record.make` makes a record from the fields that are given, and fails if one is not declared,
  one without a default is missing, or a limit is refused.
-/

namespace RowInsert

namespace RecordClass

/-- The fields that need not be given, with their defaults; containers among these are new objects
of the given identity. -/
def defaults (fresh : Identity) : RecordClass → List (String × Value)
  | .raw => [("bindings", .null)]
  | .query => [("params", .sequence .list fresh [])]
  | .quoter => [("open_char", Delimiters.ansi.opening), ("close_char", Delimiters.ansi.closing)]
  | .settings => [("max_batch_size", Settings.standard.limit)]
  | .observability => [("event_observer", .null), ("metadata", .mapping .plain fresh [])]
  | .event => [("metadata", .mapping .plain fresh []), ("table", .null), ("row_count", .null),
      ("column_count", .null), ("param_count", .null), ("duration_ms", .null),
      ("error_type", .null), ("error_message", .null)]
  | _ => []

/-- The fields that have to be given. -/
def required (cls : RecordClass) : List String :=
  cls.fieldNames.filter fun name => ((cls.defaults 0).lookup name).isNone

end RecordClass

namespace Record

/-- The fields of a new record: those given, and defaults for the others. -/
def fields (cls : RecordClass) (fresh : Identity) (given : List (String × Value)) :
    Except Failure (List (String × Value)) := do
  match given.find? fun f => !cls.fieldNames.contains f.1 with
  | some (name, _) => throw (.unexpectedArgument (constructorOf cls.name) name)
  | none => pure ()
  let missing := cls.required.filter fun name => (given.lookup name).isNone
  if !missing.isEmpty then throw (.missingArguments (constructorOf cls.name) false missing)
  return cls.fieldNames.map fun name =>
    (name, ((given.lookup name).or ((cls.defaults fresh).lookup name)).getD .null)

/-- A new record of a class that has a constructor. -/
def make (cls : RecordClass) (identity fresh : Identity) (given : List (String × Value)) :
    Except Failure Value := do
  let fs ← fields cls fresh given
  if cls = .settings then
    let _ ← Settings.ofLimit ((fs.lookup "max_batch_size").getD .null)
  return .record cls identity fs

end Record

end RowInsert
