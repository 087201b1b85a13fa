import RowInsert.Value.Listing

/-!
# Errors of compilations made by hand

* `ErrorReport` is an error of one of the kinds of compilations, with details and further fields
  that may be any values.
* `ErrorReport.make` makes one: two kinds require further fields, and the others allow none.
-/

namespace RowInsert

namespace ErrorKind

/-- The further fields that an error of the kind has. -/
def extraFields : ErrorKind → List String
  | .limitExceeded => ["count", "limit"]
  | .invalidBinding => ["position", "value_type"]
  | _ => []

end ErrorKind

/-- An error with its details. -/
structure ErrorReport where
  kind : ErrorKind
  operation : Value
  clauseKind : Value
  reason : Value
  extra : List (String × Value)
  message : String
  deriving Repr

namespace ErrorReport

/-- The arguments that a constructor gets by their places. -/
def placed : List String := ["self", "details"]

/-- The first of the further fields that the kind does not take, or that it has already. -/
def misplaced? (kind : ErrorKind) (extra : List (String × Value)) : Option Failure :=
  let function := constructorOf
    (if kind.extraFields.isEmpty then ErrorKind.compilation.name else kind.name)
  extra.findSome? fun (name, _) =>
    if placed.contains name then some (.repeatedArgument function name)
    else if kind.extraFields.contains name then none
    else some (.unexpectedArgument function name)

/-- An error with these details and further fields. -/
def make (kind : ErrorKind) (operation clauseKind reason : Value)
    (extra : List (String × Value)) : Except Failure ErrorReport := do
  match misplaced? kind extra with
  | some f => throw f
  | none => pure ()
  let missing := kind.extraFields.filter fun name => (extra.lookup name).isNone
  if !missing.isEmpty then throw (.missingArguments (constructorOf kind.name) true missing)
  let operationText ← operation.plain
  let reasonText ← reason.plain
  return { kind, operation, clauseKind, reason, extra,
           message := kind.compose operationText reasonText }

end ErrorReport

end RowInsert
