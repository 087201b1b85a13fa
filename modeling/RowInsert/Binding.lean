import RowInsert.Failure
import RowInsert.Query
import RowInsert.Value.TypeName

/-!
# Validation of bindings

* `AllowedTypes` are the types that a bound value may have; `AllowedTypes.extend` allows more.
* `AllowedTypes.check` accepts a list of bound values, or fails for the first that is an instance
  of none of them.
* `AllowedTypes.validate` is that check as a step on compiled queries.
-/

namespace RowInsert

/-- The types that a bound value may have. -/
structure AllowedTypes where
  names : List TypeName
  deriving DecidableEq, Repr

namespace AllowedTypes

/-- The types that every database binds. -/
def standard : AllowedTypes :=
  ⟨[.nullType, .bool, .int, .float, .text, .bytes, .changeableBytes, .bytesView]⟩

/-- More types are allowed. -/
def extend (a : AllowedTypes) (more : List TypeName) : AllowedTypes := ⟨a.names ++ more⟩

/-- Whether a value is an instance of an allowed type. -/
def admits (a : AllowedTypes) (v : Value) : Bool := a.names.any v.isInstance

/-- Checks bound values of which the first is at `position`. -/
def checkFrom (a : AllowedTypes) (position : Nat) : List Value → Except Failure Unit
  | [] => .ok ()
  | v :: rest =>
    if a.admits v then checkFrom a (position + 1) rest
    else .error (.unsupportedBinding position v.typeName)

/-- Checks bound values: the first that is not admitted fails, with its position and type. -/
def check (a : AllowedTypes) (params : List Value) : Except Failure Unit := a.checkFrom 0 params

/-- The check of a query's bindings; the query is left as it is. -/
def validate (a : AllowedTypes) (q : Query) : Except Failure Query := do
  a.check q.params
  return q

theorem check_nil (a : AllowedTypes) : a.check [] = .ok () := rfl

theorem mem_names_extend {a : AllowedTypes} {more : List TypeName} {t : TypeName} :
    t ∈ (a.extend more).names ↔ t ∈ a.names ∨ t ∈ more := List.mem_append

end AllowedTypes

end RowInsert
