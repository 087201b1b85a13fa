import RowInsert.Value.Basic

/-!
# Changes in place

A container or record that is changed in place changes wherever it occurs.

* `Value.amend` puts a new form of the object of some identity in the place of the old one.
* `Value.tied` is the new form of an object that may contain itself.
-/

namespace RowInsert

namespace Value

mutual

/-- The value with every occurrence of the object `i` in its new form. -/
def amend : Value → Identity → Value → Value
  | v@(.bytes _ j _), i, new => if j = i then new else v
  | .sequence kind j items, i, new =>
    if j = i then new else .sequence kind j (amendItems items i new)
  | .mapping kind j entries, i, new =>
    if j = i then new else .mapping kind j (amendEntries entries i new)
  | .stream j items failure, i, new => .stream j (amendItems items i new) failure
  | .record cls j fields, i, new =>
    if j = i then new else .record cls j (amendFields fields i new)
  | v, _, _ => v

def amendItems : List Value → Identity → Value → List Value
  | [], _, _ => []
  | x :: xs, i, new => amend x i new :: amendItems xs i new

def amendEntries : List (Value × Value) → Identity → Value → List (Value × Value)
  | [], _, _ => []
  | (k, v) :: es, i, new => (amend k i new, amend v i new) :: amendEntries es i new

def amendFields : List (String × Value) → Identity → Value → List (String × Value)
  | [], _, _ => []
  | (name, v) :: fs, i, new => (name, amend v i new) :: amendFields fs i new

end

/-- The new form of an object that may contain itself: inside, too, it has the new form, to the
depth of one occurrence in another. -/
def tied (new : Value) : Value :=
  match new with
  | .sequence kind i items => .sequence kind i (amendItems items i new)
  | .mapping kind i entries => .mapping kind i (amendEntries entries i new)
  | .record cls i fields => .record cls i (amendFields fields i new)
  | v => v

end Value

end RowInsert
