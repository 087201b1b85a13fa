import RowInsert.Identifier
import RowInsert.State

/-!
# Dictionaries made of other values

* `Run.dictionary` is the new dictionary of a value: the entries of a mapping, or the pairs that
  the value can be walked as, later ones in the place of earlier ones with the same key.
-/

namespace RowInsert

namespace Entries

/-- The entries of a mapping as a dictionary has them. -/
def copied (kind : MappingKind) (entries : List (Value × Value)) :
    Except Failure (List (Value × Value)) := do
  Value.checkKeys kind entries
  return if kind = .caseless then settled entries else entries

end Entries

namespace Run

/-- The two parts of an element that is a pair, itself walked as a sequence. -/
def pairAt (position : Nat) (element : Value) : Run (Value × Value) := do
  let parts ← match element with
    | .stream i items failure => readStream none i items failure
    | _ => require element.items? (.pairNotSequence position)
  match parts with
  | [k, v] =>
    match k.unhashable? with
    | some f => throw f
    | none => return (k, v)
  | _ => throw (.pairLength position parts.length)

/-- The entries of a dictionary after these elements are added; `taking` is done before each. -/
def addPairs (taking : Run Unit) :
    Nat → List (Value × Value) → List Value → Run (List (Value × Value))
  | _, entries, [] => pure entries
  | position, entries, element :: rest => do
    taking
    let (k, v) ← pairAt position element
    addPairs taking (position + 1) (Entries.put entries k v) rest

/-- Fails for a value that is asked for its keys and has something else in the place of the function
that tells them. -/
def checkKeysOf (v : Value) : Run Unit := do
  match (← get).attribute? v "keys" with
  | some x => throw x.callEmpty
  | none => pure ()

/-- The entries of the dictionary made of a value that is no plain one. -/
def converted (v : Value) : Run (List (Value × Value)) := do
  checkKeysOf v
  match v with
  | .mapping kind _ entries => lift (Entries.copied kind entries)
  | .stream i items failure => do
    let rest := (← get).streams.rest i items
    let entries ← addPairs (advance i 1) 0 [] rest
    finish i failure
    return entries
  | _ => do
    let items ← require v.itemsByType? (.notIterable v.qualifiedName)
    addPairs (pure ()) 0 [] items

/-- The entries of the dictionary made of a value. -/
def dictionary (v : Value) : Run (List (Value × Value)) :=
  match v with
  | .mapping .plain _ entries => pure entries
  | _ => converted v

end Run

end RowInsert
