import RowInsert.Json.Basic
import RowInsert.Value.Listing
import RowInsert.Value.Order

/-!
# JSON documents of values

* `Json.ofValue` is the document of a value: lists and tuples are arrays, dictionaries are objects
  with their members in the order of their keys, and any other value without a JSON form stands as
  its text.  A container inside itself has no document.
* `Json.memberName` is the name that a key has in an object.
-/

namespace RowInsert

namespace Json

/-- The name of a member, for the keys that have one. -/
def memberName (key : Value) : Except Failure String :=
  match key with
  | .text s | .derivedText s _ => .ok s
  | .null => .ok "null"
  | .bool b => .ok (if b then "true" else "false")
  | .int _ | .colour _ => .ok key.wholeText
  | .float x _ => .ok (FloatStyle.json.text x)
  | _ => .error (.keyNotScalar key.qualifiedName)

/-- The object of these members, sorted by their keys before these become names.  A member whose
value failed is an error only when its turn comes. -/
def ofMembers (members : List (Value × Except Failure Json)) : Except Failure Json := do
  let sorted ← sortKeyed members
  return .object (← sorted.mapM fun (key, value) => do return (← memberName key, ← value))

/-- The document of a container inside containers of the given identities; it may not be one of
them. -/
def unlessWithin (outer : List Identity) (i : Identity) (document : Except Failure Json) :
    Except Failure Json :=
  if i != 0 && outer.contains i then .error .circular else document

/-- The object of an ordered mapping, which is asked for its entries unless it has none. -/
def ofOrdered (refusal : Option Failure) (entries : List (Value × Except Failure Json)) :
    Except Failure Json :=
  match entries, refusal with
  | _ :: _, some f => .error f
  | _, _ => ofMembers entries

mutual

/-- The document of a value inside containers of the given identities; `refusal` tells of ordered
mappings that do not give their entries. -/
def ofValueIn (refusal : Identity → Option Failure) (outer : List Identity) :
    Value → Except Failure Json
  | .null => .ok .null
  | .bool b => .ok (.bool b)
  | v@(.int _) => .ok (.number v.wholeText)
  | v@(.colour _) => .ok (.number v.wholeText)
  | .float x _ => .ok (.number (FloatStyle.json.text x))
  | .text s => .ok (.text s)
  | .derivedText s _ => .ok (.text s)
  | .sequence .list i items =>
    unlessWithin outer i do return .array (← ofItems refusal (i :: outer) items)
  | .sequence .tuple i items =>
    unlessWithin outer i do return .array (← ofItems refusal (i :: outer) items)
  | v@(.mapping kind i entries) =>
    match kind with
    | .plain | .defaulting _ =>
      unlessWithin outer i (ofMembers (ofEntries refusal (i :: outer) entries))
    | .ordered =>
      unlessWithin outer i (ofOrdered (refusal i) (ofEntries refusal (i :: outer) entries))
    | .readOnly | .caseless => do return .text (← v.plain)
  | v => do return .text (← v.plain)

def ofItems (refusal : Identity → Option Failure) (outer : List Identity) :
    List Value → Except Failure (List Json)
  | [] => .ok []
  | x :: xs => do return (← ofValueIn refusal outer x) :: (← ofItems refusal outer xs)

/-- The keys with the documents of their values; none fails yet. -/
def ofEntries (refusal : Identity → Option Failure) (outer : List Identity) :
    List (Value × Value) → List (Value × Except Failure Json)
  | [] => []
  | (k, v) :: es => (k, ofValueIn refusal outer v) :: ofEntries refusal outer es

end

/-- The document of a value. -/
def ofValue (v : Value) : Except Failure Json := ofValueIn (fun _ => none) [] v

/-- The line that a value is logged as, where some mappings may refuse their entries. -/
def lineUnless (refusal : Identity → Option Failure) (v : Value) : Except Failure String :=
  (ofValueIn refusal [] v).map fun j => String.ofList j.render

end Json

end RowInsert
