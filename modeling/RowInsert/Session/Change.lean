import RowInsert.Session.Basic

/-!
# Changes in place

* `Value.appended`, `Value.cleared` and `Value.withItem` are a container after one more item, after
  the loss of all items, and after one item was replaced; they fail for what cannot be changed so.
* `Session.assign` assigns an attribute of an object.
-/

namespace RowInsert

namespace Value

/-- A value as a byte. -/
def byte (v : Value) : Except Failure UInt8 :=
  match v.whole? with
  | some n => if 0 ≤ n ∧ n < 256 then .ok (UInt8.ofNat n.toNat) else .error .byteOutOfRange
  | none => .error (.notWhole v.qualifiedName)

/-- Whether items can be appended to a value. -/
def appendable : Value → Bool
  | .sequence .list _ _ | .sequence .deque _ _ | .bytes .changeable _ _ => true
  | _ => false

/-- Whether a value can be emptied. -/
def clearable : Value → Bool
  | .sequence .set _ _ => true
  | v => v.appendable || v.isDictionary

/-- A container with one more item. -/
def appended (target v : Value) : Except Failure Value :=
  match target with
  | .sequence kind i items => .ok (.sequence kind i (items ++ [v]))
  | .bytes kind i contents => do return .bytes kind i (contents ++ [← v.byte])
  | _ => .ok target

/-- A container without its items. -/
def cleared : Value → Value
  | .sequence kind i _ => .sequence kind i []
  | .mapping kind i _ => .mapping kind i []
  | .bytes kind i _ => .bytes kind i []
  | v => v

/-- The place in a container of so many items that a key means, counted from the end if it is
negative. -/
def place (size : Nat) (key : Value) (notWhole outOfRange : Failure) : Except Failure Nat :=
  match key.whole? with
  | none => .error notWhole
  | some n =>
    if greatestIndex < n ∨ n < -greatestIndex - 1 then .error .indexTooLarge
    else
      let place := if n < 0 then n + size else n
      if 0 ≤ place ∧ place < size then .ok place.toNat else .error outOfRange

/-- A container with the item at a key replaced. -/
def withItem (target key v : Value) : Except Failure Value :=
  match target with
  | .mapping .readOnly _ _ | .mapping .caseless _ _ =>
    .error (.noItemAssignment target.qualifiedName)
  | .mapping kind i entries =>
    match key.unhashable? with
    | some f => .error f
    | none => .ok (.mapping kind i (Entries.put entries key v))
  | .sequence .list i items => do
    let n ← place items.length key (.indexNotWhole target.typeName key.qualifiedName)
      (.indexOutOfRange (target.typeName ++ " assignment"))
    return .sequence .list i (items.set n v)
  | .sequence .deque i items => do
    let n ← place items.length key (.positionNotWhole key.qualifiedName)
      (.indexOutOfRange target.typeName)
    return .sequence .deque i (items.set n v)
  | .bytes .changeable i contents => do
    let n ← place contents.length key (.indexNotWhole target.typeName key.qualifiedName)
      (.indexOutOfRange target.typeName)
    return .bytes .changeable i (contents.set n (← v.byte))
  | .bytes .view _ _ => .error .readOnlyMemory
  | _ => .error (.noItemAssignment target.qualifiedName)

/-- What a value supplies for missing keys. -/
def supplier (v : Value) : Supplier :=
  if v.isNull then .absent
  else if (Delimiters.ofValue? v).isSome then .quoter
  else .unfit v.qualifiedName

/-- Attributes after an assignment to one of them, or to all. -/
def assignAttribute (own : List (String × Value)) (name : String) (v : Value) :
    List (String × Value) :=
  if name = dictionaryAttribute then v.attributeEntries else putNamed own name v

end Value

namespace Session

/-- The named object is replaced by a new form of it. -/
def change (s : Session) (target : Value) (form : Except Failure Value) :
    Except Failure Session :=
  form.map (s.amend target)

/-- The attributes that an object has of its own. -/
def ownAttributes (s : Session) (v : Value) : List (String × Value) :=
  match v with
  | .record _ _ fields => fields
  | _ => s.state.assigned v.identity

/-- A dictionary is made the one that an object has its attributes in. -/
def shareAttributes (s : Session) (target dictionary : Value) : Session :=
  let others := s.dictionaries.filter fun (object, _) => object.identity != target.identity
  { s with
    dictionaries := (target, dictionary) :: others
    bare := target.identity :: s.bare }

/-- An attribute of an object is assigned. -/
def assign (s : Session) (target : Value) (name : String) (v : Value) :
    Except Failure Session :=
  match target.refusal? name v, target with
  | some f, _ => .error f
  | none, .mapping (.defaulting _) i entries =>
    .ok (s.amend target (.mapping (.defaulting v.supplier) i entries))
  | none, .stream .. => .ok s
  | none, _ =>
    let own := Value.assignAttribute (s.ownAttributes target) name v
    if name = dictionaryAttribute then .ok ((s.shareAttributes target v).giveAttributes target own)
    else
      match s.dictionaries.find? fun (object, _) => object.identity == target.identity with
      | some (_, d@(.mapping kind i entries)) =>
        .ok (s.amend d (.mapping kind i (Entries.put entries (.text name) v)))
      | _ => .ok (s.giveAttributes target own)

/-- The fields of a new record after an attribute is assigned to it. -/
def equip (s : Session) (cls : RecordClass) (i : Identity) (fields : List (String × Value))
    (name : String) (v : Value) : Except Failure (List (String × Value) × Session) := do
  let after ← s.assign (.record cls i fields) name v
  return (Value.assignAttribute fields name v, after)

/-- A record has the attribute that was assigned to it. -/
theorem attribute?_assignAttribute {fields : List (String × Value)} {name : String}
    (h : name ≠ dictionaryAttribute) (cls : RecordClass) (i : Identity) (v : Value) :
    Value.attribute? (.record cls i (Value.assignAttribute fields name v)) name = some v := by
  simp only [Value.attribute?, Value.assignAttribute, h, ↓reduceIte, lookup_putNamed_self]

end Session

end RowInsert
