import RowInsert.Failure
import RowInsert.Value.Members

/-!
# Assignment to attributes

* `Value.holdsAttributes` says whether a value takes attributes of any name.
* `Value.refusal?` tells why an assignment to an attribute of a value is refused, if it is.
-/

namespace RowInsert

/-- The attribute that is the class of a value. -/
def classAttribute : String := "__class__"

/-- The attribute that is the dictionary of all attributes. -/
def dictionaryAttribute : String := "__dict__"

/-- The attribute for references that do not keep an object. -/
def referenceAttribute : String := "__weakref__"

/-- The attribute of a defaulting mapping that is asked for missing keys. -/
def supplierAttribute : String := "default_factory"

/-- The attribute of a query that counts its placeholders. -/
def countAttribute : String := "placeholder_count"

namespace RecordClass

/-- The functions and descriptions that belong to the class of records with their fields alone. -/
def closedMembers : List String :=
  words ["__annotations__ __dataclass_fields__ __dataclass_params__ __match_args__ __module__",
    "__slots__"]

end RecordClass

namespace Value

/-- Whether objects of the type of a value take attributes of any name. -/
def holdsAttributes : Value → Bool
  | .derivedText .. | .colour _ | .mapping .ordered _ _ | .mapping .caseless _ _
  | .sequence .indexed _ _ | .sequence (.bag _) _ _ => true
  | .record cls _ _ => !cls.closed
  | _ => false

/-- Whether a value is a dictionary, or of a class derived from that of dictionaries. -/
def isDictionary : Value → Bool
  | .mapping .plain _ _ | .mapping .ordered _ _ | .mapping (.defaulting _) _ _ => true
  | _ => false

/-- The refusal to write a part that can be read but not written. -/
def partRefusal? (target : Value) (name : String) : Option Failure :=
  (target.unwritable? name).map fun owner =>
    match owner with
    | some type => .attributeNotWritable type name
    | none => .memberReadOnly

/-- The class that makes an object that takes attributes referable without being kept. -/
def referable? : Value → Option String
  | .colour _ => some "Enum"
  | .mapping .ordered _ _ => none
  | .record cls _ _ => some cls.referable
  | v => some v.typeName

/-- The refusal of an object that takes attributes of other names. -/
def namedRefusal? (target : Value) (name : String) (v : Value) : Option Failure :=
  if name = dictionaryAttribute then
    if v.isDictionary then none else some (.attributesNotDictionary v.qualifiedName)
  else if name = referenceAttribute then
    target.referable?.map fun owner => .attributeNotWritable owner name
  else
    match target with
    | .record .query _ _ =>
      if name = countAttribute then some (.noSetter target.typeName name) else none
    | .colour _ =>
      if name = "name" ∨ name = "value" then some (.enumerationFixed name)
      else target.partRefusal? name
    | _ => none

/-- The refusal of an object whose attributes are fixed by its type. -/
def fixedRefusal? (target : Value) (name : String) (v : Value) : Option Failure :=
  match target with
  | .record cls _ _ =>
    if cls.fieldNames.contains name then none
    else if commonMembers.contains name || RecordClass.closedMembers.contains name then
      some (.attributeReadOnly cls.name name)
    else some (.noPlaceFor cls.name name)
  | _ =>
    if name = supplierAttribute && isSupplied target then none
    else if isStream target && (name = "__name__" ∨ name = "__qualname__") then
      if v.isText then none else some (.nameNotText name)
    else if target.fixedMembers.contains name then
      some (.attributeReadOnly target.qualifiedName name)
    else (target.partRefusal? name).or (some (.noPlaceFor target.qualifiedName name))
where
  isSupplied : Value → Bool
    | .mapping (.defaulting _) _ _ => true
    | _ => false
  isStream : Value → Bool
    | .stream .. => true
    | _ => false

/-- Why the assignment of `v` to an attribute is refused. -/
def refusal? (target : Value) (name : String) (v : Value) : Option Failure :=
  match target with
  | .record cls _ _ => if cls.frozen then some (.fieldFrozen name) else general
  | _ => general
where
  general : Option Failure :=
    if name = classAttribute then some (.classNotClass v.qualifiedName)
    else if target.holdsAttributes then target.namedRefusal? name v
    else target.fixedRefusal? name v

/-- A frozen record refuses every assignment. -/
theorem refusal?_frozen {cls : RecordClass} (h : cls.frozen = true) (i : Identity)
    (fields : List (String × Value)) (name : String) (v : Value) :
    refusal? (.record cls i fields) name v = some (.fieldFrozen name) := by
  simp only [refusal?, h, ↓reduceIte]

end Value

end RowInsert
