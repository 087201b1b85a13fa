import RowInsert.Value.Basic

/-!
# Named types and their instances

* `TypeName` is a type that a binding may be required to have.
* `Value.types` lists the named types that a value is an instance of, its own first: a truth value
  is a whole number, a moment is a date, everything is an object, and a node is an instance of
  every class that its own is derived from.
* `Value.isInstance` is membership in that list.
-/

namespace RowInsert

/-- A type known by name. -/
inductive TypeName where
  | nullType
  | bool
  | int
  | float
  | text
  | bytes
  | changeableBytes
  | bytesView
  | date
  | moment
  | decimal
  | complex
  | object
  | list
  | tuple
  | dictionary
  | set
  | frozenSet
  | range
  | orderedDictionary
  | defaultingDictionary
  | deque
  | readOnlyMapping
  | derivedText
  | colour
  | caselessMap
  | indexed
  | bag
  | node
  | clause
  | rawClause
  | ruleClause
  deriving DecidableEq, Repr

namespace TypeName

/-- All named types, in the order of their declaration. -/
def all : List TypeName :=
  [.nullType, .bool, .int, .float, .text, .bytes, .changeableBytes, .bytesView, .date, .moment,
    .decimal, .complex, .object, .list, .tuple, .dictionary, .set, .frozenSet, .range,
    .orderedDictionary, .defaultingDictionary, .deque, .readOnlyMapping, .derivedText, .colour,
    .caselessMap, .indexed, .bag, .node, .clause, .rawClause, .ruleClause]

theorem mem_all (t : TypeName) : t ∈ all := by cases t <;> decide

def name : TypeName → String
  | .nullType => "NoneType"
  | .bool => "bool"
  | .int => "int"
  | .float => "float"
  | .text => "str"
  | .bytes => "bytes"
  | .changeableBytes => "bytearray"
  | .bytesView => "memoryview"
  | .date => "date"
  | .moment => "datetime"
  | .decimal => "Decimal"
  | .complex => "complex"
  | .object => "object"
  | .list => "list"
  | .tuple => "tuple"
  | .dictionary => "dict"
  | .set => "set"
  | .frozenSet => "frozenset"
  | .range => "range"
  | .orderedDictionary => "OrderedDict"
  | .defaultingDictionary => "defaultdict"
  | .deque => "deque"
  | .readOnlyMapping => "mappingproxy"
  | .derivedText => "StrSub"
  | .colour => "Color"
  | .caselessMap => "CaseMap"
  | .indexed => "SeqOnly"
  | .bag => "SizedBag"
  | .node => "ASTNode"
  | .clause => "InsertClauseNode"
  | .rawClause => "RawInsertClauseNode"
  | .ruleClause => "RuleInsertClauseNode"

/-- The type of that name. -/
def ofName? (name : String) : Option TypeName := all.find? (·.name == name)

end TypeName

namespace NodeClass

/-- The named types that a class of nodes is or is derived from. -/
def types : NodeClass → List TypeName
  | .object => [.object]
  | .node => [.node, .object]
  | .clause => [.clause, .node, .object]
  | .raw => [.rawClause, .clause, .node, .object]
  | .rule => [.ruleClause, .clause, .node, .object]

end NodeClass

namespace Value

/-- The named types that a value is an instance of. -/
def types : Value → List TypeName
  | .null => [.nullType, .object]
  | .bool _ => [.bool, .int, .object]
  | .int _ => [.int, .object]
  | .float .. => [.float, .object]
  | .complex .. => [.complex, .object]
  | .text _ => [.text, .object]
  | .derivedText .. => [.derivedText, .text, .object]
  | .colour _ => [.colour, .int, .object]
  | .bytes .constant _ _ => [.bytes, .object]
  | .bytes .changeable _ _ => [.changeableBytes, .object]
  | .bytes .view _ _ => [.bytesView, .object]
  | .sequence .list _ _ => [.list, .object]
  | .sequence .tuple _ _ => [.tuple, .object]
  | .sequence .set _ _ => [.set, .object]
  | .sequence .frozenSet _ _ => [.frozenSet, .object]
  | .sequence .deque _ _ => [.deque, .object]
  | .sequence .indexed _ _ => [.indexed, .object]
  | .sequence (.bag _) _ _ => [.bag, .object]
  | .mapping .plain _ _ => [.dictionary, .object]
  | .mapping .ordered _ _ => [.orderedDictionary, .dictionary, .object]
  | .mapping (.defaulting _) _ _ => [.defaultingDictionary, .dictionary, .object]
  | .mapping .readOnly _ _ => [.readOnlyMapping, .object]
  | .mapping .caseless _ _ => [.caselessMap, .object]
  | .range _ => [.range, .object]
  | .stream .. => [.object]
  | .date _ => [.date, .object]
  | .moment _ => [.moment, .date, .object]
  | .decimal .. => [.decimal, .object]
  | .object _ => [.object]
  | .record cls _ _ =>
    match cls.nodeClass? with
    | some base => base.types
    | none => [.object]

/-- Whether a value is an instance of a type. -/
def isInstance (v : Value) (t : TypeName) : Bool := v.types.contains t

/-- Everything is an object. -/
theorem isInstance_object (v : Value) : v.isInstance .object = true := by
  cases v with
  | bytes kind _ _ => cases kind <;> rfl
  | sequence kind _ _ => cases kind <;> rfl
  | mapping kind _ _ => cases kind <;> rfl
  | record cls _ _ =>
    simp only [isInstance, types]
    cases cls.nodeClass? with
    | none => rfl
    | some base => cases base <;> rfl
  | _ => rfl

end Value

end RowInsert
