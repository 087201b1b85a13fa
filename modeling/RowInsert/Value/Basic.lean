import RowInsert.Number.Binary64
import RowInsert.Number.Decimal

/-!
# Run-time values

A clause, its table name, its rows and its bindings may each be any value of a dynamically typed
host, and what is accepted depends on the type a value has when the program runs.

* `Value` is such a value, as an immutable tree.  A value that the host compares by identity, or
  that may be changed in place, carries an `Identity`; nothing else depends on it.
* `Value.typeName` is the name of a value's type, `Value.qualifiedName` the name with its module
  where that is usual.
* `Value.whole?` is the number of a value that counts as a whole number.
-/

namespace RowInsert

/-- Which object a value is, where that matters; zero stands for no object in particular. -/
abbrev Identity := Nat

/-- Byte strings: constant, changeable, or a view of either. -/
inductive BytesKind where
  | constant
  | changeable
  | view
  deriving DecidableEq, Repr

/-- Containers of values.  An `indexed` one can be read by position only, a `bag` can be walked
but claims a size of its own, which need be no size at all. -/
inductive SequenceKind where
  | list
  | tuple
  | set
  | frozenSet
  | deque
  | indexed
  | bag (claimed : Int)
  deriving DecidableEq, Repr

/-- What a mapping asks for the value of a missing key. -/
inductive Supplier where
  /-- Supplies a text. -/
  | standard
  /-- Nothing is asked. -/
  | absent
  /-- A quoter of identifiers, which wants an identifier. -/
  | quoter
  /-- An object of a type that cannot be asked. -/
  | unfit (typeName : String)
  deriving DecidableEq, Repr

/-- Mappings.  A `defaulting` one makes an entry when a missing key is read; a `caseless` one
keeps its pairs as given and looks texts up without regard to case. -/
inductive MappingKind where
  | plain
  | ordered
  | defaulting (supplier : Supplier)
  | readOnly
  | caseless
  deriving DecidableEq, Repr

/-- The classes that a node's class may be derived from, the most general first. -/
inductive NodeClass where
  | object
  | node
  | clause
  | raw
  | rule
  deriving DecidableEq, Repr

/-- The classes of records.  A `derived` one has a name of its own, whatever it is derived from,
and is a class of its own, told apart by `tag`.  A `compiler` has a name of its own too; nothing is
told of it but the attributes that were assigned to it. -/
inductive RecordClass where
  | raw
  | rule
  | query
  | quoter
  | settings
  | details
  | observability
  | metricPoint
  | event
  | derived (name : String) (base : NodeClass) (tag : Identity)
  | compiler (name : String)
  deriving DecidableEq, Repr

/-- The two members of the enumeration of colours, which count as whole numbers. -/
inductive Colour where
  | red
  | blue
  deriving DecidableEq, Repr

structure Date where
  year : Nat
  month : Nat
  day : Nat
  deriving DecidableEq, Repr

/-- A date with a time of day. -/
structure Moment where
  date : Date
  hour : Nat
  minute : Nat
  second : Nat
  microsecond : Nat
  deriving DecidableEq, Repr

/-- An arithmetic progression that excludes its stop. -/
structure Progression where
  start : Int
  stop : Int
  step : Int
  deriving DecidableEq, Repr

/-- A run-time value. -/
inductive Value where
  | null
  | bool (b : Bool)
  | int (n : Int)
  | float (x : Binary64) (identity : Identity)
  | complex (re im : Binary64) (identity : Identity)
  | text (s : String)
  /-- A text of a class derived from that of texts. -/
  | derivedText (s : String) (identity : Identity)
  | colour (c : Colour)
  | bytes (kind : BytesKind) (identity : Identity) (contents : List UInt8)
  | sequence (kind : SequenceKind) (identity : Identity) (items : List Value)
  | mapping (kind : MappingKind) (identity : Identity) (entries : List (Value × Value))
  | range (r : Progression)
  /-- Items that can be read once, and the failure that may follow them. -/
  | stream (identity : Identity) (items : List Value) (failure : Option String)
  | date (d : Date)
  | moment (m : Moment)
  | decimal (d : Decimal) (identity : Identity)
  | object (identity : Identity)
  | record (cls : RecordClass) (identity : Identity) (fields : List (String × Value))
  deriving Repr, Inhabited

/-! ### Names of types -/

namespace BytesKind

def name : BytesKind → String
  | .constant => "bytes"
  | .changeable => "bytearray"
  | .view => "memoryview"

end BytesKind

namespace SequenceKind

def name : SequenceKind → String
  | .list => "list"
  | .tuple => "tuple"
  | .set => "set"
  | .frozenSet => "frozenset"
  | .deque => "deque"
  | .indexed => "SeqOnly"
  | .bag _ => "SizedBag"

end SequenceKind

namespace MappingKind

def name : MappingKind → String
  | .plain => "dict"
  | .ordered => "OrderedDict"
  | .defaulting _ => "defaultdict"
  | .readOnly => "mappingproxy"
  | .caseless => "CaseMap"

end MappingKind

namespace NodeClass

def name : NodeClass → String
  | .object => "object"
  | .node => "ASTNode"
  | .clause => "InsertClauseNode"
  | .raw => "RawInsertClauseNode"
  | .rule => "RuleInsertClauseNode"

/-- The fields that a class of nodes declares. -/
def fieldNames : NodeClass → List String
  | .raw => ["sql", "bindings"]
  | .rule => ["table", "values"]
  | _ => []

end NodeClass

namespace RecordClass

def name : RecordClass → String
  | .raw => NodeClass.raw.name
  | .rule => NodeClass.rule.name
  | .query => "CompiledQuery"
  | .quoter => "IdentifierQuoter"
  | .settings => "CompilerSettings"
  | .details => "CompilationErrorDetails"
  | .observability => "ObservabilitySettings"
  | .metricPoint => "MetricPoint"
  | .event => "CompileEvent"
  | .derived name _ _ => name
  | .compiler name => name

/-- The fields of a class, in the order of their declaration. -/
def fieldNames : RecordClass → List String
  | .raw => NodeClass.raw.fieldNames
  | .rule => NodeClass.rule.fieldNames
  | .query => ["sql", "params"]
  | .quoter => ["open_char", "close_char"]
  | .settings => ["max_batch_size"]
  | .details => ["operation", "clause_kind", "reason"]
  | .observability => ["event_observer", "metadata"]
  | .metricPoint => ["name", "labels", "value"]
  | .event => ["timestamp", "event", "compiler", "clause_kind", "success", "metadata", "table",
      "row_count", "column_count", "param_count", "duration_ms", "error_type", "error_message"]
  | .derived _ base _ => base.fieldNames
  | .compiler _ => []

/-- Whether the fields of a record may not be changed. -/
def frozen : RecordClass → Bool
  | .quoter | .settings | .observability | .metricPoint | .event => true
  | _ => false

/-- Whether a record has its declared fields and no others. -/
def closed : RecordClass → Bool
  | .details => true
  | _ => false

/-- Whether two records of the class are compared by their fields, and not by identity. -/
def comparesFields : RecordClass → Bool
  | .derived _ .object _ | .compiler _ => false
  | _ => true

/-- The name of the class that makes objects of the class referable without being kept. -/
def referable (cls : RecordClass) : String :=
  match cls with
  | .raw | .rule => NodeClass.node.name
  | .derived name .object _ => name
  | .derived .. => NodeClass.node.name
  | .compiler _ => "Visitor"
  | _ => cls.name

/-- The class of nodes that the class is, or is derived from. -/
def nodeClass? : RecordClass → Option NodeClass
  | .raw => some .raw
  | .rule => some .rule
  | .derived _ base _ => some base
  | _ => none

end RecordClass

namespace Colour

def number : Colour → Int
  | .red => 1
  | .blue => 2

def name : Colour → String
  | .red => "RED"
  | .blue => "BLUE"

/-- Each colour is one object. -/
def identity : Colour → Identity
  | .red => 1
  | .blue => 2

end Colour

namespace Value

/-- The name of the type of a value. -/
def typeName : Value → String
  | .null => "NoneType"
  | .bool _ => "bool"
  | .int _ => "int"
  | .float .. => "float"
  | .complex .. => "complex"
  | .text _ => "str"
  | .derivedText .. => "StrSub"
  | .colour _ => "Color"
  | .bytes kind _ _ => kind.name
  | .sequence kind _ _ => kind.name
  | .mapping kind _ _ => kind.name
  | .range _ => "range"
  | .stream .. => "generator"
  | .date _ => "date"
  | .moment _ => "datetime"
  | .decimal .. => "Decimal"
  | .object _ => "object"
  | .record cls _ _ => cls.name

/-- The name of the type of a value, with its module where the host's own messages give it. -/
def qualifiedName : Value → String
  | .date _ => "datetime.date"
  | .moment _ => "datetime.datetime"
  | .decimal .. => "decimal.Decimal"
  | .sequence .deque _ _ => "collections.deque"
  | .mapping .ordered _ _ => "collections.OrderedDict"
  | .mapping (.defaulting _) _ _ => "collections.defaultdict"
  | v => v.typeName

/-! ### Views -/

/-- The characters of a value that is a text. -/
def text? : Value → Option String
  | .text s => some s
  | .derivedText s _ => some s
  | _ => none

/-- The number of a value that counts as a whole number. -/
def whole? : Value → Option Int
  | .int n => some n
  | .bool b => some (if b then 1 else 0)
  | .colour c => some c.number
  | _ => none

/-- The text of a value that counts as a whole number. -/
def wholeText : Value → String
  | .int n => toString n
  | .bool b => if b then "True" else "False"
  | .colour c => toString c.number
  | _ => ""

/-- The entries of a mapping, and its kind. -/
def mapping? : Value → Option (MappingKind × List (Value × Value))
  | .mapping kind _ entries => some (kind, entries)
  | _ => none

def isMapping (v : Value) : Bool := v.mapping?.isSome

def isText (v : Value) : Bool := v.text?.isSome

/-- Which object a value is; zero for a value that is told from others by its contents alone, and
for a stream, which is told by how far it has been read. -/
def identity : Value → Identity
  | .float _ i | .complex _ _ i | .derivedText _ i | .bytes _ i _ | .sequence _ i _
  | .mapping _ i _ | .decimal _ i | .object i | .record _ i _ => i
  | .colour c => c.identity
  | _ => 0

def isNull : Value → Bool
  | .null => true
  | _ => false

/-- The fields of a record; other values have none. -/
def fields : Value → List (String × Value)
  | .record _ _ fields => fields
  | _ => []

/-- The class of a record. -/
def recordClass? : Value → Option RecordClass
  | .record cls _ _ => some cls
  | _ => none

/-- The class of nodes that a value's class is, or is derived from. -/
def nodeClass? (v : Value) : Option NodeClass := v.recordClass?.bind RecordClass.nodeClass?

/-- The list of the given items, of no identity of its own. -/
def list (items : List Value) : Value := .sequence .list 0 items

def tuple (items : List Value) : Value := .sequence .tuple 0 items

/-- An attribute of a record, if it has one of that name.  The bindings of a raw clause are null
unless they are given. -/
def attribute? : Value → String → Option Value
  | .record cls _ fields, name =>
    match fields.lookup name with
    | some v => some v
    | none => if cls.nodeClass? = some .raw ∧ name = "bindings" then some .null else none
  | _, _ => none

@[simp] theorem text?_text (s : String) : (Value.text s).text? = some s := rfl

@[simp] theorem whole?_int (n : Int) : (Value.int n).whole? = some n := rfl

end Value

end RowInsert
