import RowInsert.Text.Clipped
import RowInsert.Text.Quoted
import RowInsert.Value.Basic

/-!
# Failures

Everything that can go wrong is one cause of `Failure`.

* `Failure.kind` is the kind of error that a cause is reported as, and `ErrorKind.ancestry` the
  kinds that it specialises.
* `Failure.message` is its text.
* `Failure.details?` says, for the failures of a compilation, which operation on which kind of
  clause failed, and why; their message is made of these by `ErrorKind.compose`.
-/

namespace RowInsert

/-- The kinds of errors.  The first six are those of compilations, and the last are the classes from
elsewhere that a collaborator may raise: of these there is any number, and any name. -/
inductive ErrorKind where
  | compilation
  | unsupportedOperation
  | invalidInput
  | invalidIdentifier
  | limitExceeded
  | invalidBinding
  | value
  | type
  | notImplemented
  | key
  | index
  | undefinedOperation
  | absentAttribute
  | runtime
  | frozenField
  | overflow
  | resultOverflow
  | memory
  | recursion
  | foreign (name : String)
  deriving DecidableEq, Repr

namespace ErrorKind

def name : ErrorKind → String
  | .compilation => "CompilationError"
  | .unsupportedOperation => "UnsupportedOperationError"
  | .invalidInput => "InvalidInputError"
  | .invalidIdentifier => "InvalidIdentifierError"
  | .limitExceeded => "LimitExceededError"
  | .invalidBinding => "InvalidBindingError"
  | .value => "ValueError"
  | .type => "TypeError"
  | .notImplemented => "NotImplementedError"
  | .key => "KeyError"
  | .index => "IndexError"
  | .undefinedOperation => "InvalidOperation"
  | .absentAttribute => "AttributeError"
  | .runtime => "RuntimeError"
  | .frozenField => "FrozenInstanceError"
  | .overflow => "OverflowError"
  | .resultOverflow => "Overflow"
  | .recursion => "RecursionError"
  | .memory => "MemoryError"
  | .foreign name => name

/-- The kinds of the failures of compilations. -/
def ofCompilation : List ErrorKind :=
  [.compilation, .unsupportedOperation, .invalidInput, .invalidIdentifier, .limitExceeded,
    .invalidBinding]

/-- The kind of that name among those of compilations. -/
def ofName? (name : String) : Option ErrorKind := ofCompilation.find? (·.name == name)

/-- The names of the general kind of failed compilations and of all that it specialises. -/
def compilationAncestry : List String :=
  [compilation.name, value.name, "Exception", "BaseException", "object"]

/-- The names of the kind and of all that it specialises, up to the most general. -/
def ancestry : ErrorKind → List String
  | .compilation => compilationAncestry
  | .invalidIdentifier => invalidIdentifier.name :: invalidInput.name :: compilationAncestry
  | .unsupportedOperation => unsupportedOperation.name :: compilationAncestry
  | .invalidInput => invalidInput.name :: compilationAncestry
  | .limitExceeded => limitExceeded.name :: compilationAncestry
  | .invalidBinding => invalidBinding.name :: compilationAncestry
  | k => [k.name, "Exception", "BaseException", "object"]

/-- The message of a failed compilation: the operation, the kind of error and the reason. -/
def compose (kind : ErrorKind) (operation reason : String) : String :=
  "[insert:" ++ operation ++ "] " ++ kind.name ++ ": " ++ reason

end ErrorKind

/-- Which operation failed, on which kind of clause, and why. -/
structure Details where
  operation : String
  clauseKind : String
  reason : String
  deriving DecidableEq, Repr

/-- What went wrong.  Names of types are texts, since a message is all that is left of them. -/
inductive Failure where
  -- structure of the clauses
  | severalClauses
  | bindingsNotSequence (typeName : String)
  | valuesNotRows (typeName : String)
  | noRows
  | batchTooLarge (count : Nat) (limit : Value) (shown : String)
  | rowNotMapping (row : Nat) (typeName : String)
  | columnNotText (row : Nat) (shown : String)
  | noColumns
  | noHandler (nodeType compiler : String)
  -- identifiers
  | identifierNotText (typeName : String)
  | identifierEmpty
  | identifierHasNul (shown : String)
  -- bindings
  | unsupportedBinding (position : Nat) (typeName : String)
  -- limits
  | limitTooSmall
  | limitTooLarge (greatest : Nat)
  | limitNotWhole
  -- collaborators and streams
  | foreign (className message : String)
  | streamFailed (message : String)
  -- values made from parts that do not fit
  | numeralInvalid (shown : String)
  | numeralTooLong (count limit : Nat)
  | decimalInvalid
  | stepZero
  | colourUnknown (number : Int)
  | yearOutOfRange (year : Int)
  | partOutOfRange (part : String) (least greatest : Nat)
  | dayOutOfRange
  | classNameHasNul
  -- operations on values of an unfit type
  | unsized (typeName : String)
  | lengthNegative
  | lengthTooLarge
  | progressionTooLong
  | noRoom
  | notSubscriptable (typeName : String)
  | textPositionNotWhole
  | missingKey (shown : String)
  | notIterable (typeName : String)
  | notCallable (typeName : String)
  | notOrdered (relation left right : String)
  | notComparable (left right : String)
  | undefinedResult
  | resultTooLarge
  | endlessComparison
  | noArithmetic (operator typeName : String)
  | notConcatenable (typeName : String)
  | notConcatenableBytes (typeName : String)
  | notReplaceable (typeName : String)
  | partNotText (position : Nat) (typeName : String)
  | pairNotSequence (position : Nat)
  | pairLength (position length : Nat)
  | unhashable (typeName : String)
  | signalingKey
  | keyNotScalar (typeName : String)
  | circular
  | levelNotWhole
  -- items that are replaced
  | noItemAssignment (typeName : String)
  | readOnlyMemory
  | indexNotWhole (container typeName : String)
  | positionNotWhole (typeName : String)
  | indexOutOfRange (container : String)
  | indexTooLarge
  | notWhole (typeName : String)
  | byteOutOfRange
  -- attributes
  | noAttribute (typeName name : String)
  | noPlaceFor (typeName name : String)
  | attributeReadOnly (typeName name : String)
  | attributeNotWritable (typeName name : String)
  | memberReadOnly
  | noSetter (typeName name : String)
  | enumerationFixed (name : String)
  | classNotClass (typeName : String)
  | attributesNotDictionary (typeName : String)
  | nameNotText (name : String)
  | fieldFrozen (field : String)
  -- arguments of functions
  | missingArguments (function : String) (keywordOnly : Bool) (names : List String)
  | unexpectedArgument (function name : String)
  | tooManyArguments (function : String) (taken given : Nat)
  | repeatedArgument (function name : String)

/-- Names in quotes, joined as in prose. -/
def enumerateNames (names : List String) : String :=
  let quoted := names.map fun n => "'" ++ n ++ "'"
  match quoted with
  | [] => ""
  | [a] => a
  | [a, b] => a ++ " and " ++ b
  | many => ", ".intercalate many.dropLast ++ ", and " ++ many.getLast?.getD ""

/-- The constructor of a class, as messages name it. -/
def constructorOf (className : String) : String := className ++ ".__init__"

namespace Failure

/-- What a collaborator that refuses everything raises. -/
def refused (message : String) : Failure := .foreign "PolicyError" message

def kind : Failure → ErrorKind
  | .severalClauses => .unsupportedOperation
  | .bindingsNotSequence _ | .valuesNotRows _ | .noRows | .rowNotMapping .. | .columnNotText ..
  | .noColumns => .invalidInput
  | .batchTooLarge .. => .limitExceeded
  | .identifierNotText _ | .identifierEmpty | .identifierHasNul _ => .invalidIdentifier
  | .unsupportedBinding .. => .invalidBinding
  | .noHandler .. => .notImplemented
  | .limitTooSmall | .limitTooLarge _ | .limitNotWhole | .pairLength .. | .circular
  | .byteOutOfRange | .numeralInvalid _ | .numeralTooLong .. | .stepZero | .colourUnknown _
  | .yearOutOfRange _ | .partOutOfRange .. | .dayOutOfRange | .lengthNegative
  | .classNameHasNul => .value
  | .lengthTooLarge | .progressionTooLong => .overflow
  | .noRoom => .memory
  | .resultTooLarge => .resultOverflow
  | .endlessComparison => .recursion
  | .foreign className _ => .foreign className
  | .streamFailed _ => .runtime
  | .missingKey _ => .key
  | .indexOutOfRange _ | .indexTooLarge => .index
  | .undefinedResult | .decimalInvalid => .undefinedOperation
  | .noAttribute .. | .noPlaceFor .. | .attributeReadOnly .. | .attributeNotWritable ..
  | .memberReadOnly | .noSetter .. | .enumerationFixed _ => .absentAttribute
  | .fieldFrozen _ => .frozenField
  | .unsized _ | .notSubscriptable _ | .textPositionNotWhole | .notIterable _ | .notCallable _
  | .notOrdered .. | .notComparable .. | .noArithmetic .. | .notConcatenable _
  | .notConcatenableBytes _ | .notReplaceable _ | .partNotText .. | .pairNotSequence _
  | .unhashable _ | .signalingKey
  | .keyNotScalar _ | .levelNotWhole | .noItemAssignment _ | .readOnlyMemory
  | .indexNotWhole .. | .positionNotWhole _ | .notWhole _ | .classNotClass _
  | .attributesNotDictionary _ | .nameNotText _ | .missingArguments .. | .unexpectedArgument ..
  | .tooManyArguments .. | .repeatedArgument .. => .type

/-- What a failed compilation reports about itself. -/
def details? : Failure → Option Details
  | .severalClauses =>
    some ⟨"compile", "multiple", "Multiple INSERT clauses are not supported."⟩
  | .bindingsNotSequence t =>
    some ⟨"compile", "raw", "Raw bindings must be a sequence of values, got " ++ t ++ "."⟩
  | .valuesNotRows t =>
    some ⟨"compile", "rule",
      "Insert values must be a mapping or a sequence of mappings, got " ++ t ++ "."⟩
  | .noRows => some ⟨"compile", "rule", "No values provided for INSERT."⟩
  | .batchTooLarge count _ shown =>
    some ⟨"compile", "rule",
      "Batch size " ++ toString count ++ " exceeds maximum limit of " ++ shown ++ "."⟩
  | .rowNotMapping i t =>
    some ⟨"compile", "rule",
      "Insert row " ++ toString i ++ " must be a mapping, got " ++ t ++ "."⟩
  | .columnNotText i shown =>
    some ⟨"compile", "rule",
      "Insert row " ++ toString i ++ " has a non-string column name " ++ shown ++ "."⟩
  | .noColumns => some ⟨"compile", "rule", "No columns provided for INSERT."⟩
  | .identifierNotText t =>
    some ⟨"quote", "rule", "Identifier must be a string, got " ++ t ++ "."⟩
  | .identifierEmpty => some ⟨"quote", "rule", "Identifier cannot be empty."⟩
  | .identifierHasNul shown =>
    some ⟨"quote", "rule", "Identifier " ++ shown ++ " contains a NUL character."⟩
  | .unsupportedBinding i t =>
    some ⟨"validate", "bindings",
      "Unsupported binding type " ++ t ++ " at position " ++ toString i ++ "."⟩
  | _ => none

open Text (clip quoted) in
/-- The text of the failures that are not those of a compilation. -/
def plainMessage : Failure → String
  | .noHandler node compiler =>
    "No visit_" ++ node ++ " method defined in " ++ compiler
  | .limitTooSmall => "max_batch_size must be >= 1"
  | .limitTooLarge greatest => "max_batch_size must be <= " ++ toString greatest
  | .limitNotWhole =>
    "Stop argument for islice() must be None or an integer: 0 <= x <= sys.maxsize."
  | .foreign _ message | .streamFailed message => message
  | .numeralInvalid shown => "invalid literal for int() with base 10: " ++ shown
  | .numeralTooLong count limit =>
    "Exceeds the limit (" ++ toString limit ++ " digits) for integer string conversion: value has "
      ++ toString count ++ " digits; use sys.set_int_max_str_digits() to increase the limit"
  | .decimalInvalid => "[<class 'decimal.ConversionSyntax'>]"
  | .stepZero => "range() arg 3 must not be zero"
  | .colourUnknown n => toString n ++ " is not a valid Color"
  | .yearOutOfRange year => "year " ++ toString year ++ " is out of range"
  | .partOutOfRange part least greatest =>
    part ++ " must be in " ++ toString least ++ ".." ++ toString greatest
  | .dayOutOfRange => "day is out of range for month"
  | .classNameHasNul => "type name must not contain null characters"
  | .unsized t => "object of type '" ++ clip 200 t ++ "' has no len()"
  | .lengthNegative => "__len__() should return >= 0"
  | .lengthTooLarge => "cannot fit 'int' into an index-sized integer"
  | .progressionTooLong => "Python int too large to convert to C ssize_t"
  | .noRoom => ""
  | .notSubscriptable t => "'" ++ clip 200 t ++ "' object is not subscriptable"
  | .textPositionNotWhole => "string indices must be integers, not 'str'"
  | .missingKey shown => shown
  | .notIterable t => "'" ++ clip 200 t ++ "' object is not iterable"
  | .notCallable t => "'" ++ clip 200 t ++ "' object is not callable"
  | .notOrdered relation l r =>
    "'" ++ relation ++ "' not supported between instances of '" ++ clip 100 l ++ "' and '"
      ++ clip 100 r ++ "'"
  | .notComparable l r => "can't compare " ++ l ++ " to " ++ r
  | .undefinedResult => "[<class 'decimal.InvalidOperation'>]"
  | .resultTooLarge => "[<class 'decimal.Overflow'>]"
  | .endlessComparison => "maximum recursion depth exceeded in comparison"
  | .noArithmetic operator t =>
    "unsupported operand type(s) for " ++ operator ++ ": '" ++ clip 100 t ++ "' and 'int'"
  | .notConcatenable t => "can only concatenate " ++ t ++ " (not \"int\") to " ++ t
  | .notConcatenableBytes t => "can't concat int to " ++ t
  | .notReplaceable t => "replace() argument 1 must be str, not " ++ clip 50 t
  | .partNotText i t =>
    "sequence item " ++ toString i ++ ": expected str instance, " ++ clip 80 t ++ " found"
  | .pairNotSequence i =>
    "cannot convert dictionary update sequence element #" ++ toString i ++ " to a sequence"
  | .pairLength i n =>
    "dictionary update sequence element #" ++ toString i ++ " has length " ++ toString n
      ++ "; 2 is required"
  | .unhashable t => "unhashable type: '" ++ clip 200 t ++ "'"
  | .signalingKey => "Cannot hash a signaling NaN value"
  | .keyNotScalar t => "keys must be str, int, float, bool or None, not " ++ clip 100 t
  | .circular => "Circular reference detected"
  | .levelNotWhole => "level must be an integer"
  | .noItemAssignment t => "'" ++ clip 200 t ++ "' object does not support item assignment"
  | .readOnlyMemory => "cannot modify read-only memory"
  | .indexNotWhole container t =>
    container ++ " indices must be integers or slices, not " ++ clip 200 t
  | .positionNotWhole t => "sequence index must be integer, not '" ++ clip 200 t ++ "'"
  | .indexOutOfRange container => container ++ " index out of range"
  | .indexTooLarge => "cannot fit 'int' into an index-sized integer"
  | .notWhole t => "'" ++ clip 200 t ++ "' object cannot be interpreted as an integer"
  | .byteOutOfRange => "byte must be in range(0, 256)"
  | .noAttribute t a => "'" ++ clip 50 t ++ "' object has no attribute '" ++ a ++ "'"
  | .noPlaceFor t a => "'" ++ clip 100 t ++ "' object has no attribute '" ++ a ++ "'"
  | .attributeReadOnly t a => "'" ++ clip 50 t ++ "' object attribute '" ++ a ++ "' is read-only"
  | .attributeNotWritable t a => "attribute '" ++ a ++ "' of '" ++ t ++ "' objects is not writable"
  | .memberReadOnly => "readonly attribute"
  | .noSetter t a => "property '" ++ a ++ "' of '" ++ t ++ "' object has no setter"
  | .enumerationFixed a => "<enum 'Enum'> cannot set attribute '" ++ a ++ "'"
  | .classNotClass t => "__class__ must be set to a class, not '" ++ t ++ "' object"
  | .attributesNotDictionary t =>
    "__dict__ must be set to a dictionary, not a '" ++ clip 200 t ++ "'"
  | .nameNotText a => a ++ " must be set to a string object"
  | .fieldFrozen f => "cannot assign to field " ++ quoted f
  | .missingArguments function keywordOnly names =>
    function ++ "() missing " ++ toString names.length ++ " required "
      ++ (if keywordOnly then "keyword-only" else "positional") ++ " argument"
      ++ (if names.length = 1 then "" else "s") ++ ": " ++ enumerateNames names
  | .unexpectedArgument function name =>
    function ++ "() got an unexpected keyword argument '" ++ name ++ "'"
  | .tooManyArguments function taken given =>
    function ++ "() takes " ++ toString taken ++ " positional arguments but " ++ toString given
      ++ " were given"
  | .repeatedArgument function name =>
    function ++ "() got multiple values for argument '" ++ name ++ "'"
  | _ => ""

/-- The text of a failure. -/
def message (f : Failure) : String :=
  match f.details? with
  | some d => f.kind.compose d.operation d.reason
  | none => f.plainMessage

/-- A failure shows its kind and its text. -/
instance : Repr Failure := ⟨fun f _ => f.kind.name ++ ": " ++ f.message⟩

/-- A failure of a compilation is of one of the kinds of compilations. -/
theorem kind_mem_ofCompilation {f : Failure} (h : f.details?.isSome) :
    f.kind ∈ ErrorKind.ofCompilation := by
  cases f <;> first
    | exact Bool.noConfusion (show false = true from h)
    | exact of_decide_eq_true rfl

end Failure

end RowInsert
