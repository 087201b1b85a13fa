import RowInsert.Binding
import RowInsert.Compiler
import RowInsert.Identifier

/-!
# Collaborators by description

* `QuoterChoice` and `ValidatorChoice` describe the quoters and validators that a compiler can be
  set up with.
* `Options` describes a compiler, and `Options.compiler` is that compiler.
-/

namespace RowInsert

/-- A description of a quoter. -/
inductive QuoterChoice where
  /-- Between marks, the closing one doubled inside. -/
  | delimited (d : Delimiters)
  /-- The text of any value between angle brackets, nothing doubled. -/
  | angle
  /-- The same value for every identifier. -/
  | constant (v : Value)
  /-- Fails for every identifier. -/
  | refusing (message : String)
  deriving Repr

namespace QuoterChoice

/-- The quoter that is described. -/
def quoter : QuoterChoice → Quoter
  | .delimited d => d.quote
  | .angle => fun v => v.plain.map fun s => .text ("<" ++ s ++ ">")
  | .constant v => fun _ => .ok v
  | .refusing message => fun _ => .error (.refused message)

end QuoterChoice

/-- A description of a validator. -/
inductive ValidatorChoice where
  /-- Bound values have to be of these types. -/
  | types (allowed : AllowedTypes)
  /-- One more value is bound. -/
  | push (v : Value)
  /-- No values are bound. -/
  | clear
  /-- The statement is replaced. -/
  | replace (sql : Value)
  /-- Fails for every query. -/
  | refusing (message : String)
  deriving Repr

namespace ValidatorChoice

/-- The validator that is described. -/
def validator : ValidatorChoice → Validator
  | .types allowed => allowed.validate
  | .push v => fun q => .ok { q with params := q.params ++ [v] }
  | .clear => fun q => .ok { q with params := [] }
  | .replace sql => fun q => .ok { q with sql := sql }
  | .refusing message => fun _ => .error (.refused message)

/-- The types that the validator allows, if it looks at types. -/
def allowed? : ValidatorChoice → Option AllowedTypes
  | .types allowed => some allowed
  | _ => none

end ValidatorChoice

/-- A description of a compiler. -/
structure Options where
  name : String
  /-- The names of further classes that it compiles as raw clauses. -/
  rawLike : List String
  quoter : QuoterChoice
  validator : ValidatorChoice
  settings : Settings
  observer : Option Observer
  metadata : Value
  /-- Whether the calls of the quoter and the validator are to be noted. -/
  watched : Bool
  deriving Repr

namespace Options

/-- The name of the compiler's own class. -/
def standardName : String := "InsertCompiler"

/-- A compiler that nothing is said about. -/
def standard : Options :=
  { name := standardName
    rawLike := []
    quoter := .delimited .ansi
    validator := .types .standard
    settings := .standard
    observer := none
    metadata := .mapping .plain 0 []
    watched := false }

/-- The compiler that is described. -/
def compiler (o : Options) : Compiler :=
  { name := o.name
    handlers := fun name => (Handler.methods o.rawLike).lookup name
    quoter := o.quoter.quoter
    validator := o.validator.validator
    settings := .ok o.settings
    observer := .ok o.observer
    metadata := .ok o.metadata }

end Options

end RowInsert
