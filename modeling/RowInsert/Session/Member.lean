import RowInsert.Session.Change

/-!
# Members of objects

* `Member` is what an object has under a name: a function of its type, or a value that was assigned
  to it.
* `Session.member` finds it, and `Edit.call` and `Edit.callEmpty` call it.
* `Session.quote` quotes an identifier that may have attributes of its own.
* `Session.compileWith` compiles clauses by a compiler that is an object of the session.
* `Edit.validate` applies a validator to an object that stands for a query.
* `Session.read` reads such an object.
-/

namespace RowInsert

/-- What an object has under a name. -/
inductive Member where
  | value (v : Value)
  /-- Adds an item to the object. -/
  | append (target : Value)
  /-- Takes all items from the object. -/
  | clear (target : Value)
  /-- Compiles clauses, by a compiler that was set up so. -/
  | compile (target : Value) (o : Options)

/-- A query as it is read from an object. -/
structure Shown where
  sql : Value
  params : Value
  /-- What the object gives as the number of placeholders. -/
  placeholders : Value

namespace Session

/-- The functions of a type, by name. -/
def function? (s : Session) (v : Value) (name : String) : Option Member :=
  match name with
  | "append" => if v.appendable then some (.append v) else none
  | "clear" => if v.clearable then some (.clear v) else none
  | "compile" => (s.compilers.lookup v.identity).map (.compile v)
  | _ => none

/-- What an object has under a name; an attribute of its own comes before the functions of its
type. -/
def member (s : Session) (v : Value) (name : String) : Except Failure Member :=
  match s.attribute? v name with
  | some x => x.map .value
  | none =>
    match s.function? v name with
    | some m => .ok m
    | none => .error (.noAttribute v.qualifiedName name)

/-! ### Compilations -/

/-- The calls that are noted of a compiler with these attributes of its own: those of watched
collaborators that it has not lost, and that no attribute has taken the place of. -/
def noted (o : Options) (lost : Bool) (own : List (String × Value)) (calls : List Call) :
    List Call :=
  calls.filter fun c => o.watched && !lost && (own.lookup c.collaborator).isNone

/-- The marks that a compiler quotes identifiers between, if it is known to use any. -/
def marks? (o : Options) (lost : Bool) (own : List (String × Value)) : Option Delimiters :=
  match own.lookup "quoter", lost, o.quoter with
  | some v, _, _ => Delimiters.ofValue? v
  | none, false, .delimited d => some d
  | none, _, _ => none

/-- A quoter between marks is asked for an identifier that may have something else in the place of
the function that replaces parts of it. -/
def quote (s : Session) (marks : Option Delimiters) (quoter : Quoter) : Quoter := fun v =>
  match marks, s.state.attribute? v "replace" with
  | some d, some f => d.quoteBy f v
  | _, _ => quoter v

/-- The compiler that an object of the session stands for, with what is called instead of its
steps. -/
def override (s : Session) (target : Value) (o : Options) : Override :=
  let lost := s.bare.contains target.identity
  let general := Override.ofAttributes o.compiler lost s.attributeOf target.fields
  let quoter := s.quote (marks? o lost target.fields) general.compiler.quoter
  { general with compiler := { general.compiler with quoter } }

/-- Clauses are compiled by a compiler that is an object of the session, and the query becomes an
object. -/
def compileWith (s : Session) (target : Value) (o : Options) (clauses : Value) :
    Except Raised Value × Session :=
  let override := s.override target o
  let (outcome, state) := (override.compile clauses).run s.state
  let calls := noted o (s.bare.contains target.identity) target.fields state.journal.calls
  let journal := { state.journal with calls }
  let after := { s with state := { state with journal } }
  let read := if override.reads then after.amend clauses (Clauses.afterFirst clauses) else after
  match outcome with
  | .ok q => ((read.newQuery q).map .ok id)
  | .error r => (.error r, read)

/-- A query as it is read from an object; only a statement that is a text has placeholders. -/
def read (s : Session) (v : Value) : Except Failure Shown := do
  let sql ← s.attributeOf v "sql"
  let params ← s.attributeOf v "params"
  let placeholders ← if sql.isText then s.attributeOf v countAttribute else pure .null
  return ⟨sql, params, placeholders⟩

end Session

namespace Edit

/-- A result that may be a failure. -/
def lift {α : Type} (x : Except Failure α) : Edit α := ExceptT.mk (pure x)

/-- A computation on the state of the session. -/
def onState {α : Type} (r : Run α) : Edit α := do
  let s ← get
  let (result, state) := r.run.run s.state
  set { s with state := state }
  lift result

/-- What depends on the session without changing it. -/
def look {α : Type} (f : Session → Except Failure α) : Edit α := do lift (f (← get))

/-- A change of the session that may fail. -/
def change (f : Session → Except Failure Session) : Edit Unit := do set (← lift (f (← get)))

/-- A member is called with an argument; its answer is not looked at. -/
def call (m : Member) (v : Value) : Edit Unit :=
  match m with
  | .append target => change fun s => s.change target (target.appended v)
  | .value f => do let _ ← lift (f.call v)
  | .clear _ | .compile .. => pure ()

/-- A member is called without an argument. -/
def callEmpty (m : Member) : Edit Unit :=
  match m with
  | .clear target => change fun s => s.change target (.ok target.cleared)
  | .value f => throw f.callEmpty
  | .append _ | .compile .. => pure ()

/-- Clauses are compiled by a member of an object. -/
def compile (m : Member) (clauses : Value) : StateM Session (Except Raised Value) :=
  match m with
  | .compile target o => modifyGet fun s => s.compileWith target o clauses
  | .value f => pure ((f.call clauses).mapError fun failure => ⟨failure, none⟩)
  | .append _ | .clear _ => pure (.ok .null)

/-! ### Validations -/

/-- Checks the items of a value one by one; of a stream, no more are taken than are checked. -/
def checkItems (a : AllowedTypes) (params : Value) : Run Unit :=
  match params with
  | .stream i items failure => do
    let rest := (← get).streams.rest i items
    let admitted := (rest.takeWhile a.admits).length
    Run.advance i (min (admitted + 1) rest.length)
    Run.lift (a.check rest)
    Run.finish i failure
  | _ => do
    let items ← Run.require params.itemsByType? (.notIterable params.qualifiedName)
    Run.lift (a.check items)

/-- A validator is applied to an object that stands for a query. -/
def validate (choice : ValidatorChoice) (v : Value) : Edit Unit :=
  match choice with
  | .types allowed => do
    let params ← look fun s => s.attributeOf v "params"
    onState (checkItems allowed params)
  | .push item => do
    let params ← look fun s => s.attributeOf v "params"
    call (← look fun s => s.member params "append") item
  | .clear => do
    let params ← look fun s => s.attributeOf v "params"
    callEmpty (← look fun s => s.member params "clear")
  | .replace sql => change fun s => s.assign v "sql" sql
  | .refusing message => throw (.refused message)

end Edit

end RowInsert
