import RowInsert.Clauses
import RowInsert.Columns
import RowInsert.Observer
import RowInsert.Rows
import RowInsert.Statement

/-!
# The compiler

* `Compiler` is a compiler with its collaborators: a quoter of identifiers, a validator of
  compiled queries, and perhaps an observer.
* `Compiler.attempt` compiles a list of clauses; `Compiler.compileRaw` and `Compiler.compileRule`
  compile the two kinds of clauses.
* `Compiler.report` tells the observer how an attempt ended.
* `Compiler.compile` is an attempt with its report.  A failed attempt is the outcome even when the
  report fails as well, whose failure is then kept beside it; after a successful one a failed
  report is the outcome.
-/

namespace RowInsert

/-- What quotes identifiers. -/
abbrev Quoter := Value → Except Failure Value

/-- What checks, and may change, a compiled query. -/
abbrev Validator := Query → Except Failure Query

/-- A compiler of insert clauses.  What it takes from its settings can be missing, and the failure
to find it arises where it is needed. -/
structure Compiler where
  /-- The name of its class. -/
  name : String
  /-- How clauses of the class of each name are compiled. -/
  handlers : String → Option Handler
  quoter : Quoter
  validator : Validator
  settings : Except Failure Settings
  observer : Except Failure (Option Observer)
  /-- What is told along with every event. -/
  metadata : Except Failure Value

/-- A failure that ends a compilation, with the failure that arose while it was reported. -/
structure Raised where
  failure : Failure
  context : Option Failure
  deriving Repr

namespace Compiler

variable (c : Compiler)

/-- An identifier is quoted. -/
def quote (identifier : Value) : Run Value := do
  Run.note (.quote identifier)
  Run.lift (c.quoter identifier)

/-- A query is validated. -/
def validate (q : Query) : Run Query := do
  Run.note (.validate q)
  Run.lift (c.validator q)

/-- The bindings of a raw clause: none, or the items of any sequence of values. -/
def rawParams (bindings : Value) : Run (List Value) :=
  if bindings.isNull then pure []
  else if bindings.isUnitary then throw (.bindingsNotSequence bindings.typeName)
  else do
    Run.lift bindings.checkRoom
    Run.readAll bindings

/-- A raw clause is handed on with its statement as it is. -/
def compileRaw (node : Value) : Run Compiled := do
  let bindings ← Run.lift (node.attribute "bindings")
  let params ← rawParams bindings
  let sql ← Run.lift (node.attribute "sql")
  return ⟨⟨sql, params⟩, none, none⟩

/-- The table of a rule clause and its columns, quoted in this order. -/
def quoteNames (node : Value) (columns : List Column) : Run (Value × List Value) := do
  let table ← Run.lift (node.attribute "table")
  let quotedTable ← c.quote table
  let quotedColumns ← columns.mapM fun column => c.quote column.toValue
  return (quotedTable, quotedColumns)

/-- A rule clause becomes one statement with a group of placeholders for each row. -/
def compileRule (node : Value) : Run Compiled := do
  let values ← Run.lift (node.attribute "values")
  let rows ← Rows.readBounded c.settings values
  let columns ← Run.lift (Columns.ofRows rows)
  if columns.isEmpty then throw .noColumns
  let (quotedTable, quotedColumns) ← c.quoteNames node columns
  let sql ← Run.lift (Statement.ofValues quotedTable quotedColumns rows.length)
  return ⟨⟨.text sql, cells rows columns⟩, some rows.length, some columns.length⟩

/-- A clause that a value is called with instead: whatever this answers is nothing compiled. -/
def callWith (v node : Value) : Except Failure Compiled := do
  let answer ← v.call node
  throw (.noAttribute answer.qualifiedName "compiled")

/-- A clause is compiled by the handler of its class. -/
def compileClause (node : Value) : Run Compiled := do
  match ← Run.lift (dispatch c.name c.handlers node) with
  | .raw => compileRaw node
  | .rule => c.compileRule node
  | .value v => Run.lift (callWith v node)

/-- A list of clauses is compiled, its clause by `compileNode`: none is an empty statement, and more
than one is refused.  A query that binds values is validated. -/
def attemptBy (compileNode : Value → Run Compiled) (clauses : Value) : Run Compiled := do
  let n ← Run.lift (Clauses.size clauses)
  if n = 0 then return ⟨.empty, none, none⟩
  if 1 < n then throw .severalClauses
  let node ← Run.lift (Clauses.first clauses)
  let compiled ← compileNode node
  if compiled.query.params.isEmpty then return compiled
  let query ← c.validate compiled.query
  return { compiled with query := query }

/-- A list of clauses is compiled. -/
def attempt (clauses : Value) : Run Compiled := c.attemptBy c.compileClause clauses

/-- A number that may be missing. -/
def countValue : Option Nat → Value
  | some n => .int n
  | none => .null

/-- The fields of an event that tell how an attempt ended. -/
def outcomeFields (outcome : Except Failure Compiled) (e : Event) : Event :=
  match outcome with
  | .ok compiled =>
    { e with
      success := .bool true
      rowCount := countValue compiled.rowCount
      columnCount := countValue compiled.columnCount
      paramCount := .int compiled.query.params.length }
  | .error f =>
    { e with
      success := .bool false
      errorType := .text f.kind.name
      errorMessage := .text f.message }

/-- The table of a rule clause; other clauses have none to tell of. -/
def tableOf (kind : ClauseKind) (node : Option Value) : Except Failure Value :=
  match kind, node with
  | .rule, some v => v.attribute "table"
  | _, _ => .ok .null

/-- What an event tells of the clauses, whatever their attempt came to: their kind, the table and
the metadata. -/
def circumstances (clauses : Value) : Run (ClauseKind × Value × List (Value × Value)) := do
  let (kind, node) ← Run.lift (ClauseKind.of clauses)
  let table ← Run.lift (tableOf kind node)
  let metadata ← Run.dictionary (← Run.lift c.metadata)
  return (kind, table, metadata)

/-- The event of an attempt on these clauses. -/
def event (clauses : Value) (started : Binary64) (outcome : Except Failure Compiled) :
    Run Event := do
  let (kind, table, metadata) ← c.circumstances clauses
  let stopped ← Run.readClock
  return outcomeFields outcome
    { timestamp := .text (← get).clock.now.stamp
      event := .text Event.compileEnd
      compiler := .text c.name
      clauseKind := .text kind.name
      success := .null
      metadata := .mapping .plain 0 metadata
      table := table
      rowCount := .null
      columnCount := .null
      paramCount := .null
      duration := .float (Clock.elapsed started stopped) 0
      errorType := .null
      errorMessage := .null }

/-- The compiler once the list of clauses, which may be part of what it tells, has been read. -/
def afterReading (clauses : Value) : Compiler :=
  { c with metadata := c.metadata.map (Clauses.afterFirstIn clauses) }

/-- The observer, if there is one, is told how an attempt on clauses as they are now ended. -/
def tell (clauses : Value) (started : Binary64) (outcome : Except Failure Compiled) :
    Run Unit := do
  match ← Run.lift c.observer with
  | none => pure ()
  | some observer =>
    let e ← c.event clauses started outcome
    observer.deliver e

/-- The observer is told how an attempt ended, which has read the list of clauses. -/
def report (clauses : Value) (started : Binary64) (outcome : Except Failure Compiled) :
    Run Unit :=
  (c.afterReading clauses).tell (Clauses.afterFirst clauses) started outcome

/-- The outcome of an attempt and its report. -/
def settle (outcome : Except Failure Compiled) (reported : Except Failure Unit) :
    Except Raised Query :=
  match outcome, reported with
  | .ok compiled, .ok _ => .ok compiled.query
  | .ok _, .error f => .error ⟨f, none⟩
  | .error f, .ok _ => .error ⟨f, none⟩
  | .error f, .error g => .error ⟨f, some g⟩

/-- A list of clauses is compiled, and the observer is told. -/
def compile (clauses : Value) : StateM State (Except Raised Query) := do
  let started ← modifyGet fun s => (s.clock.read.1, { s with clock := s.clock.read.2 })
  let outcome ← (c.attempt clauses).run
  let reported ← (c.report clauses started outcome).run
  return settle outcome reported

end Compiler

end RowInsert
