import RowInsert.Collaborators

/-!
# Compilers with other steps

Attributes of a compiler can stand in the place of its collaborators, and of the steps that a
compilation is made of.

* `Step` names these steps, and `Override` is a compiler with what is called instead of them.
* `Compiler.withAttributes` is a compiler with values in the place of its collaborators.
* `Override.ofAttributes` takes both from attributes.
* `Override.compile` compiles a list of clauses.  Only a quoter can be called, and it answers a
  text: in the place of rows this is walked character by character, and in the place of what was
  compiled it is nothing at all.
-/

namespace RowInsert

/-- The steps of a compilation. -/
inductive Step where
  /-- Compiles a list of clauses. -/
  | attempt
  /-- Tells the observer. -/
  | report
  /-- Gives the rows of a value. -/
  | rows
  /-- Gives the columns of rows. -/
  | columns
  deriving DecidableEq, Repr

namespace Step

/-- The attribute that stands in the place of a step. -/
def attributeName : Step → String
  | .attempt => "_compile_clauses"
  | .report => "_emit_compile_event"
  | .rows => "_normalize_rows"
  | .columns => "_collect_columns"

end Step

namespace Validator

/-- A value in the place of a validator: it is called with the query, and what it answers is not
looked at. -/
def ofValue (v : Value) : Validator := fun q => do
  let _ ← v.call (.record .query 0 [("sql", q.sql), ("params", .list q.params)])
  return q

end Validator

namespace Compiler

/-- The attribute that holds the observer and the metadata. -/
def observability : String := "observability_settings"

/-- A compiler without its collaborators, which fails where it needs one. -/
def bare (c : Compiler) : Compiler :=
  { c with
    quoter := fun _ => .error (missing "quoter")
    validator := fun _ => .error (missing "validator")
    settings := .error (missing "settings")
    observer := .error (missing observability)
    metadata := .error (missing observability) }
where
  missing (name : String) : Failure := .noAttribute c.name name

/-- A compiler with attributes of its own, which stand in the place of what it was set up with;
`attributeOf` finds the attributes of other objects. -/
def withAttributes (c : Compiler) (attributeOf : Value → String → Except Failure Value)
    (own : List (String × Value)) : Compiler :=
  { c with
    handlers := fun name =>
      ((own.lookup "visit").map .value).or
        (((own.lookup ("visit_" ++ name)).map .value).or
          ((c.handlers name).or ((own.lookup "generic_visit").map .value)))
    quoter := match own.lookup "quoter" with
      | some v => v.call
      | none => c.quoter
    validator := match own.lookup "validator" with
      | some v => .ofValue v
      | none => c.validator
    settings := match own.lookup "settings" with
      | some v => (attributeOf v "max_batch_size").map Settings.mk
      | none => c.settings
    observer := match own.lookup observability with
      | some v => (attributeOf v "event_observer").map Observer.ofValue?
      | none => c.observer
    metadata := match own.lookup observability with
      | some v => attributeOf v "metadata"
      | none => c.metadata }

end Compiler

/-- A compiler with what is called instead of its steps. -/
structure Override where
  compiler : Compiler
  /-- What is called in the place of a step, if anything is. -/
  instead : Step → Option Value
  /-- The failure to find a quoter, which arises before the table is looked at. -/
  quoterMissing : Option Failure

namespace Override

/-- A compiler with attributes of its own, and perhaps without the collaborators that it was set up
with. -/
def ofAttributes (c : Compiler) (lost : Bool)
    (attributeOf : Value → String → Except Failure Value) (own : List (String × Value)) :
    Override :=
  { compiler := (if lost then c.bare else c).withAttributes attributeOf own
    instead := fun step => own.lookup step.attributeName
    quoterMissing :=
      if lost && (own.lookup "quoter").isNone then some (.noAttribute c.name "quoter") else none }

variable (o : Override)

/-- The rows of a value. -/
def rows (values : Value) : Run (List Value) :=
  match o.instead .rows with
  | none => Rows.readBounded o.compiler.settings values
  | some v => do
    let answer ← Run.lift (v.call values)
    Run.lift (Rows.bounded o.compiler.settings values (answer.items?.getD []))

/-- What rows are found in: a list, or the text that came in its place. -/
def container (rows : List Value) : Value :=
  match o.instead .rows with
  | none => .list rows
  | some _ => .text (String.join (rows.map fun row => row.text?.getD ""))

/-- The columns of rows. -/
def columns (rows : List Value) : Except Failure (List Column) :=
  match o.instead .columns with
  | none => Columns.ofRows rows
  | some v => do
    let answer ← v.call (o.container rows)
    return (answer.text?.getD "").toList.map fun c => ⟨String.singleton c, none⟩

/-- A rule clause is compiled.  Columns that come from elsewhere are those of rows that are texts,
which have no values under names. -/
def compileRule (node : Value) : Run Compiled := do
  let values ← Run.lift (node.attribute "values")
  let rows ← o.rows values
  let columns ← Run.lift (o.columns rows)
  if columns.isEmpty then throw .noColumns
  match o.quoterMissing with
  | some f => throw f
  | none => pure ()
  let (quotedTable, quotedColumns) ← o.compiler.quoteNames node columns
  if (o.instead .columns).isSome then throw .textPositionNotWhole
  let sql ← Run.lift (Statement.ofValues quotedTable quotedColumns rows.length)
  return ⟨⟨.text sql, cells rows columns⟩, some rows.length, some columns.length⟩

/-- A clause is compiled by the handler of its class. -/
def compileClause (node : Value) : Run Compiled := do
  match ← Run.lift (dispatch o.compiler.name o.compiler.handlers node) with
  | .raw => Compiler.compileRaw node
  | .rule => o.compileRule node
  | .value v => Run.lift (Compiler.callWith v node)

/-- The observer is told in the way that is given, unless something is called instead. -/
def report (telling : Run Unit) : Run Unit :=
  match o.instead .report with
  | none => telling
  | some v => throw (v.callNamed "started_at")

/-- The observer, if there is one, is told of an attempt that came to something that was not
compiled. -/
def tellOf (answer clauses : Value) : Run Unit := do
  match ← Run.lift o.compiler.observer with
  | none => pure ()
  | some _ =>
    let _ ← (o.compiler.afterReading clauses).circumstances clauses
    throw (.noAttribute answer.qualifiedName "row_count")

/-- Something is called with a list of clauses instead of their attempt. -/
def compileBy (v clauses : Value) (started : Binary64) :
    StateM State (Except Raised Query) := do
  match v.call clauses with
  | .error f =>
    let telling := (o.compiler.afterReading clauses).tell clauses started (.error f)
    let reported ← (o.report telling).run
    return Compiler.settle (.error f) reported
  | .ok answer =>
    match ← (o.report (o.tellOf answer clauses)).run with
    | .error g => return .error ⟨g, none⟩
    | .ok _ => return .error ⟨.noAttribute answer.qualifiedName "compiled", none⟩

/-- A list of clauses is compiled, and the observer is told. -/
def compile (clauses : Value) : StateM State (Except Raised Query) := do
  let started ← modifyGet fun s => (s.clock.read.1, { s with clock := s.clock.read.2 })
  match o.instead .attempt with
  | some v => o.compileBy v clauses started
  | none =>
    let outcome ← (o.compiler.attemptBy o.compileClause clauses).run
    let reported ← (o.report (o.compiler.report clauses started outcome)).run
    return Compiler.settle outcome reported

/-- Whether the list of clauses is read at position zero when it is compiled. -/
def reads : Bool :=
  (o.instead .attempt).isNone ||
    ((o.instead .report).isNone && match o.compiler.observer with
      | .ok (some _) => true
      | _ => false)

end Override

end RowInsert
