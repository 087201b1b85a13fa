import RowInsert.Clock
import RowInsert.Metrics
import RowInsert.Query
import RowInsert.Stream

/-!
# The state of a run

* `State` is all that later answers depend on: the progress of streams, the clock, and a journal.
* `Journal` holds what collaborators and observers were given.
* `Attributes` are those that were assigned to objects that are no records.
* `Run` is a computation that changes the state and may fail; a failure keeps the changes made
  before it.
-/

namespace RowInsert

/-- A call of a collaborator. -/
inductive Call where
  | quote (identifier : Value)
  | validate (query : Query)
  deriving Repr

namespace Call

/-- The attribute of a compiler that holds the collaborator that was called. -/
def collaborator : Call → String
  | .quote _ => "quoter"
  | .validate _ => "validator"

end Call

/-- A line of the log, with its level. -/
structure LogLine where
  level : Value
  message : String
  deriving Repr

/-- What collaborators and observers were given, in order. -/
structure Journal where
  calls : List Call
  events : List Event
  lines : List LogLine
  /-- The metrics by the name of their keeper. -/
  metrics : List (String × Metrics)
  deriving Repr, Inhabited

namespace Journal

def empty : Journal := ⟨[], [], [], []⟩

/-- The metrics under a name; those of a keeper that was never used are empty. -/
def metricsOf (j : Journal) (name : String) : Metrics := (j.metrics.lookup name).getD .empty

/-- The metrics under a name are replaced. -/
def setMetrics (j : Journal) (name : String) (m : Metrics) : Journal :=
  { j with metrics := put j.metrics }
where
  /-- The entry of the name is replaced, or put last. -/
  put : List (String × Metrics) → List (String × Metrics)
    | [] => [(name, m)]
    | (n, old) :: rest => if n = name then (n, m) :: rest else (n, old) :: put rest

/-- The journal for the next request: metrics are kept, all else begins anew. -/
def nextPage (j : Journal) : Journal := { empty with metrics := j.metrics }

end Journal

/-- The attributes that were assigned to objects that are no records. -/
abbrev Attributes := List (Identity × List (String × Value))

/-- All that a later answer can depend on. -/
structure State where
  streams : Streams
  clock : Clock
  journal : Journal
  attributes : Attributes

namespace State

/-- The state before anything has happened. -/
def initial (clock : Clock) : State := ⟨.fresh, clock, .empty, []⟩

/-- The attributes that were assigned to an object that is no record. -/
def assigned (s : State) (i : Identity) : List (String × Value) := (s.attributes.lookup i).getD []

/-- An attribute of an object: one that was assigned to it, or a field. -/
def attribute? (s : State) (v : Value) (name : String) : Option Value :=
  ((s.assigned v.identity).lookup name).or (v.attribute? name)

end State

/-- A computation that changes the state and may fail. -/
abbrev Run := ExceptT Failure (StateM State)

namespace Run

/-- A result that does not depend on the state. -/
def lift {α : Type} (x : Except Failure α) : Run α := ExceptT.mk (pure x)

/-- A value that must be there. -/
def require {α : Type} (x : Option α) (otherwise : Failure) : Run α :=
  match x with
  | some a => pure a
  | none => throw otherwise

/-- The journal is changed. -/
def modifyJournal (f : Journal → Journal) : Run Unit :=
  modify fun s => { s with journal := f s.journal }

/-- A call of a collaborator is noted. -/
def note (c : Call) : Run Unit :=
  modifyJournal fun j => { j with calls := j.calls ++ [c] }

/-- The clock is read. -/
def readClock : Run Binary64 :=
  modifyGet fun s => (s.clock.read.1, { s with clock := s.clock.read.2 })

/-- So many items of a stream are taken. -/
def advance (i : Identity) (count : Nat) : Run Unit :=
  modify fun s => { s with streams := s.streams.advance i count }

/-- A stream is asked for more than it has. -/
def finish (i : Identity) (failure : Option String) : Run Unit := do
  let raised ← modifyGet fun s =>
    ((s.streams.finish i failure).1, { s with streams := (s.streams.finish i failure).2 })
  match raised with
  | some message => throw (.streamFailed message)
  | none => pure ()

/-- The items that are left of a stream: at most `limit` are taken, and the end is reached only
if there are fewer. -/
def readStream (limit : Option Nat) (i : Identity) (items : List Value)
    (failure : Option String) : Run (List Value) := do
  let rest := (← get).streams.rest i items
  let wanted := match limit with
    | some n => rest.take n
    | none => rest
  advance i wanted.length
  match limit with
  | some n => if rest.length < n then finish i failure
  | none => finish i failure
  return wanted

/-- The first `limit` items of a value that can be walked. -/
def readUpTo (limit : Nat) (v : Value) : Run (List Value) :=
  match v with
  | .stream i items failure => readStream (some limit) i items failure
  | _ => require (v.take? limit) (.notIterable v.qualifiedName)

/-- All items of a value that can be walked. -/
def readAll (v : Value) : Run (List Value) :=
  match v with
  | .stream i items failure => readStream none i items failure
  | _ => require v.items? (.notIterable v.qualifiedName)

end Run

end RowInsert
