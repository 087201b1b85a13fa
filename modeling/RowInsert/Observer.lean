import RowInsert.Dictionary
import RowInsert.Identifier
import RowInsert.Json.OfValue

/-!
# Observers of events

* `Observer` is what an event is delivered to: leaves that record it, keep metrics of it, log it
  or refuse it, and compositions of observers.
* `Observer.ofValue?` is a value in the place of an observer.
* `Observer.deliver` delivers an event: the parts of a composition get it in order, and the first
  failure ends the delivery.  `Observer.deliverBy` is the same for leaves that may do anything.
* `Observer.leaves` are the leaves of an observer from left to right, each as often as it occurs.
-/

namespace RowInsert

/-- What a single event goes to. -/
inductive Leaf where
  /-- Keeps the event. -/
  | record
  /-- Keeps metrics under a name. -/
  | metrics (name : String)
  /-- Logs a line at a level, if the log takes lines from that level. -/
  | log (level : Value) (threshold : Int)
  /-- Fails. -/
  | refuse (failure : Failure)
  deriving Repr, Inhabited

/-- What events are delivered to. -/
inductive Observer where
  | leaf (l : Leaf)
  | compose (parts : List Observer)
  deriving Repr, Inhabited

namespace Event

/-- The event with its metadata as a dictionary of its own. -/
def snapshot (e : Event) : Run Event := do
  let entries ← Run.dictionary e.metadata
  return { e with metadata := .mapping .plain 0 entries }

/-- The dictionary of the event's fields. -/
def toValue (e : Event) : Value :=
  .mapping .plain 0 (e.fields.map fun (name, v) => (.text name, v))

end Event

/-- Whether a log whose own threshold is `threshold` takes lines of a level.  Level zero and those
below it are never taken. -/
def takesLevel (threshold level : Int) : Bool := 0 < level && threshold ≤ level

namespace Leaf

/-- The metrics under a name after an event. -/
def updateMetrics (name : String) (e : Event) : Run Unit := do
  let (updated, ending) := ((← get).journal.metricsOf name).record e
  Run.modifyJournal fun j => j.setMetrics name updated
  Run.lift ending

/-- The line is made before the level is looked at. -/
def writeLine (level : Value) (threshold : Int) (e : Event) : Run Unit := do
  let copy ← e.snapshot
  let s ← get
  let refusal (i : Identity) := ((s.assigned i).lookup "items").map Value.callEmpty
  let message ← Run.lift (Json.lineUnless refusal copy.toValue)
  let n ← Run.require level.whole? .levelNotWhole
  if takesLevel threshold n then
    Run.modifyJournal fun j => { j with lines := j.lines ++ [⟨level, message⟩] }

/-- An event is delivered to a leaf. -/
def deliver (l : Leaf) (e : Event) : Run Unit :=
  match l with
  | .record => do
    let copy ← e.snapshot
    Run.modifyJournal fun j => { j with events := j.events ++ [copy] }
  | .metrics name => updateMetrics name e
  | .log level threshold => writeLine level threshold e
  | .refuse failure => throw failure

end Leaf

namespace Observer

/-- A value as an observer: null observes nothing, and a value that is called with an event fails,
since an event is no identifier. -/
def ofValue? (v : Value) : Option Observer :=
  if v.isNull then none
  else if (Delimiters.ofValue? v).isSome then
    some (.leaf (.refuse (.identifierNotText RecordClass.event.name)))
  else some (.leaf (.refuse (.notCallable v.qualifiedName)))

section

variable {m : Type → Type} [Monad m] (call : Leaf → Event → m Unit)

mutual

/-- An event is delivered to an observer, whose leaves get it by `call`.  A composition knows
nothing of its parts but that they can be called. -/
def deliverBy : Observer → Event → m Unit
  | .leaf l, e => call l e
  | .compose parts, e => deliverPartsBy parts e

/-- One part after the other. -/
def deliverPartsBy : List Observer → Event → m Unit
  | [], _ => pure ()
  | o :: rest, e => do
    deliverBy o e
    deliverPartsBy rest e

end

end

/-- An event is delivered to an observer. -/
def deliver (o : Observer) (e : Event) : Run Unit := o.deliverBy Leaf.deliver e

mutual

/-- The leaves, from left to right, each as often as it occurs. -/
def leaves : Observer → List Leaf
  | .leaf l => [l]
  | .compose parts => leavesOf parts

def leavesOf : List Observer → List Leaf
  | [] => []
  | o :: rest => leaves o ++ leavesOf rest

end

end Observer

end RowInsert
