import RowInsert.Event

/-!
# Metrics of compilations

Counters and histograms are kept under a name and a set of labels, in the order in which each of
these was first used.

* `Metrics.record` adds one event: every event that ends a compilation counts once, a failed one
  once more as a failure, and its duration and number of rows are observed if it has them.
* `Metrics.counter` and `Metrics.histogram` look one series up, `Metrics.counterOf` and
  `Metrics.histogramOf` one that is asked for by any values; `Metrics.counterPoints` and
  `Metrics.histogramPoints` list all.
-/

namespace RowInsert

/-- Labels by name, in the order of the names: the same set of labels has one form. -/
def sortedLabels (labels : List (String × String)) : List (String × String) :=
  labels.mergeSort fun a b => a.1 < b.1 || (a.1 == b.1 && a.2 ≤ b.2)

/-- What a series of numbers is kept under. -/
structure SeriesKey where
  name : String
  labels : List (String × String)
  deriving DecidableEq, Repr

/-- The key of a series with these labels, in whatever order they come. -/
def SeriesKey.of (name : String) (labels : List (String × String)) : SeriesKey :=
  ⟨name, sortedLabels labels⟩

/-- The entry of a key is changed by `f`; if there is none, `start` is changed and put last. -/
def alter {α : Type} (table : List (SeriesKey × α)) (key : SeriesKey) (start : α) (f : α → α) :
    List (SeriesKey × α) :=
  match table with
  | [] => [(key, f start)]
  | (k, a) :: rest => if k = key then (k, f a) :: rest else (k, a) :: alter rest key start f

/-- One number of a series, with the labels by name. -/
structure MetricPoint where
  name : String
  labels : List (String × String)
  value : Value
  deriving Repr

/-- The counters and histograms, by first use. -/
structure Metrics where
  counters : List (SeriesKey × Nat)
  histograms : List (SeriesKey × List Value)
  deriving Repr, Inhabited

namespace Metrics

/-- No compilation has been seen. -/
def empty : Metrics := ⟨[], []⟩

def compilesTotal : String := "insertunit_compiles_total"

def failuresTotal : String := "insertunit_compile_failures_total"

def durationName : String := "insertunit_compile_duration_ms"

def rowsName : String := "insertunit_compile_rows"

/-- Adds one to a counter. -/
def increment (m : Metrics) (key : SeriesKey) : Metrics :=
  { m with counters := alter m.counters key 0 (· + 1) }

/-- Adds an observation to a histogram; nothing is observed of a null. -/
def observe (m : Metrics) (key : SeriesKey) (v : Value) : Metrics :=
  if v.isNull then m
  else { m with histograms := alter m.histograms key [] (· ++ [v]) }

/-- Adds what follows the first count of an event: a failure, and what is observed of it. -/
def recordOutcome (m : Metrics) (e : Event) (labels : List (String × String))
    (succeeded : Bool) : Metrics :=
  let failed := if succeeded then m else m.increment (.of failuresTotal labels)
  (failed.observe (.of durationName labels) e.duration).observe (.of rowsName labels) e.rowCount

/-- Adds an event that has these labels.  It counts even when it does not tell whether it was a
success, which is a failure. -/
def recordLabelled (m : Metrics) (e : Event) (labels : List (String × String)) :
    Metrics × Except Failure Unit :=
  let counted := m.increment (.of compilesTotal labels)
  match e.success.truthy with
  | .ok succeeded => (counted.recordOutcome e labels succeeded, .ok ())
  | .error f => (counted, .error f)

/-- The metrics after an event, and how their update ended; only an event that ends a compilation
changes anything. -/
def record (m : Metrics) (e : Event) : Metrics × Except Failure Unit :=
  if e.endsCompilation then
    match e.labels with
    | .ok labels => m.recordLabelled e labels
    | .error f => (m, .error f)
  else (m, .ok ())

/-- The value of a counter; one that was never used is zero. -/
def counter (m : Metrics) (name : String) (labels : List (String × String)) : Nat :=
  (m.counters.lookup (.of name labels)).getD 0

/-- The observations of a histogram, in order; one that was never used has none. -/
def histogram (m : Metrics) (name : String) (labels : List (String × String)) : List Value :=
  (m.histograms.lookup (.of name labels)).getD []

/-- All counters. -/
def counterPoints (m : Metrics) : List MetricPoint :=
  m.counters.map fun (k, n) => ⟨k.name, k.labels, .int n⟩

/-- All observations, histogram by histogram. -/
def histogramPoints (m : Metrics) : List MetricPoint :=
  m.histograms.flatMap fun (k, vs) => vs.map fun v => ⟨k.name, k.labels, v⟩

/-- The labels of a mapping, each as running text; anything that is no mapping has none to list. -/
def labelsOf (v : Value) : Except Failure (List (String × String)) :=
  match v with
  | .mapping kind _ entries =>
    entries.mapM fun (k, own) => do
      let value ← if kind = .caseless then Entries.read entries k own else .ok own
      return (← k.plain, ← value.plain)
  | _ => .error (.noAttribute v.qualifiedName "items")

/-- The name of a metric that is asked for: none if the value is no text, which no series is kept
under. -/
def nameOf? (v : Value) : Except Failure (Option String) :=
  match v.unhashable? with
  | some f => .error f
  | none => .ok v.text?

/-- The value of a counter whose name and labels may be any values. -/
def counterOf (m : Metrics) (name labels : Value) : Except Failure Nat := do
  let labels ← labelsOf labels
  match ← nameOf? name with
  | some name => return m.counter name labels
  | none => return 0

/-- The observations of a histogram whose name and labels may be any values. -/
def histogramOf (m : Metrics) (name labels : Value) : Except Failure (List Value) := do
  let labels ← labelsOf labels
  match ← nameOf? name with
  | some name => return m.histogram name labels
  | none => return []

end Metrics

end RowInsert
