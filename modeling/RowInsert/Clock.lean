import RowInsert.Value.Basic

/-!
# The clock

A clock gives the readings it was set up with, and after these goes on by one second at each
reading.

* `Clock.read` is the next reading.
* `Clock.elapsed` is the time between two readings, in milliseconds.
-/

namespace RowInsert

structure Clock where
  /-- The readings to come. -/
  readings : List Binary64
  /-- The reading given last. -/
  last : Option Binary64
  /-- The time of day, which stands still. -/
  now : Moment
  deriving Repr

namespace Clock

/-- The next reading, and the clock after it. -/
def read (c : Clock) : Binary64 × Clock :=
  match c.readings with
  | r :: rest => (r, { c with readings := rest, last := some r })
  | [] =>
    let r := match c.last with
      | some x => x.add .one
      | none => .zero
    (r, { c with last := some r })

/-- The milliseconds between two readings in seconds. -/
def elapsed (started stopped : Binary64) : Binary64 := (stopped.sub started).mul .thousand

end Clock

end RowInsert
