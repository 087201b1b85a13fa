import RowInsert.Sort.Search

/-!
# Merging two runs

Two neighbouring runs in order become one.  Elements are compared one by one until one run has won
often enough in a row; then a search finds how many of its elements follow each other, for as long
as that pays.

* `Sort.mergeRuns` merges two runs by a comparison that may fail; how often is often enough is
  handed on from merge to merge as `patience`.
-/

namespace RowInsert.Sort

variable {α ε : Type}

/-- The number of elements that a search has to find to be worth another. -/
def searchPays : Nat := 7

/-- The patience of a sort that has merged nothing yet. -/
def initialPatience : Nat := searchPays

/-- The end at which two runs are consumed: their fronts, or their backs. -/
inductive Side where
  | front
  | back
  deriving DecidableEq, Repr

namespace Side

/-- The elements in the order in which they are consumed from this side. -/
def orient (side : Side) (xs : List α) : List α :=
  match side with
  | .front => xs
  | .back => xs.reverse

@[simp] theorem orient_orient (side : Side) (xs : List α) :
    side.orient (side.orient xs) = xs := by
  cases side
  · rfl
  · exact List.reverse_reverse xs

/-- What is left of two oriented runs once nothing is left to compare: the run that was copied away
is down to one element, which then comes last. -/
def finished? (side : Side) (a b : List α) : Option (List α) :=
  match side with
  | .front => rest a b
  | .back => rest b a
where
  rest : List α → List α → Option (List α)
    | away, [] => some away
    | [], stayed => some stayed
    | [x], stayed => some (stayed ++ [x])
    | _, _ => none

/-- How many elements of an oriented run come before the first place of the test, in the order of
consumption; the search starts where consumption does. -/
def leading (side : Side) (test : α → Except ε Bool) (xs : List α) : Except ε Nat :=
  match side with
  | .front => firstNear test xs.toArray 0
  | .back => return xs.length - (← firstNear test xs.reverse.toArray (xs.length - 1))

end Side

/-- What a merge does next. -/
inductive Mode where
  /-- Compare two elements; so often in a row the first or the second run has won. -/
  | pairs (wins : Nat) (winner : Bool)
  /-- Search for how many elements of one run follow each other. -/
  | search
  deriving Repr

/-- Merges two oriented runs, of which neither is finished, onto `out`, which is in reverse; gives
the merged elements as they were consumed, and the patience after.  The `fuel` is at least twice
the number of elements, and one more. -/
def consume (less : α → α → Except ε Bool) (side : Side) :
    Nat → Nat → Mode → List α → List α → List α → Except ε (List α × Nat)
  | fuel + 1, patience, .pairs wins winner, x :: a, y :: b, out => do
    let second := (← less y x) == (side == .front)
    let (a', b', out') := if second then (x :: a, b, y :: out) else (a, y :: b, x :: out)
    let wins' := if second == winner then wins + 1 else 1
    match side.finished? a' b' with
    | some rest => return (out'.reverse ++ rest, patience)
    | none =>
      if patience ≤ wins' then consume less side fuel (patience + 1) .search a' b' out'
      else consume less side fuel patience (.pairs wins' second) a' b' out'
  | fuel + 1, patience, .search, x :: a, y :: b, out => do
    let lower := if 1 < patience then patience - 1 else patience
    let k ← side.leading (fun z => less y z) (x :: a)
    let a' := (x :: a).drop k
    let out' := ((x :: a).take k).reverse ++ out
    match side.finished? a' (y :: b), side.finished? a' b, a' with
    | some rest, _, _ => return (out'.reverse ++ rest, lower)
    | none, some rest, _ => return ((y :: out').reverse ++ rest, lower)
    | none, none, [] => return ((y :: out').reverse ++ b, lower)
    | none, none, x' :: a'' =>
      let m ← side.leading (fun z => return !(← less z x')) b
      let b' := b.drop m
      let out'' := (b.take m).reverse ++ y :: out'
      match side.finished? (x' :: a'') b', side.finished? a'' b' with
      | some rest, _ => return (out''.reverse ++ rest, lower)
      | none, some rest => return ((x' :: out'').reverse ++ rest, lower)
      | none, none =>
        if searchPays ≤ k ∨ searchPays ≤ m then
          consume less side fuel lower .search a'' b' (x' :: out'')
        else consume less side fuel (lower + 1) (.pairs 0 false) a'' b' (x' :: out'')
  | _, patience, _, a, b, out => .ok (out.reverse ++ a ++ b, patience)

/-- Merges two runs from one side; the element that comes first there is known to be of the
second run at the front, and of the first run at the back. -/
def consumeFrom (less : α → α → Except ε Bool) (side : Side) (patience : Nat) (a b : List α) :
    Except ε (List α × Nat) := do
  let (out, a', b') := match side with
    | .front => (b.take 1, a, b.drop 1)
    | .back => ((a.reverse).take 1, a.reverse.drop 1, b.reverse)
  match side.finished? a' b' with
  | some rest => return (side.orient (out ++ rest), patience)
  | none =>
    let (merged, after) ←
      consume less side (2 * (a.length + b.length) + 1) patience (.pairs 0 false) a' b' out
    return (side.orient merged, after)

/-- Merges two runs that are not empty.  What stands in its place already at either end is left
there, and the longer run stays while the other is copied away. -/
def mergeRuns (less : α → α → Except ε Bool) (patience : Nat) (a b : List α) :
    Except ε (List α × Nat) := do
  match b.head?, a.getLast? with
  | some first, some last =>
    let k ← firstNear (fun x => less first x) a.toArray 0
    if k = a.length then return (a ++ b, patience)
    let m ← firstNear (fun y => return !(← less y last)) b.toArray (b.length - 1)
    if m = 0 then return (a ++ b, patience)
    let side : Side := if a.length - k ≤ m then .front else .back
    let (merged, after) ← consumeFrom less side patience (a.drop k) (b.take m)
    return (a.take k ++ merged ++ b.drop m, after)
  | _, _ => return (a ++ b, patience)

end RowInsert.Sort
