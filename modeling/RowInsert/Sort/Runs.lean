import RowInsert.Sort.Merge

/-!
# Sorting by runs

A list is cut into runs that are in order already; short ones are filled up by insertion.  Runs are
merged with their neighbours in an order that keeps the merges balanced.

* `Sort.powerOf` says how early the boundary of two runs is among the halves, quarters and so on of
  the whole list: boundaries of greater power are merged first.
* `Sort.sortBy` sorts by a comparison that may fail, and the first comparison that fails decides.
-/

namespace RowInsert.Sort

variable {α ε : Type}

/-! ### Runs -/

/-- The length of the longest run at the start in which neighbours compare alike: `falling` says
whether each element comes before the one in front of it, or not. -/
def runLength (less : α → α → Except ε Bool) (falling : Bool) : α → List α → Except ε Nat
  | _, [] => .ok 1
  | a, b :: rest => do
    if (← less b a) = falling then return (← runLength less falling b rest) + 1
    else return 1

/-- Inserts the elements one after the other, each at its place among those before it. -/
def insertAll (less : α → α → Except ε Bool) : List α → Array α → Except ε (List α)
  | [], sorted => .ok sorted.toList
  | x :: rest, sorted => do
    let place ← firstBetween (fun y => less x y) sorted sorted.size 0 sorted.size
    insertAll less rest ((sorted.toList.take place ++ x :: sorted.toList.drop place).toArray)

/-- The run at the start of a list, in rising order, and what is left of the list.  A run shorter
than `least` takes in the elements that follow it. -/
def takeRun (less : α → α → Except ε Bool) (least : Nat) :
    List α → Except ε (List α × List α)
  | a :: b :: rest => do
    let all := a :: b :: rest
    let falling ← less b a
    let n ← runLength less falling b rest
    let run := if falling then (all.take (n + 1)).reverse else all.take (n + 1)
    if n + 1 < least then
      return (← insertAll less ((all.take least).drop (n + 1)) run.toArray, all.drop least)
    else return (run, all.drop (n + 1))
  | short => .ok (short, [])

/-- The least length of runs in a list of so many elements: the leading six binary digits of the
number, and one more if any of the others is not zero. -/
def leastRun (n : Nat) : Nat := reduce n n 0
where
  reduce : Nat → Nat → Nat → Nat
    | 0, n, carried => n + carried
    | fuel + 1, n, carried =>
      if 64 ≤ n then reduce fuel (n / 2) (max carried (n % 2)) else n + carried

/-! ### The order of merges -/

/-- A run that waits to be merged, with its place in the list and the power of its boundary with the
run after it. -/
structure Pending (α : Type) where
  run : List α
  start : Nat
  power : Nat
  deriving Repr

/-- The first binary digit in which the middles of two neighbouring runs differ as parts of a list
of `n` elements; `a` and `b` are twice the middles. -/
def firstDifference (n : Nat) : Nat → Nat → Nat → Nat
  | 0, _, _ => 0
  | fuel + 1, a, b =>
    if n ≤ a then firstDifference n fuel (2 * (a - n)) (2 * (b - n)) + 1
    else if n ≤ b then 1
    else firstDifference n fuel (2 * a) (2 * b) + 1

/-- The power of the boundary between a run and the `next` elements after it, in a list of `n`. -/
def powerOf (n : Nat) (p : Pending α) (next : Nat) : Nat :=
  let a := 2 * p.start + p.run.length
  firstDifference n (n + 1) a (a + p.run.length + next)

/-- The top of the stack is merged with the run below it. -/
def mergeTop (less : α → α → Except ε Bool) (patience : Nat) (below top : Pending α) :
    Except ε (Pending α × Nat) := do
  let (run, after) ← mergeRuns less patience below.run top.run
  return ({ below with run }, after)

/-- Merges the top of the stack, which comes first, for as long as the boundary below it has a
greater power. -/
def collapse (less : α → α → Except ε Bool) (power : Nat) :
    Nat → List (Pending α) → Nat → Except ε (List (Pending α) × Nat)
  | fuel + 1, top :: below :: rest, patience =>
    if power < below.power then do
      let (merged, after) ← mergeTop less patience below top
      collapse less power fuel (merged :: rest) after
    else .ok (top :: below :: rest, patience)
  | _, stack, patience => .ok (stack, patience)

/-- Merges all that is left on the stack, shorter neighbours first. -/
def collapseAll (less : α → α → Except ε Bool) :
    Nat → List (Pending α) → Nat → Except ε (List α)
  | fuel + 1, top :: below :: deeper :: rest, patience =>
    if deeper.run.length < top.run.length then do
      let (merged, after) ← mergeTop less patience deeper below
      collapseAll less fuel (top :: merged :: rest) after
    else do
      let (merged, after) ← mergeTop less patience below top
      collapseAll less fuel (merged :: deeper :: rest) after
  | _, [top, below], patience => do return (← mergeTop less patience below top).1.run
  | _, stack, _ => .ok (stack.reverse.flatMap Pending.run)

/-- The stack with the power of its top set. -/
def setPower (power : Nat) : List (Pending α) → List (Pending α)
  | [] => []
  | top :: rest => { top with power } :: rest

/-- Takes run after run from what is left of a list of `n` elements, and merges as powers demand. -/
def sortRuns (less : α → α → Except ε Bool) (n least : Nat) :
    Nat → Nat → List α → List (Pending α) → Nat → Except ε (List α)
  | fuel + 1, start, x :: rest, stack, patience => do
    let (run, left) ← takeRun less least (x :: rest)
    let (below, after) ← match stack with
      | [] => pure ([], patience)
      | top :: _ =>
        let power := powerOf n top run.length
        let (collapsed, after) ← collapse less power stack.length stack patience
        pure (setPower power collapsed, after)
    sortRuns less n least fuel (start + run.length) left (⟨run, start, 0⟩ :: below) after
  | _, _, _, stack, patience => collapseAll less stack.length stack patience

/-- Sorts by a comparison that may fail. -/
def sortBy (less : α → α → Except ε Bool) (xs : List α) : Except ε (List α) :=
  sortRuns less xs.length (leastRun xs.length) xs.length 0 xs [] initialPatience

end RowInsert.Sort
