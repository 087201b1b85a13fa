import RowInsert.Value.Order
import RowInsert.Value.TypeName

/-!
# Settings of the compiler

* `Settings` holds the limit on the rows of one statement.
* `Settings.ofLimit` refuses limits below one and above `Settings.greatestLimit`.
* `Settings.itemsToRead` and `Settings.exceededBy` apply a limit, which fails for one that is no
  number.
-/

namespace RowInsert

/-- The limits of compilations.  The limit on rows may be any value, but only a whole number limits
rows that are walked. -/
structure Settings where
  limit : Value
  deriving Repr, Inhabited

namespace Settings

/-- The greatest number of rows that a statement can have. -/
def greatestLimit : Nat := 10000

/-- The settings with this limit on rows. -/
def ofLimit (limit : Value) : Except Failure Settings := do
  if (← limit.less (.int 1)) then throw .limitTooSmall
  if (← Value.less (.int greatestLimit) limit) then throw (.limitTooLarge greatestLimit)
  return ⟨limit⟩

/-- The settings that hold unless others are given. -/
def standard : Settings := ⟨.int greatestLimit⟩

/-- The failure to compare a number of rows with a limit that is no number.  A read-only mapping
compares itself instead, as the dictionary that it shows. -/
def notComparedWith (limit : Value) : Failure :=
  match limit with
  | .mapping .readOnly _ _ => .notOrdered "<" limit.comparedAs TypeName.int.name
  | _ => .notOrdered ">" TypeName.int.name limit.qualifiedName

/-- Whether so many rows are more than the limit allows. -/
def exceededBy (s : Settings) (rows : Nat) : Except Failure Bool :=
  match s.limit.whole?, s.limit.magnitude? with
  | some n, _ => .ok (n < rows)
  | none, some m =>
    if s.limit.isDecimal && m.isNaN then .error .undefinedResult
    else .ok (m.less (.ofRat rows))
  | none, none => .error (notComparedWith s.limit)

/-- The failure to read one item more than a limit that is no whole number. -/
def notReadUpTo (limit : Value) : Failure :=
  match limit with
  | .float .. | .complex .. => .limitNotWhole
  | .decimal d _ =>
    if limit.isSignaling then .undefinedResult
    else if d.productOverflows 1 then .resultTooLarge
    else .limitNotWhole
  | .text _ | .derivedText .. => .notConcatenable TypeName.text.name
  | .bytes .constant _ _ | .bytes .changeable _ _ => .notConcatenableBytes limit.typeName
  | .sequence .list _ _ | .sequence .tuple _ _ | .sequence .deque _ _ =>
    .notConcatenable limit.typeName
  | _ => .noArithmetic "+" limit.qualifiedName

/-- How many items are read of a value: one more than the limit allows. -/
def itemsToRead (s : Settings) : Except Failure Nat :=
  match s.limit.whole? with
  | some n =>
    if n + 1 < 0 ∨ Value.greatestIndex < n + 1 then .error .limitNotWhole else .ok (n + 1).toNat
  | none => .error (notReadUpTo s.limit)

end Settings

end RowInsert
