import RowInsert.Sort.Runs
import RowInsert.Value.Contents

/-!
# The order of values

* `Value.less` is the host's "less than": numbers, texts, bytes, sequences and dates are compared
  with their like, and anything else fails.
* `sortKeyed` sorts things by keys of which any two may turn out not to be comparable.
-/

namespace RowInsert

namespace Value

/-- The type that a value is compared as: a read-only mapping hands the comparison on to the
dictionary that it shows. -/
def comparedAs : Value → String
  | .mapping .readOnly _ _ => MappingKind.plain.name
  | v => v.qualifiedName

/-- The failure of a comparison between values that have no order. -/
def notOrdered (v w : Value) : Failure := .notOrdered "<" v.comparedAs w.qualifiedName

/-- Whether a value is a decimal. -/
def isDecimal : Value → Bool
  | .decimal .. => true
  | _ => false

/-- The order of two numbers; one that is no number has none with a decimal. -/
def lessNumber (v w : Value) : Except Failure Bool :=
  match v.magnitude?, w.magnitude? with
  | some a, some b =>
    if (v.isDecimal || w.isDecimal) && (a.isNaN || b.isNaN) then .error .undefinedResult
    else .ok (a.less b)
  | _, _ => .error (notOrdered v w)

/-- The lexicographic order of lists whose elements have one. -/
def lexLess {α : Type} (less : α → α → Bool) : List α → List α → Bool
  | [], ys => !ys.isEmpty
  | _ :: _, [] => false
  | x :: xs, y :: ys => less x y || (!less y x && lexLess less xs ys)

/-- The date of a value that is one, as numbers. -/
def dateNumbers : Date → List Nat
  | ⟨y, m, d⟩ => [y, m, d]

def momentNumbers (m : Moment) : List Nat :=
  dateNumbers m.date ++ [m.hour, m.minute, m.second, m.microsecond]

mutual

/-- Whether the first value comes before the second. -/
def less : Value → Value → Except Failure Bool
  | .text s, w =>
    match w.text? with
    | some t => .ok (s < t)
    | none => .error (notOrdered (.text s) w)
  | .derivedText s i, w =>
    match w.text? with
    | some t => .ok (s < t)
    | none => .error (notOrdered (.derivedText s i) w)
  | v@(.bytes k _ a), w =>
    match w with
    | .bytes l _ b =>
      if k = .view ∨ l = .view then .error (notOrdered v w)
      else .ok (lexLess (· < ·) (a.map UInt8.toNat) (b.map UInt8.toNat))
    | _ => .error (notOrdered v w)
  | .sequence k i xs, w =>
    match w with
    | .sequence l _ ys =>
      if k.comparable l then lessItems xs ys
      else if k.unordered && l.unordered then
        if xs.length < ys.length then allWithin .first [] xs ys else .ok false
      else .error (notOrdered (.sequence k i xs) w)
    | _ => .error (notOrdered (.sequence k i xs) w)
  | v@(.date a), w =>
    match w with
    | .date b => .ok (lexLess (· < ·) (dateNumbers a) (dateNumbers b))
    | .moment _ => .error (.notComparable w.qualifiedName v.qualifiedName)
    | _ => .error (notOrdered v w)
  | v@(.moment a), w =>
    match w with
    | .moment b => .ok (lexLess (· < ·) (momentNumbers a) (momentNumbers b))
    | .date _ => .error (.notComparable v.qualifiedName w.qualifiedName)
    | _ => .error (notOrdered v w)
  | v, w => lessNumber v w

/-- The first items that differ decide. -/
def lessItems : List Value → List Value → Except Failure Bool
  | [], ys => .ok (!ys.isEmpty)
  | _ :: _, [] => .ok false
  | x :: xs, y :: ys => do
    let agrees ← if identical x y then .ok true else agree .first [] x y
    if agrees then lessItems xs ys else less x y

end

@[simp] theorem less_int (m n : Int) : less (.int m) (.int n) = .ok (decide (m < n)) := by
  simp only [less, lessNumber, magnitude?, whole?, Option.map_some, isDecimal,
    Magnitude.less_ofRat, Bool.or_self, Bool.false_and, Bool.false_eq_true, ↓reduceIte,
    Rat.intCast_lt_intCast]

end Value

/-! ### Sorting by keys -/

/-- Things in the order of their keys.  Keys that are all texts are in the order of their
characters; among others the first comparison that fails decides. -/
def sortKeyed {α : Type} (entries : List (Value × α)) : Except Failure (List (Value × α)) :=
  if entries.all fun e => e.1.isText then
    .ok (entries.mergeSort fun a b => a.1.text?.getD "" ≤ b.1.text?.getD "")
  else Sort.sortBy (fun a b => a.1.less b.1) entries

end RowInsert
