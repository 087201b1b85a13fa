import RowInsert.Number.Binary64
import RowInsert.Number.Decimal

/-!
# Magnitudes of numbers

A magnitude is a real number, an infinity, or no number.  A real number is kept as a fraction times
a power of ten, so that numbers of any exponent are compared exactly without being written out.

* `Magnitude.same` and `Magnitude.less` are the equality and the order of magnitudes.
* `Binary64.magnitude` and `Decimal.magnitude` are those of numbers.
-/

namespace RowInsert

/-! ### Fractions times powers of ten -/

/-- A power of two that a positive fraction stays below, and one that its inverse stays below. -/
def fractionBits (r : Rat) : Nat × Nat := (r.num.natAbs.log2 + 1, r.den.log2 + 1)

/-- Whether `a * 10 ^ e` is farther from zero than `b * 10 ^ f`, as their sizes alone tell. -/
def clearlyBeyond (a : Rat) (e : Int) (b : Rat) (f : Int) : Bool :=
  f + (fractionBits b).1 + (fractionBits a).2 ≤ e

/-- Whether `a * 10 ^ e` is less than `b * 10 ^ f`.  Of two numbers on the same side of zero whose
exponents are far apart the sizes decide; otherwise the larger exponent is brought down to the
other. -/
def lessScaled (a : Rat) (e : Int) (b : Rat) (f : Int) : Bool :=
  if e = f || a.num.sign != b.num.sign then a < b
  else if a.num = 0 then false
  else if clearlyBeyond a e b f then a < 0
  else if clearlyBeyond b f a e then 0 < a
  else a * (10 : Rat) ^ (e - f).toNat < b * (10 : Rat) ^ (f - e).toNat

/-- Whether `a * 10 ^ e` and `b * 10 ^ f` are one number. -/
def sameScaled (a : Rat) (e : Int) (b : Rat) (f : Int) : Bool :=
  if e = f then a == b else !lessScaled a e b f && !lessScaled b f a e

/-- A real number, an infinity or no number. -/
inductive Magnitude where
  /-- The number `r * 10 ^ exponent`. -/
  | finite (r : Rat) (exponent : Int)
  | infinite (negative : Bool)
  | nan

namespace Magnitude

/-- The magnitude of a fraction. -/
def ofRat (r : Rat) : Magnitude := .finite r 0

/-- Numeric equality; no NaN equals anything. -/
def same : Magnitude → Magnitude → Bool
  | .finite a e, .finite b f => sameScaled a e b f
  | .infinite a, .infinite b => a == b
  | _, _ => false

def isNaN : Magnitude → Bool
  | .nan => true
  | _ => false

/-- Numeric order; a NaN is on neither side of anything. -/
def less : Magnitude → Magnitude → Bool
  | .finite a e, .finite b f => lessScaled a e b f
  | .infinite negative, .finite .. => negative
  | .finite .., .infinite negative => !negative
  | .infinite a, .infinite b => a && !b
  | _, _ => false

@[simp] theorem same_ofRat (a b : Rat) : same (ofRat a) (ofRat b) = (a == b) := by
  simp only [same, ofRat, sameScaled, ↓reduceIte]

@[simp] theorem less_ofRat (a b : Rat) : less (ofRat a) (ofRat b) = decide (a < b) := by
  simp only [less, ofRat, lessScaled, decide_true, Bool.true_or, ↓reduceIte]

end Magnitude

def Binary64.magnitude (x : Binary64) : Magnitude :=
  match x.toRat? with
  | some r => .ofRat r
  | none => if x.isNaN then .nan else .infinite x.negative

def Decimal.magnitude : Decimal → Magnitude
  | .finite negative c e => .finite (if negative then -(c : Rat) else c) e
  | .infinite negative => .infinite negative
  | .nan .. => .nan

end RowInsert
