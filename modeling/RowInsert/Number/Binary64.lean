/-!
# Binary floating point numbers of 64 bits

A number is kept as its bit pattern, so that every NaN keeps its payload.

* `Binary64.toRat?` is the exact value of a finite number.
* `Binary64.add`, `Binary64.sub` and `Binary64.mul` round to nearest; an operand that is a NaN is
  handed on, and an invalid operation gives `Binary64.invalid`.
-/

namespace RowInsert

/-- A binary floating point number of 64 bits, by its bit pattern. -/
structure Binary64 where
  /-- Sign (1 bit), biased exponent (11 bits) and fraction (52 bits), from the top. -/
  bits : UInt64
  deriving DecidableEq, Repr, Inhabited

namespace Binary64

/-- The NaN that an invalid operation gives. -/
def invalid : Binary64 := ⟨0xfff8000000000000⟩

def zero : Binary64 := ⟨0⟩

def one : Binary64 := ⟨0x3ff0000000000000⟩

def thousand : Binary64 := ⟨0x408f400000000000⟩

/-- The sign bit. -/
def negative (x : Binary64) : Bool := x.bits >>> 63 == 1

/-- The exponent field. -/
def exponentField (x : Binary64) : Nat := (x.bits >>> 52).toNat % 2048

/-- The fraction field. -/
def fractionField (x : Binary64) : Nat := x.bits.toNat % Nat.pow 2 52

def isNaN (x : Binary64) : Bool := x.exponentField == 2047 && x.fractionField != 0

def isInfinite (x : Binary64) : Bool := x.exponentField == 2047 && x.fractionField == 0

def isFinite (x : Binary64) : Bool := x.exponentField != 2047

/-- Both zeros are zero. -/
def isZero (x : Binary64) : Bool := x.exponentField == 0 && x.fractionField == 0

/-- The significand of a finite number, with the leading bit that normal numbers leave out. -/
def significand (x : Binary64) : Nat :=
  if x.exponentField = 0 then x.fractionField else Nat.pow 2 52 + x.fractionField

/-- The power of two that `significand` counts. -/
def scale (x : Binary64) : Int :=
  if x.exponentField = 0 then -1074 else (x.exponentField : Int) - 1075

/-- The exact value of a finite number. -/
def toRat? (x : Binary64) : Option Rat :=
  if x.isFinite then
    let magnitude : Rat := (x.significand : Rat) * (2 : Rat) ^ x.scale
    some (if x.negative then -magnitude else magnitude)
  else none

/-- An operation on two numbers: the first NaN among them is handed on (made quiet), and a NaN
out of numbers is `invalid`. -/
def combine (op : Float → Float → Float) (x y : Binary64) : Binary64 :=
  if x.isNaN then ⟨x.bits ||| 0x0008000000000000⟩
  else if y.isNaN then ⟨y.bits ||| 0x0008000000000000⟩
  else
    let result : Binary64 := ⟨(op (Float.ofBits x.bits) (Float.ofBits y.bits)).toBits⟩
    if result.isNaN then invalid else result

def add (x y : Binary64) : Binary64 := combine (· + ·) x y

def sub (x y : Binary64) : Binary64 := combine (· - ·) x y

def mul (x y : Binary64) : Binary64 := combine (· * ·) x y

end Binary64

end RowInsert
